import DBMonitor.Log.Retention
import DBMonitor.World.DeadFlag
import DBMonitor.World.Ended

namespace DBMonitor

namespace Document

structure Carries (r : EntryRef) (aHost : HostRef) (pid : String) (d : Document) : Prop where
  allocated : r < d.dataList.next
  host : (d.entry r).eventHost = aHost
  key : (d.entry r).processID = pid ∨ (d.entry r).processID = deadProcess

-- The entry of a dead process on its way out: its timeout is the old one or has been cleared.
structure Decays (r : EntryRef) (aHost : HostRef) (timeout : Option Time) (d : Document) :
    Prop where
  carries : d.Carries r aHost deadProcess
  kept : r ∈ d.items →
    (d.entry r).displayTimeout = timeout ∨ (d.entry r).displayTimeout = none

section Step
variable {d : Document} {s : Section} {r : EntryRef} {aHost : HostRef} {pid : String}
  {timeout : Option Time}

theorem Carries.exec (h : d.Carries r aHost pid) (s : Section) :
    (d.exec s).Carries r aHost pid := by
  obtain ⟨hhost, _, hpid⟩ := exec_evolves (s := s) h.allocated
  refine ⟨h.allocated.trans_le exec_next_le, hhost.trans h.host, ?_⟩
  rcases hpid with hsame | ⟨hdead, _⟩
  · rw [hsame]
    exact h.key
  · exact Or.inr hdead

theorem Decays.label (h : d.Decays r aHost timeout) : (d.entry r).processID = deadProcess :=
  h.carries.key.elim id id

theorem Decays.not_filed (h : d.Decays r aHost timeout) (hr : r ∈ d.items) (g : HostRef)
    (f : Filing) : r ≠ d.target g f.pid := by
  intro ht
  exact f.live ((d.find_mem g (d.find_of_target hr ht)).2.2.symm.trans h.label)

theorem Decays.exec (h : d.Decays r aHost timeout) (hactive : d.conf.isActive aHost = true)
    (s : Section) : (d.exec s).Decays r aHost timeout := by
  refine ⟨h.carries.exec s, fun hm => ?_⟩
  by_cases hr : r ∈ d.items
  · rw [exec_passed hr (fun g f _ => h.not_filed hr g f)]
    rcases passEntry_displayTimeout (s := s) (e := d.entry r)
      (h.carries.host.symm ▸ hactive) with hsame | hnone
    · rw [hsame]
      exact h.kept hr
    · exact Or.inr hnone
  · exact absurd hm (exec_absent h.carries.allocated hr).1

theorem Decays.expire {now : Time} {order : List EntryRef} (h : d.Decays r aHost timeout)
    (hactive : d.conf.isActive aHost = true) (hslider : 0 ≤ d.sliderValue)
    (hlapsed : ∀ t ∈ timeout, t < now) : (d.exec (.refresh now order)).Decays r aHost none := by
  refine ⟨h.carries.exec _, fun hm => Or.inl ?_⟩
  have hr : r ∈ d.items := (exec_mem hm).resolve_right (by simp [filing])
  rw [exec_passed hr (by simp [filing]), passEntry, sweepEntry_displayTimeout,
    d.purged_of_active now (h.carries.host.symm ▸ hactive)]
  rcases h.kept hr with hkept | hnone
  · cases timeout with
    | none =>
      rw [hkept]
      rfl
    | some t => rw [hkept, keptTimeout_some, if_pos ⟨hslider, hlapsed t rfl⟩]
  · rw [hnone]
    rfl

theorem Decays.swept (h : d.Decays r aHost none) (hretired : d.Retired) :
    r ∉ (d.exec (.discardMySQLDead aHost)).items := by
  intro hm
  have hr : r ∈ d.items := (exec_mem hm).resolve_right (by simp [filing])
  have htimeout : (d.entry r).displayTimeout = none := (h.kept hr).elim id id
  have hdrop := (exec_mem_iff (by simp) hr).mp hm
  simp [drops, sweeps, hretired r hr h.label, tracks, htimeout, h.carries.host] at hdrop

end Step

end Document

namespace World

-- The operation's clock is past the time.
def After (t : Time) : Act → Prop
  | .operation _ x => t < x.now
  | _ => True

theorem Refreshes.locked {w : World} {a : Act} (h : Refreshes w a) :
    ∃ i x, a = .operation i x ∧ w.locked a = some (.refresh x.now x.order) := by
  obtain ⟨i, x, ⟨body, isCancelled⟩, rfl, hop, rfl⟩ := h
  refine ⟨i, x, rfl, ?_⟩
  simp [World.locked, control, runOperation, hop, Operation.advance, RefreshState.advance]

section Runs
variable {r : Transition.InfiniteRun step} {c : Configuration} {n : Nat} {e : EntryRef}
  {aHost : HostRef} {timeout : Option Time}

theorem run_retired {conf : Configuration} {sliderValue trackQuery : Int} {acts : List Act}
    {w : World} (h : Transition.run step Transition.anyStep (initial conf sliderValue trackQuery)
      acts = some w) : w.doc.Retired :=
  Transition.run_invariant (fun _ _ _ hi _ hs => step_retired hs hi)
    (Document.initial_flags conf sliderValue trackQuery).1 h

-- What every section keeps while the configuration stands.
theorem loaded_doc {P : Document → Prop}
    (hP : ∀ (d : Document) (s : Section), d.conf = c → P d → P (d.exec s))
    (hi : (r.state n).Loaded c) (hok : ∀ n, keepsWatchers (r.act n) = true)
    (h : P (r.state n).doc) : ∀ m, n ≤ m → P (r.state m).doc := by
  intro m hm
  induction m, hm using Nat.le_induction with
  | base => exact h
  | succ m hm ih =>
    rw [step_doc (r.steps m)]
    cases (r.state m).locked (r.act m) with
    | none => exact ih
    | some s => exact hP _ s (loaded_run hi hok m hm).conf ih

-- Once the clock is past the timeout a refresh clears it, and the next sweep drops the entry.
theorem Followed.collects (hi : (r.state n).Followed c aHost)
    (hok : ∀ n, keepsWatchers (r.act n) = true)
    (hpolls : ∀ k, Transition.WeaklyFair r (serves (Operation.isPollOf aHost) k))
    (hrefreshes : Transition.WeaklyFair r (serves Operation.isRefresh .queue))
    (hclock : ∀ t, ∃ m, ∀ k, m ≤ k → After t (r.act k))
    (hslider : ∀ m, n ≤ m → 0 ≤ (r.state m).doc.sliderValue) (hactive : c.isActive aHost = true)
    (hretired : (r.state n).doc.Retired) (h : (r.state n).doc.Decays e aHost timeout) :
    ∃ m, n ≤ m ∧ e ∉ (r.state m).doc.items := by
  have hdecays : ∀ {timeout : Option Time} {m : Nat}, n ≤ m →
      (r.state m).doc.Decays e aHost timeout →
      ∀ k, m ≤ k → (r.state k).doc.Decays e aHost timeout := fun hm h =>
    loaded_doc (fun _ s hconf h => h.exec (hconf ▸ hactive) s) (loaded_run hi.loaded hok _ hm) hok h
  have hstill : ∀ m, n ≤ m → (r.state m).doc.Retired :=
    loaded_doc (fun _ _ _ h => h.exec) hi.loaded hok hretired
  have hrefreshed : (r.state n).Refreshed :=
    ⟨hi.polled.1, (hi.loaded.attended.monitored hi.polled.1).2⟩
  obtain ⟨late, hlate⟩ : ∃ m, ∀ k, m ≤ k → ∀ t ∈ timeout, After t (r.act k) := by
    cases timeout with
    | none => exact ⟨0, by simp⟩
    | some t =>
      obtain ⟨m, hm⟩ := hclock t
      exact ⟨m, fun k hk t' ht' => Option.some.inj ht' ▸ hm k hk⟩
  obtain ⟨n₁, hn₁, hrefreshes⟩ := hrefreshed.refreshes hok hrefreshes (max n late)
  obtain ⟨i, x, hact, hlocked⟩ := hrefreshes.locked
  have hexpired : (r.state (n₁ + 1)).doc.Decays e aHost none := by
    rw [step_doc (r.steps n₁), hlocked]
    have hconf := (loaded_run hi.loaded hok n₁ (by omega)).conf
    refine (hdecays le_rfl h n₁ (by omega)).expire (hconf ▸ hactive) (hslider n₁ (by omega)) ?_
    intro t ht
    have hafter := hlate n₁ (by omega) t ht
    rw [hact] at hafter
    exact hafter
  obtain ⟨n₂, hn₂, hsweeps⟩ := hi.polled.sweeps hok hpolls (n₁ + 1)
  refine ⟨n₂ + 1, by omega, ?_⟩
  rw [step_doc (r.steps n₂), hsweeps.locked]
  exact (hdecays (by omega) hexpired n₂ hn₂).swept (hstill n₂ (by omega))

end Runs

theorem entry_leaves {conf : Configuration} {sliderValue trackQuery : Int} {acts : List Act}
    {r : Transition.InfiniteRun step}
    (hstart : Transition.run step Transition.anyStep (initial conf sliderValue trackQuery)
      (.reloadDataWatchers :: acts) = some (r.state 0))
    (hclosed : (r.state 0).configuring = false) (hok : ∀ n, keepsWatchers (r.act n) = true)
    {n : Nat} {e : EntryRef} {aHost : HostRef} {pid : String}
    (hlogged : e ∈ (r.state n).doc.items) (hhost : ((r.state n).doc.entry e).eventHost = aHost)
    (hpid : ((r.state n).doc.entry e).processID = pid)
    (hactive : (r.state n).doc.conf.isActive aHost = true)
    (hpolls : ∀ k, Transition.WeaklyFair r (serves (Operation.isPollOf aHost) k))
    (hrefreshes : Transition.WeaklyFair r (serves Operation.isRefresh .queue))
    (hclock : ∀ t, ∃ m, ∀ k, m ≤ k → After t (r.act k))
    (hslider : ∀ m, n ≤ m → 0 ≤ (r.state m).doc.sliderValue)
    (hended : pid = deadProcess ∨ ∀ m, n ≤ m → ¬Reports aHost pid (r.state m) (r.act m)) :
    ∃ m, n ≤ m ∧ ∀ k, m ≤ k → e ∉ (r.state k).doc.items := by
  have hloaded := loaded_run (started_loaded hstart hclosed) hok
  have hconf : (r.state n).doc.conf = (r.state 0).doc.conf := (hloaded n (Nat.zero_le n)).conf
  rw [hconf] at hactive
  obtain ⟨k, hmonitored, hpolled⟩ :=
    eventually_polled hstart hclosed hok hactive (hpolls .mainThread)
  have hfollowed := Followed.run ⟨hmonitored, hpolled⟩ hok
  have hretired : ∀ m, (r.state m).doc.Retired := fun m =>
    loaded_doc (fun _ _ _ h => h.exec) (hloaded 0 le_rfl) hok (run_retired hstart) m (Nat.zero_le m)
  have hcarries := loaded_doc (fun _ s _ h => h.exec s) (hloaded n (Nat.zero_le n)) hok
    (Document.Carries.mk ((r.state n).doc.dataList.allocated e hlogged) hhost (Or.inl hpid))
  by_contra hnever
  -- An entry that is gone is never filed again, so it is in the log for ever.
  have hstays : ∀ m, n ≤ m → e ∈ (r.state m).doc.items := by
    intro m hm
    by_contra hgone
    have hrest := loaded_doc (P := fun d => e ∉ d.items ∧ e < d.dataList.next)
      (fun _ _ _ h => Document.exec_absent h.2 h.1) (hloaded m (Nat.zero_le m)) hok
      ⟨hgone, (hcarries m hm).allocated⟩
    exact hnever ⟨m, hm, fun j hj => (hrest j hj).1⟩
  obtain ⟨m, hm, hdead⟩ : ∃ m, max n k ≤ m ∧
      ((r.state m).doc.entry e).processID = deadProcess := by
    rcases eq_or_ne pid deadProcess with hdead | hlive
    · exact ⟨max n k, le_rfl, (hcarries _ (by omega)).key.elim (·.trans hdead) id⟩
    · obtain ⟨m, hm, habsent⟩ := (hfollowed (max n k) (by omega)).eventually_absent hok hpolls hlive
        (fun m hm => hended.resolve_left hlive m (by omega))
      refine ⟨m, hm, (hcarries m (by omega)).key.resolve_left (fun hkey => ?_)⟩
      refine (Document.find_none_iff _ aHost).mp (habsent m le_rfl) e (hstays m (by omega)) ?_ hkey
      rw [(hcarries m (by omega)).host]
      exact Configuration.sameHostname_self _ aHost
  have hmember := hcarries m (by omega)
  obtain ⟨j, hj, hgone⟩ := (hfollowed m (by omega)).collects hok hpolls hrefreshes hclock
    (fun j hj => hslider j (by omega)) hactive (hretired m)
    ⟨⟨hmember.allocated, hmember.host, Or.inl hdead⟩, fun _ => Or.inl rfl⟩
  exact hgone (hstays j (by omega))

theorem step_slider {w w' : World} {a : Act} (h : w.step a = some w')
    (ha : ∀ value, a ≠ .detectChangedSlider value) : w'.doc.sliderValue = w.doc.sliderValue := by
  obtain ⟨v, hm, rfl⟩ := step_moves h
  simp only [execute, hm.doc]
  cases hs : w.locked a with
  | none => rfl
  | some s =>
    rw [hs] at hm
    change (w.doc.exec s).sliderValue = _
    rw [(w.doc.exec_settings s).2.1]
    cases s with
    | detectChangedSlider value =>
      rcases hm.issued with hqueued | hissues
      · simp [Section.queued] at hqueued
      · cases a <;> simp [Act.issues] at hissues
        exact absurd rfl (ha _)
    | _ => rfl

section CollectedRun

def roundActs (now : Time) : List Act :=
  List.replicate 4 (.operation 0 { now }) ++ (List.replicate 5 (.operation 0 { now }) ++
    (List.replicate 4 (.operation 0 { now }) ++ [.mainThread]))

-- One round of the refresh loop, then one poll that finds nothing, whatever the log holds.
theorem round_doc (d : Document) (now : Time) :
    Transition.run step Transition.anyStep { cycleStart with doc := d } (roundActs now) =
      some { cycleStart with
        doc := d.runSections [.refresh now [], .clearUpdates 3, .discardMySQLDead 3] } := by
  refine Transition.run_append.mpr ⟨{ cycleStart with
    doc := d.exec (.refresh now [])
    ops := [generateMySQLOperation 3, generateRefreshOperation] }, rfl, ?_⟩
  refine Transition.run_append.mpr ⟨{ cycleStart with
    doc := (d.exec (.refresh now [])).exec (.clearUpdates 3)
    ops := [{ body := .poll 3 (.replicating (some [])) }, generateRefreshOperation] }, rfl, ?_⟩
  simp [Transition.run, Transition.anyStep, step, control, runOperation, runMain, execute,
    Operation.advance, PollState.advance, runBlock, Document.runSections, cycleStart]

theorem round_empty {d : Document} (now : Time) (hitems : d.items = []) (hrow : d.selectedRow = -1)
    (hcurrent : d.currentLogEntry = none) :
    d.runSections [.refresh now [], .clearUpdates 3, .discardMySQLDead 3] = d := by
  obtain ⟨⟨heap, items, next, allocated⟩, conf, sliderValue, trackQuery, row, current⟩ := d
  obtain rfl : items = [] := hitems
  obtain rfl : row = -1 := hrow
  obtain rfl : current = none := hcurrent
  rfl

def collectedRow : QueryRow := { id := 8, host := "web", info := some [97], time := 9 }

def collectedFiled : Document :=
  (Document.initial cycleConf 30 1).runSections
    [.clearUpdates 3, .updateRow 0 3 collectedRow, .discardMySQLDead 3]

-- The first round relabels the entry, and after half a minute the second drops it.
def collectedActs : List Act := roundActs 0 ++ roundActs (31 * second)

def collectedDoc : Document :=
  (collectedFiled.runSections [.refresh 0 [], .clearUpdates 3, .discardMySQLDead 3]).runSections
    [.refresh (31 * second) [], .clearUpdates 3, .discardMySQLDead 3]

theorem collected_start : Transition.run step Transition.anyStep (initial cycleConf 30 1)
    (.reloadDataWatchers :: (List.replicate 3 .mainThread ++
      (List.replicate 5 (.operation 1 { results := some [collectedRow] }) ++
        (List.replicate 5 (.operation 1 {}) ++ [.mainThread])))) =
    some { cycleStart with doc := collectedFiled } := rfl

theorem collected_drops :
    Transition.run step Transition.anyStep { cycleStart with doc := collectedFiled }
      collectedActs = some { cycleStart with doc := collectedDoc } :=
  Transition.run_append.mpr ⟨_, round_doc collectedFiled 0, round_doc _ (31 * second)⟩

theorem collected_round (now : Time) :
    Transition.run step Transition.anyStep { cycleStart with doc := collectedDoc }
      (roundActs now) = some { cycleStart with doc := collectedDoc } := by
  rw [round_doc, round_empty now (by decide +kernel) (by decide +kernel) (by decide +kernel)]

theorem roundActs_length (now : Time) : (roundActs now).length = 14 := rfl

def collected : Transition.InfiniteRun step :=
  (Transition.InfiniteRun.rounds (fun k => collected_round k)
    (fun k => roundActs_length k) (Nat.zero_lt_succ 13)).prepend collected_drops

theorem mem_roundActs {now : Time} {a : Act} (h : a ∈ roundActs now) :
    a = .operation 0 { now } ∨ a = .mainThread := by
  simp only [roundActs, List.mem_append, List.mem_replicate, List.mem_singleton] at h
  rcases h with ⟨_, rfl⟩ | ⟨_, rfl⟩ | ⟨_, rfl⟩ | rfl
  · exact Or.inl rfl
  · exact Or.inl rfl
  · exact Or.inl rfl
  · exact Or.inr rfl

theorem collected_acts {P : Act → Prop} (hop : ∀ now, P (.operation 0 { now }))
    (hmain : P .mainThread) (n : Nat) : P (collected.act n) := by
  have hround : ∀ now, ∀ a ∈ roundActs now, P a := by
    intro now a ha
    rcases mem_roundActs ha with rfl | rfl
    · exact hop now
    · exact hmain
  refine Transition.InfiniteRun.prepend_acts _ collected_drops (fun a ha => ?_)
    (Transition.InfiniteRun.rounds_acts (P := fun _ => P) _ _ _ (fun k => hround k)) n
  rcases List.mem_append.mp ha with ha | ha
  · exact hround _ a ha
  · exact hround _ a ha

theorem collected_fair {p : Operation → Bool} {j : Nat} (hj : j < 14)
    (hserves : ∀ (now : Time) (t : World) (a : Act), Transition.run step Transition.anyStep
      { cycleStart with doc := collectedDoc } ((roundActs now).take j) = some t →
      (roundActs now)[j]? = some a → serves p .queue t a) (k : Worker) :
    Transition.WeaklyFair collected (serves p k) := by
  refine Transition.InfiniteRun.prepend_fair _ collected_drops ?_
  cases k with
  | queue => exact Transition.InfiniteRun.rounds_fair _ _ _ hj (fun i => hserves i)
  | mainThread =>
    exact Transition.InfiniteRun.rounds_fair _ _ _ (k := 13) (by decide)
      (fun _ _ _ _ ha => (Option.some.inj ha).symm)

theorem collected_clock (t : Time) : ∃ m, ∀ k, m ≤ k → After t (collected.act k) := by
  refine ⟨14 * (t.toNat + 1) + collectedActs.length, fun k hk => ?_⟩
  obtain ⟨j, rfl⟩ := Nat.exists_eq_add_of_le' (Nat.le_of_add_left_le hk)
  rw [collected, (Transition.InfiniteRun.prepend_shift _ collected_drops j).2]
  refine Transition.InfiniteRun.rounds_acts (P := fun i a => t < i → After t a) _ _ _ ?_ j ?_
  · intro i a ha hlt
    rcases mem_roundActs ha with rfl | rfl
    · exact hlt
    · trivial
  · have hround : t.toNat < j / 14 := by omega
    exact (Int.self_le_toNat t).trans_lt (Int.ofNat_lt.mpr hround)

end CollectedRun

theorem entry_leaves_expired : 0 ∈ (collected.state 0).doc.items ∧
    ∃ m, 0 ≤ m ∧ ∀ k, m ≤ k → 0 ∉ (collected.state k).doc.items := by
  have hlogged : 0 ∈ (collected.state 0).doc.items := by
    change 0 ∈ collectedFiled.items
    decide +kernel
  have hhost : ((collected.state 0).doc.entry 0).eventHost = 3 := by
    change (collectedFiled.entry 0).eventHost = 3
    decide +kernel
  have hpid : ((collected.state 0).doc.entry 0).processID = printID 8 := by
    change (collectedFiled.entry 0).processID = printID 8
    decide +kernel
  have hwatches : ∀ n, keepsWatchers (collected.act n) = true :=
    collected_acts (P := fun a => keepsWatchers a = true) (fun _ => rfl) rfl
  -- The poll is first in the queue after four steps of each round, the refresh at its start.
  have hpolls : ∀ k, Transition.WeaklyFair collected (serves (Operation.isPollOf 3) k) := by
    refine collected_fair (j := 4) (by decide) (fun now t a ht ha => ?_)
    have hrun : Transition.run step Transition.anyStep { cycleStart with doc := collectedDoc }
        ((roundActs now).take 4) = some { cycleStart with
          doc := collectedDoc.exec (.refresh now [])
          ops := [generateMySQLOperation 3, generateRefreshOperation] } := rfl
    obtain rfl := Option.some.inj (hrun.symm.trans ht)
    obtain rfl := Option.some.inj ha
    exact ⟨0, _, _, rfl, rfl, rfl⟩
  have hrefreshes : Transition.WeaklyFair collected (serves Operation.isRefresh .queue) := by
    refine collected_fair (j := 0) (by decide) (fun now t a ht ha => ?_) .queue
    obtain rfl := Option.some.inj ht
    obtain rfl := Option.some.inj ha
    exact ⟨0, _, _, rfl, rfl, rfl⟩
  have hslider : ∀ m, 0 ≤ m → 0 ≤ (collected.state m).doc.sliderValue := by
    intro m hm
    have hkept := collected.invariant (n := 0) (I := fun w => w.doc.sliderValue = 30)
      (K := fun _ a => ∀ value, a ≠ .detectChangedSlider value)
      (fun m _ => collected_acts (P := fun a => ∀ value, a ≠ .detectChangedSlider value)
        (by simp) (by simp) m) rfl
      (fun _ _ _ hi ha hstep => (step_slider hstep ha).trans hi) m hm
    rw [hkept]
    decide
  have hended : ∀ m, 0 ≤ m →
      ¬Reports 3 (printID 8) (collected.state m) (collected.act m) := fun m _ =>
    readsNothing_unreported
      (collected_acts (P := fun a => readsNothing a = true) (fun _ => rfl) rfl m)
      (printID_ne_connectFail (by decide)) (printID_ne_replication (by decide))
  exact ⟨hlogged, entry_leaves collected_start rfl hwatches hlogged hhost hpid rfl hpolls hrefreshes
    collected_clock hslider (Or.inr hended)⟩

end World

end DBMonitor
