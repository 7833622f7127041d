import DBMonitor.Log.Keys
import DBMonitor.World.Moves

namespace DBMonitor

def Act.isEdit : Act → Bool
  | .edit _ => true
  | _ => false

namespace World

def filesInto (d : Document) (s : Section) : Option HostRef :=
  (d.filing s).map fun p =>
    ((d.find p.1 p.2.pid).map (fun r => (d.entry r).eventHost)).getD p.1

-- A reload that comes to this item clears the marks of this host's entries.
def reachedBy (c : Configuration) (aHost : HostRef) : ReloadItem → Bool
  | .visit g => !c.isActive g && c.sameHostname aHost g
  | _ => false

def toReach (c : Configuration) (main : MainThread) (aHost : HostRef) : Bool :=
  match main with
  | .reloading todo => todo.any (reachedBy c aHost)
  | _ => false

def marksReached (w : World) : Bool :=
  w.doc.items.all fun r =>
    !(w.doc.entry r).updated || w.doc.conf.isActive (w.doc.entry r).eventHost ||
      (w.doc.conf.hosts.map ReloadItem.visit).any
        (reachedBy w.doc.conf (w.doc.entry r).eventHost)

theorem marksReached_of_pools {w : World}
    (h : ∀ r ∈ w.doc.items, (w.doc.conf.host (w.doc.entry r).eventHost).pool.isSome = true) :
    w.marksReached = true := by
  refine List.all_eq_true.mpr (fun r hr => ?_)
  cases hactive : w.doc.conf.isActive (w.doc.entry r).eventHost with
  | true => simp
  | false =>
    have hvisit : (w.doc.conf.hosts.map ReloadItem.visit).any
        (reachedBy w.doc.conf (w.doc.entry r).eventHost) = true :=
      List.any_eq_true.mpr ⟨.visit (w.doc.entry r).eventHost,
        List.mem_map_of_mem (Configuration.mem_hosts.mpr (h r hr)), by simp [reachedBy, hactive]⟩
    simp [hvisit]

def filesInTime (w : World) (a : Act) : Bool :=
  !a.isEdit && ((w.locked a).bind (filesInto w.doc)).all
    (fun h => w.doc.conf.isActive h || toReach w.doc.conf w.main h)

def filesMonitored (w : World) (a : Act) : Bool :=
  !a.isEdit && ((w.locked a).bind (filesInto w.doc)).all (fun h => w.doc.conf.isActive h)

def Settled (reach : HostRef → Bool) (d : Document) : Prop :=
  ∀ r ∈ d.items, (d.entry r).updated = true →
    d.conf.isActive (d.entry r).eventHost = true ∨ reach (d.entry r).eventHost = true

def Monitored (d : Document) : Prop :=
  ∀ r ∈ d.items, d.conf.isActive (d.entry r).eventHost = true

section Log
variable {d : Document} {s : Section}

theorem filesInto_host {aHost : HostRef} {f : Document.Filing}
    (hf : d.filing s = some (aHost, f)) :
    filesInto d s = some ((d.exec s).entry (d.target aHost f.pid)).eventHost := by
  rw [Document.exec_filing hf]
  rcases d.target_mem_or_fresh aHost f.pid with h | ⟨h, _⟩
  · have hm := (d.find_mem aHost h).1
    have hhost := (d.file_key aHost f (d.dataList.allocated _ hm)).1
    simp [filesInto, hf, h, hhost]
  · simp [filesInto, hf, h, d.file_fresh aHost f h]

theorem settled_exec {reach reach' : HostRef → Bool} (hi : Settled reach d)
    (hs : ∀ conf, s ≠ .edit conf)
    (hreach : ∀ h, reach h = true → reach' h = true ∨
      ∃ g, s = .clearUpdates g ∧ d.conf.sameHostname h g = true)
    (hfiles : ∀ h, filesInto d s = some h → d.conf.isActive h = true ∨ reach' h = true) :
    Settled reach' (d.exec s) := by
  intro r hr hu
  rw [Document.exec_conf hs]
  rcases Document.exec_updated_true hr hu with ⟨hm, hold⟩ | ⟨g, f, hf, rfl⟩
  · have hhost := (Document.exec_evolves (s := s) (d.dataList.allocated r hm)).1
    rw [hhost]
    rcases hi r hm hold with hactive | hdue
    · exact Or.inl hactive
    · rcases hreach _ hdue with hstill | ⟨g, rfl, hsame⟩
      · exact Or.inr hstill
      · have hclear : ((d.clearUpdates g).entry r).updated = false := by
          rw [Document.clearUpdates_entry, if_pos hm, Document.clearMark, if_pos hsame]
        exact absurd (hclear.symm.trans hu) (by decide)
  · exact hfiles _ (filesInto_host hf)

theorem monitored_exec (hi : Monitored d) (hs : ∀ conf, s ≠ .edit conf)
    (hfiles : ∀ h, filesInto d s = some h → d.conf.isActive h = true) :
    Monitored (d.exec s) := by
  intro r hr
  rw [Document.exec_conf hs]
  rcases Document.exec_mem hr with hm | ⟨g, f, hf, hn, rfl⟩
  · rw [(Document.exec_evolves (s := s) (d.dataList.allocated r hm)).1]
    exact hi r hm
  · rw [← d.target_of_find_none g hn]
    exact hfiles _ (filesInto_host hf)

-- The purge drops an unmarked entry of an unmonitored host, tracked or not.
theorem refresh_monitored (hi : Settled (fun _ => false) d) (now : Time) (order : List EntryRef) :
    Monitored (d.refresh now order) := by
  intro r hr
  rw [(d.refresh_perm now order).mem_iff, Document.purge_items, List.mem_filter] at hr
  obtain ⟨hm, hkept⟩ := hr
  have hhost : ((d.refresh now order).entry r).eventHost = (d.entry r).eventHost :=
    (Document.exec_evolves (s := .refresh now order) (d.dataList.allocated r hm)).1
  rw [(d.refresh_settings now order).1, hhost]
  by_contra hinactive
  have hoff : d.conf.isActive (d.entry r).eventHost = false := by simpa using hinactive
  have hmark : (d.entry r).updated = false := by
    by_contra hu
    rcases hi r hm (by simpa using hu) with h | h
    · exact hinactive h
    · simp at h
  have hdead : (d.entry r).eventHost ∈ d.deadHosts :=
    d.mem_deadHosts.mpr ⟨r, hm, rfl, hoff⟩
  have hswept : Document.sweeps d.conf d.deadHosts (d.entry r) = true := by
    simp only [Document.sweeps, hmark, Bool.not_false, Bool.true_and, List.any_eq_true]
    exact ⟨_, hdead, d.conf.sameHostname_self _⟩
  have huntracked : d.tracks (d.purged now (d.entry r)) = false := by
    simp [Document.tracks, d.purged_of_inactive now hoff]
  simp [hswept, huntracked] at hkept

end Log

section Run
variable {w v w' : World} {a : Act}

theorem step_log (h : w.step a = some w') (ha : a.isEdit = false) :
    w'.doc.conf = w.doc.conf ∧ ∃ v, Moves w a (w.locked a) v ∧ w'.main = v.main ∧
      ((w.locked a = none ∧ w'.doc = w.doc) ∨
        ∃ s, w.locked a = some s ∧ w'.doc = w.doc.exec s ∧ ∀ conf, s ≠ .edit conf) := by
  have hedit : ∀ conf, a ≠ .edit conf := by
    rintro conf rfl
    simp [Act.isEdit] at ha
  have hconf := step_conf h hedit
  have hdoc := step_doc h
  obtain ⟨v, hm, rfl⟩ := step_moves h
  refine ⟨hconf, v, hm, rfl, ?_⟩
  cases hs : w.locked a with
  | none =>
    rw [hs] at hdoc
    exact Or.inl ⟨rfl, hdoc⟩
  | some s =>
    rw [hs] at hdoc
    refine Or.inr ⟨s, rfl, hdoc, ?_⟩
    rintro conf rfl
    exact hm.no_edit hedit conf hs

theorem toReach_moves {s : Option Section} (hm : Moves w a s v) {aHost : HostRef}
    (h : toReach w.doc.conf w.main aHost = true) :
    toReach w.doc.conf v.main aHost = true ∨
      ∃ g, s = some (.clearUpdates g) ∧ w.doc.conf.sameHostname aHost g = true := by
  cases hm with
  | operation x hops => exact Or.inl h
  | @reload item todo hmain =>
    simp only [hmain, toReach, List.any_cons, Bool.or_eq_true] at h
    rcases h with hitem | hrest
    · cases item with
      | seedRefresh => simp [reachedBy] at hitem
      | sweep g => simp [reachedBy] at hitem
      | visit g =>
        simp only [reachedBy, Bool.and_eq_true, Bool.not_eq_true'] at hitem
        exact Or.inr ⟨g, by simp [runReload, hitem.1], hitem.2⟩
    · refine Or.inl ?_
      cases item with
      | visit g =>
        simp only [runReload]
        split
        · exact hrest
        · simpa [toReach, reachedBy] using hrest
      | _ => exact hrest
  | block hmain hqueue => simp [hmain, toReach] at h
  | opened hmain => simp [hmain, toReach] at h
  | reloaded hmain => simp [hmain, toReach] at h
  | alert hmain => simp [hmain, toReach] at h
  | openConfigSheet hmain => simp [hmain, toReach] at h
  | endConfigSheet hmain hsheet => simp [hmain, toReach] at h
  | reloadDataWatchers hmain hsheet => simp [hmain, toReach] at h
  | edit hmain hsheet => simp [hmain, toReach] at h
  | quiet hmain hq => simp [hmain, toReach] at h

theorem reloading_step (hi : Settled (toReach w.doc.conf w.main) w.doc)
    (hg : w.filesInTime a = true) (h : w.step a = some w') :
    w'.doc.conf = w.doc.conf ∧ Settled (toReach w'.doc.conf w'.main) w'.doc := by
  simp only [filesInTime, Bool.and_eq_true, Bool.not_eq_true'] at hg
  obtain ⟨hconf, v, hm, hmain, hlog⟩ := step_log h hg.1
  refine ⟨hconf, ?_⟩
  rw [hconf, hmain]
  rcases hlog with ⟨hs, hdoc⟩ | ⟨s, hs, hdoc, hedit⟩
  · rw [hdoc]
    intro r hr hu
    refine (hi r hr hu).imp_right (fun hdue => ?_)
    rcases toReach_moves hm hdue with hstill | ⟨g, hsome, _⟩
    · exact hstill
    · exact absurd (hs.symm.trans hsome) (by simp)
  · rw [hdoc]
    rw [hs] at hm hg
    refine settled_exec hi hedit ?_ ?_
    · intro g hdue
      simpa using toReach_moves hm hdue
    · intro g hfile
      simp only [Option.bind_some, hfile, Option.all_some, Bool.or_eq_true] at hg
      refine hg.2.imp_right (fun hdue => ?_)
      rcases toReach_moves hm hdue with hstill | ⟨k, hsome, _⟩
      · exact hstill
      · obtain rfl := Option.some.inj hsome
        simp [filesInto, Document.filing] at hfile

theorem filesMonitored_log (hg : w.filesMonitored a = true) (h : w.step a = some w') :
    w'.doc.conf = w.doc.conf ∧ (w'.doc = w.doc ∨ ∃ s, w.locked a = some s ∧
      w'.doc = w.doc.exec s ∧ (∀ conf, s ≠ .edit conf) ∧
      ∀ g, filesInto w.doc s = some g → w.doc.conf.isActive g = true) := by
  simp only [filesMonitored, Bool.and_eq_true, Bool.not_eq_true'] at hg
  obtain ⟨hconf, v, hm, _, ⟨_, hdoc⟩ | ⟨s, hs, hdoc, hedit⟩⟩ := step_log h hg.1
  · exact ⟨hconf, Or.inl hdoc⟩
  · refine ⟨hconf, Or.inr ⟨s, hs, hdoc, hedit, ?_⟩⟩
    intro g hfile
    rw [hs] at hg
    simpa [hfile] using hg.2

theorem settled_step (hi : Settled (fun _ => false) w.doc) (hg : w.filesMonitored a = true)
    (h : w.step a = some w') : Settled (fun _ => false) w'.doc := by
  obtain ⟨_, hdoc | ⟨s, _, hdoc, hedit, hfiles⟩⟩ := filesMonitored_log hg h
  · rw [hdoc]
    exact hi
  · rw [hdoc]
    refine settled_exec hi hedit ?_ (fun g hfile => Or.inl (hfiles g hfile))
    intro g hdue
    simp at hdue

theorem monitored_step (hi : Monitored w.doc) (hg : w.filesMonitored a = true)
    (h : w.step a = some w') : Monitored w'.doc := by
  obtain ⟨_, hdoc | ⟨s, _, hdoc, hedit, hfiles⟩⟩ := filesMonitored_log hg h
  · rw [hdoc]
    exact hi
  · rw [hdoc]
    exact monitored_exec hi hedit hfiles

theorem endConfigSheet_settled (hreach : w.marksReached = true)
    (h : w.step .endConfigSheet = some w') :
    w'.doc.conf = w.doc.conf ∧ Settled (toReach w'.doc.conf w'.main) w'.doc := by
  obtain ⟨hconf, v, hm, hmain, ⟨hs, hdoc⟩ | ⟨s, hs, hdoc, hedit⟩⟩ := step_log h rfl
  · refine ⟨hconf, ?_⟩
    rw [hconf, hmain, hdoc]
    rw [hs] at hm
    cases hm with
    | quiet hidle hq => cases hq
    | endConfigSheet hidle hsheet =>
      intro r hr hu
      have hr' := List.all_eq_true.mp hreach r hr
      simpa [hu, beginReload, toReach, reachedBy] using hr'
  · rw [hs] at hm
    cases hm with
    | quiet hidle hq => cases hq

end Run

theorem unmonitored_entries_purged {w : World} (hreach : w.marksReached = true) {w₀ : World}
    (hend : w.step .endConfigSheet = some w₀) {reload : List Act} {w₁ : World}
    (hreload : Transition.run step filesInTime w₀ reload = some w₁)
    (hdone : ∀ todo, w₁.main ≠ .reloading todo) {mid : List Act} {w₂ : World}
    (hmid : Transition.run step filesMonitored w₁ mid = some w₂) {a : Act} {now : Time}
    {order : List EntryRef} (hrefresh : w₂.locked a = some (.refresh now order))
    {post : List Act} {w₃ : World}
    (hpost : Transition.run step filesMonitored w₂ (a :: post) = some w₃) :
    ∀ r ∈ w₃.doc.items, w.doc.conf.isActive (w₃.doc.entry r).eventHost = true := by
  obtain ⟨hconf₁, hi₁⟩ : w₁.doc.conf = w.doc.conf ∧
      Settled (toReach w₁.doc.conf w₁.main) w₁.doc := by
    refine Transition.run_invariant (I := fun u => u.doc.conf = w.doc.conf ∧
      Settled (toReach u.doc.conf u.main) u.doc) ?_ (endConfigSheet_settled hreach hend) hreload
    rintro u b u' ⟨hconf, hi⟩ hg hs
    obtain ⟨hconf', hi'⟩ := reloading_step hi hg hs
    exact ⟨hconf'.trans hconf, hi'⟩
  have hnone : toReach w₁.doc.conf w₁.main = fun _ => false := by
    funext h
    cases hm : w₁.main with
    | reloading todo => exact absurd hm (hdone todo)
    | _ => rfl
  rw [hnone] at hi₁
  obtain ⟨hconf₂, hi₂⟩ : w₂.doc.conf = w.doc.conf ∧ Settled (fun _ => false) w₂.doc := by
    refine Transition.run_invariant (I := fun u => u.doc.conf = w.doc.conf ∧
      Settled (fun _ => false) u.doc) ?_ ⟨hconf₁, hi₁⟩ hmid
    rintro u b u' ⟨hconf, hi⟩ hg hs
    exact ⟨(filesMonitored_log hg hs).1.trans hconf, settled_step hi hg hs⟩
  obtain ⟨hg, u, hstep, hrest⟩ := Transition.run_cons.mp hpost
  have hclean : Monitored u.doc := by
    rw [step_doc hstep, hrefresh]
    exact refresh_monitored hi₂ now order
  obtain ⟨hconf₃, hi₃⟩ : w₃.doc.conf = w.doc.conf ∧ Monitored w₃.doc := by
    refine Transition.run_invariant (I := fun u => u.doc.conf = w.doc.conf ∧ Monitored u.doc) ?_
      ⟨(filesMonitored_log hg hstep).1.trans hconf₂, hclean⟩ hrest
    rintro u b u' ⟨hconf, hi⟩ hg hs
    exact ⟨(filesMonitored_log hg hs).1.trans hconf, monitored_step hi hg hs⟩
  rw [← hconf₃]
  exact hi₃

theorem unmonitored_entries_purged_deactivated :
    let c := Configuration.onePool { active := some 1 } [3] (by decide) (fun _ => 1) (fun _ => 0)
    let c' := Configuration.onePool { active := some 1 } [3] (by decide) (fun _ => 0) (fun _ => 0)
    let row : QueryRow := { id := 8, host := "web", info := some [97], time := 9 }
    let acts : List Act := [.reloadDataWatchers, .mainThread, .mainThread, .mainThread] ++
      List.replicate 8 (.operation 1 { results := some [row] }) ++
      [.openConfigSheet, .mainThread, .edit c', .operation 1 {}]
    ∃ w w₀ w₂ w₃, Transition.run step Transition.anyStep (initial c 30 1) acts = some w ∧
      w.step .endConfigSheet = some w₀ ∧
      Transition.run step filesInTime w₀ (List.replicate 4 .mainThread) = some w₂ ∧
      0 ∈ w₂.doc.items ∧
      Transition.run step filesMonitored w₂ [.operation 1 {}, .operation 1 {}] = some w₃ ∧
      ∀ r ∈ w₃.doc.items, w.doc.conf.isActive (w₃.doc.entry r).eventHost = true := by
  intro c c' row acts
  have hcheck : (Transition.run step Transition.anyStep (initial c 30 1) acts).any (fun w =>
      w.marksReached && (w.step .endConfigSheet).any (fun w₀ =>
        (Transition.run step filesInTime w₀ (List.replicate 4 .mainThread)).any (fun w₂ =>
          decide (w₂.main = .idle) && decide (0 ∈ w₂.doc.items) &&
            (Transition.run step filesMonitored w₂ [.operation 1 {}]).any (fun u =>
              decide (u.ops[1]? = some { body := .refresh .log })) &&
            (Transition.run step filesMonitored w₂ [.operation 1 {}, .operation 1 {}]).isSome))) =
      true := by
    decide +kernel
  obtain ⟨w, hrun, hw⟩ := (Option.any_eq_true _ _).mp hcheck
  simp only [Bool.and_eq_true, decide_eq_true_eq, Option.any_eq_true] at hw
  obtain ⟨hreach, w₀, hend, w₂, hreload, ⟨⟨hidle, hmem⟩, u, hmid, hop⟩, hlast⟩ := hw
  obtain ⟨w₃, hpost⟩ := Option.isSome_iff_exists.mp hlast
  refine ⟨w, w₀, w₂, w₃, hrun, hend, hreload, hmem, hpost, ?_⟩
  have hrefresh : u.locked (.operation 1 {}) = some (.refresh 0 []) := by
    simp [locked, control, runOperation, hop, Operation.advance, RefreshState.advance]
  obtain ⟨u', hmid', hrest⟩ := Transition.run_append.mp
    (show Transition.run step filesMonitored w₂ ([.operation 1 {}] ++ [.operation 1 {}]) = some w₃
      from hpost)
  obtain rfl : u' = u := Option.some.inj (hmid'.symm.trans hmid)
  exact unmonitored_entries_purged hreach hend hreload (by simp [hidle]) hmid hrefresh hrest

theorem deleted_host_entry_stays :
    let c := Configuration.onePool { active := some 1 } [3] (by decide) (fun _ => 1) (fun _ => 0)
    let c' := Configuration.onePool { active := some 1 } [] (by decide) (fun _ => 1) (fun _ => 0)
    let row : QueryRow := { id := 8, host := "web", info := some [97], time := 9 }
    let acts : List Act := [.reloadDataWatchers, .mainThread, .mainThread, .mainThread] ++
      List.replicate 8 (.operation 1 { results := some [row] }) ++
      [.openConfigSheet, .mainThread, .edit c', .operation 1 {}, .endConfigSheet] ++
      [.mainThread, .mainThread, .operation 1 {}]
    ∃ w w', Transition.run step Transition.anyStep (initial c 30 1) acts = some w ∧
      w.main = .idle ∧ (∀ op ∈ w.ops, op.isRefresh = true) ∧
      w.locked (.operation 1 {}) = some (.refresh 0 []) ∧ w.step (.operation 1 {}) = some w' ∧
      0 ∈ w'.doc.items ∧ w'.doc.conf.isActive (w'.doc.entry 0).eventHost = false := by
  intro c c' row acts
  have hcheck : (Transition.run step Transition.anyStep (initial c 30 1) acts).any (fun w =>
      decide (w.main = .idle) && w.ops.all Operation.isRefresh &&
        decide (w.ops[1]? = some { body := .refresh .log }) &&
        (w.step (.operation 1 {})).any (fun w' => decide (0 ∈ w'.doc.items) &&
          decide (w'.doc.conf.isActive (w'.doc.entry 0).eventHost = false))) = true := by
    decide +kernel
  obtain ⟨w, hrun, hw⟩ := (Option.any_eq_true _ _).mp hcheck
  simp only [Bool.and_eq_true, decide_eq_true_eq, Option.any_eq_true, List.all_eq_true] at hw
  obtain ⟨⟨⟨hidle, hops⟩, hop⟩, w', hstep, hmem, hoff⟩ := hw
  refine ⟨w, w', hrun, hidle, hops, ?_, hstep, hmem, hoff⟩
  simp [locked, control, runOperation, hop, Operation.advance, RefreshState.advance]

end World

end DBMonitor
