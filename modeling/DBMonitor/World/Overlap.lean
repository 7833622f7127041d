import DBMonitor.World.Refinement

namespace DBMonitor

namespace Operation

-- The qualifying rows a poll operation has filed and not yet swept after.
def pending (op : Operation) : Option (HostRef × List QueryRow) :=
  match op.body with
  | .poll aHost (.filing qualified _) => some (aHost, qualified)
  | .poll aHost (.replicating (some qualified)) => some (aHost, qualified)
  | .poll aHost (.sweeping (some qualified)) => some (aHost, qualified)
  | _ => none

section Advance
variable {c : Configuration} {x : Input} {b : Body} {g h : HostRef} {isCancelled : Bool}
  {qualified rest q : List QueryRow} {row : QueryRow}

theorem pending_row
    (hb : ((PollState.filing qualified (row :: rest)).advance c g isCancelled x).body = some b)
    (hp : ({ body := b, isCancelled := isCancelled } : Operation).pending = some (h, q)) :
    h = g ∧ (q = qualified ∨ (q = qualified ++ [row] ∧ Document.qualifies c g row = true ∧
      ((PollState.filing qualified (row :: rest)).advance c g isCancelled x).locked =
        some (.updateRow x.now g row))) := by
  cases hq : Document.qualifies c g row with
  | false =>
    simp only [PollState.advance, hq, Bool.false_eq_true, if_false, Option.some.injEq] at hb
    subst hb
    obtain ⟨rfl, rfl⟩ := Prod.mk.inj (Option.some.inj hp)
    exact ⟨rfl, Or.inl rfl⟩
  | true =>
    simp only [PollState.advance, hq, if_true, Option.some.injEq] at hb
    subst hb
    obtain ⟨rfl, rfl⟩ := Prod.mk.inj (Option.some.inj hp)
    exact ⟨rfl, Or.inr ⟨rfl, rfl, by simp [PollState.advance, hq]⟩⟩

theorem pending_advance {op : Operation} (hb : (op.advance c x).body = some b)
    (hp : ({ op with body := b } : Operation).pending = some (h, q)) :
    op.pending = some (h, q) ∨ q = [] ∨
      ∃ q₀ row, op.pending = some (h, q₀) ∧ q = q₀ ++ [row] ∧
        Document.qualifies c h row = true ∧
        (op.advance c x).locked = some (.updateRow x.now h row) := by
  obtain ⟨body, isCancelled⟩ := op
  cases body with
  | refresh state =>
    cases state <;> cases isCancelled <;> simp [advance, RefreshState.advance] at hb <;>
      (subst hb; simp [pending] at hp)
  | poll g state =>
    cases state with
    | filing qualified rest =>
      cases rest with
      | nil =>
        obtain rfl := Option.some.inj hb
        exact Or.inl hp
      | cons row rest =>
        obtain ⟨rfl, rfl | ⟨rfl, hq, hlocked⟩⟩ := pending_row hb hp
        · exact Or.inl rfl
        · exact Or.inr (Or.inr ⟨qualified, row, rfl, rfl, hq, hlocked⟩)
    | fetching =>
      cases hr : x.results <;> simp only [advance, PollState.advance, hr] at hb <;>
        obtain rfl := Option.some.inj hb
      · simp [pending] at hp
      · exact Or.inr (Or.inl (Prod.mk.inj (Option.some.inj hp)).2.symm)
    | replicating qualified =>
      obtain rfl := Option.some.inj hb
      cases qualified with
      | none => simp [pending] at hp
      | some q => exact Or.inl hp
    | connecting =>
      obtain rfl := Option.some.inj hb
      cases hc : x.connects <;> simp [hc, pending] at hp
    | queued =>
      obtain rfl := Option.some.inj (Option.ite_none_left_eq_some.mp hb).2
      simp [pending] at hp
    | checking =>
      obtain rfl := Option.some.inj (Option.ite_none_left_eq_some.mp hb).2
      simp [pending] at hp
    | posting => simp [advance, PollState.advance] at hb
    | _ =>
      obtain rfl := Option.some.inj hb
      simp [pending] at hp

end Advance

end Operation

namespace World

def lone (d : Document) (aHost : HostRef) (pid : String) : Bool :=
  d.items.all (fun r => !Document.matchesKey d.conf aHost pid (d.entry r) ||
    decide (d.find aHost pid = some r))

theorem lone_of_ownsHostname {d : Document} {aHost : HostRef} {pid : String} (hkept : d.WellKept)
    (howns : d.conf.OwnsHostname aHost) (hlive : pid ≠ deadProcess) : lone d aHost pid = true := by
  refine List.all_eq_true.mpr (fun r hr => ?_)
  cases hm : Document.matchesKey d.conf aHost pid (d.entry r) with
  | false => rfl
  | true =>
    simp only [Document.matchesKey, Bool.and_eq_true, decide_eq_true_eq] at hm
    cases hfind : d.find aHost pid with
    | none => exact absurd hm.2 ((d.find_none_iff aHost).mp hfind r hr hm.1)
    | some t =>
      obtain ⟨ht, hsame, hpid⟩ := d.find_mem aHost hfind
      have hhost := (howns _ hm.1).trans (howns _ hsame).symm
      have hrt : r = t := hkept.2.eq (fun _ _ => Eq.symm) hr ht hhost (hm.2.trans hpid.symm)
        (hm.2 ▸ hlive)
      simp [hrt]

theorem run_lone {ok : World → Act → Bool} {conf : Configuration} {sliderValue trackQuery : Int}
    {acts : List Act} {w : World}
    (hrun : Transition.run step ok (initial conf sliderValue trackQuery) acts = some w)
    {aHost : HostRef} (howns : w.doc.conf.OwnsHostname aHost) (row : QueryRow) :
    lone w.doc aHost (printID row.id) = true :=
  lone_of_ownsHostname (run_wellKept hrun) howns (printID_ne_dead row.id)

-- No operation is between a row and its sweep when marks of its hostname are cleared, and each
-- row is filed into the only entry of its key.
def clearsBetween (w : World) (a : Act) : Bool :=
  match w.locked a with
  | some (.clearUpdates g) =>
    w.ops.all (fun op => op.pending.all (fun p =>
      p.2.isEmpty || !w.doc.conf.sameHostname p.1 g))
  | some (.updateRow _ g row) =>
    !Document.qualifies w.doc.conf g row || lone w.doc g (printID row.id)
  | _ => true

def Marked (w : World) : Prop :=
  ∀ op ∈ w.ops, ∀ h q, op.pending = some (h, q) → ∀ row ∈ q, ∀ r ∈ w.doc.items,
    (w.doc.entry r).eventHost = h → (w.doc.entry r).processID = printID row.id →
    (w.doc.entry r).updated = true

section Marked
variable {w v : World} {a : Act}

theorem pending_moves {s : Option Section} (hm : Moves w a s v) {op : Operation} (hop : op ∈ v.ops)
    {h : HostRef} {q : List QueryRow} (hp : op.pending = some (h, q)) :
    (∃ op' ∈ w.ops, op'.pending = some (h, q)) ∨ q = [] ∨
      ∃ op' ∈ w.ops, ∃ q₀ row now, op'.pending = some (h, q₀) ∧ q = q₀ ++ [row] ∧
        Document.qualifies w.doc.conf h row = true ∧ s = some (.updateRow now h row) := by
  rcases hm.ops op hop with ⟨op', hop', hbody⟩ | ⟨op', hop', x, b, hb, rfl, rfl⟩ | ⟨g, rfl⟩ | rfl
  · refine Or.inl ⟨op', hop', ?_⟩
    rw [← hp, Operation.pending, Operation.pending, hbody]
  · rcases Operation.pending_advance hb hp with hold | hnil | ⟨q₀, row, hold, hq, hqual, hs⟩
    · exact Or.inl ⟨op', hop', hold⟩
    · exact Or.inr (Or.inl hnil)
    · exact Or.inr (Or.inr ⟨op', hop', q₀, row, x.now, hold, hq, hqual, hs⟩)
  · simp [generateMySQLOperation, Operation.pending] at hp
  · simp [generateRefreshOperation, Operation.pending] at hp

theorem Marked.exec_old (hi : w.Marked) (hg : w.clearsBetween a = true) {s : Section}
    (hs : w.locked a = some s) {op : Operation} (hop : op ∈ w.ops) {h : HostRef}
    {q : List QueryRow} (hp : op.pending = some (h, q)) {row : QueryRow} (hrow : row ∈ q)
    {r : EntryRef} (hr : r ∈ (w.doc.exec s).items)
    (hh : ((w.doc.exec s).entry r).eventHost = h)
    (hpid : ((w.doc.exec s).entry r).processID = printID row.id) :
    ((w.doc.exec s).entry r).updated = true := by
  have hlive : ((w.doc.exec s).entry r).processID ≠ deadProcess :=
    hpid ▸ printID_ne_dead row.id
  have hclear : r ∈ w.doc.items → ∀ g, s = .clearUpdates g →
      w.doc.conf.sameHostname (w.doc.entry r).eventHost g = false := by
    rintro hm g rfl
    rw [clearsBetween, hs] at hg
    have hpend := List.all_eq_true.mp hg op hop
    rw [hp, Option.all_some, Bool.or_eq_true] at hpend
    rw [← (Document.exec_old_key hm hlive).1, hh]
    rcases hpend with hempty | hother
    · have hq : q = [] := List.isEmpty_iff.mp hempty
      rw [hq] at hrow
      exact absurd hrow List.not_mem_nil
    · simpa using hother
  refine Document.exec_mark_kept hr hclear (fun hm => ?_)
  obtain ⟨hhost, hkey⟩ := Document.exec_old_key hm hlive
  exact hi op hop h q hp row hrow r hm (hhost.symm.trans hh) (hkey.symm.trans hpid)

theorem exec_new_row {d : Document} {now : Time} {h : HostRef} {row : QueryRow}
    (hq : Document.qualifies d.conf h row = true) (hlone : lone d h (printID row.id) = true)
    {r : EntryRef} (hr : r ∈ (d.exec (.updateRow now h row)).items)
    (hh : ((d.exec (.updateRow now h row)).entry r).eventHost = h)
    (hpid : ((d.exec (.updateRow now h row)).entry r).processID = printID row.id) :
    ((d.exec (.updateRow now h row)).entry r).updated = true := by
  have hf : d.filing (.updateRow now h row) = some (h, d.rowFiling h now row) := by
    simp [Document.filing, hq]
  have hfiled := (Document.exec_filed hf).2.1
  by_cases ht : r = d.target h (printID row.id)
  · rw [ht]
    exact hfiled
  · rw [Document.exec_filing hf, d.mem_file] at hr
    have hm := hr.resolve_right ht
    obtain ⟨hhost, hkey⟩ := Document.exec_old_key (s := .updateRow now h row) hm
      (hpid ▸ printID_ne_dead row.id)
    have hmatch : Document.matchesKey d.conf h (printID row.id) (d.entry r) = true := by
      simp [Document.matchesKey, ← hhost, hh, ← hkey, hpid]
    have hall := List.all_eq_true.mp hlone r hm
    rw [hmatch] at hall
    exact absurd (d.target_of_find h (by simpa using hall)).symm ht

theorem Marked.step {w' : World} (hi : w.Marked) (hg : w.clearsBetween a = true)
    (h : w.step a = some w') : w'.Marked := by
  obtain ⟨v, hm, rfl⟩ := step_moves h
  intro op hop g q hp row hrow r hr hh hpid
  have hdoc : (v.execute (w.locked a)).doc = (w.locked a).elim w.doc w.doc.exec := step_doc h
  rw [hdoc] at hr hh hpid ⊢
  cases hs : w.locked a with
  | none =>
    rw [hs] at hr hh hpid hm
    rcases pending_moves hm hop hp with ⟨op', hop', hold⟩ | rfl | ⟨_, _, _, _, _, _, _, _, hsome⟩
    · exact hi op' hop' g q hold row hrow r hr hh hpid
    · exact absurd hrow List.not_mem_nil
    · exact absurd hsome (by simp)
  | some s =>
    rw [hs] at hr hh hpid hm
    rcases pending_moves hm hop hp with ⟨op', hop', hold⟩ | rfl |
      ⟨op', hop', q₀, row', now, hold, rfl, hq, hsome⟩
    · exact hi.exec_old hg hs hop' hold hrow hr hh hpid
    · exact absurd hrow List.not_mem_nil
    · rcases List.mem_append.mp hrow with hrow | hrow
      · exact hi.exec_old hg hs hop' hold hrow hr hh hpid
      · obtain rfl := List.mem_singleton.mp hrow
        obtain rfl := Option.some.inj hsome
        have hlone : lone w.doc g (printID row.id) = true := by
          rw [clearsBetween, hs] at hg
          simpa [hq] using hg
        exact exec_new_row hq hlone hr hh hpid

end Marked

def Lost (d d' : Document) (r : EntryRef) : Prop :=
  r ∉ d'.items ∨ (d'.entry r).dead ≠ (d.entry r).dead ∨
    (d'.entry r).processID ≠ (d.entry r).processID

theorem lost_swept {d : Document} {s : Section} {r : EntryRef} (hr : r ∈ d.items)
    (hlost : Lost d (d.exec s) r) :
    Document.sweeps d.conf (d.sweeping s) (d.entry r) = true ∨ s = .killProcess ∨
      ∃ now order, s = .refresh now order := by
  rcases hlost with hgone | hdead | hpid
  · exact (Document.exec_removed hr hgone).imp_right (fun h => Or.inl h.1)
  · exact ((Document.exec_dead hr).resolve_left hdead).imp_right Or.inr
  · have hswept := (Document.exec_evolves (s := s) (d.dataList.allocated r hr)).2.2
    exact Or.inl (hswept.resolve_left hpid).2

theorem locked_operation {w : World} {i : Nat} {op : Operation} (x : Input)
    (hop : w.ops[i]? = some op) :
    w.locked (.operation i x) = (op.advance w.doc.conf x).locked := by
  simp [locked, control, runOperation, hop]

theorem poll_lost_sweeping {w : World} {i : Nat} {op : Operation} {x : Input} {aHost : HostRef}
    {state : PollState} (hop : w.ops[i]? = some op) (hbody : op.body = .poll aHost state)
    {w' : World} (hstep : w.step (.operation i x) = some w') {r : EntryRef}
    (hr : r ∈ w.doc.items) (hlost : Lost w.doc w'.doc r) :
    ∃ qualified, state = .sweeping qualified ∧
      Document.sweeps w.doc.conf [aHost] (w.doc.entry r) = true := by
  rw [step_doc hstep, locked_operation x hop, Operation.advance, hbody] at hlost
  cases hs : (state.advance w.doc.conf aHost op.isCancelled x).locked with
  | none =>
    simp only [hs, Option.elim_none] at hlost
    rcases hlost with h | h | h
    · exact absurd hr h
    · exact absurd rfl h
    · exact absurd rfl h
  | some s =>
    simp only [hs, Option.elim_some] at hlost
    have hswept := lost_swept hr hlost
    rcases PollState.advance_locked hs with rfl | ⟨row, rfl⟩ | ⟨status, rfl⟩ | rfl |
      ⟨qualified, rfl, rfl⟩
    · simp [Document.sweeping, Document.sweeps] at hswept
    · simp [Document.sweeping, Document.sweeps] at hswept
    · simp [Document.sweeping, Document.sweeps] at hswept
    · simp [Document.sweeping, Document.sweeps] at hswept
    · exact ⟨qualified, rfl, by simpa [Document.sweeping] using hswept⟩

theorem sweep_shown_by_snapshot {conf : Configuration} {sliderValue trackQuery : Int}
    {acts : List Act} {w : World}
    (hrun : Transition.run step clearsBetween (initial conf sliderValue trackQuery) acts = some w)
    {i : Nat} {op : Operation} {x : Input} {aHost : HostRef} {state : PollState}
    (hop : w.ops[i]? = some op) (hbody : op.body = .poll aHost state) {w' : World}
    (hstep : w.step (.operation i x) = some w') {r : EntryRef} (hr : r ∈ w.doc.items)
    (hhost : (w.doc.entry r).eventHost = aHost) (hlost : Lost w.doc w'.doc r) :
    ∃ qualified, state = .sweeping qualified ∧ ∀ rows, qualified = some rows →
      ∀ row ∈ rows, printID row.id ≠ (w.doc.entry r).processID := by
  have hi : w.Marked := by
    refine Transition.run_invariant (I := Marked) (fun _ _ _ hi hg hs => hi.step hg hs) ?_ hrun
    intro op hop
    exact absurd hop List.not_mem_nil
  obtain ⟨qualified, rfl, hs⟩ := poll_lost_sweeping hop hbody hstep hr hlost
  refine ⟨qualified, rfl, ?_⟩
  rintro rows rfl row hrow hid
  have hmark := hi op (List.mem_of_getElem? hop) aHost rows (by rw [Operation.pending, hbody]) row
    hrow r hr hhost hid.symm
  simp [Document.sweeps, hmark] at hs

theorem sweep_shown_by_snapshot_finished :
    let c := Configuration.onePool { active := some 1 } [3] (by decide) (fun _ => 1) (fun _ => 0)
    let row : QueryRow := { id := 8, host := "web", info := some [97], time := 2 }
    let acts : List Act := [.reloadDataWatchers, .mainThread, .mainThread, .mainThread] ++
      List.replicate 10 (.operation 1 { results := some [row] }) ++ [.mainThread] ++
      List.replicate 6 (.operation 1 {})
    ∃ w, Transition.run step clearsBetween (initial c 30 1) acts = some w ∧
      ∃ qualified, PollState.sweeping (some []) = .sweeping qualified ∧ ∀ rows,
        qualified = some rows → ∀ row ∈ rows, printID row.id ≠ (w.doc.entry 0).processID := by
  intro c row acts
  have hcheck : (Transition.run step clearsBetween (initial c 30 1) acts).any (fun w =>
      decide (w.ops[1]? = some { body := .poll 3 (.sweeping (some [])) }) &&
        decide (0 ∈ w.doc.items) && decide ((w.doc.entry 0).eventHost = 3) &&
        (w.step (.operation 1 {})).any (fun w' => decide (0 ∉ w'.doc.items))) = true := by
    decide +kernel
  obtain ⟨w, hrun, hw⟩ := (Option.any_eq_true _ _).mp hcheck
  simp only [Bool.and_eq_true, decide_eq_true_eq, Option.any_eq_true] at hw
  obtain ⟨⟨⟨hop, hr⟩, hhost⟩, w', hstep, hlost⟩ := hw
  exact ⟨w, hrun, sweep_shown_by_snapshot hrun hop rfl hstep hr hhost (Or.inl hlost)⟩

theorem overlap_sweeps_running_query :
    let c := Configuration.onePool { active := some 1 } [3] (by decide) (fun _ => 1) (fun _ => 0)
    let row : QueryRow := { id := 8, host := "web", info := some [97], time := 2 }
    let acts : List Act := [.reloadDataWatchers, .mainThread, .mainThread, .mainThread] ++
      List.replicate 7 (.operation 1 { results := some [row] }) ++
      [.openConfigSheet, .mainThread, .endConfigSheet, .mainThread, .mainThread, .mainThread,
        .operation 3 {}, .operation 3 {}]
    ∃ w w', Transition.run step Transition.anyStep (initial c 30 1) acts = some w ∧
      w.ops[1]? = some { body := .poll 3 (.sweeping (some [row])), isCancelled := true } ∧
      w.step (.operation 1 {}) = some w' ∧ 0 ∈ w.doc.items ∧
      (w.doc.entry 0).eventHost = 3 ∧ (w.doc.entry 0).processID = printID row.id ∧
      Lost w.doc w'.doc 0 := by
  intro c row acts
  have hcheck : (Transition.run step Transition.anyStep (initial c 30 1) acts).any (fun w =>
      decide (w.ops[1]? =
        some { body := .poll 3 (.sweeping (some [row])), isCancelled := true }) &&
        decide (0 ∈ w.doc.items) && decide ((w.doc.entry 0).eventHost = 3) &&
        decide ((w.doc.entry 0).processID = printID row.id) &&
        (w.step (.operation 1 {})).any (fun w' => decide (0 ∉ w'.doc.items))) = true := by
    decide +kernel
  obtain ⟨w, hrun, hw⟩ := (Option.any_eq_true _ _).mp hcheck
  simp only [Bool.and_eq_true, decide_eq_true_eq, Option.any_eq_true] at hw
  obtain ⟨⟨⟨⟨hop, hr⟩, hhost⟩, hpid⟩, w', hstep, hlost⟩ := hw
  exact ⟨w, w', hrun, hop, hstep, hr, hhost, hpid, Or.inl hlost⟩

end World

end DBMonitor
