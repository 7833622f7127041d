import DBMonitor.World.Overlap

namespace DBMonitor

def QueryRow.latest (rows : List QueryRow) (id : Int) : Option QueryRow :=
  rows.reverse.find? (fun row => decide (row.id = id))

namespace Document

def Displays (e : DBMLogEntry) (row : QueryRow) : Prop :=
  e.processID = printID row.id ∧ e.query = some row ∧ e.eventString = some row.logString ∧
    e.duration = row.recordedDuration

-- The marked entries of a host are those of the rows filed and at most the other IDs.
structure FiledAll (d : Document) (aHost : HostRef) (rows : List QueryRow) (ids : List String) :
    Prop where
  only : ∀ r ∈ d.items, (d.entry r).eventHost = aHost → (d.entry r).updated = true →
    (d.entry r).processID ∈ ids ∨ ∃ row ∈ rows, (d.entry r).processID = printID row.id
  shown : ∀ row, QueryRow.latest rows row.id = some row → 0 ≤ row.id →
    ∃ r ∈ d.items, (d.entry r).eventHost = aHost ∧ (d.entry r).updated = true ∧
      Displays (d.entry r) row

def marks : Section → Option HostRef
  | .clearUpdates aHost => some aHost
  | .updateRow _ aHost _ => some aHost
  | .updateMySQLSlaveStatus _ aHost _ => some aHost
  | .updateMySQLFail _ aHost => some aHost
  | _ => none

section FiledAll
variable {d : Document} {s : Section} {aHost : HostRef} {rows : List QueryRow} {ids : List String}

theorem filing_marks {g : HostRef} {f : Filing} (hf : d.filing s = some (g, f)) :
    marks s = some g := by
  rcases filing_cases hf with ⟨_, _, rfl, _⟩ | ⟨_, _, rfl, _⟩ | ⟨_, rfl, _⟩ <;> rfl

theorem sweepEntry_of_marked (hosts : List HostRef) {e : DBMLogEntry} (hmark : e.updated = true) :
    d.sweepEntry hosts e = e := by
  simp [sweepEntry, sweeps, hmark]

theorem passEntry_marked {e : DBMLogEntry} (hmark : e.updated = true)
    (hclear : ∀ g, s = .clearUpdates g → d.conf.sameHostname e.eventHost g = false) :
    ∃ dead timeout, d.passEntry s e = { e with dead := dead, displayTimeout := timeout } := by
  cases s with
  | clearUpdates g => exact ⟨e.dead, e.displayTimeout, by simp [passEntry, clearMark, hclear g rfl]⟩
  | discardMySQLDead g =>
    exact ⟨e.dead, e.displayTimeout, by simp [passEntry, sweepEntry_of_marked [g] hmark]⟩
  | refresh now order =>
    have hpurged : (d.purged now e).updated = true := by rw [purged_updated, hmark]
    refine ⟨(d.purged now e).dead, (d.purged now e).displayTimeout, ?_⟩
    rw [passEntry, sweepEntry_of_marked d.deadHosts hpurged]
    exact d.purged_frame now e
  | _ => exact ⟨e.dead, e.displayTimeout, rfl⟩

theorem shows_kept {r : EntryRef} (hr : r ∈ d.items) (hmark : (d.entry r).updated = true)
    {row : QueryRow} (hpos : 0 ≤ row.id) (hrow : Displays (d.entry r) row)
    (hclear : ∀ g, s = .clearUpdates g → d.conf.sameHostname (d.entry r).eventHost g = false)
    (hfile : ∀ g f, d.filing s = some (g, f) → r ≠ d.target g f.pid) :
    r ∈ (d.exec s).items ∧ ((d.exec s).entry r).eventHost = (d.entry r).eventHost ∧
      ((d.exec s).entry r).updated = true ∧ Displays ((d.exec s).entry r) row := by
  have hmem : r ∈ (d.exec s).items := by
    by_contra hgone
    rcases exec_removed hr hgone with hs | ⟨_, _, hp | hp⟩
    · simp [sweeps, hmark] at hs
    · exact printID_ne_connectFail hpos (hrow.1 ▸ hp)
    · exact printID_ne_dead row.id (hrow.1 ▸ hp)
  obtain ⟨dead, timeout, hpass⟩ := passEntry_marked hmark hclear
  rw [exec_passed hr hfile, hpass]
  exact ⟨hmem, rfl, hmark, hrow⟩

theorem only_kept (hi : d.FiledAll aHost rows ids) {r : EntryRef} (hr : r ∈ d.items)
    (hmark : (d.entry r).updated = true) (hhost : ((d.exec s).entry r).eventHost = aHost) :
    ((d.exec s).entry r).processID ∈ ids ∨
      ∃ row ∈ rows, ((d.exec s).entry r).processID = printID row.id := by
  obtain ⟨hh, _, hp⟩ := exec_evolves (s := s) (d.dataList.allocated r hr)
  have hpid : ((d.exec s).entry r).processID = (d.entry r).processID := by
    refine hp.resolve_right (fun hdead => ?_)
    simp [sweeps, hmark] at hdead
  rw [hpid]
  exact hi.only r hr (hh.symm.trans hhost) hmark

theorem FiledAll.exec_other (hi : d.FiledAll aHost rows ids)
    (hother : ∀ g, marks s = some g → d.conf.sameHostname aHost g = false) :
    (d.exec s).FiledAll aHost rows ids := by
  constructor
  · intro r hr hhost hmark
    rcases exec_updated_true hr hmark with ⟨hold, hm⟩ | ⟨g, f, hf, rfl⟩
    · exact only_kept hi hold hm hhost
    · have hsame := (exec_filed hf).2.2.2
      rw [hhost, hother g (filing_marks hf)] at hsame
      exact absurd hsame (by decide)
  · intro row hlast hpos
    obtain ⟨r, hr, hhost, hmark, hrow⟩ := hi.shown row hlast hpos
    have hkept := shows_kept (s := s) hr hmark hpos hrow
      (fun g hs => hhost ▸ hother g (by rw [hs, marks]))
      (fun g f hf ht => by
        have hsame := (d.find_mem g (d.find_of_target hr ht)).2.1
        rw [hhost, hother g (filing_marks hf)] at hsame
        exact absurd hsame (by decide))
    exact ⟨r, hkept.1, hkept.2.1.trans hhost, hkept.2.2⟩

theorem recorded_clear : (d.exec (.clearUpdates aHost)).FiledAll aHost [] [] := by
  constructor
  · intro r hr hhost hmark
    have hm : r ∈ d.items := by simpa [exec] using hr
    rw [exec, clearUpdates_entry, if_pos hm] at hhost hmark
    have hself : (d.entry r).eventHost = aHost := by
      rw [← hhost, clearMark]
      split <;> rfl
    simp [clearMark, hself] at hmark
  · intro row hlast
    simp [QueryRow.latest] at hlast

theorem FiledAll.exec_filing (hi : d.FiledAll aHost rows ids) {f : Filing}
    (hf : d.filing s = some (aHost, f)) :
    (∀ r ∈ (d.exec s).items, ((d.exec s).entry r).eventHost = aHost →
      ((d.exec s).entry r).updated = true → ((d.exec s).entry r).processID = f.pid ∨
        ((d.exec s).entry r).processID ∈ ids ∨
        ∃ row ∈ rows, ((d.exec s).entry r).processID = printID row.id) ∧
      ∀ row, QueryRow.latest rows row.id = some row → 0 ≤ row.id → printID row.id ≠ f.pid →
        ∃ r ∈ (d.exec s).items, ((d.exec s).entry r).eventHost = aHost ∧
          ((d.exec s).entry r).updated = true ∧ Displays ((d.exec s).entry r) row := by
  constructor
  · intro r hr hhost hmark
    rcases exec_updated_true hr hmark with ⟨hold, hm⟩ | ⟨g, f', hf', rfl⟩
    · exact Or.inr (only_kept hi hold hm hhost)
    · obtain ⟨rfl, rfl⟩ := Prod.mk.inj (Option.some.inj (hf.symm.trans hf'))
      exact Or.inl (exec_filed hf).2.2.1
  · intro row hlast hpos hne
    obtain ⟨r, hr, hhost, hmark, hrow⟩ := hi.shown row hlast hpos
    have hkept := shows_kept (s := s) hr hmark hpos hrow
      (fun g hs => by rw [hs] at hf; simp [filing] at hf)
      (fun g f' hf' ht => by
        obtain ⟨rfl, rfl⟩ := Prod.mk.inj (Option.some.inj (hf.symm.trans hf'))
        exact hne (hrow.1.symm.trans (d.find_mem _ (d.find_of_target hr ht)).2.2))
    exact ⟨r, hkept.1, hkept.2.1.trans hhost, hkept.2.2⟩

theorem FiledAll.exec_extra (hi : d.FiledAll aHost rows ids) {f : Filing}
    (hf : d.filing s = some (aHost, f)) (hpid : f.pid = replicationID ∨ f.pid = connectFailID) :
    (d.exec s).FiledAll aHost rows (f.pid :: ids) := by
  obtain ⟨honly, hshown⟩ := hi.exec_filing hf
  constructor
  · intro r hr hhost hmark
    rcases honly r hr hhost hmark with hp | hp | hp
    · exact Or.inl (hp ▸ List.mem_cons_self)
    · exact Or.inl (List.mem_cons_of_mem _ hp)
    · exact Or.inr hp
  · intro row hlast hpos
    refine hshown row hlast hpos (fun heq => ?_)
    rcases hpid with h | h
    · exact printID_ne_replication hpos (heq.trans h)
    · exact printID_ne_connectFail hpos (heq.trans h)

theorem latest_append (rows : List QueryRow) (last : QueryRow) (id : Int) :
    QueryRow.latest (rows ++ [last]) id =
      if last.id = id then some last else QueryRow.latest rows id := by
  simp only [QueryRow.latest, List.reverse_append, List.reverse_singleton, List.singleton_append,
    List.find?_cons]
  split
  next h => rw [if_pos (of_decide_eq_true h)]
  next h => rw [if_neg (of_decide_eq_false h)]

def filesAtHome (d : Document) : Section → Bool
  | .updateRow _ aHost row =>
    (d.find aHost (printID row.id)).all (fun r => decide ((d.entry r).eventHost = aHost))
  | _ => true

theorem FiledAll.exec_row (hi : d.FiledAll aHost rows ids) {now : Time} {last : QueryRow}
    (hq : qualifies d.conf aHost last = true)
    (hhome : d.filesAtHome (.updateRow now aHost last) = true) :
    (d.exec (.updateRow now aHost last)).FiledAll aHost (rows ++ [last]) ids := by
  have hf : d.filing (.updateRow now aHost last) = some (aHost, d.rowFiling aHost now last) := by
    simp [filing, hq]
  obtain ⟨honly, hshown⟩ := hi.exec_filing hf
  constructor
  · intro r hr hhost hmark
    rcases honly r hr hhost hmark with hp | hp | ⟨row, hrow, hp⟩
    · exact Or.inr ⟨last, by simp, hp⟩
    · exact Or.inl hp
    · exact Or.inr ⟨row, by simp [hrow], hp⟩
  · intro row hlast hpos
    rw [latest_append] at hlast
    split at hlast
    next hid =>
      obtain rfl := Option.some.inj hlast
      have hfiled := exec_filed hf
      refine ⟨_, hfiled.1, ?_, hfiled.2.1, ?_⟩
      · rcases d.target_mem_or_fresh aHost (printID last.id) with hfind | ⟨hnone, _⟩
        · have hold := (d.find_mem aHost hfind).1
          have hh := (exec_evolves (s := .updateRow now aHost last)
            (d.dataList.allocated _ hold)).1
          rw [filesAtHome, hfind] at hhome
          exact hh.trans (of_decide_eq_true hhome)
        · rw [Document.exec_filing hf]
          exact d.file_fresh aHost _ hnone
      · have hpid := hfiled.2.2.1
        rw [Document.exec_filing hf, file_target] at hpid ⊢
        exact ⟨hpid, rfl, rfl, rfl⟩
    next hid =>
      exact hshown row hlast hpos (fun heq => hid (printID_injective heq).symm)

theorem FiledAll.mono (hi : d.FiledAll aHost rows ids) {more : List String} (hmore : ids ⊆ more) :
    d.FiledAll aHost rows more :=
  ⟨fun r hr hhost hmark => (hi.only r hr hhost hmark).imp_left (fun h => hmore h), hi.shown⟩

end FiledAll

end Document

-- The rows a poll has filed since it cleared its marks, and the other IDs it may have filed.
def PollState.filed : PollState → Option (List QueryRow × List String)
  | .connecting | .fetching | .failing => some ([], [])
  | .filing qualified _ => some (qualified, [])
  | .replicating qualified => some (qualified.getD [], [])
  | .sweeping (some qualified) => some (qualified, [replicationID])
  | .sweeping none => some ([], [replicationID, connectFailID])
  | .queued | .clearing | .checking | .posting => none

def Operation.filed (op : Operation) : Option (HostRef × List QueryRow × List String) :=
  match op.body with
  | .poll aHost state => state.filed.map (fun p => (aHost, p))
  | .refresh _ => none

theorem Operation.filed_poll {op : Operation} {aHost : HostRef} {state : PollState}
    {p : List QueryRow × List String} (hbody : op.body = .poll aHost state)
    (hfiled : state.filed = some p) : op.filed = some (aHost, p) := by
  simp [Operation.filed, hbody, hfiled]

section Advance
variable {d : Document} {aHost : HostRef} {isCancelled : Bool} {x : Input} {state next : PollState}
  {rows : List QueryRow} {ids : List String}

theorem recorded_status (hi : d.FiledAll aHost rows [])
    {s : Option Section} (hs : ∀ s', s = some s' → ∃ status,
      s' = .updateMySQLSlaveStatus x.now aHost status) :
    (s.elim d d.exec).FiledAll aHost rows [replicationID] := by
  cases s with
  | none => exact hi.mono (List.nil_subset _)
  | some s' =>
    obtain ⟨status, rfl⟩ := hs s' rfl
    cases hu : status.unhealthy with
    | true =>
      have hf : d.filing (.updateMySQLSlaveStatus x.now aHost status) =
          some (aHost, d.statusFiling aHost x.now status) := by simp [Document.filing, hu]
      exact hi.exec_extra hf (Or.inl rfl)
    | false =>
      have hsame : d.exec (.updateMySQLSlaveStatus x.now aHost status) = d := by
        simp [Document.exec, Document.updateMySQLSlaveStatus, hu]
      rw [Option.elim_some, hsame]
      exact hi.mono (List.nil_subset _)

theorem recorded_advance
    (hi : ∀ rows ids, state.filed = some (rows, ids) → d.FiledAll aHost rows ids)
    (hhome : ∀ s, (state.advance d.conf aHost isCancelled x).locked = some s →
      d.filesAtHome s = true)
    (hnext : (state.advance d.conf aHost isCancelled x).body = some (.poll aHost next))
    (hfiled : next.filed = some (rows, ids)) :
    ((state.advance d.conf aHost isCancelled x).locked.elim d d.exec).FiledAll aHost rows ids := by
  cases state with
  | queued =>
    obtain rfl := (Body.poll.inj (Option.some.inj (Option.ite_none_left_eq_some.mp hnext).2)).2
    cases hfiled
  | clearing =>
    obtain rfl := (Body.poll.inj (Option.some.inj hnext)).2
    obtain ⟨rfl, rfl⟩ := Prod.mk.inj (Option.some.inj hfiled)
    exact Document.recorded_clear
  | connecting =>
    obtain rfl := (Body.poll.inj (Option.some.inj hnext)).2
    cases hc : x.connects <;> rw [hc] at hfiled <;>
      obtain ⟨rfl, rfl⟩ := Prod.mk.inj (Option.some.inj hfiled) <;> exact hi [] [] rfl
  | fetching =>
    cases hr : x.results <;> simp only [PollState.advance, hr] at hnext ⊢ <;>
      obtain rfl := (Body.poll.inj (Option.some.inj hnext)).2 <;>
      obtain ⟨rfl, rfl⟩ := Prod.mk.inj (Option.some.inj hfiled) <;> exact hi [] [] rfl
  | filing qualified rest =>
    cases rest with
    | nil =>
      obtain rfl := (Body.poll.inj (Option.some.inj hnext)).2
      obtain ⟨rfl, rfl⟩ := Prod.mk.inj (Option.some.inj hfiled)
      exact hi qualified [] rfl
    | cons row rest =>
      cases hq : Document.qualifies d.conf aHost row with
      | true =>
        simp only [PollState.advance, hq, if_true] at hnext hhome ⊢
        obtain rfl := (Body.poll.inj (Option.some.inj hnext)).2
        obtain ⟨rfl, rfl⟩ := Prod.mk.inj (Option.some.inj hfiled)
        exact (hi qualified [] rfl).exec_row hq (hhome _ rfl)
      | false =>
        simp only [PollState.advance, hq, Bool.false_eq_true, if_false] at hnext ⊢
        obtain rfl := (Body.poll.inj (Option.some.inj hnext)).2
        obtain ⟨rfl, rfl⟩ := Prod.mk.inj (Option.some.inj hfiled)
        exact hi qualified [] rfl
  | replicating qualified =>
    obtain rfl := (Body.poll.inj (Option.some.inj hnext)).2
    have hstatus := recorded_status (x := x) (hi _ [] rfl)
      (s := ((PollState.replicating qualified).advance d.conf aHost isCancelled x).locked)
      (fun s' hs => by
        simp only [PollState.advance] at hs
        obtain ⟨_, hs⟩ := Option.ite_none_right_eq_some.mp hs
        obtain ⟨status, _, rfl⟩ := Option.map_eq_some_iff.mp hs
        exact ⟨status, rfl⟩)
    cases qualified with
    | none =>
      obtain ⟨rfl, rfl⟩ := Prod.mk.inj (Option.some.inj hfiled)
      exact hstatus.mono (by simp)
    | some qualified =>
      obtain ⟨rfl, rfl⟩ := Prod.mk.inj (Option.some.inj hfiled)
      exact hstatus
  | failing =>
    obtain rfl := (Body.poll.inj (Option.some.inj hnext)).2
    obtain ⟨rfl, rfl⟩ := Prod.mk.inj (Option.some.inj hfiled)
    have hf : d.filing (.updateMySQLFail x.now aHost) =
        some (aHost, Document.failFiling x.now) := rfl
    exact ((hi [] [] rfl).exec_extra hf (Or.inr rfl)).mono (by simp [Document.failFiling])
  | sweeping qualified =>
    obtain rfl := (Body.poll.inj (Option.some.inj hnext)).2
    cases hfiled
  | checking =>
    obtain rfl := (Body.poll.inj (Option.some.inj (Option.ite_none_left_eq_some.mp hnext).2)).2
    cases hfiled
  | posting => cases hnext

end Advance

namespace World

def others (w : World) : Act → List Operation
  | .operation i _ => w.ops.eraseIdx i
  | _ => w.ops

-- While a poll is between its clearing and its sweep no one else clears or sets marks of its
-- hostname, and a row is filed into an entry of its own host.
def undisturbed (w : World) (a : Act) : Bool :=
  (w.locked a).all (fun s => w.doc.filesAtHome s && (Document.marks s).all (fun g =>
    (w.others a).all (fun op => op.filed.all (fun p => !w.doc.conf.sameHostname p.1 g))))

def Tallied (w : World) : Prop :=
  ∀ op ∈ w.ops, ∀ aHost rows ids, op.filed = some (aHost, rows, ids) →
    w.doc.FiledAll aHost rows ids

section Tallied
variable {w v w' : World} {a : Act} {s : Option Section}

theorem Moves.bodies (h : Moves w a s v) (ha : ∀ i x, a ≠ .operation i x) :
    ∀ op ∈ v.ops, (∃ op' ∈ w.ops, op.body = op'.body) ∨ op.filed = none := by
  intro op hop
  cases h with
  | @operation l r op₀ x hops => exact absurd rfl (ha l.length x)
  | @block b rest hmain hqueue =>
    cases b with
    | reschedule g =>
      rcases List.mem_append.mp hop with hm | hm
      · exact Or.inl ⟨op, hm, rfl⟩
      · obtain rfl := List.mem_singleton.mp hm
        exact Or.inr rfl
    | killDialog e => exact Or.inl ⟨op, hop, rfl⟩
  | opened hmain => exact Or.inl (cancelAll_bodies hop)
  | @reload item todo hmain =>
    cases item with
    | seedRefresh =>
      rcases List.mem_append.mp hop with hm | hm
      · exact Or.inl ⟨op, hm, rfl⟩
      · obtain rfl := List.mem_singleton.mp hm
        exact Or.inr rfl
    | sweep g => exact Or.inl ⟨op, hop, rfl⟩
    | visit g =>
      simp only [runReload] at hop
      split at hop
      · rcases List.mem_append.mp hop with hm | hm
        · exact Or.inl ⟨op, hm, rfl⟩
        · obtain rfl := List.mem_singleton.mp hm
          exact Or.inr rfl
      · exact Or.inl ⟨op, hop, rfl⟩
  | openConfigSheet hmain => exact Or.inl (cancelAll_bodies hop)
  | endConfigSheet hmain hsheet => exact Or.inl (cancelAll_bodies hop)
  | reloadDataWatchers hmain hsheet => exact Or.inl (cancelAll_bodies hop)
  | quiet hmain hq => cases hq <;> exact Or.inl ⟨op, hop, rfl⟩
  | _ => exact Or.inl ⟨op, hop, rfl⟩

theorem filed_body {op op' : Operation} (h : op.body = op'.body) : op.filed = op'.filed := by
  rw [Operation.filed, Operation.filed, h]

theorem Tallied.bystander (hi : w.Tallied) (hg : w.undisturbed a = true) {op : Operation}
    (hop : op ∈ w.ops) (hother : op ∈ w.others a) {aHost : HostRef} {rows : List QueryRow}
    {ids : List String} (hfiled : op.filed = some (aHost, rows, ids)) :
    ((w.locked a).elim w.doc w.doc.exec).FiledAll aHost rows ids := by
  have hold := hi op hop aHost rows ids hfiled
  rw [undisturbed] at hg
  cases hs : w.locked a with
  | none => exact hold
  | some s =>
    rw [hs, Option.all_some, Bool.and_eq_true] at hg
    refine hold.exec_other (fun g hmarks => ?_)
    rw [hmarks, Option.all_some, List.all_eq_true] at hg
    simpa [hfiled] using hg.2 op hother

theorem others_operation {l r : List Operation} {op : Operation} (x : Input)
    (hops : w.ops = l ++ op :: r) : w.others (.operation l.length x) = l ++ r := by
  rw [others, hops, List.eraseIdx_append_of_length_le (Nat.le_refl _), Nat.sub_self]
  rfl

theorem advance_filed {c : Configuration} {x : Input} {op : Operation} {b : Body}
    (hb : (op.advance c x).body = some b) {aHost : HostRef} {p : List QueryRow × List String}
    (hfiled : ({ op with body := b } : Operation).filed = some (aHost, p)) :
    ∃ state next, op.body = .poll aHost state ∧ b = .poll aHost next ∧ next.filed = some p := by
  obtain ⟨body, isCancelled⟩ := op
  cases b with
  | refresh state => cases hfiled
  | poll g next =>
    obtain ⟨q, hq, heq⟩ := Option.map_eq_some_iff.mp hfiled
    obtain ⟨rfl, rfl⟩ := Prod.mk.inj heq
    cases body with
    | refresh state => cases state <;> cases isCancelled <;> cases hb
    | poll h state =>
      rcases (PollState.advance_cases c h isCancelled x state).2 with
        ⟨_, hnone, _⟩ | ⟨_, _, ⟨_, hnone⟩ | ⟨next', hsome, _⟩⟩
      · exact absurd (hnone.symm.trans hb) (by simp)
      · exact absurd (hnone.symm.trans hb) (by simp)
      · obtain ⟨rfl, rfl⟩ := Body.poll.inj (Option.some.inj (hsome.symm.trans hb))
        exact ⟨state, next', rfl, rfl, hq⟩

theorem Tallied.step (hi : w.Tallied) (hg : w.undisturbed a = true) (h : w.step a = some w') :
    w'.Tallied := by
  obtain ⟨v, hm, rfl⟩ := step_moves h
  have hdoc : (v.execute (w.locked a)).doc = (w.locked a).elim w.doc w.doc.exec := step_doc h
  intro op hop aHost rows ids hfiled
  rw [hdoc]
  by_cases ha : ∃ i x, a = .operation i x
  · obtain ⟨i, x, rfl⟩ := ha
    generalize hs : w.locked (.operation i x) = s at hm hop
    cases hm with
    | quiet hmain hq => cases hq
    | @operation l r op₀ x hops =>
      rw [← hs]
      have hothers := others_operation x hops
      have hop₀ : w.ops[l.length]? = some op₀ := by rw [hops]; simp
      simp only [execute, advanced, List.append_assoc, List.mem_append] at hop
      rcases hop with hm | hm | hm | hm
      · exact hi.bystander hg (by rw [hops]; simp [hm]) (by rw [hothers]; simp [hm]) hfiled
      · obtain ⟨b, hb, rfl⟩ := Option.map_eq_some_iff.mp (Option.mem_toList.mp hm)
        obtain ⟨state, next, hbody, rfl, hnext⟩ := advance_filed hb hfiled
        rw [locked_operation x hop₀]
        simp only [Operation.advance, hbody] at hb ⊢
        refine recorded_advance (fun rows ids hold => ?_) (fun s hlocked => ?_) hb hnext
        · exact hi op₀ (List.mem_of_getElem? hop₀) aHost rows ids (Operation.filed_poll hbody hold)
        · rw [undisturbed, locked_operation x hop₀, Operation.advance, hbody] at hg
          simp only [hlocked, Option.all_some, Bool.and_eq_true] at hg
          exact hg.1
      · exact hi.bystander hg (by rw [hops]; simp [hm]) (by rw [hothers]; simp [hm]) hfiled
      · obtain ⟨body, isCancelled⟩ := op₀
        cases body with
        | poll g state =>
          have henq := (PollState.advance_cases w.doc.conf g isCancelled x state).1
          simp [Operation.advance, henq] at hm
        | refresh state =>
          cases state <;> simp [Operation.advance, RefreshState.advance] at hm
          subst hm
          cases hfiled
  · rcases hm.bodies (fun i x heq => ha ⟨i, x, heq⟩) op hop with ⟨op', hop', hbody⟩ | hnone
    · refine hi.bystander hg hop' ?_ (filed_body hbody ▸ hfiled)
      cases a with
      | operation i x => exact absurd ⟨i, x, rfl⟩ ha
      | _ => exact hop'
    · rw [hnone] at hfiled
      cases hfiled

end Tallied

-- What the log shows of a host right after a poll's sweep.
structure Reflects (d : Document) (aHost : HostRef) (qualified : Option (List QueryRow)) :
    Prop where
  only : ∀ r ∈ d.items, (d.entry r).eventHost = aHost → (d.entry r).processID ≠ deadProcess →
    (d.entry r).processID = replicationID ∨
      (qualified = none ∧ (d.entry r).processID = connectFailID) ∨
      ∃ rows, qualified = some rows ∧ ∃ row ∈ rows, (d.entry r).processID = printID row.id
  shown : ∀ rows, qualified = some rows → ∀ row, QueryRow.latest rows row.id = some row →
    0 ≤ row.id → ∃ r ∈ d.items, (d.entry r).eventHost = aHost ∧ Document.Displays (d.entry r) row ∧
      ∀ t ∈ d.items, (d.entry t).eventHost = aHost → (d.entry t).processID = printID row.id → t = r

section Reflects
variable {d : Document} {aHost : HostRef} {qualified : Option (List QueryRow)}

theorem swept_marked {r : EntryRef} (hr : r ∈ (d.discardMySQLDead aHost).items)
    (hhost : ((d.discardMySQLDead aHost).entry r).eventHost = aHost)
    (hlive : ((d.discardMySQLDead aHost).entry r).processID ≠ deadProcess) :
    ((d.discardMySQLDead aHost).entry r).updated = true := by
  rw [Document.discardMySQLDead_items, List.mem_filter] at hr
  obtain ⟨hm, hkeep⟩ := hr
  rw [Document.discardMySQLDead_entry, if_pos hm] at hhost hlive ⊢
  rw [(d.sweepEntry_evolves [aHost] (d.entry r)).1] at hhost
  by_contra hmark
  rw [(d.sweepEntry_evolves [aHost] (d.entry r)).2.2.1] at hmark
  have hs : Document.sweeps d.conf [aHost] (d.entry r) = true := by
    simp [Document.sweeps, hhost, hmark]
  rw [hs, Bool.true_and, Bool.not_not] at hkeep
  refine hlive ?_
  simp [Document.sweepEntry, hs, hkeep, Document.relabel]

theorem reflects_of_recorded {rows : List QueryRow} {ids : List String}
    (hfiled : (PollState.sweeping qualified).filed = some (rows, ids))
    (hi : (d.discardMySQLDead aHost).FiledAll aHost rows ids)
    (hkept : (d.discardMySQLDead aHost).WellKept) :
    Reflects (d.discardMySQLDead aHost) aHost qualified := by
  constructor
  · intro r hr hhost hlive
    have honly := hi.only r hr hhost (swept_marked hr hhost hlive)
    cases qualified with
    | none =>
      obtain ⟨rfl, rfl⟩ := Prod.mk.inj (Option.some.inj hfiled)
      simpa using honly
    | some q =>
      obtain ⟨rfl, rfl⟩ := Prod.mk.inj (Option.some.inj hfiled)
      simpa using honly
  · rintro q rfl row hlast hpos
    obtain ⟨rfl, rfl⟩ := Prod.mk.inj (Option.some.inj hfiled)
    obtain ⟨r, hr, hhost, _, hrow⟩ := hi.shown row hlast hpos
    refine ⟨r, hr, hhost, hrow, fun t ht hthost htpid => ?_⟩
    exact hkept.2.eq (fun _ _ => Eq.symm) ht hr (hthost.trans hhost.symm)
      (htpid.trans hrow.1.symm) (htpid ▸ printID_ne_dead row.id)

end Reflects

theorem poll_reconciles {conf : Configuration} {sliderValue trackQuery : Int} {acts : List Act}
    {w : World}
    (hrun : Transition.run step undisturbed (initial conf sliderValue trackQuery) acts = some w)
    {i : Nat} {op : Operation} {x : Input} {aHost : HostRef} {qualified : Option (List QueryRow)}
    (hop : w.ops[i]? = some op) (hbody : op.body = .poll aHost (.sweeping qualified))
    {w' : World} (hstep : w.step (.operation i x) = some w') :
    Reflects w'.doc aHost qualified := by
  have hi : w.Tallied := by
    refine Transition.run_invariant (I := Tallied) (fun _ _ _ hi hg hs => hi.step hg hs) ?_ hrun
    intro op hop
    exact absurd hop List.not_mem_nil
  have hdoc : w'.doc = w.doc.discardMySQLDead aHost := by
    rw [step_doc hstep, locked_operation x hop, Operation.advance, hbody]
    rfl
  have hkept : (w.doc.discardMySQLDead aHost).WellKept :=
    Document.exec_wellKept (.discardMySQLDead aHost) (run_wellKept hrun)
  rw [hdoc]
  obtain ⟨rows, ids, hfiled⟩ : ∃ rows ids,
      (PollState.sweeping qualified).filed = some (rows, ids) := by
    cases qualified with
    | none => exact ⟨_, _, rfl⟩
    | some q => exact ⟨_, _, rfl⟩
  have hold := hi op (List.mem_of_getElem? hop) aHost rows ids (Operation.filed_poll hbody hfiled)
  exact reflects_of_recorded hfiled
    (hold.exec_other (s := .discardMySQLDead aHost) (fun g hg => by cases hg)) hkept

theorem poll_reconciles_second :
    let c := Configuration.onePool { active := some 1 } [3] (by decide) (fun _ => 1) (fun _ => 1)
    let row : QueryRow := { id := 8, host := "web", info := some [97], time := 2 }
    let acts : List Act := [.reloadDataWatchers, .mainThread, .mainThread, .mainThread] ++
      List.replicate 10 (.operation 1 { results := some [row] }) ++ [.mainThread] ++
      List.replicate 7 (.operation 1 { results := some [{ row with id := 9 }], slaveStatus := some {} })
    ∃ w w', Transition.run step undisturbed (initial c 30 1) acts = some w ∧
      w.step (.operation 1 {}) = some w' ∧ w'.doc.items ≠ [] ∧
      Reflects w'.doc 3 (some [{ row with id := 9 }]) := by
  intro c row acts
  have hcheck : (Transition.run step undisturbed (initial c 30 1) acts).any (fun w =>
      decide (w.ops[1]? = some { body := .poll 3 (.sweeping (some [{ row with id := 9 }])) }) &&
        (w.step (.operation 1 {})).any (fun w' => decide (w'.doc.items ≠ []))) = true := by
    decide +kernel
  obtain ⟨w, hrun, hw⟩ := (Option.any_eq_true _ _).mp hcheck
  simp only [Bool.and_eq_true, decide_eq_true_eq, Option.any_eq_true] at hw
  obtain ⟨hop, w', hstep, hitems⟩ := hw
  exact ⟨w, w', hrun, hstep, hitems, poll_reconciles hrun hop rfl hstep⟩

end World

end DBMonitor
