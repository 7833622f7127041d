import DBMonitor.Log.Steps
import DBMonitor.World.World

namespace DBMonitor

theorem PollState.advance_cases (c : Configuration) (aHost : HostRef) (isCancelled : Bool)
    (x : Input) (state : PollState) :
    (state.advance c aHost isCancelled x).enqueues = none ∧
      ((state = .posting ∧ (state.advance c aHost isCancelled x).body = none ∧
          (state.advance c aHost isCancelled x).posts = some (.reschedule aHost)) ∨
        (state ≠ .posting ∧ (state.advance c aHost isCancelled x).posts = none ∧
          ((isCancelled = true ∧ (state.advance c aHost isCancelled x).body = none) ∨
            ∃ next, (state.advance c aHost isCancelled x).body = some (.poll aHost next) ∧
              (next = .posting → isCancelled = false)))) := by
  cases state with
  | queued => cases isCancelled <;> simp [advance]
  | connecting => cases hc : x.connects <;> simp [advance, hc]
  | fetching => cases hr : x.results <;> simp [advance, hr]
  | filing qualified rest =>
    cases rest with
    | nil => simp [advance]
    | cons row rest => cases hq : Document.qualifies c aHost row <;> simp [advance, hq]
  | checking => cases isCancelled <;> simp [advance]
  | _ => simp [advance]

theorem RefreshState.advance_cases (isCancelled : Bool) (x : Input) (state : RefreshState) :
    (state.advance isCancelled x).posts = none ∧
      ((state = .enqueue ∧ (state.advance isCancelled x).body = none ∧
          (state.advance isCancelled x).enqueues = some generateRefreshOperation) ∨
        (state ≠ .enqueue ∧ (state.advance isCancelled x).enqueues = none ∧
          ((state = .queued ∧ isCancelled = true ∧ (state.advance isCancelled x).body = none) ∨
            ∃ next, (state.advance isCancelled x).body = some (.refresh next) ∧
              next ≠ .queued ∧ (state = .queued → isCancelled = false)))) := by
  cases state with
  | queued => cases isCancelled <;> simp [advance]
  | _ => simp [advance]

theorem PollState.advance_locked {c : Configuration} {aHost : HostRef} {isCancelled : Bool}
    {x : Input} {state : PollState} {s : Section}
    (h : (state.advance c aHost isCancelled x).locked = some s) :
    s = .clearUpdates aHost ∨ (∃ row, s = .updateRow x.now aHost row) ∨
      (∃ status, s = .updateMySQLSlaveStatus x.now aHost status) ∨
      s = .updateMySQLFail x.now aHost ∨
      ∃ qualified, state = .sweeping qualified ∧ s = .discardMySQLDead aHost := by
  cases state with
  | clearing => exact Or.inl (Option.some.inj h).symm
  | fetching => cases hr : x.results <;> simp [advance, hr] at h
  | filing qualified rest =>
    cases rest with
    | nil => simp [advance] at h
    | cons row rest =>
      cases hq : Document.qualifies c aHost row with
      | false => simp [advance, hq] at h
      | true => exact Or.inr (Or.inl ⟨row, by simpa [advance, hq] using h.symm⟩)
  | replicating qualified =>
    cases hs : c.isSlave aHost with
    | false => simp [advance, hs] at h
    | true =>
      simp only [advance, hs, if_true, Option.map_eq_some_iff] at h
      obtain ⟨status, _, rfl⟩ := h
      exact Or.inr (Or.inr (Or.inl ⟨status, rfl⟩))
  | failing => exact Or.inr (Or.inr (Or.inr (Or.inl (Option.some.inj h).symm)))
  | sweeping qualified =>
    exact Or.inr (Or.inr (Or.inr (Or.inr ⟨qualified, rfl, (Option.some.inj h).symm⟩)))
  | _ => simp [advance] at h

theorem RefreshState.advance_locked {isCancelled : Bool} {x : Input} {state : RefreshState}
    {s : Section} (h : (state.advance isCancelled x).locked = some s) :
    s = .refresh x.now x.order := by
  cases state with
  | log => exact (Option.some.inj h).symm
  | _ => simp [advance] at h

-- The sections that operations and reloads run; the others belong to the user.
def Section.queued : Section → Bool
  | .clearUpdates _ => true
  | .updateRow _ _ _ => true
  | .updateMySQLSlaveStatus _ _ _ => true
  | .updateMySQLFail _ _ => true
  | .discardMySQLDead _ => true
  | .refresh _ _ => true
  | _ => false

theorem Operation.advance_queued {c : Configuration} {x : Input} {op : Operation} {s : Section}
    (h : (op.advance c x).locked = some s) : s.queued = true := by
  obtain ⟨body, isCancelled⟩ := op
  cases body with
  | refresh state =>
    rw [RefreshState.advance_locked h]
    rfl
  | poll g state =>
    rcases PollState.advance_locked h with rfl | ⟨_, rfl⟩ | ⟨_, rfl⟩ | rfl | ⟨_, _, rfl⟩ <;> rfl

def Act.issues : Act → Option Section
  | .edit conf => some (.edit conf)
  | .select row => some (.select row)
  | .sort order => some (.sortDescriptorsDidChange order)
  | .detectChangedSlider value => some (.detectChangedSlider value)
  | .trackQuery value => some (.trackQuery value)
  | .killProcess => some .killProcess
  | _ => none

namespace World

def advanced (w : World) (l r : List Operation) (op : Operation) (a : Advance) : World :=
  { w with
    ops := l ++ (a.body.map (fun b => { op with body := b })).toList ++ r ++ a.enqueues.toList
    mainQueue := w.mainQueue ++ a.posts.toList }

inductive Quiet (w : World) : Act → Option Section → World → Prop where
  | select (row : Int) : Quiet w (.select row) (some (.select row)) w
  | sort (order : List EntryRef) :
    Quiet w (.sort order) (some (.sortDescriptorsDidChange order)) w
  | detectChangedSlider (value : Int) :
    Quiet w (.detectChangedSlider value) (some (.detectChangedSlider value)) w
  | trackQuery (value : Int) : Quiet w (.trackQuery value) (some (.trackQuery value)) w
  | killProcess : Quiet w .killProcess (some .killProcess)
      { w with mainQueue := w.mainQueue ++ w.doc.killTarget.toList.map .killDialog }
  | killEnded {i : Nat} {dialog : Dialog} (accept connected : Bool) (junk : HostRef × String)
      (hd : w.dialogs[i]? = some dialog) :
    Quiet w (.killEnded i accept connected junk) none
      { w with
        dialogs := w.dialogs.eraseIdx i
        sent := if accept && connected then w.sent ++ [w.killed junk dialog] else w.sent }

inductive Moves (w : World) : Act → Option Section → World → Prop where
  | operation {l r : List Operation} {op : Operation} (x : Input) (hops : w.ops = l ++ op :: r) :
    Moves w (.operation l.length x) (op.advance w.doc.conf x).locked
      (w.advanced l r op (op.advance w.doc.conf x))
  | block {b : Block} {rest : List Block} (hmain : w.main = .idle)
      (hqueue : w.mainQueue = b :: rest) : Moves w .mainThread none (w.runBlock b rest)
  | opened (hmain : w.main = .opening) :
    Moves w .mainThread none
      { w with ops := cancelAllOperations w.ops, sheetOpen := true, main := .idle }
  | reloaded (hmain : w.main = .reloading []) : Moves w .mainThread none { w with main := .idle }
  | reload {item : ReloadItem} {todo : List ReloadItem} (hmain : w.main = .reloading (item :: todo)) :
    Moves w .mainThread (w.runReload item todo).1 (w.runReload item todo).2
  | alert {e : EntryRef} {host : HostRef} {processID : String}
      (hmain : w.main = .alerting e host processID) :
    Moves w .mainThread none (w.beginSheet e host processID)
  | openConfigSheet (hmain : w.main = .idle) :
    Moves w .openConfigSheet none { w with ops := cancelAllOperations w.ops, main := .opening }
  | endConfigSheet (hmain : w.main = .idle) (hsheet : w.sheetOpen = true) :
    Moves w .endConfigSheet none w.beginReload
  | reloadDataWatchers (hmain : w.main = .idle) (hsheet : w.sheetOpen = false) :
    Moves w .reloadDataWatchers none w.beginReload
  | edit {conf : Configuration} (hmain : w.main = .idle) (hsheet : w.sheetOpen = true) :
    Moves w (.edit conf) (some (.edit conf)) w
  | quiet {a : Act} {s : Option Section} {v : World} (hmain : w.main = .idle)
      (hq : Quiet w a s v) : Moves w a s v

-- What a step of a reload leaves as it was.
structure Reloads (w v : World) : Prop where
  doc : v.doc = w.doc
  mainQueue : v.mainQueue = w.mainQueue
  sheetOpen : v.sheetOpen = w.sheetOpen
  dialogs : v.dialogs = w.dialogs
  sent : v.sent = w.sent
  main : ∃ todo, v.main = .reloading todo

section Moves
variable {w v : World} {a : Act} {s : Option Section} {s' : Section}

theorem runOperation_moves {i : Nat} {x : Input} (h : w.runOperation i x = some (s, v)) :
    Moves w (.operation i x) s v := by
  obtain ⟨op, hop, heq⟩ := Option.map_eq_some_iff.mp h
  obtain ⟨hi, hget⟩ := List.getElem?_eq_some_iff.mp hop
  obtain ⟨rfl, rfl⟩ := Prod.mk.inj heq
  have hsplit : w.ops = w.ops.take i ++ op :: w.ops.drop (i + 1) := by
    rw [← hget, List.getElem_cons_drop, List.take_append_drop]
  have hlen : (w.ops.take i).length = i := by
    rw [List.length_take]
    omega
  have hm := Moves.operation (w := w) x hsplit
  rw [hlen] at hm
  exact hm

theorem runMain_moves (h : w.runMain = some (s, v)) : Moves w .mainThread s v := by
  unfold runMain at h
  split at h
  next hmain =>
    split at h
    · simp at h
    next hqueue =>
      obtain ⟨rfl, rfl⟩ := Prod.mk.inj (Option.some.inj h)
      exact .block hmain hqueue
  next hmain =>
    obtain ⟨rfl, rfl⟩ := Prod.mk.inj (Option.some.inj h)
    exact .opened hmain
  next hmain =>
    obtain ⟨rfl, rfl⟩ := Prod.mk.inj (Option.some.inj h)
    exact .reloaded hmain
  next hmain =>
    obtain ⟨rfl, rfl⟩ := Prod.mk.inj (Option.some.inj h)
    exact .reload hmain
  next hmain =>
    obtain ⟨rfl, rfl⟩ := Prod.mk.inj (Option.some.inj h)
    exact .alert hmain

theorem event_moves (hmain : w.main = .idle) (h : w.event a = some (s, v)) : Moves w a s v := by
  cases a with
  | operation i x => simp [event] at h
  | mainThread => simp [event] at h
  | openConfigSheet =>
    obtain ⟨rfl, rfl⟩ := Prod.mk.inj (Option.some.inj h)
    exact .openConfigSheet hmain
  | endConfigSheet =>
    obtain ⟨hsheet, heq⟩ := Option.ite_none_right_eq_some.mp h
    obtain ⟨rfl, rfl⟩ := Prod.mk.inj (Option.some.inj heq)
    exact .endConfigSheet hmain hsheet
  | reloadDataWatchers =>
    obtain ⟨hsheet, heq⟩ := Option.ite_none_left_eq_some.mp h
    obtain ⟨rfl, rfl⟩ := Prod.mk.inj (Option.some.inj heq)
    exact .reloadDataWatchers hmain (by simpa using hsheet)
  | edit conf =>
    obtain ⟨hsheet, heq⟩ := Option.ite_none_right_eq_some.mp h
    obtain ⟨rfl, rfl⟩ := Prod.mk.inj (Option.some.inj heq)
    exact .edit hmain hsheet
  | select row =>
    obtain ⟨rfl, rfl⟩ := Prod.mk.inj (Option.some.inj h)
    exact .quiet hmain (.select row)
  | sort order =>
    obtain ⟨rfl, rfl⟩ := Prod.mk.inj (Option.some.inj h)
    exact .quiet hmain (.sort order)
  | detectChangedSlider value =>
    obtain ⟨rfl, rfl⟩ := Prod.mk.inj (Option.some.inj h)
    exact .quiet hmain (.detectChangedSlider value)
  | trackQuery value =>
    obtain ⟨rfl, rfl⟩ := Prod.mk.inj (Option.some.inj h)
    exact .quiet hmain (.trackQuery value)
  | killProcess =>
    obtain ⟨rfl, rfl⟩ := Prod.mk.inj (Option.some.inj h)
    exact .quiet hmain .killProcess
  | killEnded i accept connected junk =>
    obtain ⟨u, hu, heq⟩ := Option.map_eq_some_iff.mp h
    obtain ⟨dialog, hd, rfl⟩ := Option.map_eq_some_iff.mp hu
    obtain ⟨rfl, rfl⟩ := Prod.mk.inj heq
    exact .quiet hmain (.killEnded accept connected junk hd)

theorem control_moves (h : w.control a = some (s, v)) : Moves w a s v := by
  cases a with
  | operation i x => exact runOperation_moves h
  | mainThread => exact runMain_moves h
  | _ =>
    obtain ⟨hmain, heq⟩ := Option.ite_none_right_eq_some.mp h
    exact event_moves hmain heq

theorem step_moves {w' : World} (h : w.step a = some w') :
    ∃ v, Moves w a (w.locked a) v ∧ w' = v.execute (w.locked a) := by
  obtain ⟨⟨s, v⟩, hc, rfl⟩ := Option.map_eq_some_iff.mp h
  have hs : w.locked a = s := by simp [locked, hc]
  rw [hs]
  exact ⟨v, control_moves hc, rfl⟩

theorem runReload_reloads (item : ReloadItem) (todo : List ReloadItem) :
    Reloads w (w.runReload item todo).2 := by
  cases item with
  | visit g =>
    simp only [runReload]
    split
    · exact ⟨rfl, rfl, rfl, rfl, rfl, todo, rfl⟩
    · exact ⟨rfl, rfl, rfl, rfl, rfl, .sweep g :: todo, rfl⟩
  | _ => exact ⟨rfl, rfl, rfl, rfl, rfl, todo, rfl⟩

theorem Moves.doc (h : Moves w a s v) : v.doc = w.doc := by
  cases h with
  | block hmain hqueue => unfold runBlock; split <;> rfl
  | reload hmain => exact (runReload_reloads _ _).doc
  | quiet hmain hq => cases hq <;> rfl
  | _ => rfl

theorem step_doc {w' : World} (h : w.step a = some w') :
    w'.doc = (w.locked a).elim w.doc w.doc.exec := by
  obtain ⟨v, hm, rfl⟩ := step_moves h
  simp only [execute, hm.doc]

theorem runReload_queued {item : ReloadItem} {todo : List ReloadItem}
    (h : (w.runReload item todo).1 = some s') : s'.queued = true := by
  cases item with
  | seedRefresh => simp [runReload] at h
  | sweep g =>
    obtain rfl := Option.some.inj h
    rfl
  | visit g =>
    simp only [runReload] at h
    split at h
    · simp at h
    · obtain rfl := Option.some.inj h
      rfl

theorem Moves.issued (h : Moves w a (some s') v) : s'.queued = true ∨ a.issues = some s' := by
  generalize hs : some s' = s at h
  cases h with
  | operation x hops => exact Or.inl (Operation.advance_queued hs.symm)
  | reload hmain => exact Or.inl (runReload_queued hs.symm)
  | edit hmain hsheet =>
    obtain rfl := Option.some.inj hs
    exact Or.inr rfl
  | quiet hmain hq =>
    cases hq with
    | killEnded accept connected junk hd => simp at hs
    | _ =>
      obtain rfl := Option.some.inj hs
      exact Or.inr rfl
  | _ => simp at hs

theorem Quiet.main (h : Quiet w a s v) : v.main = w.main := by
  cases h <;> rfl

-- A step that runs a section opens and closes no dialog, and starts nothing on the main thread.
theorem Moves.locked_frame (h : Moves w a (some s') v) :
    v.dialogs = w.dialogs ∧ (v.main = w.main ∨
      (∃ todo, w.main = .reloading todo) ∧ ∃ todo, v.main = .reloading todo) := by
  generalize hs : some s' = s at h
  cases h with
  | operation x hops => exact ⟨rfl, Or.inl rfl⟩
  | @reload item todo hmain =>
    have hreload := w.runReload_reloads item todo
    exact ⟨hreload.dialogs, Or.inr ⟨⟨item :: todo, hmain⟩, hreload.main⟩⟩
  | edit hmain hsheet => exact ⟨rfl, Or.inl rfl⟩
  | quiet hmain hq =>
    cases hq with
    | killEnded accept connected junk hd => simp at hs
    | _ => exact ⟨rfl, Or.inl rfl⟩
  | _ => simp at hs

theorem Moves.no_edit (h : Moves w a s v) (ha : ∀ conf, a ≠ .edit conf) (conf : Configuration) :
    s ≠ some (.edit conf) := by
  rintro rfl
  rcases h.issued with hq | hi
  · simp [Section.queued] at hq
  · cases a <;> simp [Act.issues] at hi
    exact ha _ rfl

theorem Moves.edit_sheet {conf : Configuration} (h : Moves w (.edit conf) s v) :
    v.sheetOpen = true := by
  cases h with
  | edit hmain hsheet => exact hsheet
  | quiet hmain hq => cases hq

theorem step_conf {w' : World} (h : w.step a = some w') (ha : ∀ conf, a ≠ .edit conf) :
    w'.doc.conf = w.doc.conf := by
  obtain ⟨v, hm, rfl⟩ := step_moves h
  simp only [execute, hm.doc]
  cases hs : w.locked a with
  | none => rfl
  | some s =>
    refine Document.exec_conf (fun conf heq => hm.no_edit ha conf ?_)
    rw [hs, heq]

theorem cancelAll_bodies {ops : List Operation} {op : Operation}
    (h : op ∈ cancelAllOperations ops) : ∃ op' ∈ ops, op.body = op'.body := by
  obtain ⟨op', hm, rfl⟩ := List.mem_map.mp h
  exact ⟨op', hm, rfl⟩

theorem Moves.ops (h : Moves w a s v) : ∀ op ∈ v.ops,
    (∃ op' ∈ w.ops, op.body = op'.body) ∨
      (∃ op' ∈ w.ops, ∃ x b, (op'.advance w.doc.conf x).body = some b ∧
        op = { op' with body := b } ∧ s = (op'.advance w.doc.conf x).locked) ∨
      (∃ g, op = generateMySQLOperation g) ∨ op = generateRefreshOperation := by
  intro op hop
  cases h with
  | @operation l r op₀ x hops =>
    have hm₀ : op₀ ∈ w.ops := by rw [hops]; simp
    simp only [advanced, List.append_assoc, List.mem_append] at hop
    rcases hop with hm | hm | hm | hm
    · exact Or.inl ⟨op, by rw [hops]; simp [hm], rfl⟩
    · obtain ⟨b, hb, rfl⟩ := Option.map_eq_some_iff.mp (Option.mem_toList.mp hm)
      exact Or.inr (Or.inl ⟨op₀, hm₀, x, b, hb, rfl, rfl⟩)
    · exact Or.inl ⟨op, by rw [hops]; simp [hm], rfl⟩
    · obtain ⟨body, isCancelled⟩ := op₀
      cases body with
      | refresh state =>
        cases state <;> simp [Operation.advance, RefreshState.advance] at hm
        exact Or.inr (Or.inr (Or.inr hm))
      | poll g state =>
        have henq := (PollState.advance_cases w.doc.conf g isCancelled x state).1
        simp [Operation.advance, henq] at hm
  | @block b rest hmain hqueue =>
    cases b with
    | reschedule g =>
      rcases List.mem_append.mp hop with hm | hm
      · exact Or.inl ⟨op, hm, rfl⟩
      · exact Or.inr (Or.inr (Or.inl ⟨g, List.mem_singleton.mp hm⟩))
    | killDialog e => exact Or.inl ⟨op, hop, rfl⟩
  | opened hmain => exact Or.inl (cancelAll_bodies hop)
  | @reload item todo hmain =>
    cases item with
    | seedRefresh =>
      rcases List.mem_append.mp hop with hm | hm
      · exact Or.inl ⟨op, hm, rfl⟩
      · exact Or.inr (Or.inr (Or.inr (List.mem_singleton.mp hm)))
    | sweep g => exact Or.inl ⟨op, hop, rfl⟩
    | visit g =>
      simp only [runReload] at hop
      split at hop
      · rcases List.mem_append.mp hop with hm | hm
        · exact Or.inl ⟨op, hm, rfl⟩
        · exact Or.inr (Or.inr (Or.inl ⟨g, List.mem_singleton.mp hm⟩))
      · exact Or.inl ⟨op, hop, rfl⟩
  | openConfigSheet hmain => exact Or.inl (cancelAll_bodies hop)
  | endConfigSheet hmain hsheet => exact Or.inl (cancelAll_bodies hop)
  | reloadDataWatchers hmain hsheet => exact Or.inl (cancelAll_bodies hop)
  | quiet hmain hq => cases hq <;> exact Or.inl ⟨op, hop, rfl⟩
  | _ => exact Or.inl ⟨op, hop, rfl⟩

end Moves

end World

end DBMonitor
