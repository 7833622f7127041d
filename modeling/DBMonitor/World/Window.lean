import DBMonitor.Log.Selection
import DBMonitor.World.Moves

namespace DBMonitor

-- What can happen to the log and its selection; notified is a notification of the other table.
inductive Change where
  | nothing
  | locked (s : Section)
  | notified
  | reloaded (notifies : Bool)

namespace Document

-- The table lets go of a selected row that the list no longer has.
def reloadData (notifies : Bool) (d : Document) : Document :=
  if (d.items.length : Int) ≤ d.selectedRow then
    if notifies then d.selectRow (-1) else { d with selectedRow := -1 }
  else d

def apply (d : Document) : Change → Document
  | .nothing => d
  | .locked s => d.exec s
  | .notified => d.tableViewSelectionDidChange
  | .reloaded notifies => d.reloadData notifies

end Document

inductive TableAct where
  | world (a : Act)
  | tableViewSelectionDidChange
  | reloadData (notifies : Bool)

def TableAct.isClick : TableAct → Bool
  | .world (.select _) => true
  | _ => false

-- clicked is the entry that stood at the row of the user's last click.
structure Window where
  world : World
  clicked : Option EntryRef := none

namespace Window

abbrev doc (k : Window) : Document := k.world.doc

def initial (conf : Configuration) (sliderValue trackQuery : Int) : Window where
  world := World.initial conf sliderValue trackQuery

def change (k : Window) : TableAct → Change
  | .world a => (k.world.locked a).elim .nothing .locked
  | .tableViewSelectionDidChange => .notified
  | .reloadData notifies => if k.world.main = .idle then .reloaded notifies else .nothing

def clickedAfter (k : Window) : TableAct → Option EntryRef
  | .world (.select row) => k.doc.objectAtRow row
  | _ => k.clicked

def worldAfter (k : Window) : TableAct → Option World
  | .world a => k.world.step a
  | .tableViewSelectionDidChange =>
    some { k.world with doc := k.doc.tableViewSelectionDidChange }
  | .reloadData notifies =>
    if k.world.main = .idle then some { k.world with doc := k.doc.reloadData notifies } else none

def step (k : Window) (a : TableAct) : Option Window :=
  (k.worldAfter a).map (fun w => { world := w, clicked := k.clickedAfter a })

end Window

namespace Document

section Apply
variable {d : Document} {c : Change}

theorem reloadData_dataList (notifies : Bool) : (d.reloadData notifies).dataList = d.dataList := by
  unfold reloadData
  split
  · cases notifies with
    | true => exact d.selectRow_dataList (-1)
    | false => rfl
  · rfl

theorem apply_nodup (hn : d.items.Nodup) : (d.apply c).items.Nodup := by
  cases c with
  | locked s => exact exec_nodup s hn
  | reloaded notifies =>
    change (d.reloadData notifies).dataList.items.Nodup
    rw [reloadData_dataList]
    exact hn
  | _ => exact hn

theorem apply_next_le : d.dataList.next ≤ (d.apply c).dataList.next := by
  cases c with
  | locked s => exact exec_next_le
  | reloaded notifies => exact Nat.le_of_eq (by rw [apply, reloadData_dataList])
  | _ => exact Nat.le_refl _

theorem apply_mem {r : EntryRef} (hr : r < d.dataList.next) (h : r ∈ (d.apply c).items) :
    r ∈ d.items := by
  cases c with
  | locked s =>
    rcases exec_mem h with hm | ⟨_, _, _, _, rfl⟩
    · exact hm
    · exact absurd hr (Nat.lt_irrefl _)
  | reloaded notifies =>
    change r ∈ (d.reloadData notifies).dataList.items at h
    rwa [reloadData_dataList] at h
  | _ => exact h

theorem objectAtRow_current (row : Int) :
    d.objectAtRow row = none ∨ ∃ r ∈ d.items, d.objectAtRow row = some r := by
  cases h : d.objectAtRow row with
  | none => exact Or.inl rfl
  | some r => exact Or.inr ⟨r, (objectAtRow_mem h).1, rfl⟩

theorem apply_current (hn : d.items.Nodup) :
    (d.apply c).currentLogEntry = d.currentLogEntry ∨ (d.apply c).currentLogEntry = none ∨
      ∃ r ∈ d.items, (d.apply c).currentLogEntry = some r := by
  cases c with
  | nothing => exact Or.inl rfl
  | notified => exact Or.inr (objectAtRow_current d.selectedRow)
  | reloaded notifies =>
    rw [apply, reloadData]
    split
    · cases notifies with
      | false => exact Or.inl rfl
      | true =>
        rw [if_pos rfl, selectRow]
        split
        · exact Or.inl rfl
        · exact Or.inr (Or.inl rfl)
    · exact Or.inl rfl
  | locked s =>
    cases s with
    | refresh now order => exact (refresh_current hn now order).imp_right Or.inl
    | sortDescriptorsDidChange order =>
      rcases sort_selects hn order with hsame | ⟨r, hrow, hselected⟩
      · exact Or.inl hsame
      · exact Or.inr (Or.inr ⟨r, (objectAtRow_mem hrow).1, hselected⟩)
    | select row =>
      rw [apply, exec, selectRow]
      split
      · exact Or.inl rfl
      · exact Or.inr (objectAtRow_current row)
    | _ => exact Or.inl (exec_selection (by rfl)).2

-- The selection only ever remembers entries that were made, and the log lists each once.
def Tidy (d : Document) : Prop :=
  d.items.Nodup ∧ ∀ r, d.currentLogEntry = some r → r < d.dataList.next

theorem Tidy.apply (h : d.Tidy) : (d.apply c).Tidy := by
  refine ⟨apply_nodup h.1, fun r hr => ?_⟩
  refine (?_ : r < d.dataList.next).trans_le apply_next_le
  rcases apply_current h.1 with hsame | hnone | ⟨t, ht, hselected⟩
  · exact h.2 r (hsame.symm.trans hr)
  · exact absurd (hnone.symm.trans hr) (by simp)
  · rw [Option.some.inj (hr.symm.trans hselected)]
    exact d.dataList.allocated t ht

end Apply

end Document

namespace Window

section Step
variable {k k' : Window} {a : TableAct}

theorem step_doc (h : k.step a = some k') : k'.doc = k.doc.apply (k.change a) := by
  obtain ⟨w, hw, rfl⟩ := Option.map_eq_some_iff.mp h
  cases a with
  | world a =>
    refine (World.step_doc hw).trans ?_
    rw [change]
    cases k.world.locked a <;> rfl
  | tableViewSelectionDidChange =>
    obtain rfl := Option.some.inj hw
    rfl
  | reloadData notifies =>
    obtain ⟨hidle, heq⟩ := Option.ite_none_right_eq_some.mp hw
    obtain rfl := Option.some.inj heq
    rw [change, if_pos hidle]
    rfl

theorem step_tidy (h : k.step a = some k') (hi : k.doc.Tidy) : k'.doc.Tidy := by
  rw [step_doc h]
  exact hi.apply

theorem step_world (h : k.step a = some k') : k.worldAfter a = some k'.world := by
  obtain ⟨w, hw, rfl⟩ := Option.map_eq_some_iff.mp h
  exact hw

theorem change_locked {s : Section} (h : k.change a = .locked s) :
    ∃ b, a = .world b ∧ k.world.locked b = some s := by
  cases a with
  | world b =>
    rw [change] at h
    cases hs : k.world.locked b with
    | none => simp [hs] at h
    | some t =>
      rw [hs] at h
      exact ⟨b, rfl, hs.trans (congrArg some (Change.locked.inj h))⟩
  | tableViewSelectionDidChange => simp [change] at h
  | reloadData notifies =>
    rw [change] at h
    split at h <;> simp at h

theorem change_disabled (h : k.step a = none) : k.change a = .nothing := by
  have hworld : k.worldAfter a = none := Option.map_eq_none_iff.mp h
  cases a with
  | world b =>
    have hlocked : k.world.locked b = none := by
      rw [World.locked, Option.map_eq_none_iff.mp hworld]
      rfl
    rw [change, hlocked]
    rfl
  | tableViewSelectionDidChange => simp [worldAfter] at hworld
  | reloadData notifies =>
    refine if_neg (fun hidle => ?_)
    simp [worldAfter, hidle] at hworld

theorem change_issued {s : Section} (h : k.step a = some k') (hs : k.change a = .locked s)
    (hq : s.queued = false) : ∃ b, a = .world b ∧ b.issues = some s := by
  obtain ⟨b, rfl, hlocked⟩ := change_locked hs
  have hworld : k.world.step b = some k'.world := step_world h
  obtain ⟨v, hm, _⟩ := World.step_moves hworld
  rw [hlocked] at hm
  exact ⟨b, rfl, hm.issued.resolve_left (by simp [hq])⟩

theorem initial_tidy (conf : Configuration) (sliderValue trackQuery : Int) :
    (initial conf sliderValue trackQuery).doc.Tidy :=
  ⟨List.nodup_nil, fun _ hr => absurd hr (by simp [initial, World.initial, Document.initial])⟩

theorem run_tidy {acts : List TableAct} (hi : k.doc.Tidy)
    (hrun : Transition.run step Transition.anyStep k acts = some k') : k'.doc.Tidy :=
  Transition.run_invariant (I := fun k => k.doc.Tidy) (fun _ _ _ hi _ hs => step_tidy hs hi) hi hrun

end Step

end Window

end DBMonitor
