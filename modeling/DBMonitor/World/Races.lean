import DBMonitor.Model.Locking

namespace DBMonitor.Locking
open Locks

def rank : Lock → Fin 4
  | .checkQueue => 0
  | .detailList => 1
  | .dataList => 2
  | .connection _ => 3

section Deadlock

theorem program_ordered (t : Task) : (program t).ordered rank [] = true := by
  cases t <;> rfl

theorem reachable_ordered {ts : List (Thread Task Lock Access)}
    (h : Reachable program (onMain · = true) ts) :
    ∀ t ∈ ts, Stacked (Code.ordered rank) t.stack :=
  fun t ht => stacked_reachable (ordered_inward rank) h t ht (program_ordered t.name)

theorem no_deadlock {ts : List (Thread Task Lock Access)}
    (h : Reachable program (onMain · = true) ts) :
    ∃ us, Relation.ReflTransGen Turn ts us ∧ Finished us :=
  drains (exclusive_reachable h) (reachable_ordered h)

-- The refresh may take the log's lock while the answered dialog waits for it.
theorem no_deadlock_kill : ∃ us : List (Thread Task Lock Access),
    Relation.ReflTransGen Turn
      [⟨.refreshOperation, [.run refreshOperation]⟩, ⟨.killEnded 0, [.run (killEnded 0)]⟩] us ∧
      Finished us :=
  no_deadlock (.tail
    (.single (Step.spawn Task.refreshOperation (fun h => absurd h (by decide))))
    (Step.spawn (Task.killEnded 0) (fun _ t ht hm => by
      obtain rfl := List.mem_singleton.mp ht
      exact absurd hm (by decide))))

end Deadlock

section Races

def Access.object : Access → Shared
  | .reads x => x
  | .writes x => x

def Conflict (a b : Access) : Prop :=
  a.object = b.object ∧ (a = .writes a.object ∨ b = .writes b.object)

def guard : Shared → Lock
  | .checkQueue => .checkQueue
  | .detailList | .statusSortDescriptors | .detailEntry => .detailList
  | .dataList | .currentLogEntry | .logSortDescriptors | .sliderValue | .logEntry => .dataList

def unlocked : Task → Access → Bool
  | .mySQLOperation _, .reads .detailEntry => true
  | .logSlaveBlock, .reads .logEntry => true
  | .hostSlaveBlock, .reads .detailEntry => true
  | .windowControllerDidLoadNib, .writes .checkQueue => true
  | .windowControllerDidLoadNib, .reads .sliderValue => true
  | .windowControllerDidLoadNib, .writes .sliderValue => true
  | .detectChangedSlider, .reads .sliderValue => true
  | .detectChangedSlider, .writes .sliderValue => true
  | .openConfigSheet, .writes .checkQueue => true
  | .endConfigSheet, .writes .checkQueue => true
  | .killDialogBlock, .reads .logEntry => true
  | .killDialogBlock, .reads .dataList => true
  | _, _ => false

theorem program_bare (t : Task) (a : Access) : (program t).bare a = unlocked t a := by
  cases t <;> cases a with
  | reads x => cases x <;> rfl
  | writes x => cases x <;> rfl

theorem program_guarded (t : Task) (a : Access) :
    (program t).guarded a (guard a.object) [] = !(program t).bare a := by
  cases t <;> cases a with
  | reads x => cases x <;> rfl
  | writes x => cases x <;> rfl

theorem data_races {a b : Access} (hconflict : Conflict a b) (p q : Task) :
    (∃ ts, Reachable program (onMain · = true) ts ∧ Race ts p q a b) ↔
      (program p).mentions a = true ∧ (program q).mentions b = true ∧
        ¬(onMain p = true ∧ onMain q = true) ∧ (unlocked p a = true ∨ unlocked q b = true) := by
  have hq := program_guarded q b
  rw [← hconflict.1] at hq
  rw [race_iff (guard a.object) (program_guarded p a) hq, program_bare, program_bare]

theorem data_races_dialog : ∃ ts, Reachable program (onMain · = true) ts ∧
    Race ts (.mySQLOperation 0) .killDialogBlock (.writes .dataList) (.reads .dataList) :=
  (data_races (a := .writes .dataList) (b := .reads .dataList) ⟨rfl, Or.inl rfl⟩ _ _).mpr
    ⟨rfl, rfl, by decide, Or.inr rfl⟩

end Races

end DBMonitor.Locking
