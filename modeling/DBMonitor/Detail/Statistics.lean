import DBMonitor.Detail.Rows
import DBMonitor.Library.Transition

namespace DBMonitor

-- Where a call of updateMySQLStatistics:host: stands between its two critical sections.
inductive StatisticsState where
  | lookup (aHost : HostRef)
  | test (aHost : HostRef) (myEntry : Option Nat)
  | fetch (aHost : HostRef) (myEntry : Option Nat)
  | reset (aHost : HostRef) (myEntry : Option Nat) (serverStatus : MysqlStatus)
  | decrement (myEntry : Option Nat)
  deriving DecidableEq, Repr

structure Statistics where
  conf : Configuration
  detailList : DetailList
  calls : List StatisticsState

inductive StatisticsAct where
  | begin (aHost : HostRef)
  | advance (i : Nat) (now : Time) (serverStatus : Option MysqlStatus)
  | updateMySQLQueries (aHost : HostRef) (results : Option (List QueryRow))
  | updateMySQLSlaveStatus (aHost : HostRef) (slaveStatus : Option MysqlSlaveStatus)
  | sort (order : List Nat)
  | reloadDataWatchers
  | edit (conf : Configuration)

namespace StatisticsState

def advance (c : Configuration) (detailList : DetailList) (now : Time)
    (serverStatus : Option MysqlStatus) :
    StatisticsState → Option StatisticsState × DetailList
  | .lookup aHost => (some (.test aHost (detailList.myEntry c aHost)), detailList)
  | .test aHost myEntry =>
    (some (if detailList.isDue myEntry then .fetch aHost myEntry else .decrement myEntry),
      detailList)
  | .fetch aHost myEntry => (serverStatus.map (.reset aHost myEntry), detailList)
  | .reset _ myEntry status =>
    (none, detailList.write myEntry (DBMDetailEntry.recordStatus now status))
  | .decrement myEntry => (none, detailList.write myEntry DBMDetailEntry.countDown)

end StatisticsState

namespace Statistics

def initial (conf : Configuration) : Statistics := ⟨conf, DetailList.empty, []⟩

def step (s : Statistics) : StatisticsAct → Option Statistics
  | .begin aHost => some { s with calls := s.calls ++ [.lookup aHost] }
  | .advance i now serverStatus => s.calls[i]?.map fun call =>
    { s with
      calls := s.calls.take i ++
        (call.advance s.conf s.detailList now serverStatus).1.toList ++ s.calls.drop (i + 1)
      detailList := (call.advance s.conf s.detailList now serverStatus).2 }
  | .updateMySQLQueries aHost results =>
    some { s with detailList := s.detailList.updateMySQLQueries s.conf aHost results }
  | .updateMySQLSlaveStatus aHost slaveStatus =>
    some { s with detailList := s.detailList.updateMySQLSlaveStatus s.conf aHost slaveStatus }
  | .sort order => some { s with detailList := s.detailList.reorder order }
  | .reloadDataWatchers => some { s with detailList := s.detailList.reloadDataWatchers s.conf }
  | .edit conf => some { s with conf := conf }

end Statistics

def DBMDetailEntry.sample (e : DBMDetailEntry) : DBMDetailEntry :=
  { e with host := 0, activeQueries := 0, slaveStatus := none }

structure DetailList.Grows (d d' : DetailList) : Prop where
  next : d.next ≤ d'.next
  kept : ∀ r < d.next, (d'.heap r).sample = (d.heap r).sample
  fresh : ∀ r, d.next ≤ r →
    (d'.heap r).sample = (d.heap r).sample ∨ (d'.heap r).sample = { host := 0 }

namespace DetailList
variable {d d' d'' : DetailList}

theorem Grows.of_sample (hn : d.next ≤ d'.next)
    (h : ∀ r, (d'.heap r).sample = (d.heap r).sample) : Grows d d' :=
  ⟨hn, fun r _ => h r, fun r _ => Or.inl (h r)⟩

theorem Grows.trans (h : Grows d d') (h' : Grows d' d'') : Grows d d'' := by
  refine ⟨h.next.trans h'.next, fun r hr => ?_, fun r hr => ?_⟩
  · exact (h'.kept r (hr.trans_le h.next)).trans (h.kept r hr)
  · rcases lt_or_ge r d'.next with hlt | hge
    · rw [h'.kept r hlt]
      exact h.fresh r hr
    · rcases h'.fresh r hge with hsame | hnew
      · rw [hsame]
        exact h.fresh r hr
      · exact Or.inr hnew

theorem addObject_grows (d : DetailList) (aHost : HostRef) :
    Grows d (d.addObject { host := aHost }) := by
  refine ⟨Nat.le_succ _, fun r hr => ?_, fun r hr => ?_⟩
  · simp [ObjectArray.addObject, Function.update_of_ne (Nat.ne_of_lt hr)]
  · by_cases h : r = d.next
    · subst h
      exact Or.inr (by simp [ObjectArray.addObject, DBMDetailEntry.sample])
    · exact Or.inl (by simp [ObjectArray.addObject, Function.update_of_ne h])

theorem reloadDataWatchers_grows (c : Configuration) (d : DetailList) :
    Grows d (d.reloadDataWatchers c) := by
  have hcleared : Grows d d.removeAllObjects := Grows.of_sample le_rfl (fun _ => rfl)
  unfold reloadDataWatchers
  refine Transition.foldl_invariant (I := Grows d) hcleared (fun d' hd' aHost _ => ?_)
  exact hd'.trans (addObject_grows d' aHost)

theorem updateMySQLQueries_grows (c : Configuration) (aHost : HostRef)
    (results : Option (List QueryRow)) (d : DetailList) :
    Grows d (d.updateMySQLQueries c aHost results) := by
  cases results with
  | none => exact Grows.of_sample le_rfl (fun _ => rfl)
  | some rows =>
    refine Grows.of_sample (by simp [updateMySQLQueries]) (ObjectArray.mapObjects_keeps ?_ d)
    intro e
    split <;> rfl

theorem updateMySQLSlaveStatus_grows (c : Configuration) (aHost : HostRef)
    (slaveStatus : Option MysqlSlaveStatus) (d : DetailList) :
    Grows d (d.updateMySQLSlaveStatus c aHost slaveStatus) := by
  cases slaveStatus with
  | none => exact Grows.of_sample le_rfl (fun _ => rfl)
  | some status =>
    refine Grows.of_sample (by simp [updateMySQLSlaveStatus]) (ObjectArray.mapObjects_keeps ?_ d)
    intro e
    split <;> rfl

end DetailList

namespace StatisticsState

def myEntry : StatisticsState → Option Nat
  | .lookup _ => none
  | .test _ myEntry => myEntry
  | .fetch _ myEntry => myEntry
  | .reset _ myEntry _ => myEntry
  | .decrement myEntry => myEntry

theorem advance_cases (c : Configuration) (d : DetailList) (now : Time)
    (serverStatus : Option MysqlStatus) (call : StatisticsState) :
    (∃ aHost r status, call = .reset aHost (some r) status ∧ call.advance c d now serverStatus =
      (none, d.modify r (DBMDetailEntry.recordStatus now status))) ∨
    (∃ r, call = .decrement (some r) ∧ call.advance c d now serverStatus =
      (none, d.modify r DBMDetailEntry.countDown)) ∨
    (∃ aHost r, call = .test aHost (some r) ∧ (d.heap r).isDue = false ∧
      call.advance c d now serverStatus = (some (.decrement (some r)), d)) ∨
    ((call.advance c d now serverStatus).2 = d ∧ (∀ aHost r status, call ≠ .reset aHost (some r) status) ∧
      ∀ next, (call.advance c d now serverStatus).1 = some next →
        ∀ r, next ≠ .decrement (some r)) := by
  cases call with
  | lookup aHost => simp [advance]
  | test aHost myEntry =>
    cases myEntry with
    | none => simp [advance, DetailList.isDue]
    | some r => cases h : (d.heap r).isDue <;> simp [advance, DetailList.isDue, h]
  | fetch aHost myEntry => cases serverStatus <;> simp [advance]
  | reset aHost myEntry status => cases myEntry <;> simp [advance, DetailList.write]
  | decrement myEntry => cases myEntry <;> simp [advance, DetailList.write]

theorem advance_myEntry {c : Configuration} {d : DetailList} {now : Time}
    {serverStatus : Option MysqlStatus} {call next : StatisticsState} {r : Nat}
    (hcall : ∀ t, call.myEntry = some t → t < d.next)
    (h : (call.advance c d now serverStatus).1 = some next) (hr : next.myEntry = some r) :
    r < d.next := by
  cases call with
  | lookup aHost =>
    obtain rfl := Option.some.inj h
    have hmatch : d.lastMatch (fun e => c.equalHostname e.host aHost) = some r := hr
    exact d.allocated r (ObjectArray.lastMatch_mem hmatch).1
  | test aHost myEntry =>
    obtain rfl := Option.some.inj h
    refine hcall r ?_
    revert hr
    split <;> exact id
  | fetch aHost myEntry =>
    obtain ⟨status, _, rfl⟩ := Option.map_eq_some_iff.mp h
    exact hcall r hr
  | reset aHost myEntry status => simp [advance] at h
  | decrement myEntry => simp [advance] at h

end StatisticsState

namespace Statistics
variable {s t : Statistics} {a : StatisticsAct}

inductive Moves (s : Statistics) : StatisticsAct → Statistics → Prop
  | begin (aHost) : Moves s (.begin aHost) { s with calls := s.calls ++ [.lookup aHost] }
  | advance {i pre call post} (now serverStatus) (hcalls : s.calls = pre ++ call :: post)
      (hi : s.calls[i]? = some call) :
      Moves s (.advance i now serverStatus)
        ⟨s.conf, (call.advance s.conf s.detailList now serverStatus).2,
          pre ++ (call.advance s.conf s.detailList now serverStatus).1.toList ++ post⟩
  | grows {a d} (conf) (ha : ∀ i now serverStatus, a ≠ .advance i now serverStatus)
      (hd : s.detailList.Grows d) : Moves s a ⟨conf, d, s.calls⟩

theorem step_moves (h : step s a = some t) : Moves s a t := by
  cases a with
  | begin aHost =>
    obtain rfl := Option.some.inj h
    exact .begin aHost
  | advance i now serverStatus =>
    obtain ⟨call, hi, rfl⟩ := Option.map_eq_some_iff.mp h
    have hsplit : s.calls = s.calls.take i ++ call :: s.calls.drop (i + 1) := by
      obtain ⟨hlt, hget⟩ := List.getElem?_eq_some_iff.mp hi
      rw [← hget, List.getElem_cons_drop, List.take_append_drop]
    exact .advance now serverStatus hsplit hi
  | updateMySQLQueries aHost results =>
    obtain rfl := Option.some.inj h
    exact .grows s.conf (by simp) (DetailList.updateMySQLQueries_grows _ _ _ _)
  | updateMySQLSlaveStatus aHost slaveStatus =>
    obtain rfl := Option.some.inj h
    exact .grows s.conf (by simp) (DetailList.updateMySQLSlaveStatus_grows _ _ _ _)
  | sort order =>
    obtain rfl := Option.some.inj h
    exact .grows s.conf (by simp) (DetailList.Grows.of_sample (by simp) (by simp))
  | reloadDataWatchers =>
    obtain rfl := Option.some.inj h
    exact .grows s.conf (by simp) (DetailList.reloadDataWatchers_grows _ _)
  | edit conf =>
    obtain rfl := Option.some.inj h
    exact .grows conf (by simp) (DetailList.Grows.of_sample le_rfl (fun _ => rfl))

-- The rows the calls in flight hold on to are allocated, listed or not.
def Allocated (s : Statistics) : Prop :=
  ∀ call ∈ s.calls, ∀ r, call.myEntry = some r → r < s.detailList.next

theorem Allocated.step (hs : s.Allocated) (h : Moves s a t) : t.Allocated := by
  cases h with
  | begin aHost =>
    intro call hcall r hr
    rcases List.mem_append.mp hcall with hold | hnew
    · exact hs call hold r hr
    · obtain rfl := List.mem_singleton.mp hnew
      simp [StatisticsState.myEntry] at hr
  | @advance i pre call post now serverStatus hcalls hi =>
    have hmine : ∀ t, call.myEntry = some t → t < s.detailList.next :=
      hs call (List.mem_of_getElem? hi)
    have hnext : (call.advance s.conf s.detailList now serverStatus).2.next =
        s.detailList.next := by
      obtain ⟨_, _, _, _, heq⟩ | ⟨_, _, heq⟩ | ⟨_, _, _, _, heq⟩ | ⟨heq, _, _⟩ :=
        call.advance_cases s.conf s.detailList now serverStatus <;> rw [heq] <;> rfl
    intro other hother r hr
    rw [hnext]
    rcases List.mem_append.mp hother with hfront | hpost
    · rcases List.mem_append.mp hfront with hpre | hnew
      · exact hs other (by simp [hcalls, hpre]) r hr
      · exact StatisticsState.advance_myEntry hmine (Option.mem_toList.mp hnew) hr
    · exact hs other (by simp [hcalls, hpost]) r hr
  | grows conf ha hd => exact fun call hcall r hr => (hs call hcall r hr).trans_le hd.next

theorem advance_last (c : Configuration) (d : DetailList) (pre : List StatisticsState)
    (call : StatisticsState) (now : Time) (serverStatus : Option MysqlStatus) :
    step ⟨c, d, pre ++ [call]⟩ (.advance pre.length now serverStatus) =
      some ⟨c, (call.advance c d now serverStatus).2,
        pre ++ (call.advance c d now serverStatus).1.toList⟩ := by
  simp [step]

theorem run_last {c : Configuration} {d : DetailList} {pre : List StatisticsState}
    {call : StatisticsState} {now : Time} {serverStatus : Option MysqlStatus} {n : Nat}
    {u : Statistics}
    (h : Transition.run step Transition.anyStep ⟨c, (call.advance c d now serverStatus).2,
        pre ++ (call.advance c d now serverStatus).1.toList⟩
      (List.replicate n (.advance pre.length now serverStatus)) = some u) :
    Transition.run step Transition.anyStep ⟨c, d, pre ++ [call]⟩
      (List.replicate (n + 1) (.advance pre.length now serverStatus)) = some u :=
  Transition.run_cons.mpr ⟨rfl, _, advance_last c d pre call now serverStatus, h⟩

theorem call_alone (s : Statistics) (aHost : HostRef) (now : Time)
    (serverStatus : Option MysqlStatus) :
    ∃ n, Transition.run step Transition.anyStep s
        (.begin aHost :: List.replicate n (.advance s.calls.length now serverStatus)) =
      some ⟨s.conf, s.detailList.updateMySQLStatistics s.conf aHost now serverStatus, s.calls⟩ := by
  obtain ⟨c, d, calls⟩ := s
  suffices h : ∃ n, Transition.run step Transition.anyStep
      ⟨c, d, calls ++ [.test aHost (d.myEntry c aHost)]⟩
      (List.replicate n (.advance calls.length now serverStatus)) =
        some ⟨c, d.updateMySQLStatistics c aHost now serverStatus, calls⟩ by
    obtain ⟨n, hn⟩ := h
    exact ⟨n + 1, Transition.run_cons.mpr ⟨rfl, _, rfl, run_last hn⟩⟩
  cases hdue : d.isDue (d.myEntry c aHost) with
  | false =>
    refine ⟨2, run_last ?_⟩
    simp only [StatisticsState.advance, hdue]
    refine run_last ?_
    simp [StatisticsState.advance, DetailList.updateMySQLStatistics, hdue, Transition.run]
  | true =>
    cases serverStatus with
    | none =>
      refine ⟨2, run_last ?_⟩
      simp only [StatisticsState.advance, hdue]
      refine run_last ?_
      simp [StatisticsState.advance, DetailList.updateMySQLStatistics, hdue, Transition.run]
    | some status =>
      refine ⟨3, run_last ?_⟩
      simp only [StatisticsState.advance, hdue]
      refine run_last (run_last ?_)
      simp [StatisticsState.advance, DetailList.updateMySQLStatistics, hdue, Transition.run]

end Statistics

end DBMonitor
