import DBMonitor.Log.PollCycle
import DBMonitor.World.Moves

namespace DBMonitor

namespace World

section Sections
variable {ok : World → Act → Bool} {w w' : World} {acts : List Act}

theorem run_sections (h : Transition.run step ok w acts = some w') :
    ∃ sections, w'.doc = w.doc.runSections sections := by
  refine Transition.run_invariant (I := fun v => ∃ sections, v.doc = w.doc.runSections sections)
    ?_ ⟨[], rfl⟩ h
  rintro u a v ⟨sections, hu⟩ _ hstep
  rw [step_doc hstep, hu]
  cases u.locked a with
  | none => exact ⟨sections, rfl⟩
  | some s => exact ⟨sections ++ [s], by simp [Document.runSections]⟩

theorem run_wellKept {conf : Configuration} {sliderValue trackQuery : Int}
    (h : Transition.run step ok (initial conf sliderValue trackQuery) acts = some w) :
    w.doc.WellKept := by
  obtain ⟨sections, hdoc⟩ := run_sections h
  rw [hdoc]
  exact Document.runSections_wellKept sections
    (Document.initial_wellKept conf sliderValue trackQuery)

end Sections

def fetchInputs : Option (List (Time × QueryRow)) → List Input
  | none => [{ results := none }]
  | some rows =>
    { results := some (rows.map Prod.snd) } :: (rows.map (fun row => { now := row.1 }) ++ [{}])

def pollInputs : Document.Poll → List Input
  | .refused now => [{}, { connects := false }, { now := now }, {}]
  | .connected results now slaveStatus =>
    {} :: {} :: (fetchInputs results ++ [{ now := now, slaveStatus := slaveStatus }, {}])

section Reaches
variable (i : Nat) (aHost : HostRef) (isCancelled : Bool)

def PollAt (state : PollState) (d : Document) (w : World) : Prop :=
  w.ops[i]? = some { body := .poll aHost state, isCancelled := isCancelled } ∧ w.doc = d

-- The operation at i, given these answers while nothing else runs, gets from one to the other.
def Reaches (state : PollState) (d : Document) (xs : List Input) (state' : PollState)
    (d' : Document) : Prop :=
  ∀ w, PollAt i aHost isCancelled state d w → ∃ w', Transition.run step Transition.anyStep w
    (xs.map (.operation i)) = some w' ∧ PollAt i aHost isCancelled state' d' w'

variable {i aHost isCancelled} {state state' state'' : PollState} {d d' d'' : Document}
  {xs ys : List Input}

theorem Reaches.refl (state : PollState) (d : Document) :
    Reaches i aHost isCancelled state d [] state d :=
  fun w hw => ⟨w, rfl, hw⟩

theorem Reaches.trans (h : Reaches i aHost isCancelled state d xs state' d')
    (k : Reaches i aHost isCancelled state' d' ys state'' d'') :
    Reaches i aHost isCancelled state d (xs ++ ys) state'' d'' := by
  intro w hw
  obtain ⟨v, hv, hmid⟩ := h w hw
  obtain ⟨w', hw', hlast⟩ := k v hmid
  rw [List.map_append]
  exact ⟨w', Transition.run_append.mpr ⟨v, hv, hw'⟩, hlast⟩

theorem Reaches.step (x : Input) (s : Option Section)
    (hbody : (state.advance d.conf aHost isCancelled x).body = some (.poll aHost state'))
    (hlocked : (state.advance d.conf aHost isCancelled x).locked = s) :
    Reaches i aHost isCancelled state d [x] state' (s.elim d d.exec) := by
  rintro w ⟨hop, rfl⟩
  subst hlocked
  obtain ⟨hi, _⟩ := List.getElem?_eq_some_iff.mp hop
  have hlen : (w.ops.take i).length = i := by
    rw [List.length_take]
    omega
  obtain ⟨w', hw'⟩ : ∃ w', w.step (.operation i x) = some w' := by
    simp [World.step, control, runOperation, hop]
  refine ⟨w', Transition.run_cons.mpr ⟨rfl, w', hw', rfl⟩, ?_, ?_⟩
  · simp only [World.step, control, runOperation, hop, Option.map_some, Option.some.injEq] at hw'
    rw [← hw']
    simp [execute, Operation.advance, hbody, hlen]
  · rw [step_doc hw']
    simp [locked, control, runOperation, hop, Operation.advance]

theorem Reaches.head (x : Input) (s : Option Section)
    (hbody : (state.advance d.conf aHost isCancelled x).body = some (.poll aHost state'))
    (hlocked : (state.advance d.conf aHost isCancelled x).locked = s)
    (h : Reaches i aHost isCancelled state' (s.elim d d.exec) xs state'' d'') :
    Reaches i aHost isCancelled state d (x :: xs) state'' d'' :=
  (Reaches.step x s hbody hlocked).trans h

theorem reaches_swept (qualified : Option (List QueryRow)) :
    Reaches i aHost isCancelled (.sweeping qualified) d [{}] .checking
      (d.discardMySQLDead aHost) :=
  .step _ (some (.discardMySQLDead aHost)) rfl rfl

theorem reaches_status {c : Configuration} (hconf : d.conf = c)
    (qualified : Option (List QueryRow)) (now : Time) (slaveStatus : Option MysqlSlaveStatus) :
    Reaches i aHost isCancelled (.replicating qualified) d
      [{ now := now, slaveStatus := slaveStatus }] (.sweeping qualified)
      (if c.isSlave aHost then d.updateMySQLSlaveStatus now aHost slaveStatus else d) := by
  subst hconf
  cases hs : d.conf.isSlave aHost with
  | false => exact .step _ none rfl (by simp [PollState.advance, hs])
  | true =>
    cases slaveStatus with
    | none => exact .step _ none rfl (by simp [PollState.advance, hs])
    | some status =>
      exact .step _ (some (.updateMySQLSlaveStatus now aHost status)) rfl
        (by simp [PollState.advance, hs])

theorem reaches_rows (qualified : List QueryRow) (rows : List (Time × QueryRow)) :
    ∃ filed, Reaches i aHost isCancelled (.filing qualified (rows.map Prod.snd)) d
      (rows.map (fun row => { now := row.1 })) (.filing filed [])
      (d.updateMySQLQueries aHost (some rows)) := by
  induction rows generalizing d qualified with
  | nil => exact ⟨qualified, Reaches.refl _ _⟩
  | cons row rows ih =>
    cases hq : Document.qualifies d.conf aHost row.2 with
    | true =>
      obtain ⟨filed, hrest⟩ := @ih (d.updateRow row.1 aHost row.2) (qualified ++ [row.2])
      refine ⟨filed, .head _ (some (.updateRow row.1 aHost row.2)) ?_ ?_ hrest⟩ <;>
        simp [PollState.advance, hq]
    | false =>
      have hskip : d.updateMySQLQueries aHost (some (row :: rows)) =
          d.updateMySQLQueries aHost (some rows) := by
        simp [Document.updateMySQLQueries, Document.updateRow, hq]
      obtain ⟨filed, hrest⟩ := @ih d qualified
      rw [hskip]
      refine ⟨filed, .head _ none ?_ ?_ hrest⟩ <;> simp [PollState.advance, hq]

theorem reaches_fetched (results : Option (List (Time × QueryRow))) :
    ∃ qualified, Reaches i aHost isCancelled .fetching d (fetchInputs results)
      (.replicating qualified) (d.updateMySQLQueries aHost results) := by
  cases results with
  | none => exact ⟨none, .step _ none rfl rfl⟩
  | some rows =>
    obtain ⟨filed, hrows⟩ := reaches_rows (i := i) (d := d) [] rows
    exact ⟨some filed, .head _ none rfl rfl (hrows.trans (.step _ none rfl rfl))⟩

theorem generateMySQLOperation_reaches (poll : Document.Poll) :
    Reaches i aHost isCancelled .clearing d (pollInputs poll) .checking
      (d.generateMySQLOperation aHost poll) := by
  cases poll with
  | refused now =>
    exact .head _ (some (.clearUpdates aHost)) rfl rfl (.head _ none rfl rfl
      (.head _ (some (.updateMySQLFail now aHost)) rfl rfl (reaches_swept none)))
  | connected results now slaveStatus =>
    obtain ⟨qualified, hfetched⟩ : ∃ qualified, Reaches i aHost isCancelled .fetching
        (d.clearUpdates aHost) (fetchInputs results) (.replicating qualified)
        ((d.clearUpdates aHost).updateMySQLQueries aHost results) := reaches_fetched results
    have hconf : ((d.clearUpdates aHost).updateMySQLQueries aHost results).conf = d.conf := by
      rw [Document.updateMySQLQueries_eq]
      exact (Document.fileAll_settings aHost _).1
    have hlast : Reaches i aHost isCancelled (.replicating qualified)
        ((d.clearUpdates aHost).updateMySQLQueries aHost results)
        [{ now := now, slaveStatus := slaveStatus }, {}] .checking
        (d.generateMySQLOperation aHost (.connected results now slaveStatus)) :=
      (reaches_status hconf qualified now slaveStatus).trans (reaches_swept qualified)
    exact .head _ (some (.clearUpdates aHost)) rfl rfl
      (.head _ none rfl rfl (hfetched.trans hlast))

end Reaches

end World

end DBMonitor
