import DBMonitor.Log.DeadFlag

namespace DBMonitor

namespace Document

def runningQuery (e : DBMLogEntry) : Bool :=
  decide (e.processID ≠ replicationID) && decide (e.processID ≠ connectFailID) &&
    decide (e.processID ≠ deadProcess) && !e.dead

def overTrigger (c : Configuration) (e : DBMLogEntry) : Bool :=
  runningQuery e && decide (e.duration ≥ c.triggerTimer e.eventHost)

def Marked (d : Document) : Prop :=
  ∀ r ∈ d.items, overTrigger d.conf (d.entry r) = true →
    (d.entry r).displayTimeout.isSome = true

structure StaysMarked (d : Document) : Prop where
  marked : d.Marked
  red : ∀ row r, d.objectAtRow row = some r → row ≠ d.selectedRow →
    overTrigger d.conf (d.entry r) = true → d.willDisplayCell row = some .redColor

-- An entry over its trigger whose timeout is past when a refresh runs with a finite slider, and
-- which that refresh does not remove.
def overdue (d : Document) (now : Time) (e : DBMLogEntry) : Bool :=
  overTrigger d.conf e && d.conf.isActive e.eventHost && decide (0 ≤ d.sliderValue) &&
    e.displayTimeout.any (fun timeout => decide (timeout < now)) && !sweeps d.conf d.deadHosts e

-- A row filed into another host's entry passes its own host's trigger if it passes that one's.
def sameTrigger (d : Document) (aHost : HostRef) (row : QueryRow) (e : DBMLogEntry) : Bool :=
  !runningQuery e || !decide (row.recordedDuration ≥ d.conf.triggerTimer e.eventHost) ||
    decide (row.recordedDuration ≥ d.conf.triggerTimer aHost)

def keepsMarks (d : Document) : Section → Bool
  | .updateRow _ aHost row => !qualifies d.conf aHost row ||
    (d.find aHost (printID row.id)).all (fun r => d.sameTrigger aHost row (d.entry r))
  | .refresh now _ => d.items.all (fun r => !d.overdue now (d.entry r))
  | _ => true

-- Trigger times of the hosts in the log are not edited.
def keepsTriggers (d : Document) : Section → Bool
  | .edit conf => d.items.all fun r =>
    decide (conf.triggerTimer (d.entry r).eventHost = d.conf.triggerTimer (d.entry r).eventHost)
  | _ => true

def steadyStep (d : Document) (s : Section) : Option Document :=
  if d.keepsTriggers s then some (d.exec s) else none

section Step
variable {d : Document} {s : Section} {r : EntryRef}

theorem staysMarked_iff : d.StaysMarked ↔ d.Marked := by
  refine ⟨fun h => h.marked, fun h => ⟨h, ?_⟩⟩
  intro row r hr hrow ho
  have halive : (d.entry r).dead = false := by
    simp only [overTrigger, runningQuery, Bool.and_eq_true, Bool.not_eq_true'] at ho
    exact ho.1.2
  rw [willDisplayCell_unselected hrow hr, textColor_marked halive (h r (objectAtRow_mem hr).1 ho)]

theorem overTrigger_relabel (c : Configuration) (e : DBMLogEntry) :
    overTrigger c (relabel e) = false := by
  simp [overTrigger, runningQuery, relabel]

theorem sweepEntry_marked (hosts : List HostRef) {c : Configuration} {e : DBMLogEntry}
    (h : overTrigger c e = true → e.displayTimeout.isSome = true) :
    overTrigger c (d.sweepEntry hosts e) = true →
      (d.sweepEntry hosts e).displayTimeout.isSome = true := by
  rcases d.sweepEntry_frame hosts e with hk | ⟨_, _, hk⟩
  · rw [hk]
    exact h
  · rw [hk, overTrigger_relabel]
    simp

theorem overTrigger_purged_inactive (now : Time) {e : DBMLogEntry}
    (ha : d.conf.isActive e.eventHost = false) : overTrigger d.conf (d.purged now e) = false := by
  rw [d.purged_of_inactive now ha]
  simp [overTrigger, runningQuery]

theorem overdue_purged {now : Time} {e : DBMLogEntry} (h : d.overdue now e = true) :
    overTrigger d.conf e = true ∧ sweeps d.conf d.deadHosts e = false ∧
      d.purged now e = { e with displayTimeout := none } := by
  simp only [overdue, Bool.and_eq_true, decide_eq_true_eq, Bool.not_eq_true'] at h
  obtain ⟨⟨⟨⟨ho, ha⟩, hslider⟩, hlate⟩, hs⟩ := h
  obtain ⟨timeout, ht, hlt⟩ := (Option.any_eq_true _ _).mp hlate
  refine ⟨ho, hs, ?_⟩
  rw [d.purged_of_active now ha, ht, keptTimeout_some, if_pos ⟨hslider, of_decide_eq_true hlt⟩]

theorem purged_marked {now : Time} {order : List EntryRef} {e : DBMLogEntry}
    (hmarked : overTrigger d.conf e = true → e.displayTimeout.isSome = true)
    (hover : d.overdue now e = false) (hkept : d.drops (.refresh now order) e = false)
    (ho : overTrigger d.conf (d.purged now e) = true) :
    (d.purged now e).displayTimeout.isSome = true := by
  cases ha : d.conf.isActive e.eventHost with
  | false =>
    rw [overTrigger_purged_inactive now ha] at ho
    exact absurd ho (by decide)
  | true =>
    rw [d.purged_of_active now ha] at ho ⊢
    obtain ⟨timeout, ht⟩ := Option.isSome_iff_exists.mp (hmarked ho)
    by_contra hcleared
    have hlapsed : 0 ≤ d.sliderValue ∧ timeout < now := by
      by_contra hkeep
      simp [ht, keptTimeout_some, if_neg hkeep] at hcleared
    have hspared : sweeps d.conf d.deadHosts e = false := by
      by_contra hs
      simp [drops, hs, d.purged_of_active now ha, ht, keptTimeout_some, if_pos hlapsed,
        tracks] at hkept
    have hlate : d.overdue now e = true := by
      simp only [overdue, Bool.and_eq_true, decide_eq_true_eq]
      exact ⟨⟨⟨⟨ho, ha⟩, hlapsed.1⟩, by simp [ht, hlapsed.2]⟩, by simpa using hspared⟩
    rw [hover] at hlate
    exact absurd hlate (by decide)

theorem refresh_marked_iff (now : Time) (order : List EntryRef) (h : d.Marked) :
    (d.exec (.refresh now order)).Marked ↔ ∀ r ∈ d.items, d.overdue now (d.entry r) = false := by
  have hconf : (d.exec (.refresh now order)).conf = d.conf := (d.refresh_settings now order).1
  have hentry : ∀ r ∈ d.items, (d.exec (.refresh now order)).entry r =
      d.sweepEntry d.deadHosts (d.purged now (d.entry r)) :=
    fun r hr => exec_passed hr (by simp [filing])
  have hmem : ∀ r ∈ d.items, r ∈ (d.exec (.refresh now order)).items ↔
      d.drops (.refresh now order) (d.entry r) = false := fun r hr => exec_mem_iff (by simp) hr
  constructor
  · intro hafter r hr
    by_contra hover
    obtain ⟨ho, hs, hpurged⟩ := overdue_purged (by simpa using hover)
    have hsame : (d.exec (.refresh now order)).entry r =
        { d.entry r with displayTimeout := none } := by
      rw [hentry r hr, sweepEntry, sweeps_purged, hs, hpurged]
      rfl
    have hset := hafter r ((hmem r hr).mpr (by simp [drops, hs])) (by rw [hconf, hsame]; exact ho)
    simp [hsame] at hset
  · intro hnone r hr
    have hold : r ∈ d.items := (exec_mem hr).resolve_right (by simp [filing])
    rw [hconf, hentry r hold]
    refine sweepEntry_marked d.deadHosts ?_
    exact purged_marked (h r hold) (hnone r hold) ((hmem r hold).mp hr)

theorem recordRow_displayTimeout (now : Time) (aHost : HostRef) (row : QueryRow) (e : DBMLogEntry) :
    (d.recordRow now aHost row e).displayTimeout.isSome = true ↔
      row.recordedDuration ≥ d.conf.triggerTimer aHost := by
  simp only [recordRow]
  split
  next h => exact iff_of_true rfl h
  next h => exact iff_of_false (by simp) h

theorem file_marked_iff {aHost : HostRef} {f : Filing} (h : d.Marked) :
    (d.file aHost f).Marked ↔ (overTrigger d.conf (f.write (d.filedOver aHost f)) = true →
      (f.write (d.filedOver aHost f)).displayTimeout.isSome = true) := by
  constructor
  · intro hafter
    have ht := hafter (d.target aHost f.pid) ((d.mem_file aHost f _).mpr (Or.inr rfl))
    rwa [file_target] at ht
  · intro hwrite r hr
    by_cases ht : r = d.target aHost f.pid
    · rw [ht, file_target]
      exact hwrite
    · rw [d.file_entry aHost f ht]
      exact h r (((d.mem_file aHost f r).mp hr).resolve_right ht)

theorem row_marked_iff (now : Time) (aHost : HostRef) (row : QueryRow) (h : d.Marked) :
    (d.exec (.updateRow now aHost row)).Marked ↔ d.keepsMarks (.updateRow now aHost row) = true := by
  rw [exec, updateRow_eq, keepsMarks]
  cases hq : qualifies d.conf aHost row with
  | false => exact iff_of_true h rfl
  | true =>
    simp only [if_true, Bool.not_true, Bool.false_or]
    rw [file_marked_iff h]
    change (overTrigger d.conf (d.recordRow now aHost row _) = true →
      (d.recordRow now aHost row _).displayTimeout.isSome = true) ↔ _
    rw [recordRow_displayTimeout]
    rcases d.target_mem_or_fresh aHost (printID row.id) with hf | ⟨hf, _⟩
    · rw [d.filedOver_of_find aHost (d.rowFiling aHost now row) hf, hf]
      change ((runningQuery (d.entry _) && decide (row.recordedDuration ≥
        d.conf.triggerTimer (d.entry _).eventHost)) = true → _) ↔ _
      simp only [Option.all_some, sameTrigger, Bool.and_eq_true, Bool.or_eq_true,
        Bool.not_eq_true', ← Bool.not_eq_true (runningQuery _), decide_eq_true_eq,
        decide_eq_false_iff_not]
      tauto
    · rw [hf]
      refine iff_of_true (fun ho => ?_) rfl
      simp only [overTrigger, Bool.and_eq_true, decide_eq_true_eq] at ho
      simpa [filedOver, rowFiling, recordRow, hf, DBMLogEntry.initWithHost] using ho.2

theorem sentinel_marked {aHost : HostRef} {f : Filing} (h : d.Marked)
    (hf : f.pid = replicationID ∨ f.pid = connectFailID) : (d.file aHost f).Marked := by
  refine (file_marked_iff h).mpr (fun ho => ?_)
  simp only [overTrigger, runningQuery, Bool.and_eq_true, decide_eq_true_eq,
    (f.write_key _).2.2, (d.filedOver_key aHost f).2] at ho
  exact absurd hf (not_or.mpr ⟨ho.1.1.1.1, ho.1.1.1.2⟩)

theorem unfiled_marked (h : d.Marked) (hf : d.filing s = none)
    (hs : ∀ now order, s ≠ .refresh now order) (hedit : ∀ conf, s ≠ .edit conf) :
    (d.exec s).Marked := by
  rw [Marked, exec_conf hedit]
  refine exec_unfiled (P := fun e => overTrigger d.conf e = true → e.displayTimeout.isSome = true)
    hf ?_ h
  intro e he
  cases s with
  | clearUpdates g =>
    rw [passEntry, clearMark]
    split <;> exact he
  | discardMySQLDead g => exact sweepEntry_marked [g] he
  | refresh now order => exact absurd rfl (hs now order)
  | _ => exact he

theorem exec_marked_iff (h : d.Marked) (hk : d.keepsTriggers s = true) :
    (d.exec s).Marked ↔ d.keepsMarks s = true := by
  cases s with
  | refresh now order =>
    rw [refresh_marked_iff now order h]
    simp [keepsMarks]
  | updateRow now g row => exact row_marked_iff now g row h
  | updateMySQLSlaveStatus now g status =>
    refine iff_of_true ?_ rfl
    rw [exec, updateMySQLSlaveStatus_eq]
    split
    · exact sentinel_marked h (Or.inl rfl)
    · exact h
  | updateMySQLFail now g => exact iff_of_true (sentinel_marked (f := failFiling now) h (Or.inr rfl)) rfl
  | edit conf =>
    refine iff_of_true (fun r hr ho => h r hr ?_) rfl
    have htrigger := List.all_eq_true.mp hk r hr
    rw [decide_eq_true_eq] at htrigger
    simpa only [overTrigger, exec, htrigger] using ho
  | _ => exact iff_of_true (unfiled_marked h rfl (by simp) (by simp)) rfl

theorem steadyStep_eq_some {d' : Document} (h : d.steadyStep s = some d') :
    d.keepsTriggers s = true ∧ d' = d.exec s := by
  unfold steadyStep at h
  split at h
  next hk => exact ⟨hk, (Option.some.inj h).symm⟩
  next => simp at h

theorem steadyStep_none (h : d.steadyStep s = none) : d.keepsMarks s = true := by
  unfold steadyStep at h
  split at h
  · simp at h
  next hk => cases s <;> first | rfl | exact absurd rfl hk

end Step

theorem running_query_marked_iff (conf : Configuration) (sliderValue trackQuery : Int)
    (sections : List Section) :
    let start := initial conf sliderValue trackQuery
    (∀ k d, Transition.run steadyStep Transition.anyStep start (sections.take k) = some d →
      d.StaysMarked) ↔
    (∀ k d s, Transition.run steadyStep Transition.anyStep start (sections.take k) = some d →
      sections[k]? = some s → d.keepsMarks s = true) := by
  intro start
  have hstart : start.Marked := fun _ hr => absurd hr List.not_mem_nil
  refine Transition.prefixes_iff (I := fun _ => True) trivial (staysMarked_iff.mpr hstart)
    (fun _ _ _ _ _ => trivial) ?_ (fun _ _ => steadyStep_none)
  intro d s d' _ hd hs
  obtain ⟨hk, rfl⟩ := steadyStep_eq_some hs
  rw [staysMarked_iff]
  exact exec_marked_iff (staysMarked_iff.mp hd) hk

theorem running_query_turns_black :
    let c := Configuration.onePool { active := some 1 } [3] (by decide) (fun _ => 1) (fun _ => 0)
    let row : QueryRow := { id := 8, host := "web", info := some [97], time := 9 }
    let sections : List Section := [.clearUpdates 3, .updateRow 0 3 row, .discardMySQLDead 3,
      .refresh (second / 4) [0]]
    ∃ d, Transition.run steadyStep Transition.anyStep (initial c 0 1) sections = some d ∧
      ¬d.StaysMarked ∧ d.objectAtRow 0 = some 0 ∧ (d.entry 0).processID = "8" ∧
      (d.entry 0).updated = true ∧ (d.entry 0).dead = false ∧
      (d.entry 0).duration ≥ d.conf.triggerTimer 3 ∧ d.willDisplayCell 0 = some .blackColor := by
  intro c row sections
  have hcheck : (Transition.run steadyStep Transition.anyStep (initial c 0 1) sections).any
      (fun d => decide (d.objectAtRow 0 = some 0) && decide ((d.entry 0).processID = "8") &&
        decide ((d.entry 0).updated = true) && decide ((d.entry 0).dead = false) &&
        decide ((d.entry 0).duration ≥ d.conf.triggerTimer 3) &&
        decide (d.willDisplayCell 0 = some .blackColor) && decide (d.selectedRow ≠ 0) &&
        overTrigger d.conf (d.entry 0)) = true := by
    decide +kernel
  obtain ⟨d, hrun, hd⟩ := (Option.any_eq_true _ _).mp hcheck
  simp only [Bool.and_eq_true, decide_eq_true_eq] at hd
  obtain ⟨⟨⟨⟨⟨⟨⟨hrow, hp⟩, hu⟩, halive⟩, hduration⟩, hblack⟩, hselected⟩, ho⟩ := hd
  refine ⟨d, hrun, fun h => ?_, hrow, hp, hu, halive, hduration, hblack⟩
  have hred := h.red 0 0 hrow (Ne.symm hselected) ho
  rw [hblack] at hred
  simp at hred

end Document

end DBMonitor
