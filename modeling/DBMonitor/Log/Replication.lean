import DBMonitor.Log.Retention

namespace DBMonitor

namespace Document

def TrackedByRule (d : Document) (aHost : HostRef) (r : EntryRef) : Prop :=
  (d.entry r).displayTimeout.isSome = true ↔ (d.entry r).duration ≥ d.conf.triggerTimer aHost

def unfiled (r : EntryRef) (d : Document) (s : Section) : Bool :=
  (d.filing s).all (fun p => decide (r ≠ d.target p.1 p.2.pid))

-- Below the trigger an entry that no later poll updates is never turned into a dead event.
def Forgotten (d : Document) (aHost : HostRef) (r : EntryRef) : Prop :=
  (d.entry r).duration < d.conf.triggerTimer aHost →
    ∀ later, Transition.along exec (unfiled r) d later = true →
      r ∈ (d.runSections later).items → ((d.runSections later).entry r).processID ≠ deadProcess

structure KeepsRule (d : Document) (now : Time) (aHost : HostRef) (status : MysqlSlaveStatus) :
    Prop where
  tracked : (d.updateMySQLSlaveStatus now aHost (some status)).TrackedByRule aHost
    (d.target aHost replicationID)
  forgotten : (d.updateMySQLSlaveStatus now aHost (some status)).Forgotten aHost
    (d.target aHost replicationID)

-- The entry carries no timeout yet, or this status gives it a new one.
def clearOrReached (d : Document) (now : Time) (aHost : HostRef) (status : MysqlSlaveStatus) : Bool :=
  (d.find aHost replicationID).all fun r =>
    (d.entry r).displayTimeout.isNone ||
      decide (statusDuration now status (d.entry r) ≥ d.conf.triggerTimer aHost)

section Rule
variable {d : Document} {s : Section} {r : EntryRef} {aHost : HostRef} {now : Time}

-- The rule of the queries: a timeout exactly from the trigger time on.
theorem updateRow_trackedByRule {row : QueryRow} (hq : qualifies d.conf aHost row = true) :
    (d.updateRow now aHost row).TrackedByRule aHost (d.target aHost (printID row.id)) := by
  have hentry := d.file_target aHost (d.rowFiling aHost now row)
  rw [show (d.rowFiling aHost now row).pid = printID row.id from rfl] at hentry
  rw [updateRow_eq, if_pos hq, TrackedByRule, hentry]
  change (if row.recordedDuration ≥ _ then some _ else none).isSome = true ↔ _
  split
  next h => exact iff_of_true rfl h
  next h => exact iff_of_false Bool.false_ne_true h

theorem status_entry {status : MysqlSlaveStatus} (hu : status.unhealthy = true) :
    (d.updateMySQLSlaveStatus now aHost (some status)).entry (d.target aHost replicationID) =
      d.recordStatus now aHost status (d.filedOver aHost (d.statusFiling aHost now status)) := by
  rw [updateMySQLSlaveStatus_eq, if_pos hu]
  exact d.file_target aHost (d.statusFiling aHost now status)

theorem clearOrReached_iff {status : MysqlSlaveStatus} {old : DBMLogEntry}
    (hold : d.filedOver aHost (d.statusFiling aHost now status) = old) :
    d.clearOrReached now aHost status = true ↔
      old.displayTimeout = none ∨ statusDuration now status old ≥ d.conf.triggerTimer aHost := by
  rw [clearOrReached]
  cases h : d.find aHost replicationID with
  | none =>
    have hnone : old.displayTimeout = none := by
      have hnew : ¬(d.find aHost replicationID).isSome = true := by simp [h]
      exact congrArg DBMLogEntry.displayTimeout (hold.symm.trans (if_neg hnew))
    exact iff_of_true rfl (Or.inl hnone)
  | some r =>
    rw [d.filedOver_of_find aHost (d.statusFiling aHost now status) h] at hold
    rw [Option.all_some, hold, Bool.or_eq_true, Option.isNone_iff_eq_none, decide_eq_true_eq]

theorem status_trackedByRule_iff {status : MysqlSlaveStatus} (hu : status.unhealthy = true) :
    (d.updateMySQLSlaveStatus now aHost (some status)).TrackedByRule aHost
        (d.target aHost replicationID) ↔
      d.clearOrReached now aHost status = true := by
  have hconf : (d.updateMySQLSlaveStatus now aHost (some status)).conf = d.conf :=
    exec_conf (s := .updateMySQLSlaveStatus now aHost status) (by simp)
  rw [TrackedByRule, hconf, status_entry hu]
  generalize hold : d.filedOver aHost (d.statusFiling aHost now status) = old
  rw [clearOrReached_iff hold]
  change ((if statusDuration now status old ≥ _ then some _ else old.displayTimeout).isSome = true ↔
    statusDuration now status old ≥ _) ↔ _
  by_cases h : statusDuration now status old ≥ d.conf.triggerTimer aHost
  · simp [h]
  · simp [h]

theorem passEntry_untimed {e : DBMLogEntry} (h : e.displayTimeout = none) :
    (d.passEntry s e).displayTimeout = none ∧ (d.passEntry s e).processID = e.processID := by
  have hsweep : ∀ hosts (e : DBMLogEntry), e.displayTimeout = none → d.sweepEntry hosts e = e := by
    intro hosts e he
    rw [sweepEntry, if_neg (by simp [tracks, he])]
  cases s with
  | clearUpdates g =>
    rw [passEntry, clearMark]
    split <;> exact ⟨h, rfl⟩
  | discardMySQLDead g =>
    rw [passEntry, hsweep [g] e h]
    exact ⟨h, rfl⟩
  | refresh now order =>
    have hpurged : (d.purged now e).displayTimeout = none := by
      cases ha : d.conf.isActive e.eventHost with
      | true =>
        rw [d.purged_of_active now ha, h]
        rfl
      | false => rw [d.purged_of_inactive now ha]
    rw [passEntry, hsweep _ _ hpurged, purged_processID]
    exact ⟨hpurged, rfl⟩
  | _ => exact ⟨h, rfl⟩

-- An entry without a timeout that nothing files into: it is gone, or keeps its own process ID.
def Untracked (r : EntryRef) (d : Document) : Prop :=
  r < d.dataList.next ∧
    (r ∈ d.items → (d.entry r).displayTimeout = none ∧ (d.entry r).processID ≠ deadProcess)

theorem Untracked.exec (h : Untracked r d) (hs : unfiled r d s = true) : Untracked r (d.exec s) := by
  obtain ⟨hlt, hentry⟩ := h
  refine ⟨hlt.trans_le exec_next_le, fun hm => ?_⟩
  by_cases hr : r ∈ d.items
  · obtain ⟨htimeout, hpid⟩ := hentry hr
    have hpass : (d.exec s).entry r = d.passEntry s (d.entry r) := by
      refine exec_passed hr (fun g f hf => ?_)
      simpa [unfiled, hf] using hs
    obtain ⟨htimeout', hpid'⟩ := passEntry_untimed (s := s) htimeout
    rw [hpass, hpid']
    exact ⟨htimeout', hpid⟩
  · exact absurd hm (exec_absent hlt hr).1

theorem TrackedByRule.forgotten (h : d.TrackedByRule aHost r) (hr : r < d.dataList.next)
    (hpid : (d.entry r).processID ≠ deadProcess) : d.Forgotten aHost r := by
  intro hbelow later hlater hm
  have htimeout : (d.entry r).displayTimeout = none := by
    rw [← Option.not_isSome_iff_eq_none]
    exact fun hsome => Int.not_le.mpr hbelow (h.mp hsome)
  have hrun : Untracked r (d.runSections later) := Transition.along_invariant
    (I := Untracked r) (fun _ _ hi hs => hi.exec hs) ⟨hr, fun _ => ⟨htimeout, hpid⟩⟩ hlater
  exact (hrun.2 hm).2

theorem status_keepsRule_iff {status : MysqlSlaveStatus} (hu : status.unhealthy = true) :
    d.KeepsRule now aHost status ↔ d.clearOrReached now aHost status = true := by
  rw [← status_trackedByRule_iff hu]
  refine ⟨KeepsRule.tracked, fun h => ⟨h, ?_⟩⟩
  have hf : d.filing (.updateMySQLSlaveStatus now aHost status) =
      some (aHost, d.statusFiling aHost now status) := if_pos hu
  obtain ⟨hm, _, hpid, _⟩ := exec_filed hf
  refine h.forgotten ((d.exec (.updateMySQLSlaveStatus now aHost status)).dataList.allocated _ hm) ?_
  exact hpid.trans_ne (d.statusFiling aHost now status).live

end Rule

theorem replication_rule_iff (d : Document) (sections : List Section) :
    (∀ k now aHost status, sections[k]? = some (.updateMySQLSlaveStatus now aHost status) →
      status.unhealthy = true → (d.runSections (sections.take k)).KeepsRule now aHost status) ↔
    (∀ k now aHost status, sections[k]? = some (.updateMySQLSlaveStatus now aHost status) →
      status.unhealthy = true →
        (d.runSections (sections.take k)).clearOrReached now aHost status = true) := by
  refine forall₄_congr (fun k now aHost status => forall₂_congr (fun _ hu => ?_))
  exact status_keepsRule_iff hu

theorem recovered_replica_kept :
    let c := Configuration.onePool { active := some 1 } [3] (by decide) (fun _ => 1) (fun _ => 1)
    let lag := fun n : Int =>
      ({ secondsBehindMaster := n, slaveSQLRunning := true, slaveIORunning := true } :
        MysqlSlaveStatus)
    let d := (initial c 30 1).runSections
      [.updateMySQLSlaveStatus 0 3 (lag 9), .discardMySQLDead 3, .clearUpdates 3]
    let recovering := d.updateMySQLSlaveStatus second 3 (some (lag 2))
    let recovered := recovering.runSections [.discardMySQLDead 3, .clearUpdates 3,
      .discardMySQLDead 3]
    (lag 2).unhealthy = true ∧ ¬d.KeepsRule second 3 (lag 2) ∧
      (recovering.entry 0).duration = 2 ∧ recovering.conf.triggerTimer 3 = 5 ∧
      (lag 0).unhealthy = false ∧ recovered.items = [0] ∧
      (recovered.entry 0).processID = deadProcess := by
  intro c lag d recovering recovered
  have hlate : (lag 2).unhealthy = true := by decide
  refine ⟨hlate, fun h => ?_, by decide +kernel, by decide +kernel, by decide, by decide +kernel,
    by decide +kernel⟩
  have hclear : d.clearOrReached second 3 (lag 2) = true := (status_keepsRule_iff hlate).mp h
  exact absurd hclear (by decide +kernel)

end Document

end DBMonitor
