import DBMonitor.Log.Steps

namespace DBMonitor

namespace Document

def KeepsOthers (aHost : HostRef) (d d' : Document) : Prop :=
  ∀ r ∈ d.items, (d.entry r).eventHost ≠ aHost → r ∈ d'.items ∧ d'.entry r = d.entry r

def FilesOwn (aHost : HostRef) (pid : String) (data : DBMLogEntry → Prop) (d' : Document) : Prop :=
  ∃ r ∈ d'.items, (d'.entry r).eventHost = aHost ∧ (d'.entry r).processID = pid ∧
    (d'.entry r).updated = true ∧ data (d'.entry r)

def LastWithID (c : Configuration) (aHost : HostRef) (row : QueryRow)
    (later : List (Time × QueryRow)) : Prop :=
  ∀ p ∈ later, qualifies c aHost p.2 = true → p.2.id ≠ row.id

structure OwnsEntries (d : Document) (aHost : HostRef) : Prop where
  clears : KeepsOthers aHost d (d.clearUpdates aHost)
  queries : ∀ results, KeepsOthers aHost d (d.updateMySQLQueries aHost results)
  rows : ∀ before now row later, qualifies d.conf aHost row = true →
    LastWithID d.conf aHost row later →
    FilesOwn aHost (printID row.id) (fun e => e.query = some row)
      (d.updateMySQLQueries aHost (some (before ++ (now, row) :: later)))
  replication : ∀ now slaveStatus,
    KeepsOthers aHost d (d.updateMySQLSlaveStatus now aHost slaveStatus)
  statuses : ∀ now status, status.unhealthy = true →
    FilesOwn aHost replicationID (fun e => e.slaveStatus = some status)
      (d.updateMySQLSlaveStatus now aHost (some status))
  failure : ∀ now, KeepsOthers aHost d (d.updateMySQLFail now aHost)
  failures : ∀ now, FilesOwn aHost connectFailID (fun e => e.duration = elapsed now e)
    (d.updateMySQLFail now aHost)
  discards : KeepsOthers aHost d (d.discardMySQLDead aHost)

def ForeignRetired (d : Document) (aHost : HostRef) : Prop :=
  ∀ r ∈ d.items, (d.entry r).eventHost ≠ aHost →
    d.conf.sameHostname (d.entry r).eventHost aHost = true →
    (d.entry r).updated = false ∧ (d.entry r).dead = true ∧
      (d.entry r).processID = deadProcess ∧ d.tracks (d.entry r) = true

section Filing
variable {d : Document} {aHost : HostRef} (f : Filing)

theorem ForeignRetired.found (h : d.ForeignRetired aHost) {pid : String} (hlive : pid ≠ deadProcess)
    {r : EntryRef} (hf : d.find aHost pid = some r) : (d.entry r).eventHost = aHost := by
  obtain ⟨hr, hs, hp⟩ := d.find_mem aHost hf
  by_contra hne
  exact hlive (hp.symm.trans (h r hr hne hs).2.2.1)

theorem ForeignRetired.target_host (h : d.ForeignRetired aHost) :
    ((d.file aHost f).entry (d.target aHost f.pid)).eventHost = aHost := by
  rcases d.target_mem_or_fresh aHost f.pid with hf | ⟨hf, _⟩
  · rw [(d.file_key aHost f (d.dataList.allocated _ (d.find_mem aHost hf).1)).1]
    exact h.found f.live hf
  · exact d.file_fresh aHost f hf

theorem ForeignRetired.file_keepsOthers (h : d.ForeignRetired aHost) :
    KeepsOthers aHost d (d.file aHost f) := by
  intro r hr hne
  have ht : r ≠ d.target aHost f.pid := by
    rintro rfl
    rcases d.target_mem_or_fresh aHost f.pid with hf | ⟨_, hn⟩
    · exact hne (h.found f.live hf)
    · exact d.next_not_mem (hn ▸ hr)
  exact ⟨(d.mem_file aHost f r).mpr (Or.inl hr), d.file_entry aHost f ht⟩

theorem ForeignRetired.file (h : d.ForeignRetired aHost) : (d.file aHost f).ForeignRetired aHost := by
  intro r hr hne hs
  by_cases ht : r = d.target aHost f.pid
  · exact absurd (ht ▸ h.target_host f) hne
  · rw [d.file_entry aHost f ht] at hne hs ⊢
    exact h r (((d.mem_file aHost f r).mp hr).resolve_right ht) hne hs

theorem ForeignRetired.filesOwn (h : d.ForeignRetired aHost) {data : DBMLogEntry → Prop}
    (hdata : ∀ e, data (f.write e)) : FilesOwn aHost f.pid data (d.file aHost f) := by
  refine ⟨d.target aHost f.pid, (d.mem_file aHost f _).mpr (Or.inr rfl), h.target_host f, ?_⟩
  rw [file_target, (f.write_key _).2.2, (d.filedOver_key aHost f).2]
  exact ⟨rfl, f.marks _, hdata _⟩

theorem FilesOwn.file {pid : String} {data : DBMLogEntry → Prop} (h : FilesOwn aHost pid data d)
    (hne : f.pid ≠ pid) : FilesOwn aHost pid data (d.file aHost f) := by
  obtain ⟨r, hr, hh, hp, hu⟩ := h
  have ht : r ≠ d.target aHost f.pid := by
    rintro rfl
    rcases d.target_mem_or_fresh aHost f.pid with hf | ⟨_, hn⟩
    · exact hne ((d.find_mem aHost hf).2.2.symm.trans hp)
    · exact d.next_not_mem (hn ▸ hr)
  refine ⟨r, (d.mem_file aHost f r).mpr (Or.inl hr), ?_⟩
  rw [d.file_entry aHost f ht]
  exact ⟨hh, hp, hu⟩

theorem KeepsOthers.trans {d' d'' : Document} (h : KeepsOthers aHost d d')
    (k : KeepsOthers aHost d' d'') : KeepsOthers aHost d d'' := by
  intro r hr hne
  obtain ⟨hr', he'⟩ := h r hr hne
  obtain ⟨hr'', he''⟩ := k r hr' (by rwa [he'])
  exact ⟨hr'', he''.trans he'⟩

theorem KeepsOthers.refl (aHost : HostRef) (d : Document) : KeepsOthers aHost d d :=
  fun _ hr _ => ⟨hr, rfl⟩

end Filing

section Rows
variable {d : Document} {aHost : HostRef}

theorem updateMySQLQueries_append (before later : List (Time × QueryRow)) :
    d.updateMySQLQueries aHost (some (before ++ later)) =
      (d.updateMySQLQueries aHost (some before)).updateMySQLQueries aHost (some later) :=
  List.foldl_append

theorem updateMySQLQueries_cons (now : Time) (row : QueryRow) (later : List (Time × QueryRow)) :
    d.updateMySQLQueries aHost (some ((now, row) :: later)) =
      (d.updateRow now aHost row).updateMySQLQueries aHost (some later) := rfl

theorem ForeignRetired.updateRow (h : d.ForeignRetired aHost) (now : Time) (row : QueryRow) :
    KeepsOthers aHost d (d.updateRow now aHost row) ∧
      (d.updateRow now aHost row).ForeignRetired aHost := by
  rw [updateRow_eq]
  split
  · exact ⟨h.file_keepsOthers _, h.file _⟩
  · exact ⟨KeepsOthers.refl aHost d, h⟩

theorem ForeignRetired.updateRows (h : d.ForeignRetired aHost) (rows : List (Time × QueryRow)) :
    KeepsOthers aHost d (d.updateMySQLQueries aHost (some rows)) ∧
      (d.updateMySQLQueries aHost (some rows)).ForeignRetired aHost := by
  induction rows generalizing d with
  | nil => exact ⟨KeepsOthers.refl aHost d, h⟩
  | cons p rows ih =>
    obtain ⟨hkeep, hnext⟩ := h.updateRow p.1 p.2
    obtain ⟨hkeeps, hlast⟩ := ih hnext
    exact ⟨hkeep.trans hkeeps, hlast⟩

theorem FilesOwn.updateRows {row : QueryRow} {data : DBMLogEntry → Prop}
    (h : FilesOwn aHost (printID row.id) data d) {rows : List (Time × QueryRow)}
    (hlater : LastWithID d.conf aHost row rows) :
    FilesOwn aHost (printID row.id) data (d.updateMySQLQueries aHost (some rows)) := by
  induction rows generalizing d with
  | nil => exact h
  | cons p rows ih =>
    rw [updateMySQLQueries_cons]
    have hrest : LastWithID (d.updateRow p.1 aHost p.2).conf aHost row rows := by
      rw [updateRow_conf]
      exact fun q hq => hlater q (List.mem_cons_of_mem p hq)
    refine ih ?_ hrest
    rw [updateRow_eq]
    split
    next hq =>
      refine FilesOwn.file _ h (fun hp => ?_)
      exact hlater p List.mem_cons_self hq (printID_injective hp)
    next => exact h

theorem ForeignRetired.filesRow (h : d.ForeignRetired aHost) (before : List (Time × QueryRow))
    {now : Time} {row : QueryRow} {later : List (Time × QueryRow)}
    (hq : qualifies d.conf aHost row = true) (hlast : LastWithID d.conf aHost row later) :
    FilesOwn aHost (printID row.id) (fun e => e.query = some row)
      (d.updateMySQLQueries aHost (some (before ++ (now, row) :: later))) := by
  rw [updateMySQLQueries_append, updateMySQLQueries_cons]
  have hconf := d.updateMySQLQueries_conf aHost before
  refine FilesOwn.updateRows ?_ ?_
  · rw [updateRow_eq, hconf, if_pos hq]
    exact (h.updateRows before).2.filesOwn
      ((d.updateMySQLQueries aHost (some before)).rowFiling aHost now row) (fun _ => rfl)
  · rw [updateRow_conf, hconf]
    exact hlast

end Rows

section Exact
variable {d : Document} {aHost : HostRef}

theorem ForeignRetired.clears (h : d.ForeignRetired aHost) :
    KeepsOthers aHost d (d.clearUpdates aHost) := by
  intro r hr hne
  rw [clearUpdates_items, clearUpdates_entry, if_pos hr, clearMark]
  refine ⟨hr, ?_⟩
  split
  next hs =>
    have hu := (h r hr hne hs).1
    generalize d.entry r = e at hu
    cases e
    cases hu
    rfl
  next => rfl

theorem ForeignRetired.discards (h : d.ForeignRetired aHost) :
    KeepsOthers aHost d (d.discardMySQLDead aHost) := by
  intro r hr hne
  rw [discardMySQLDead_items, List.mem_filter, discardMySQLDead_entry, if_pos hr]
  cases hs : d.conf.sameHostname (d.entry r).eventHost aHost with
  | false =>
    have hsweep : sweeps d.conf [aHost] (d.entry r) = false := by simp [sweeps, hs]
    simp [hr, hsweep, sweepEntry]
  | true =>
    obtain ⟨_, hd, hp, ht⟩ := h r hr hne hs
    refine ⟨⟨hr, by simp [ht]⟩, ?_⟩
    rcases d.sweepEntry_frame [aHost] (d.entry r) with hk | ⟨_, _, hk⟩
    · exact hk
    · rw [hk, relabel]
      generalize d.entry r = e at hd hp
      cases e
      cases hd
      cases hp
      rfl

theorem foreignRetired_of_kept (hclear : KeepsOthers aHost d (d.clearUpdates aHost))
    (hdiscard : KeepsOthers aHost d (d.discardMySQLDead aHost)) : d.ForeignRetired aHost := by
  intro r hr hne hs
  have hc := (hclear r hr hne).2
  rw [clearUpdates_entry, if_pos hr, clearMark, if_pos hs] at hc
  have hu : (d.entry r).updated = false := congrArg DBMLogEntry.updated hc.symm
  have hsweep : sweeps d.conf [aHost] (d.entry r) = true := by simp [sweeps, hu, hs]
  obtain ⟨hm, hk⟩ := hdiscard r hr hne
  rw [discardMySQLDead_items, List.mem_filter, hsweep] at hm
  have ht : d.tracks (d.entry r) = true := by simpa using hm.2
  rw [discardMySQLDead_entry, if_pos hr, sweepEntry, hsweep, ht] at hk
  exact ⟨hu, congrArg DBMLogEntry.dead hk.symm, congrArg DBMLogEntry.processID hk.symm, ht⟩

end Exact

theorem ownsEntries_iff (d : Document) (aHost : HostRef) :
    d.OwnsEntries aHost ↔ d.ForeignRetired aHost := by
  refine ⟨fun h => foreignRetired_of_kept h.clears h.discards, fun h => ?_⟩
  refine
    { clears := h.clears
      queries := ?_
      rows := fun before now row later hq hlast => h.filesRow before hq hlast
      replication := ?_
      statuses := ?_
      failure := fun now => h.file_keepsOthers (failFiling now)
      failures := fun now => h.filesOwn (failFiling now) (fun _ => rfl)
      discards := h.discards }
  · intro results
    cases results with
    | none => exact KeepsOthers.refl aHost d
    | some rows => exact (h.updateRows rows).1
  · intro now slaveStatus
    cases slaveStatus with
    | none => exact KeepsOthers.refl aHost d
    | some status =>
      rw [updateMySQLSlaveStatus_eq]
      split
      · exact h.file_keepsOthers _
      · exact KeepsOthers.refl aHost d
  · intro now status hu
    rw [updateMySQLSlaveStatus_eq, if_pos hu]
    exact h.filesOwn (d.statusFiling aHost now status) (fun _ => rfl)

theorem unnamed_hosts_share_entries :
    let c := (Configuration.onePool { active := some 1 } [3, 4] (by decide) (fun _ => 1)
      (fun _ => 0)).withHostnames (fun _ => none)
    let row : QueryRow := { id := 8, host := "web", info := some [97], time := 9 }
    let other : QueryRow := { id := 8, host := "app", info := some [98], time := 3 }
    let d := (initial c 30 1).generateMySQLOperation 4 (.connected (some [(0, row)]) 0 none)
    ¬d.OwnsEntries 3 ∧ ∃ r ∈ d.items, (d.entry r).eventHost = 4 ∧
      (d.entry r).query = some row ∧ (d.entry r).updated = true ∧
      ((d.clearUpdates 3).entry r).updated = false ∧
      ((d.updateMySQLQueries 3 (some [(second, other)])).entry r).eventHost = 4 ∧
      ((d.updateMySQLQueries 3 (some [(second, other)])).entry r).query = some other := by
  intro c row other d
  refine ⟨fun h => ?_, 0, by decide +kernel⟩
  have hc := (h.clears 0 (by decide +kernel) (by decide +kernel)).2
  have hu := congrArg DBMLogEntry.updated hc
  revert hu
  decide +kernel

end Document

end DBMonitor
