import DBMonitor.Log.PollCycle

namespace DBMonitor

namespace Document

def Poll.processList : Poll → Option (List (Time × QueryRow))
  | .refused _ => none
  | .connected results _ _ => results

def Poll.replication (c : Configuration) (aHost : HostRef) : Poll → Option MysqlSlaveStatus
  | .refused _ => none
  | .connected _ _ slaveStatus => if c.isSlave aHost then slaveStatus else none

def Poll.fails (c : Configuration) (aHost : HostRef) (poll : Poll) : Bool :=
  poll.processList.isNone || (c.isSlave aHost && (poll.replication c aHost).isNone)

-- What the data that was fetched says about a key: still there, gone, or nothing.
def Poll.shows (c : Configuration) (aHost : HostRef) (poll : Poll) (pid : String) : Option Bool :=
  if pid = replicationID then (poll.replication c aHost).map MysqlSlaveStatus.unhealthy
  else poll.processList.map
    (fun rows => rows.any (fun row => qualifies c aHost row.2 && decide (printID row.2.id = pid)))

def isEvidential (e : DBMLogEntry) : Bool :=
  decide (e.processID ≠ deadProcess) && decide (e.processID ≠ connectFailID)

def SameContents (e e' : DBMLogEntry) : Prop := { e' with updated := e.updated } = e

def FailureSafe (aHost : HostRef) (poll : Poll) (d d' : Document) : Prop :=
  ∀ r ∈ d.items, isEvidential (d.entry r) = true →
    ¬ (d.conf.sameHostname (d.entry r).eventHost aHost = true ∧
      poll.shows d.conf aHost (d.entry r).processID = some false) →
    r ∈ d'.items ∧ (d'.entry r).processID = (d.entry r).processID ∧
      (poll.shows d.conf aHost (d.entry r).processID = some true ∨
        SameContents (d.entry r) (d'.entry r))

-- Every live entry of the hostname has a fetched answer, and is the one a filing would find.
def Answered (aHost : HostRef) (poll : Poll) (d : Document) : Prop :=
  ∀ r ∈ d.items, isEvidential (d.entry r) = true →
    d.conf.sameHostname (d.entry r).eventHost aHost = true →
    poll.shows d.conf aHost (d.entry r).processID = some false ∨
      (poll.shows d.conf aHost (d.entry r).processID = some true ∧
        d.find aHost (d.entry r).processID = some r)

section Keep
variable {d : Document} {aHost : HostRef} {r : EntryRef}

theorem cycle_keeps_iff (poll : Poll) (hr : r ∈ d.items)
    (hm : d.conf.sameHostname (d.entry r).eventHost aHost = true)
    (hlive : (d.entry r).processID ≠ deadProcess) :
    (r ∈ (d.generateMySQLOperation aHost poll).items ∧
        ((d.generateMySQLOperation aHost poll).entry r).processID = (d.entry r).processID) ↔
      (d.entry r).processID ∈ expectedIDs d.conf aHost poll ∧
        d.find aHost (d.entry r).processID = some r := by
  have hfiled := d.marking_filed aHost poll
  have hconf := (d.marking_settings aHost poll).1
  have hclear := d.clearUpdates_key aHost r
  have hkey := hfiled.key r (by rw [clearUpdates_next]; exact d.dataList.allocated r hr)
  have hpid : ((d.marking aHost poll).entry r).processID = (d.entry r).processID :=
    hkey.2.2.trans hclear.2.2
  have hsame : d.conf.sameHostname ((d.marking aHost poll).entry r).eventHost aHost = true := by
    rw [hkey.1, hclear.1, hm]
  have hmem : r ∈ (d.marking aHost poll).items := hfiled.kept r (by simpa using hr)
  have hsweep := sweeps_single aHost (d.marking aHost poll).conf
    ((d.marking aHost poll).entry r) (hconf ▸ hsame)
  rw [← filings_pid]
  constructor
  · rintro ⟨hr', hp⟩
    rw [generateMySQLOperation_eq] at hr' hp
    obtain ⟨_, _, hs⟩ := (discard_live _ aHost r).mp ⟨hr', hp ▸ hlive⟩
    rw [hsweep] at hs
    obtain ⟨f, hf, hfind⟩ := (d.marking_updated_iff aHost poll hmem hsame).mp (by simpa using hs)
    have hfp : f.pid = (d.entry r).processID := (find_mem _ aHost hfind).2.2.symm.trans hpid
    refine ⟨List.mem_map.mpr ⟨f, hf, hfp⟩, ?_⟩
    cases hd : d.find aHost (d.entry r).processID with
    | none => exact absurd rfl ((d.find_none_iff aHost).mp hd r hr hm)
    | some t =>
      have ht := hfiled.find_kept _ t ((d.clearUpdates_find aHost _).trans hd)
      rw [← hfp, hfind] at ht
      exact ht.symm
  · rintro ⟨hp, hfind⟩
    obtain ⟨f, hf, hfp⟩ := List.mem_map.mp hp
    have hmark := hfiled.find_kept _ r ((d.clearUpdates_find aHost _).trans hfind)
    have hu := (d.marking_updated_iff aHost poll hmem hsame).mpr ⟨f, hf, hfp ▸ hmark⟩
    have hs : sweeps (d.marking aHost poll).conf [aHost] ((d.marking aHost poll).entry r) =
        false := by
      rw [hsweep, hu]
      rfl
    have hd := (discard_live _ aHost r).mpr ⟨hmem, hpid ▸ hlive, hs⟩
    rw [generateMySQLOperation_eq]
    exact ⟨hd.1, by rw [discard_entry _ _ hs, hpid]⟩

theorem cycle_other (poll : Poll) (hr : r ∈ d.items)
    (hm : d.conf.sameHostname (d.entry r).eventHost aHost ≠ true) :
    r ∈ (d.generateMySQLOperation aHost poll).items ∧
      (d.generateMySQLOperation aHost poll).entry r = d.entry r := by
  have hfiled := d.marking_filed aHost poll
  have hconf := (d.marking_settings aHost poll).1
  have hclear : (d.clearUpdates aHost).entry r = d.entry r := by
    simp [clearUpdates_entry, clearMark, hm]
  have hlt : r < (d.clearUpdates aHost).dataList.next := by
    rw [clearUpdates_next]
    exact d.dataList.allocated r hr
  have hmem : r ∈ (d.marking aHost poll).items := hfiled.kept r (by simpa using hr)
  have hmark : (d.marking aHost poll).entry r = d.entry r := by
    rw [← hclear]
    refine (hfiled.untouched r hmem (fun f _ hfind => hm ?_)).2
    have hsame := (find_mem _ aHost hfind).2.1
    rwa [hconf, (hfiled.key r hlt).1, hclear] at hsame
  have hs : sweeps (d.marking aHost poll).conf [aHost] ((d.marking aHost poll).entry r) = false := by
    rw [hmark, hconf]
    simp [sweeps, hm]
  rw [generateMySQLOperation_eq, discardMySQLDead_items, List.mem_filter]
  exact ⟨⟨hmem, by simp [hs]⟩, (discard_entry _ _ hs).trans hmark⟩

end Keep

section Shows
variable {c : Configuration} {aHost : HostRef} {poll : Poll}

theorem shows_iff (hpos : ∀ row ∈ poll.rows, 0 ≤ row.2.id) {pid : String}
    (hfail : pid ≠ connectFailID) :
    poll.shows c aHost pid = some true ↔ pid ∈ expectedIDs c aHost poll := by
  cases poll with
  | refused now =>
    unfold Poll.shows
    split <;> simp [Poll.replication, Poll.processList, expectedIDs, hfail]
  | connected results now slaveStatus =>
    simp only [expectedIDs_connected, List.mem_append, List.mem_map, List.mem_filter]
    by_cases hp : pid = replicationID
    · have hrow : ¬ ∃ row, (row ∈ results.getD [] ∧ qualifies c aHost row.2 = true) ∧
          printID row.2.id = pid := by
        rintro ⟨row, ⟨hrow, _⟩, hid⟩
        exact printID_ne_replication (hpos row hrow) (hid.trans hp)
      rw [Poll.shows, if_pos hp, or_iff_right hrow, hp]
      cases hs : c.isSlave aHost <;> cases slaveStatus <;> simp [Poll.replication, hs]
    · rw [Poll.shows, if_neg hp]
      have hsent : pid ∉ (if c.isSlave aHost && slaveStatus.any MysqlSlaveStatus.unhealthy
          then [replicationID] else []) := by
        split <;> simp [hp]
      rw [or_iff_left hsent]
      cases results <;> simp [Poll.processList, and_assoc]

end Shows

theorem failureSafe_iff_answered {d : Document} {aHost : HostRef} {poll : Poll}
    (hpos : ∀ row ∈ poll.rows, 0 ≤ row.2.id) :
    FailureSafe aHost poll d (d.generateMySQLOperation aHost poll) ↔ Answered aHost poll d := by
  have hlive : ∀ r, isEvidential (d.entry r) = true →
      (d.entry r).processID ≠ deadProcess ∧ (d.entry r).processID ≠ connectFailID := by
    intro r he
    simpa [isEvidential] using he
  constructor
  · intro hsafe r hr he hm
    by_cases hgone : poll.shows d.conf aHost (d.entry r).processID = some false
    · exact Or.inl hgone
    · obtain ⟨hr', hp, _⟩ := hsafe r hr he (fun h => hgone h.2)
      obtain ⟨hmem, hfind⟩ := (cycle_keeps_iff poll hr hm (hlive r he).1).mp ⟨hr', hp⟩
      exact Or.inr ⟨(shows_iff hpos (hlive r he).2).mpr hmem, hfind⟩
  · intro hans r hr he hgone
    by_cases hm : d.conf.sameHostname (d.entry r).eventHost aHost = true
    · obtain hfalse | ⟨htrue, hfind⟩ := hans r hr he hm
      · exact absurd ⟨hm, hfalse⟩ hgone
      · have hmem := (shows_iff hpos (hlive r he).2).mp htrue
        obtain ⟨hr', hp⟩ := (cycle_keeps_iff poll hr hm (hlive r he).1).mpr ⟨hmem, hfind⟩
        exact ⟨hr', hp, Or.inl htrue⟩
    · obtain ⟨hr', hentry⟩ := cycle_other poll hr hm
      refine ⟨hr', by rw [hentry], Or.inr ?_⟩
      rw [SameContents, hentry]

theorem failureSafe_iff_answered_slave :
    let c := Configuration.onePool { active := some 1 } [3] (by decide) (fun _ => 1) (fun _ => 1)
    let query : QueryRow := { id := 8, host := "web", info := some [115], time := 9 }
    let d := (initial c 30 0).runSections (pollSections c 3 (.connected (some [(0, query)]) 1 none))
    let poll : Poll := .connected (some [(2000000, query)]) 2100000 none
    FailureSafe 3 poll d (d.generateMySQLOperation 3 poll) ↔ Answered 3 poll d := by
  intro c query d poll
  exact failureSafe_iff_answered (by decide)

theorem refused_loses_running_query :
    let c := Configuration.onePool { active := some 1 } [3] (by decide) (fun _ => 1) (fun _ => 0)
    let query : QueryRow := { id := 8, host := "web", info := some [115], time := 9 }
    let d := (initial c 30 0).runSections (pollSections c 3 (.connected (some [(0, query)]) 1 none))
    let poll : Poll := .refused 2000000
    poll.fails d.conf 3 = true ∧ 0 ∈ d.items ∧ (d.entry 0).processID = "8" ∧
      0 ∉ (d.generateMySQLOperation 3 poll).items ∧
      ¬ FailureSafe 3 poll d (d.generateMySQLOperation 3 poll) := by
  intro c query d poll
  have hmem : 0 ∈ d.items := by decide
  have hgone : 0 ∉ (d.generateMySQLOperation 3 poll).items := by decide
  refine ⟨rfl, hmem, by decide, hgone, fun hsafe => hgone ?_⟩
  exact (hsafe 0 hmem (by decide) (by decide)).1

end Document

end DBMonitor
