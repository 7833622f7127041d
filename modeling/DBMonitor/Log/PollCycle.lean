import DBMonitor.Log.Keys

namespace DBMonitor

namespace Document

section Filings
variable (aHost : HostRef)

def fileAll (d : Document) (fs : List Filing) : Document :=
  fs.foldl (fun d f => d.file aHost f) d

def rowFilings (d : Document) (results : Option (List (Time × QueryRow))) : List Filing :=
  ((results.getD []).filter (fun row => qualifies d.conf aHost row.2)).map
    (fun row => d.rowFiling aHost row.1 row.2)

def statusFilings (d : Document) (now : Time) (slaveStatus : Option MysqlSlaveStatus) :
    List Filing :=
  if d.conf.isSlave aHost then
    (slaveStatus.toList.filter MysqlSlaveStatus.unhealthy).map (d.statusFiling aHost now)
  else []

def filings (d : Document) : Poll → List Filing
  | .refused now => [failFiling now]
  | .connected results now slaveStatus =>
    d.rowFilings aHost results ++ d.statusFilings aHost now slaveStatus

def marking (d : Document) (poll : Poll) : Document :=
  (d.clearUpdates aHost).fileAll aHost (d.filings aHost poll)

variable {a b d : Document}

theorem rowFilings_congr (h : SameSettings a b) (results : Option (List (Time × QueryRow))) :
    a.rowFilings aHost results = b.rowFilings aHost results := by
  obtain ⟨listA, confA, sliderA, trackA, rowA, currentA⟩ := a
  obtain ⟨listB, confB, sliderB, trackB, rowB, currentB⟩ := b
  obtain ⟨hc, hs, ht⟩ := h
  simp only at hc hs ht
  subst hc hs ht
  rfl

theorem statusFilings_congr (h : SameSettings a b) (now : Time)
    (slaveStatus : Option MysqlSlaveStatus) :
    a.statusFilings aHost now slaveStatus = b.statusFilings aHost now slaveStatus := by
  obtain ⟨listA, confA, sliderA, trackA, rowA, currentA⟩ := a
  obtain ⟨listB, confB, sliderB, trackB, rowB, currentB⟩ := b
  obtain ⟨hc, hs, ht⟩ := h
  simp only at hc hs ht
  subst hc hs ht
  rfl

theorem fileAll_settings (fs : List Filing) : SameSettings (d.fileAll aHost fs) d := by
  induction fs generalizing d with
  | nil => exact SameSettings.refl d
  | cons f fs ih => exact ih.trans (d.file_settings aHost f)

theorem updateMySQLQueries_eq (results : Option (List (Time × QueryRow))) :
    d.updateMySQLQueries aHost results = d.fileAll aHost (d.rowFilings aHost results) := by
  cases results with
  | none => rfl
  | some rows =>
    change rows.foldl (fun d row => d.updateRow row.1 aHost row.2) d = _
    induction rows generalizing d with
    | nil => rfl
    | cons row rows ih =>
      rw [List.foldl_cons, ih, updateRow_eq]
      cases hq : qualifies d.conf aHost row.2 with
      | false => simp [rowFilings, hq]
      | true =>
        simp only [if_true]
        rw [rowFilings_congr aHost (d.file_settings aHost (d.rowFiling aHost row.1 row.2))]
        simp [rowFilings, hq, fileAll]

theorem updateMySQLSlaveStatus_filings (now : Time) (slaveStatus : Option MysqlSlaveStatus) :
    (if d.conf.isSlave aHost then d.updateMySQLSlaveStatus now aHost slaveStatus else d) =
      d.fileAll aHost (d.statusFilings aHost now slaveStatus) := by
  unfold statusFilings
  split
  · cases slaveStatus with
    | none => rfl
    | some status =>
      rw [updateMySQLSlaveStatus_eq]
      cases hu : status.unhealthy <;> simp [hu, fileAll]
  · rfl

theorem generateMySQLOperation_eq (poll : Poll) :
    d.generateMySQLOperation aHost poll = (d.marking aHost poll).discardMySQLDead aHost := by
  cases poll with
  | refused now => rfl
  | connected results now slaveStatus =>
    have hclear := d.clearUpdates_settings aHost
    have hrows : (d.clearUpdates aHost).updateMySQLQueries aHost results =
        (d.clearUpdates aHost).fileAll aHost (d.rowFilings aHost results) := by
      rw [updateMySQLQueries_eq, rowFilings_congr aHost hclear]
    have hset := (fileAll_settings aHost (d.rowFilings aHost results)).trans hclear
    have hstatus := ((d.clearUpdates aHost).fileAll aHost
      (d.rowFilings aHost results)).updateMySQLSlaveStatus_filings aHost now slaveStatus
    rw [statusFilings_congr aHost hset, hset.1] at hstatus
    simp only [generateMySQLOperation, hrows, hstatus]
    exact congrArg (discardMySQLDead aHost) (List.foldl_append ..).symm

end Filings

structure Filed (aHost : HostRef) (fs : List Filing) (d D : Document) : Prop where
  settings : SameSettings D d
  next_le : d.dataList.next ≤ D.dataList.next
  kept : ∀ r ∈ d.items, r ∈ D.items
  fresh : ∀ r ∈ D.items, r ∈ d.items ∨
    (d.dataList.next ≤ r ∧ (D.entry r).eventHost = aHost)
  key : ∀ r, r < d.dataList.next → (D.entry r).eventHost = (d.entry r).eventHost ∧
    (D.entry r).eventTime = (d.entry r).eventTime ∧
    (D.entry r).processID = (d.entry r).processID
  find_other : ∀ q, (∀ f ∈ fs, f.pid ≠ q) → D.find aHost q = d.find aHost q
  find_kept : ∀ q r, d.find aHost q = some r → D.find aHost q = some r
  find_filed : ∀ f ∈ fs, ∃ r, D.find aHost f.pid = some r ∧ (D.entry r).updated = true
  untouched : ∀ r ∈ D.items, (∀ f ∈ fs, D.find aHost f.pid ≠ some r) →
    r ∈ d.items ∧ D.entry r = d.entry r

section Filed
variable {aHost : HostRef} {d D : Document} {fs : List Filing}

theorem Filed.nil (aHost : HostRef) (d : Document) : Filed aHost [] d d where
  settings := SameSettings.refl d
  next_le := Nat.le_refl _
  kept := fun _ h => h
  fresh := fun _ h => Or.inl h
  key := fun _ _ => ⟨rfl, rfl, rfl⟩
  find_other := fun _ _ => rfl
  find_kept := fun _ _ h => h
  find_filed := by simp
  untouched := fun _ h _ => ⟨h, rfl⟩

theorem Filed.find_file_kept (D : Document) (f : Filing) {q : String} {r : EntryRef}
    (h : D.find aHost q = some r) : (D.file aHost f).find aHost q = some r := by
  rw [find_file]
  split
  next hq => rw [D.target_of_find aHost (hq ▸ h)]
  next => exact h

theorem Filed.snoc (h : Filed aHost fs d D) (f : Filing) :
    Filed aHost (fs ++ [f]) d (D.file aHost f) where
  settings := (D.file_settings aHost f).trans h.settings
  next_le := h.next_le.trans (D.file_next_le aHost f)
  kept := fun r hr => (D.mem_file aHost f r).mpr (Or.inl (h.kept r hr))
  fresh := by
    intro r hr
    by_cases hm : r ∈ D.items
    · refine (h.fresh r hm).imp_right (fun hf => ⟨hf.1, ?_⟩)
      rw [(D.file_key aHost f (D.dataList.allocated r hm)).1]
      exact hf.2
    · have ht := ((D.mem_file aHost f r).mp hr).resolve_left hm
      rcases D.target_mem_or_fresh aHost f.pid with hfind | ⟨hfind, hnext⟩
      · exact absurd (ht ▸ (D.find_mem aHost hfind).1) hm
      · refine Or.inr ⟨?_, ?_⟩
        · rw [ht, hnext]
          exact h.next_le
        · rw [ht]
          exact D.file_fresh aHost f hfind
  key := by
    intro r hr
    obtain ⟨hh, ht, hp⟩ := D.file_key aHost f (Nat.lt_of_lt_of_le hr h.next_le)
    obtain ⟨kh, kt, kp⟩ := h.key r hr
    exact ⟨hh.trans kh, ht.trans kt, hp.trans kp⟩
  find_other := by
    intro q hq
    have hne : q ≠ f.pid := fun heq => hq f (by simp) heq.symm
    rw [find_file, if_neg hne]
    exact h.find_other q (fun g hg => hq g (by simp [hg]))
  find_kept := fun q r hr => Filed.find_file_kept D f (h.find_kept q r hr)
  find_filed := by
    intro g hg
    rcases List.mem_append.mp hg with hg | hg
    · obtain ⟨r, hr, hu⟩ := h.find_filed g hg
      refine ⟨r, Filed.find_file_kept D f hr, ?_⟩
      by_cases ht : r = D.target aHost f.pid
      · rw [ht, file_target, f.marks]
      · rw [D.file_entry aHost f ht]
        exact hu
    · obtain rfl := List.mem_singleton.mp hg
      refine ⟨D.target aHost g.pid, ?_, ?_⟩
      · rw [find_file, if_pos rfl]
      · rw [file_target, g.marks]
  untouched := by
    intro r hr hn
    have ht : r ≠ D.target aHost f.pid := by
      intro heq
      apply hn f (by simp)
      rw [find_file, if_pos rfl, heq]
    rw [D.file_entry aHost f ht]
    refine h.untouched r (((D.mem_file aHost f r).mp hr).resolve_right ht) ?_
    intro g hg hfind
    exact hn g (by simp [hg]) (Filed.find_file_kept D f hfind)

theorem fileAll_filed (aHost : HostRef) (d : Document) (fs : List Filing) :
    Filed aHost fs d (d.fileAll aHost fs) := by
  induction fs using List.reverseRecOn with
  | nil => exact Filed.nil aHost d
  | append_singleton fs f ih =>
    have hstep : d.fileAll aHost (fs ++ [f]) = (d.fileAll aHost fs).file aHost f := by
      simp [fileAll]
    rw [hstep]
    exact ih.snoc f

theorem Filed.filedOver (h : Filed aHost fs d D) {f : Filing} (hf : ∀ g ∈ fs, g.pid ≠ f.pid) :
    D.filedOver aHost f = d.filedOver aHost f := by
  have hfind := h.find_other f.pid hf
  cases hd : d.find aHost f.pid with
  | none => simp [Document.filedOver, hfind, hd]
  | some r =>
    rw [hd] at hfind
    rw [D.filedOver_of_find aHost f hfind, d.filedOver_of_find aHost f hd]
    obtain ⟨hr, _, hp⟩ := D.find_mem aHost hfind
    refine (h.untouched r hr (fun g hg hg' => hf g hg ?_)).2
    rw [← (D.find_mem aHost hg').2.2, hp]

theorem fileAll_entry (aHost : HostRef) (d : Document) {fs : List Filing}
    (hn : (fs.map Filing.pid).Nodup) : ∀ f ∈ fs, ∃ r, (d.fileAll aHost fs).find aHost f.pid = some r ∧
      (d.fileAll aHost fs).entry r = f.write (d.filedOver aHost f) := by
  induction fs using List.reverseRecOn with
  | nil => simp
  | append_singleton fs f ih =>
    rw [List.map_append, List.map_singleton, List.nodup_append] at hn
    have hfiled := fileAll_filed aHost d fs
    have hother : ∀ g ∈ fs, g.pid ≠ f.pid := fun g hg =>
      hn.2.2 g.pid (List.mem_map_of_mem hg) f.pid (by simp)
    have hstep : d.fileAll aHost (fs ++ [f]) = (d.fileAll aHost fs).file aHost f := by
      simp [fileAll]
    rw [hstep]
    intro g hg
    rcases List.mem_append.mp hg with hg | hg
    · obtain ⟨r, hr, he⟩ := ih hn.1 g hg
      refine ⟨r, Filed.find_file_kept _ f hr, ?_⟩
      rw [file_entry, he]
      intro ht
      rcases (d.fileAll aHost fs).target_mem_or_fresh aHost f.pid with hfind | ⟨_, hnext⟩
      · apply hother g hg
        rw [← ht] at hfind
        rw [← (find_mem _ aHost hr).2.2, (find_mem _ aHost hfind).2.2]
      · exact next_not_mem _ (hnext ▸ ht ▸ (find_mem _ aHost hr).1)
    · obtain rfl := List.mem_singleton.mp hg
      refine ⟨_, by rw [find_file, if_pos rfl], ?_⟩
      rw [file_target, hfiled.filedOver hother]

end Filed

section Sweep
variable (d : Document) (aHost : HostRef)

theorem discard_entry {r : EntryRef} (h : sweeps d.conf [aHost] (d.entry r) = false) :
    (d.discardMySQLDead aHost).entry r = d.entry r := by
  rw [discardMySQLDead_entry]
  split
  · simp [sweepEntry, h]
  · rfl

theorem discard_live (r : EntryRef) :
    (r ∈ (d.discardMySQLDead aHost).items ∧
        ((d.discardMySQLDead aHost).entry r).processID ≠ deadProcess) ↔
      r ∈ d.items ∧ (d.entry r).processID ≠ deadProcess ∧
        sweeps d.conf [aHost] (d.entry r) = false := by
  rw [discardMySQLDead_items, List.mem_filter, discardMySQLDead_entry]
  constructor
  · rintro ⟨⟨hr, hk⟩, hp⟩
    rw [if_pos hr] at hp
    cases hs : sweeps d.conf [aHost] (d.entry r) with
    | false => exact ⟨hr, by simpa [sweepEntry, hs] using hp, rfl⟩
    | true =>
      have ht : d.tracks (d.entry r) = true := by simpa [hs] using hk
      simp [sweepEntry, hs, ht, relabel] at hp
  · rintro ⟨hr, hp, hs⟩
    exact ⟨⟨hr, by simp [hs]⟩, by simpa [hr, sweepEntry, hs] using hp⟩

theorem sweeps_single (c : Configuration) (e : DBMLogEntry)
    (h : c.sameHostname e.eventHost aHost = true) : sweeps c [aHost] e = !e.updated := by
  simp [sweeps, h]

theorem marking_filed (poll : Poll) :
    Filed aHost (d.filings aHost poll) (d.clearUpdates aHost) (d.marking aHost poll) :=
  fileAll_filed aHost _ _

theorem marking_settings (poll : Poll) : SameSettings (d.marking aHost poll) d :=
  (d.marking_filed aHost poll).settings.trans (d.clearUpdates_settings aHost)

theorem clearUpdates_key (r : EntryRef) :
    ((d.clearUpdates aHost).entry r).eventHost = (d.entry r).eventHost ∧
      ((d.clearUpdates aHost).entry r).eventTime = (d.entry r).eventTime ∧
      ((d.clearUpdates aHost).entry r).processID = (d.entry r).processID := by
  rw [clearUpdates_entry, clearMark]
  split <;> (try split) <;> exact ⟨rfl, rfl, rfl⟩

theorem clearUpdates_unmarked {r : EntryRef} (hr : r ∈ d.items)
    (h : d.conf.sameHostname (d.entry r).eventHost aHost = true) :
    ((d.clearUpdates aHost).entry r).updated = false := by
  simp [clearUpdates_entry, clearMark, hr, h]

theorem clearUpdates_find (q : String) :
    (d.clearUpdates aHost).find aHost q = d.find aHost q := by
  refine ObjectArray.lastMatch_congr (d.clearUpdates_items aHost) (fun r _ => ?_)
  obtain ⟨hh, _, hp⟩ := d.clearUpdates_key aHost r
  change matchesKey d.conf aHost q ((d.clearUpdates aHost).entry r) =
    matchesKey d.conf aHost q (d.entry r)
  rw [matchesKey, matchesKey, hh, hp]

theorem marking_updated_iff (poll : Poll) {r : EntryRef} (hr : r ∈ (d.marking aHost poll).items)
    (h : d.conf.sameHostname ((d.marking aHost poll).entry r).eventHost aHost = true) :
    ((d.marking aHost poll).entry r).updated = true ↔
      ∃ f ∈ d.filings aHost poll, (d.marking aHost poll).find aHost f.pid = some r := by
  have hf := d.marking_filed aHost poll
  constructor
  · intro hu
    by_contra hn
    have hnone : ∀ f ∈ d.filings aHost poll, (d.marking aHost poll).find aHost f.pid ≠ some r :=
      fun f hm he => hn ⟨f, hm, he⟩
    obtain ⟨hm, he⟩ := hf.untouched r hr hnone
    rw [he, (d.clearUpdates_key aHost r).1] at h
    rw [he, d.clearUpdates_unmarked aHost (by simpa using hm) h] at hu
    exact absurd hu (by decide)
  · rintro ⟨f, hm, hfind⟩
    obtain ⟨t, ht, hu⟩ := hf.find_filed f hm
    rw [hfind] at ht
    exact (Option.some.inj ht) ▸ hu

end Sweep

def liveEntries (d : Document) (aHost : HostRef) : List EntryRef :=
  d.items.filter (fun r => decide ((d.entry r).eventHost = aHost) &&
    decide ((d.entry r).processID ≠ deadProcess))

theorem mem_liveEntries {d : Document} {aHost : HostRef} {r : EntryRef} :
    r ∈ d.liveEntries aHost ↔
      r ∈ d.items ∧ (d.entry r).eventHost = aHost ∧ (d.entry r).processID ≠ deadProcess := by
  simp [liveEntries, List.mem_filter]

section Cycle
variable {d : Document} {aHost : HostRef}

theorem cycle_live (howns : d.conf.OwnsHostname aHost) (poll : Poll) (r : EntryRef) :
    r ∈ (d.generateMySQLOperation aHost poll).liveEntries aHost ↔
      ∃ f ∈ d.filings aHost poll, (d.marking aHost poll).find aHost f.pid = some r := by
  have hconf := (d.marking_settings aHost poll).1
  have hdiscard := (d.marking aHost poll).discard_live aHost r
  rw [mem_liveEntries, generateMySQLOperation_eq]
  constructor
  · rintro ⟨hr, hh, hp⟩
    obtain ⟨hm, _, hs⟩ := hdiscard.mp ⟨hr, hp⟩
    rw [discard_entry _ _ hs] at hh
    have hsame : d.conf.sameHostname ((d.marking aHost poll).entry r).eventHost aHost = true := by
      rw [hh]
      exact d.conf.sameHostname_self aHost
    rw [sweeps_single _ _ _ (hconf ▸ hsame)] at hs
    exact (d.marking_updated_iff aHost poll hm hsame).mp (by simpa using hs)
  · rintro ⟨f, hm, hfind⟩
    obtain ⟨hr, hsame, hp⟩ := find_mem _ aHost hfind
    have hu := (d.marking_updated_iff aHost poll hr (hconf ▸ hsame)).mpr ⟨f, hm, hfind⟩
    have hs : sweeps (d.marking aHost poll).conf [aHost] ((d.marking aHost poll).entry r) = false := by
      rw [sweeps_single _ _ _ hsame, hu]
      rfl
    obtain ⟨hmem, hlive⟩ := hdiscard.mpr ⟨hr, hp ▸ f.live, hs⟩
    refine ⟨hmem, ?_, hlive⟩
    rw [discard_entry _ _ hs]
    exact howns _ (hconf ▸ hsame)

theorem cycle_entry {poll : Poll} {f : Filing} {r : EntryRef} (hm : f ∈ d.filings aHost poll)
    (hfind : (d.marking aHost poll).find aHost f.pid = some r) :
    (d.generateMySQLOperation aHost poll).entry r = (d.marking aHost poll).entry r := by
  obtain ⟨hr, hsame, _⟩ := find_mem _ aHost hfind
  have hconf := (d.marking_settings aHost poll).1
  have hu := (d.marking_updated_iff aHost poll hr (hconf ▸ hsame)).mpr ⟨f, hm, hfind⟩
  rw [generateMySQLOperation_eq]
  refine discard_entry _ _ ?_
  rw [sweeps_single _ _ _ hsame, hu]
  rfl

theorem cycle_kept {poll : Poll} (howns : d.conf.OwnsHostname aHost) (hkeys : d.KeysUnique Eq)
    {r : EntryRef} (hr : r ∈ d.liveEntries aHost) {f : Filing}
    (hp : f.pid = (d.entry r).processID) :
    (d.marking aHost poll).find aHost f.pid = some r := by
  obtain ⟨hm, hh, hlive⟩ := mem_liveEntries.mp hr
  refine (d.marking_filed aHost poll).find_kept f.pid r ?_
  rw [clearUpdates_find]
  refine ObjectArray.lastMatch_unique hm ?_ ?_
  · change matchesKey d.conf aHost f.pid (d.entry r) = true
    simp [matchesKey, hh, hp]
  · intro s hs hmatch
    change matchesKey d.conf aHost f.pid (d.entry s) = true at hmatch
    simp only [matchesKey, Bool.and_eq_true, decide_eq_true_eq] at hmatch
    refine (hkeys.eq (fun _ _ => Eq.symm) hm hs ?_ ?_ hlive).symm
    · rw [hh, howns _ hmatch.1]
    · rw [← hp, hmatch.2]

end Cycle

def pollSections (c : Configuration) (aHost : HostRef) : Poll → List Section
  | .refused now => [.clearUpdates aHost, .updateMySQLFail now aHost, .discardMySQLDead aHost]
  | .connected results now slaveStatus =>
    .clearUpdates aHost :: ((results.getD []).map (fun row => .updateRow row.1 aHost row.2) ++
      (if c.isSlave aHost then slaveStatus.toList.map (.updateMySQLSlaveStatus now aHost) else []) ++
      [.discardMySQLDead aHost])

theorem generateMySQLOperation_sections (d : Document) (aHost : HostRef) (poll : Poll) :
    d.generateMySQLOperation aHost poll = d.runSections (pollSections d.conf aHost poll) := by
  cases poll with
  | refused now => rfl
  | connected results now slaveStatus =>
    have hrows : ∀ a : Document, a.updateMySQLQueries aHost results =
        ((results.getD []).map (fun row => Section.updateRow row.1 aHost row.2)).foldl exec a := by
      intro a
      rw [List.foldl_map]
      cases results <;> rfl
    have hstatus : ∀ a : Document, (if d.conf.isSlave aHost
        then a.updateMySQLSlaveStatus now aHost slaveStatus else a) =
        (if d.conf.isSlave aHost then slaveStatus.toList.map (.updateMySQLSlaveStatus now aHost)
          else []).foldl exec a := by
      intro a
      cases d.conf.isSlave aHost <;> cases slaveStatus <;> rfl
    simp only [generateMySQLOperation, pollSections, runSections, List.foldl_cons,
      List.foldl_append, ← hrows, ← hstatus]
    rfl

theorem runSections_keysUnique {d : Document} {sections : List Section}
    (h : d.KeysUnique Eq) : (d.runSections sections).KeysUnique Eq := by
  refine Transition.foldl_invariant h (fun e he s _ => ?_)
  refine exec_keysUnique (fun _ _ => Eq.symm) ?_ he
  rintro a _ rfl
  exact e.conf.sameHostname_self a

def Poll.rows : Poll → List (Time × QueryRow)
  | .refused _ => []
  | .connected results _ _ => results.getD []

def expectedIDs (c : Configuration) (aHost : HostRef) : Poll → List String
  | .refused _ => [connectFailID]
  | .connected results _ slaveStatus =>
    ((results.getD []).filter (fun row =>
        row.2.info.isSome && decide (intValue row.2.time > c.monitorTimer aHost))).map
          (fun row => printID row.2.id) ++
      if c.isSlave aHost && slaveStatus.any (fun status =>
          decide (status.secondsBehindMaster > 1) || !status.slaveSQLRunning ||
            !status.slaveIORunning)
      then [replicationID] else []

def CarriesRow (d : Document) (now : Time) (aHost : HostRef) (row : QueryRow) (e : DBMLogEntry) :
    Prop :=
  e.processID = printID row.id ∧ e.query = some row ∧
    e.eventString = some (row.host ++ " - " ++ queryString (row.info.getD [])) ∧
    e.duration = (if intValue row.time = 2147483647 then 1 else intValue row.time) ∧
    e.displayTimeout =
      if e.duration ≥ d.conf.triggerTimer aHost then some (d.displayDeadline now) else none

theorem expectedIDs_connected (c : Configuration) (aHost : HostRef)
    (results : Option (List (Time × QueryRow))) (now : Time)
    (slaveStatus : Option MysqlSlaveStatus) :
    expectedIDs c aHost (.connected results now slaveStatus) =
      ((results.getD []).filter (fun row => qualifies c aHost row.2)).map
          (fun row => printID row.2.id) ++
        if c.isSlave aHost && slaveStatus.any MysqlSlaveStatus.unhealthy then [replicationID]
        else [] := rfl

theorem filings_pid (d : Document) (aHost : HostRef) (poll : Poll) :
    (d.filings aHost poll).map Filing.pid = expectedIDs d.conf aHost poll := by
  cases poll with
  | refused now => rfl
  | connected results now slaveStatus =>
    have hrows : (d.rowFilings aHost results).map Filing.pid =
        ((results.getD []).filter (fun row => qualifies d.conf aHost row.2)).map
          (fun row => printID row.2.id) := by
      simp [rowFilings, rowFiling, Function.comp_def]
    have hstatus : (d.statusFilings aHost now slaveStatus).map Filing.pid =
        if d.conf.isSlave aHost && slaveStatus.any MysqlSlaveStatus.unhealthy then [replicationID]
        else [] := by
      cases hs : d.conf.isSlave aHost with
      | false => simp [statusFilings, hs]
      | true =>
        cases slaveStatus with
        | none => simp [statusFilings]
        | some status =>
          cases hu : status.unhealthy <;> simp [statusFilings, statusFiling, hs, hu]
    simp only [filings, List.map_append, hrows, hstatus, expectedIDs_connected]

theorem expectedIDs_nodup {c : Configuration} {aHost : HostRef} {poll : Poll}
    (hids : (poll.rows.map (fun row => row.2.id)).Nodup) (hpos : ∀ row ∈ poll.rows, 0 ≤ row.2.id) :
    (expectedIDs c aHost poll).Nodup := by
  cases poll with
  | refused now => simp [expectedIDs]
  | connected results now slaveStatus =>
    have hsub : ((results.getD []).filter (fun row => qualifies c aHost row.2)).Sublist
        (results.getD []) := List.filter_sublist
    have hrows := (hids.sublist (hsub.map _)).map (fun _ _ => printID_injective)
    rw [List.map_map] at hrows
    refine List.nodup_append.mpr ⟨hrows, by split <;> simp, ?_⟩
    intro p hp q hq heq
    obtain ⟨row, hrow, rfl⟩ := List.mem_map.mp hp
    have hq' : q = replicationID := by
      split at hq <;> simp_all
    exact printID_ne_replication (hpos row (hsub.subset hrow)) (heq.trans hq')

def Reconciled (aHost : HostRef) (poll : Poll) (d d' : Document) : Prop :=
  ((d'.liveEntries aHost).map (fun r => (d'.entry r).processID)).Perm
      (expectedIDs d.conf aHost poll) ∧
    (∀ row ∈ poll.rows, row.2.info.isSome = true →
      intValue row.2.time > d.conf.monitorTimer aHost →
        ∃ r ∈ d'.liveEntries aHost, CarriesRow d row.1 aHost row.2 (d'.entry r)) ∧
    ∀ r ∈ d.liveEntries aHost, (d.entry r).processID ∈ expectedIDs d.conf aHost poll →
      r ∈ d'.liveEntries aHost ∧ (d'.entry r).processID = (d.entry r).processID ∧
        (d'.entry r).eventTime = (d.entry r).eventTime

section Reconciliation
variable {d : Document} {aHost : HostRef} {poll : Poll}

theorem cycle_ids (hkeys : d.KeysUnique Eq) (howns : d.conf.OwnsHostname aHost)
    (hids : (expectedIDs d.conf aHost poll).Nodup) :
    (((d.generateMySQLOperation aHost poll).liveEntries aHost).map
      (fun r => ((d.generateMySQLOperation aHost poll).entry r).processID)).Perm
      (expectedIDs d.conf aHost poll) := by
  have hkeys' : (d.generateMySQLOperation aHost poll).KeysUnique Eq := by
    rw [generateMySQLOperation_sections]
    exact runSections_keysUnique hkeys
  have hlive : (((d.generateMySQLOperation aHost poll).liveEntries aHost).map
      (fun r => ((d.generateMySQLOperation aHost poll).entry r).processID)).Nodup := by
    refine List.pairwise_map.mpr ((hkeys'.sublist List.filter_sublist).imp_of_mem ?_)
    intro r t hr ht hrt hp
    obtain ⟨_, hrh, hrp⟩ := mem_liveEntries.mp hr
    obtain ⟨_, hth, _⟩ := mem_liveEntries.mp ht
    exact hrp (hrt (hrh.trans hth.symm) hp)
  refine (List.perm_ext_iff_of_nodup hlive hids).mpr (fun pid => ?_)
  rw [← filings_pid]
  simp only [List.mem_map]
  constructor
  · rintro ⟨r, hr, rfl⟩
    obtain ⟨f, hf, hfind⟩ := (cycle_live howns poll r).mp hr
    refine ⟨f, hf, ?_⟩
    rw [cycle_entry hf hfind, (find_mem _ aHost hfind).2.2]
  · rintro ⟨f, hf, rfl⟩
    obtain ⟨r, hfind, _⟩ := (d.marking_filed aHost poll).find_filed f hf
    refine ⟨r, (cycle_live howns poll r).mpr ⟨f, hf, hfind⟩, ?_⟩
    rw [cycle_entry hf hfind, (find_mem _ aHost hfind).2.2]

theorem cycle_row (howns : d.conf.OwnsHostname aHost)
    (hids : (expectedIDs d.conf aHost poll).Nodup) {row : Time × QueryRow} (hrow : row ∈ poll.rows)
    (hq : qualifies d.conf aHost row.2 = true) :
    ∃ r ∈ (d.generateMySQLOperation aHost poll).liveEntries aHost,
      CarriesRow d row.1 aHost row.2 ((d.generateMySQLOperation aHost poll).entry r) := by
  cases poll with
  | refused now => simp [Poll.rows] at hrow
  | connected results now slaveStatus =>
    have hf : d.rowFiling aHost row.1 row.2 ∈
        d.filings aHost (.connected results now slaveStatus) :=
      List.mem_append_left _ (List.mem_map.mpr ⟨row, List.mem_filter.mpr ⟨hrow, hq⟩, rfl⟩)
    rw [← filings_pid] at hids
    obtain ⟨r, hfind, he⟩ := fileAll_entry aHost (d.clearUpdates aHost) hids _ hf
    have hr := (cycle_live howns _ r).mpr ⟨_, hf, hfind⟩
    refine ⟨r, hr, ?_⟩
    rw [cycle_entry hf hfind]
    refine ⟨(find_mem _ aHost hfind).2.2, ?_⟩
    change (d.marking aHost (.connected results now slaveStatus)).entry r = _ at he
    rw [he]
    exact ⟨rfl, rfl, rfl, rfl⟩

theorem cycle_same_entry (hkeys : d.KeysUnique Eq) (howns : d.conf.OwnsHostname aHost)
    {r : EntryRef} (hr : r ∈ d.liveEntries aHost)
    (hp : (d.entry r).processID ∈ expectedIDs d.conf aHost poll) :
    r ∈ (d.generateMySQLOperation aHost poll).liveEntries aHost ∧
      ((d.generateMySQLOperation aHost poll).entry r).processID = (d.entry r).processID ∧
      ((d.generateMySQLOperation aHost poll).entry r).eventTime = (d.entry r).eventTime := by
  rw [← filings_pid] at hp
  obtain ⟨f, hf, hfp⟩ := List.mem_map.mp hp
  have hfind : (d.marking aHost poll).find aHost f.pid = some r := cycle_kept howns hkeys hr hfp
  have hlt : r < (d.clearUpdates aHost).dataList.next := by
    rw [clearUpdates_next]
    exact d.dataList.allocated r (mem_liveEntries.mp hr).1
  have hkey := (d.marking_filed aHost poll).key r hlt
  have hclear := d.clearUpdates_key aHost r
  refine ⟨(cycle_live howns poll r).mpr ⟨f, hf, hfind⟩, ?_, ?_⟩
  · rw [cycle_entry hf hfind, hkey.2.2, hclear.2.2]
  · rw [cycle_entry hf hfind, hkey.2.1, hclear.2.1]

theorem generateMySQLOperation_reconciles (hkeys : d.KeysUnique Eq)
    (howns : d.conf.OwnsHostname aHost)
    (hids : (poll.rows.map (fun row => row.2.id)).Nodup)
    (hpos : ∀ row ∈ poll.rows, 0 ≤ row.2.id) :
    Reconciled aHost poll d (d.generateMySQLOperation aHost poll) := by
  have hnodup : (expectedIDs d.conf aHost poll).Nodup := expectedIDs_nodup hids hpos
  refine ⟨cycle_ids hkeys howns hnodup, fun row hrow hinfo htime => ?_,
    fun r hr hp => cycle_same_entry hkeys howns hr hp⟩
  have hq : qualifies d.conf aHost row.2 = true := by
    rw [qualifies, hinfo, Bool.true_and]
    exact decide_eq_true htime
  exact cycle_row howns hnodup hrow hq

end Reconciliation

theorem generateMySQLOperation_reconciles_slave :
    let c := Configuration.onePool { active := some 1 } [3] (by decide) (fun _ => 1) (fun _ => 1)
    let long : QueryRow := { id := 8, host := "web", info := some [115], time := 9 }
    let d := (initial c 30 1).runSections (pollSections c 3 (.connected (some [(0, long)]) 1 none))
    let poll : Poll := .connected
      (some [(2000000, long), (2000000, { long with id := 9, time := 2 })]) 2100000
      (some { secondsBehindMaster := 4, slaveSQLRunning := true, slaveIORunning := true })
    Reconciled 3 poll d (d.generateMySQLOperation 3 poll) := by
  intro c long d poll
  have hkeys : d.KeysUnique Eq :=
    runSections_keysUnique (initial_wellKept c 30 1).2
  have hconf : d.conf = c := rfl
  have howns : d.conf.OwnsHostname 3 :=
    hconf ▸ Configuration.onePool_ownsHostname { active := some 1 } [3] (by decide) _ _ 3
  exact generateMySQLOperation_reconciles hkeys howns (by decide) (by decide)

end Document

end DBMonitor
