import DBMonitor.Model.Section

namespace DBMonitor

namespace Document

def SameSettings (a b : Document) : Prop :=
  a.conf = b.conf ∧ a.sliderValue = b.sliderValue ∧ a.trackQuery = b.trackQuery

theorem SameSettings.refl (d : Document) : SameSettings d d := ⟨rfl, rfl, rfl⟩

theorem SameSettings.trans {a b c : Document} (h : SameSettings a b) (k : SameSettings b c) :
    SameSettings a c := ⟨h.1.trans k.1, h.2.1.trans k.2.1, h.2.2.trans k.2.2⟩

theorem SameLog.settings {a b : Document} (h : SameLog a b) : SameSettings a b := h.2

section Clear
variable (aHost : HostRef) (d : Document)

theorem clearMark_idem (c : Configuration) (e : DBMLogEntry) :
    clearMark c aHost (clearMark c aHost e) = clearMark c aHost e := by
  by_cases h : c.sameHostname e.eventHost aHost = true <;> simp [clearMark, h]

@[simp] theorem clearUpdates_items : (d.clearUpdates aHost).items = d.items := by
  simp [clearUpdates, items]

@[simp] theorem clearUpdates_next : (d.clearUpdates aHost).dataList.next = d.dataList.next := by
  simp [clearUpdates]

theorem clearUpdates_settings : SameSettings (d.clearUpdates aHost) d := SameSettings.refl _

theorem clearUpdates_entry (r : EntryRef) :
    (d.clearUpdates aHost).entry r =
      if r ∈ d.items then clearMark d.conf aHost (d.entry r) else d.entry r :=
  ObjectArray.mapObjects_heap (clearMark_idem aHost d.conf) d.dataList r

end Clear

def KeepsKey (write : DBMLogEntry → DBMLogEntry) : Prop :=
  ∀ e, (write e).eventHost = e.eventHost ∧ (write e).eventTime = e.eventTime ∧
    (write e).processID = e.processID

structure Filing where
  now : Time
  pid : String
  create : DBMLogEntry → DBMLogEntry
  write : DBMLogEntry → DBMLogEntry
  live : pid ≠ deadProcess
  create_key : KeepsKey create
  write_key : KeepsKey write
  marks : ∀ e, (write e).updated = true
  keeps_dead : ∀ e, (write e).dead = e.dead

section File
variable (d : Document) (aHost : HostRef)

def rowFiling (now : Time) (row : QueryRow) : Filing where
  now := now
  pid := printID row.id
  create := id
  write := d.recordRow now aHost row
  live := printID_ne_dead row.id
  create_key := fun _ => ⟨rfl, rfl, rfl⟩
  write_key := fun _ => ⟨rfl, rfl, rfl⟩
  marks := fun _ => rfl
  keeps_dead := fun _ => rfl

def statusFiling (now : Time) (status : MysqlSlaveStatus) : Filing where
  now := now
  pid := replicationID
  create := id
  write := d.recordStatus now aHost status
  live := by decide
  create_key := fun _ => ⟨rfl, rfl, rfl⟩
  write_key := fun _ => ⟨rfl, rfl, rfl⟩
  marks := fun _ => rfl
  keeps_dead := fun _ => rfl

def failFiling (now : Time) : Filing where
  now := now
  pid := connectFailID
  create := nameFailure
  write := recordFailure now
  live := by decide
  create_key := fun _ => ⟨rfl, rfl, rfl⟩
  write_key := fun _ => ⟨rfl, rfl, rfl⟩
  marks := fun _ => rfl
  keeps_dead := fun _ => rfl

def file (f : Filing) : Document := d.fileEntry f.now aHost f.pid f.create f.write

theorem updateRow_eq (now : Time) (row : QueryRow) :
    d.updateRow now aHost row =
      if qualifies d.conf aHost row then d.file aHost (d.rowFiling aHost now row) else d := rfl

theorem updateMySQLSlaveStatus_eq (now : Time) (status : MysqlSlaveStatus) :
    d.updateMySQLSlaveStatus now aHost (some status) =
      if status.unhealthy then d.file aHost (d.statusFiling aHost now status) else d := rfl

def target (pid : String) : EntryRef := d.dataList.target (matchesKey d.conf aHost pid)

def filedOver (f : Filing) : DBMLogEntry :=
  if (d.find aHost f.pid).isSome then d.entry (d.target aHost f.pid)
  else f.create (DBMLogEntry.initWithHost aHost f.pid f.now)

theorem target_of_find {pid : String} {r : EntryRef} (h : d.find aHost pid = some r) :
    d.target aHost pid = r :=
  ObjectArray.target_of_some h

theorem target_of_find_none {pid : String} (h : d.find aHost pid = none) :
    d.target aHost pid = d.dataList.next :=
  ObjectArray.target_of_none h

theorem find_mem {pid : String} {r : EntryRef} (h : d.find aHost pid = some r) :
    r ∈ d.items ∧ d.conf.sameHostname (d.entry r).eventHost aHost = true ∧
      (d.entry r).processID = pid := by
  obtain ⟨hr, hm⟩ := ObjectArray.lastMatch_mem h
  simp only [matchesKey, Bool.and_eq_true, decide_eq_true_eq] at hm
  exact ⟨hr, hm⟩

theorem find_none_iff {pid : String} :
    d.find aHost pid = none ↔
      ∀ r ∈ d.items, d.conf.sameHostname (d.entry r).eventHost aHost = true →
        (d.entry r).processID ≠ pid := by
  unfold find
  rw [ObjectArray.lastMatch_none]
  simp [matchesKey, items, entry]

theorem next_not_mem : d.dataList.next ∉ d.items :=
  fun hm => Nat.lt_irrefl _ (d.dataList.allocated _ hm)

theorem target_mem_or_fresh (pid : String) :
    (d.find aHost pid = some (d.target aHost pid)) ∨
      (d.find aHost pid = none ∧ d.target aHost pid = d.dataList.next) := by
  cases h : d.find aHost pid with
  | none => exact Or.inr ⟨rfl, d.target_of_find_none aHost h⟩
  | some r => exact Or.inl (by rw [d.target_of_find aHost h])

theorem find_of_target {aHost : HostRef} {pid : String} {r : EntryRef} (hr : r ∈ d.items)
    (h : r = d.target aHost pid) : d.find aHost pid = some r := by
  rcases d.target_mem_or_fresh aHost pid with hfind | ⟨_, hnext⟩
  · rw [hfind, h]
  · exact absurd (hnext ▸ h ▸ hr) d.next_not_mem

variable (f : Filing)

theorem file_settings : SameSettings (d.file aHost f) d := SameSettings.refl _

theorem mem_file (r : EntryRef) :
    r ∈ (d.file aHost f).items ↔ r ∈ d.items ∨ r = d.target aHost f.pid :=
  ObjectArray.mem_upsert _ _ _ _ r

theorem file_items :
    (d.file aHost f).items =
      if (d.find aHost f.pid).isSome then d.items else d.items ++ [d.dataList.next] :=
  ObjectArray.upsert_items _ _ _ _

theorem file_target :
    (d.file aHost f).entry (d.target aHost f.pid) = f.write (d.filedOver aHost f) := by
  change (d.dataList.upsert _ _ _).heap _ = _
  rw [ObjectArray.upsert_heap]
  exact if_pos rfl

theorem file_entry {r : EntryRef} (h : r ≠ d.target aHost f.pid) :
    (d.file aHost f).entry r = d.entry r := by
  change (d.dataList.upsert _ _ _).heap _ = _
  rw [ObjectArray.upsert_heap]
  exact if_neg h

theorem file_next_le : d.dataList.next ≤ (d.file aHost f).dataList.next :=
  ObjectArray.upsert_next_le _ _ _ _

theorem filedOver_of_find {r : EntryRef} (h : d.find aHost f.pid = some r) :
    d.filedOver aHost f = d.entry r := by
  simp [filedOver, h, d.target_of_find aHost h]

theorem file_found {r : EntryRef} (h : d.find aHost f.pid = some r) :
    (d.file aHost f).entry r = f.write (d.entry r) := by
  have hfile := d.file_target aHost f
  rwa [d.filedOver_of_find aHost f h, d.target_of_find aHost h] at hfile

theorem filedOver_key :
    d.conf.sameHostname (d.filedOver aHost f).eventHost aHost = true ∧
      (d.filedOver aHost f).processID = f.pid := by
  rcases d.target_mem_or_fresh aHost f.pid with h | ⟨h, _⟩
  · rw [d.filedOver_of_find aHost f h]
    exact (d.find_mem aHost h).2
  · obtain ⟨hh, _, hp⟩ := f.create_key (DBMLogEntry.initWithHost aHost f.pid f.now)
    have hover : d.filedOver aHost f =
        f.create (DBMLogEntry.initWithHost aHost f.pid f.now) := by
      simp [filedOver, h]
    rw [hover, hh, hp]
    exact ⟨d.conf.sameHostname_self aHost, rfl⟩

theorem file_key {r : EntryRef} (hr : r < d.dataList.next) :
    ((d.file aHost f).entry r).eventHost = (d.entry r).eventHost ∧
      ((d.file aHost f).entry r).eventTime = (d.entry r).eventTime ∧
      ((d.file aHost f).entry r).processID = (d.entry r).processID := by
  by_cases ht : r = d.target aHost f.pid
  · rcases d.target_mem_or_fresh aHost f.pid with h | ⟨_, h⟩
    · rw [ht, file_target, d.filedOver_of_find aHost f h]
      exact f.write_key _
    · exact absurd (ht.trans h) (Nat.ne_of_lt hr)
  · rw [d.file_entry aHost f ht]
    exact ⟨rfl, rfl, rfl⟩

theorem file_fresh (h : d.find aHost f.pid = none) :
    ((d.file aHost f).entry (d.target aHost f.pid)).eventHost = aHost := by
  rw [file_target, (f.write_key _).1]
  simp [filedOver, h, (f.create_key _).1, DBMLogEntry.initWithHost]

theorem find_file (q : String) :
    (d.file aHost f).find aHost q =
      if q = f.pid then some (d.target aHost f.pid) else d.find aHost q := by
  rcases d.target_mem_or_fresh aHost f.pid with h | ⟨h, ht⟩
  · have hkey : ∀ r ∈ d.items, matchesKey d.conf aHost q ((d.file aHost f).entry r) =
        matchesKey d.conf aHost q (d.entry r) := by
      intro r hr
      obtain ⟨hh, _, hp⟩ := d.file_key aHost f (d.dataList.allocated r hr)
      simp only [matchesKey, hh, hp]
    have hsame : (d.file aHost f).find aHost q = d.find aHost q :=
      ObjectArray.lastMatch_congr ((d.file_items aHost f).trans (by rw [h]; rfl)) hkey
    rw [hsame]
    split
    next hq => rw [hq, h]
    next => rfl
  · have hi : (d.file aHost f).items = d.items ++ [d.dataList.next] := by
      rw [file_items, h]
      rfl
    have hold : ∀ r ∈ d.items, (d.file aHost f).entry r = d.entry r := by
      intro r hr
      refine d.file_entry aHost f (fun heq => d.next_not_mem ?_)
      rwa [← ht, ← heq]
    have hlast := ObjectArray.lastMatch_append (p := matchesKey d.conf aHost q) hi hold
    have htarget : (d.file aHost f).dataList.heap d.dataList.next =
        f.write (d.filedOver aHost f) := by
      have h := d.file_target aHost f
      rwa [ht] at h
    obtain ⟨hh, hp⟩ := d.filedOver_key aHost f
    obtain ⟨hwh, _, hwp⟩ := f.write_key (d.filedOver aHost f)
    change ObjectArray.lastMatch _ (matchesKey d.conf aHost q) = _
    rw [hlast, htarget, ht]
    simp only [matchesKey, hwh, hwp, hh, hp, Bool.true_and, decide_eq_true_eq,
      eq_comm (a := f.pid)]
    split <;> rfl

end File

theorem updateRow_conf (d : Document) (aHost : HostRef) (now : Time) (row : QueryRow) :
    (d.updateRow now aHost row).conf = d.conf := by
  rw [updateRow_eq]
  split <;> rfl

theorem updateMySQLQueries_conf (d : Document) (aHost : HostRef) (rows : List (Time × QueryRow)) :
    (d.updateMySQLQueries aHost (some rows)).conf = d.conf := by
  induction rows generalizing d with
  | nil => rfl
  | cons p rows ih => exact (ih _).trans (updateRow_conf d aHost p.1 p.2)

section Discard

def sweeps (c : Configuration) (hosts : List HostRef) (e : DBMLogEntry) : Bool :=
  !e.updated && hosts.any (fun h => c.sameHostname e.eventHost h)

def tracks (d : Document) (e : DBMLogEntry) : Bool :=
  e.displayTimeout.isSome && decide (d.trackQuery ≠ 0)

def sweepEntry (d : Document) (hosts : List HostRef) (e : DBMLogEntry) : DBMLogEntry :=
  if sweeps d.conf hosts e && d.tracks e then relabel e else e

variable (d : Document)

@[simp] theorem sweeps_relabel (c : Configuration) (hosts : List HostRef) (e : DBMLogEntry) :
    sweeps c hosts (relabel e) = sweeps c hosts e := rfl

@[simp] theorem relabel_idem (e : DBMLogEntry) : relabel (relabel e) = relabel e := rfl

@[simp] theorem tracks_relabel (e : DBMLogEntry) : d.tracks (relabel e) = d.tracks e := rfl

theorem sweeps_nil (c : Configuration) (e : DBMLogEntry) : sweeps c [] e = false := by
  simp [sweeps]

theorem sweeps_cons (c : Configuration) (h : HostRef) (hosts : List HostRef) (e : DBMLogEntry) :
    sweeps c (h :: hosts) e = (sweeps c [h] e || sweeps c hosts e) := by
  simp [sweeps, Bool.and_or_distrib_left]

theorem discardStep_eq (aHost : HostRef) (r : EntryRef) (e : DBMLogEntry) :
    d.discardStep aHost r e =
      (d.sweepEntry [aHost] e, if sweeps d.conf [aHost] e && !d.tracks e then [r] else []) := by
  unfold discardStep sweepEntry sweeps tracks
  cases hs : d.conf.sameHostname e.eventHost aHost <;> cases e.updated <;>
    cases e.displayTimeout <;> by_cases ht : d.trackQuery = 0 <;> simp [ht, hs]

theorem discardStep_stable (aHost : HostRef) : ObjectArray.Stable (d.discardStep aHost) := by
  intro r e
  simp only [discardStep_eq, sweepEntry]
  split <;> simp_all

theorem discardMySQLDead_settings (aHost : HostRef) : SameSettings (d.discardMySQLDead aHost) d :=
  SameSettings.refl _

@[simp] theorem discardMySQLDead_next (aHost : HostRef) :
    (d.discardMySQLDead aHost).dataList.next = d.dataList.next := by
  simp [discardMySQLDead]

theorem discardMySQLDead_items (aHost : HostRef) :
    (d.discardMySQLDead aHost).items =
      d.items.filter (fun r => !(sweeps d.conf [aHost] (d.entry r) && !d.tracks (d.entry r))) := by
  change ((d.dataList.forEach (d.discardStep aHost)).1.removeObjects
    (d.dataList.forEach (d.discardStep aHost)).2).items = _
  rw [ObjectArray.removeObjects_items, ObjectArray.forEach_items,
    ObjectArray.forEach_out (d.discardStep_stable aHost)]
  apply List.filter_congr
  intro r hr
  congr 1
  rw [Bool.eq_iff_iff]
  simp only [discardStep_eq, List.contains_iff_mem, List.mem_flatMap]
  constructor
  · rintro ⟨s, _, hs⟩
    split at hs
    next h => simpa [List.mem_singleton.mp hs] using h
    next => simp at hs
  · intro h
    exact ⟨r, hr, by simp only [h, if_true, List.mem_singleton]⟩

theorem discardMySQLDead_entry (aHost : HostRef) (r : EntryRef) :
    (d.discardMySQLDead aHost).entry r =
      if r ∈ d.items then d.sweepEntry [aHost] (d.entry r) else d.entry r := by
  change ((d.dataList.forEach (d.discardStep aHost)).1.removeObjects
    (d.dataList.forEach (d.discardStep aHost)).2).heap r = _
  rw [ObjectArray.removeObjects_heap, ObjectArray.forEach_heap (d.discardStep_stable aHost),
    discardStep_eq]

theorem discardAll_settings (hosts : List HostRef) : SameSettings (d.discardAll hosts) d := by
  induction hosts generalizing d with
  | nil => exact SameSettings.refl d
  | cons h hosts ih =>
    exact (ih (d.discardMySQLDead h)).trans (d.discardMySQLDead_settings h)

@[simp] theorem discardAll_next (hosts : List HostRef) :
    (d.discardAll hosts).dataList.next = d.dataList.next := by
  induction hosts generalizing d with
  | nil => rfl
  | cons h hosts ih => exact (ih (d.discardMySQLDead h)).trans (d.discardMySQLDead_next h)

theorem sweepEntry_flags (c : Configuration) (hosts hosts' : List HostRef) (e : DBMLogEntry) :
    sweeps c hosts (d.sweepEntry hosts' e) = sweeps c hosts e ∧
      d.tracks (d.sweepEntry hosts' e) = d.tracks e := by
  unfold sweepEntry
  split <;> simp

theorem discardAll_items (hosts : List HostRef) :
    (d.discardAll hosts).items =
      d.items.filter (fun r => !(sweeps d.conf hosts (d.entry r) && !d.tracks (d.entry r))) := by
  induction hosts generalizing d with
  | nil => simp [discardAll, sweeps_nil]
  | cons h hosts ih =>
    have hstep : (d.discardAll (h :: hosts)).items =
        ((d.discardMySQLDead h).discardAll hosts).items := rfl
    rw [hstep, ih, discardMySQLDead_items, List.filter_filter]
    apply List.filter_congr
    intro r hr
    have he : (d.discardMySQLDead h).entry r = d.sweepEntry [h] (d.entry r) := by
      rw [discardMySQLDead_entry, if_pos hr]
    have hf := d.sweepEntry_flags d.conf hosts [h] (d.entry r)
    have ht : (d.discardMySQLDead h).tracks ((d.discardMySQLDead h).entry r) =
        d.tracks (d.entry r) := by rw [he]; exact hf.2
    have hw : sweeps (d.discardMySQLDead h).conf hosts ((d.discardMySQLDead h).entry r) =
        sweeps d.conf hosts (d.entry r) := by rw [he]; exact hf.1
    rw [ht, hw, sweeps_cons d.conf h hosts]
    cases sweeps d.conf [h] (d.entry r) <;> cases sweeps d.conf hosts (d.entry r) <;>
      cases d.tracks (d.entry r) <;> rfl

theorem sweepEntry_cons (h : HostRef) (hosts : List HostRef) (e : DBMLogEntry) :
    d.sweepEntry hosts (d.sweepEntry [h] e) = d.sweepEntry (h :: hosts) e := by
  have hf := d.sweepEntry_flags d.conf hosts [h] e
  unfold sweepEntry at hf ⊢
  rw [hf.1, hf.2, sweeps_cons d.conf h hosts]
  cases sweeps d.conf [h] e <;> cases sweeps d.conf hosts e <;> cases d.tracks e <;> rfl

theorem discardAll_entry (hosts : List HostRef) (r : EntryRef) :
    (d.discardAll hosts).entry r =
      if r ∈ d.items then d.sweepEntry hosts (d.entry r) else d.entry r := by
  induction hosts generalizing d with
  | nil => simp [discardAll, sweepEntry, sweeps_nil]
  | cons h hosts ih =>
    have hstep : (d.discardAll (h :: hosts)).entry r =
        ((d.discardMySQLDead h).discardAll hosts).entry r := rfl
    rw [hstep, ih, discardMySQLDead_entry]
    by_cases hr : r ∈ d.items
    · simp only [hr, if_true]
      by_cases hm : r ∈ (d.discardMySQLDead h).items
      · rw [if_pos hm]
        exact d.sweepEntry_cons h hosts (d.entry r)
      · rw [if_neg hm]
        have hdrop : sweeps d.conf [h] (d.entry r) = true ∧ d.tracks (d.entry r) = false := by
          simpa [discardMySQLDead_items, hr] using hm
        simp [sweepEntry, hdrop]
    · have hm : r ∉ (d.discardMySQLDead h).items := by
        rw [discardMySQLDead_items]
        exact fun h' => hr (List.mem_of_mem_filter h')
      simp [hr, hm]

end Discard

section Purge
variable (now : Time) (d : Document)

def deadHosts : List HostRef :=
  d.items.flatMap (fun r => (d.markInactive (d.entry r)).2)

def purged (e : DBMLogEntry) : DBMLogEntry := (d.purgeStep now e).1

theorem mem_deadHosts {h : HostRef} :
    h ∈ d.deadHosts ↔
      ∃ r ∈ d.items, (d.entry r).eventHost = h ∧ d.conf.isActive h = false := by
  simp only [deadHosts, List.mem_flatMap, markInactive]
  constructor
  · rintro ⟨r, hr, hm⟩
    cases ha : d.conf.isActive (d.entry r).eventHost with
    | true => simp [ha] at hm
    | false =>
      simp only [ha, Bool.false_eq_true, if_false, List.mem_singleton] at hm
      exact ⟨r, hr, hm.symm, hm ▸ ha⟩
  · rintro ⟨r, hr, rfl, ha⟩
    exact ⟨r, hr, by simp [ha]⟩

def keptTimeout (timeout : Option Time) : Option Time :=
  timeout.filter (fun t => !decide (0 ≤ d.sliderValue ∧ t < now))

theorem expireTimeout_eq (e : DBMLogEntry) :
    d.expireTimeout now e = { e with displayTimeout := d.keptTimeout now e.displayTimeout } := by
  obtain ⟨host, text, time, pid, updated, dead, duration, timeout, query, status⟩ := e
  cases timeout with
  | none => rfl
  | some t => by_cases ht : 0 ≤ d.sliderValue ∧ t < now <;>
      simp [expireTimeout, keptTimeout, Option.filter, ht]

theorem keptTimeout_idem (timeout : Option Time) :
    d.keptTimeout now (d.keptTimeout now timeout) = d.keptTimeout now timeout := by
  simp [keptTimeout, Option.filter_filter]

theorem keptTimeout_some (t : Time) :
    d.keptTimeout now (some t) = if 0 ≤ d.sliderValue ∧ t < now then none else some t := by
  rw [keptTimeout, Option.filter_some]
  by_cases h : 0 ≤ d.sliderValue ∧ t < now
  · rw [if_pos h, decide_eq_true h]
    rfl
  · rw [if_neg h, decide_eq_false h]
    rfl

theorem purged_of_active {e : DBMLogEntry} (h : d.conf.isActive e.eventHost = true) :
    d.purged now e = { e with displayTimeout := d.keptTimeout now e.displayTimeout } := by
  simp [purged, purgeStep, markInactive, h, expireTimeout_eq]

theorem purged_unexpired {e : DBMLogEntry} {t : Time} (h : d.conf.isActive e.eventHost = true)
    (ht : e.displayTimeout = some t) (hkeep : ¬(0 ≤ d.sliderValue ∧ t < now)) :
    d.purged now e = e := by
  rw [d.purged_of_active now h, ht, keptTimeout_some, if_neg hkeep, ← ht]

theorem purged_of_inactive {e : DBMLogEntry} (h : d.conf.isActive e.eventHost = false) :
    d.purged now e = { e with dead := true, displayTimeout := none } := by
  simp [purged, purgeStep, markInactive, h, expireTimeout]

theorem purged_frame (e : DBMLogEntry) :
    d.purged now e =
      { e with
        dead := (d.purged now e).dead, displayTimeout := (d.purged now e).displayTimeout } := by
  cases h : d.conf.isActive e.eventHost with
  | true => rw [d.purged_of_active now h]
  | false => rw [d.purged_of_inactive now h]

@[simp] theorem purged_eventHost (e : DBMLogEntry) : (d.purged now e).eventHost = e.eventHost := by
  rw [purged_frame]

@[simp] theorem purged_processID (e : DBMLogEntry) : (d.purged now e).processID = e.processID := by
  rw [purged_frame]

@[simp] theorem purged_eventTime (e : DBMLogEntry) : (d.purged now e).eventTime = e.eventTime := by
  rw [purged_frame]

@[simp] theorem purged_updated (e : DBMLogEntry) : (d.purged now e).updated = e.updated := by
  rw [purged_frame]

theorem purgeStep_stable : ObjectArray.Stable (fun _ : Nat => d.purgeStep now) := by
  intro _ e
  cases h : d.conf.isActive e.eventHost with
  | true => simp [purgeStep, markInactive, h, expireTimeout_eq, keptTimeout_idem]
  | false => simp [purgeStep, markInactive, h, expireTimeout]

def marked : Document :=
  { d with dataList := (d.dataList.forEach (fun _ => d.purgeStep now)).1 }

theorem purge_eq : d.purge now = (d.marked now).discardAll d.deadHosts := by
  have h := ObjectArray.forEach_out (d.purgeStep_stable now) d.dataList
  change discardAll (d.dataList.forEach (fun _ => d.purgeStep now)).2 (d.marked now) = _
  rw [h]
  rfl

theorem marked_entry (r : EntryRef) :
    (d.marked now).entry r = if r ∈ d.items then d.purged now (d.entry r) else d.entry r :=
  ObjectArray.forEach_heap (d.purgeStep_stable now) d.dataList r

theorem marked_items : (d.marked now).items = d.items := ObjectArray.forEach_items _ _

theorem purge_settings : SameSettings (d.purge now) d := by
  rw [purge_eq]
  exact ((d.marked now).discardAll_settings d.deadHosts).trans (SameSettings.refl d)

@[simp] theorem purge_next : (d.purge now).dataList.next = d.dataList.next := by
  rw [purge_eq, discardAll_next]
  exact ObjectArray.forEach_next _ _

theorem purge_items :
    (d.purge now).items = d.items.filter (fun r =>
      !(sweeps d.conf d.deadHosts (d.entry r) && !d.tracks (d.purged now (d.entry r)))) := by
  rw [purge_eq, discardAll_items, marked_items]
  apply List.filter_congr
  intro r hr
  rw [marked_entry, if_pos hr]
  simp only [sweeps, purged_updated, purged_eventHost]
  rfl

theorem purge_entry (r : EntryRef) :
    (d.purge now).entry r =
      if r ∈ d.items then d.sweepEntry d.deadHosts (d.purged now (d.entry r)) else d.entry r := by
  rw [purge_eq, discardAll_entry, marked_items, marked_entry]
  split <;> rfl

end Purge

end Document

end DBMonitor
