import DBMonitor.Log.PollCycle

namespace DBMonitor

namespace Section

def reading : Section → Option Time
  | .updateRow now _ _ => some now
  | .updateMySQLSlaveStatus now _ _ => some now
  | .updateMySQLFail now _ => some now
  | .refresh now _ => some now
  | _ => none

def refreshes : Section → Bool
  | .refresh _ _ => true
  | _ => false

end Section

-- A locked section, or a poll's reading of the process list, which locks nothing.
inductive Event where
  | locked (s : Section)
  | fetched (aHost : HostRef) (rows : List QueryRow)

def Event.issued : Event → Option Section
  | .locked s => some s
  | .fetched _ _ => none

namespace Document

def happen (d : Document) (a : Event) : Document := a.issued.elim d d.exec

structure Occurrence where
  host : HostRef
  id : Int
  info : Option (List UInt8)
  deriving DecidableEq, Repr

def Occurrence.observed (o : Occurrence) : Section → Option Time
  | .updateRow now aHost row =>
    if aHost = o.host ∧ row.id = o.id ∧ row.info = o.info then some now else none
  | _ => none

def replaces (d : Document) (o : Occurrence) : Section → Bool
  | .updateRow _ aHost row =>
    decide (aHost = o.host) && decide (row.id = o.id) && !decide (row.info = o.info) &&
      qualifies d.conf aHost row
  | _ => false

def clears (d : Document) (o : Occurrence) : Section → Bool
  | .clearUpdates aHost => d.conf.sameHostname o.host aHost
  | _ => false

def sweepsHost (d : Document) (o : Occurrence) (s : Section) : Bool :=
  (d.sweeping s).any (fun g => d.conf.sameHostname o.host g)

-- The process list of the host, read without the occurrence.
def Occurrence.missing (o : Occurrence) (aHost : HostRef) (rows : List QueryRow) : Bool :=
  decide (aHost = o.host) &&
    !rows.any (fun row => decide (row.id = o.id) && decide (row.info = o.info))

-- What the polls and the clock have said of an occurrence since it was last observed.
structure Watch where
  last : Time
  lapsed : Bool := false
  expired : Bool := false
  cleared : Bool := false
  missed : Bool := false
  ended : Bool := false
  dropped : Bool := false
  deriving DecidableEq, Repr

namespace Watch

def deadline (d : Document) (w : Watch) : Time := w.last + d.sliderValue * second

-- The retention is over: a reading was later than the last observation by the slider's value.
def lapses (d : Document) (w : Watch) (s : Section) : Bool :=
  s.reading.any (fun now => decide (0 ≤ d.sliderValue) && decide (w.deadline d < now))

-- A refresh found the retention over.
def expires (d : Document) (w : Watch) (s : Section) : Bool :=
  w.expired || s.refreshes && w.lapses d s

def sweeps (d : Document) (o : Occurrence) (w : Watch) (s : Section) : Bool :=
  w.cleared && d.sweepsHost o s

-- The occurrence is over: a poll read the process list without it and a sweep followed, or a poll
-- filed another statement of its connection.
def ends (d : Document) (o : Occurrence) (w : Watch) (s : Section) : Bool :=
  w.sweeps d o s && w.missed || d.replaces o s

def after (o : Occurrence) (d : Document) (w : Watch) (s : Section) : Watch :=
  match o.observed s, w.ended with
  | some now, false => { last := now }
  | _, _ =>
    { last := w.last
      lapsed := w.lapsed || w.lapses d s
      expired := w.expires d s
      cleared := w.cleared || d.clears o s
      missed := w.missed
      ended := w.ended || w.ends d o s
      dropped := w.dropped || w.sweeps d o s && w.expires d s }

def next (o : Occurrence) (d : Document) (w : Watch) : Event → Watch
  | .locked s => w.after o d s
  | .fetched aHost rows => { w with missed := w.missed || o.missing aHost rows }

def due (w : Watch) : Bool := !w.lapsed || !w.ended && !w.dropped

end Watch

def continues (o : Occurrence) (s : Document × Watch) (a : Event) : Bool :=
  !s.2.ended && a.issued.any (fun x => (o.observed x).isSome)

def Shows (o : Occurrence) (e : DBMLogEntry) : Prop :=
  e.eventHost = o.host ∧ ∃ row, e.query = some row ∧ row.info = o.info ∧
    e.eventString = some row.logString

-- No dismissal, the slider fixed, tracking on, and the host active.
def undisturbed (aHost : HostRef) (d : Document) : Section → Bool
  | .killProcess => false
  | .edit conf => conf.isActive aHost
  | .detectChangedSlider value => decide ((d.detectChangedSlider value).sliderValue = d.sliderValue)
  | .trackQuery value => decide (value ≠ 0)
  | _ => true

def retained (d : Document) (now : Time) (e : DBMLogEntry) : Bool :=
  e.displayTimeout.any (fun t => !(decide (0 ≤ d.sliderValue) && decide (t < now)))

-- What a row may be written over: an entry of its own host, which shows another statement only
-- if its retention is over.
def writesOver (d : Document) (now : Time) (aHost : HostRef) (row : QueryRow) (e : DBMLogEntry) :
    Bool :=
  decide (e.eventHost = aHost) &&
    (!d.retained now e || decide (e.query.bind QueryRow.info = row.info))

def preserves (d : Document) : Section → Bool
  | .updateRow now aHost row =>
    !qualifies d.conf aHost row ||
      (d.find aHost (printID row.id)).all (fun r => d.writesOver now aHost row (d.entry r))
  | _ => true

-- An occurrence observed again is listed and recorded at or above the trigger, and was not
-- dropped meanwhile.
def resumes (o : Occurrence) (s : Document × Watch) : Section → Bool
  | .updateRow now aHost row =>
    s.2.ended || (o.observed (.updateRow now aHost row)).isNone ||
      (qualifies s.1.conf aHost row &&
        decide (row.recordedDuration ≥ s.1.conf.triggerTimer aHost) && !s.2.dropped)
  | _ => true

def steady (o : Occurrence) (s : Document × Watch) (a : Event) : Bool :=
  a.issued.all (fun x => undisturbed o.host s.1 x && preserves s.1 x && resumes o s x)

def Answers (o : Occurrence) (d : Document) (w : Watch) (r : EntryRef) : Prop :=
  r ∈ d.items ∧ Shows o (d.entry r) ∧
    (w.expired = false → (d.entry r).displayTimeout = some (w.deadline d)) ∧
    ((w.ended = false ∧ (d.entry r).processID = printID o.id ∧
        (d.entry r).updated = !w.cleared) ∨
      (w.cleared = true ∧ (d.entry r).processID = deadProcess))

structure Watched (o : Occurrence) (d : Document) (w : Watch) : Prop where
  keys : d.WellKept
  active : d.conf.isActive o.host = true
  tracking : d.trackQuery ≠ 0
  clock : w.expired = true → w.lapsed = true
  kept : w.due = true → ∃ r, Answers o d w r

section Watching
variable {o : Occurrence} {d d' : Document} {w w' : Watch} {s : Section} {r : EntryRef}

theorem Watch.due_iff (w : Watch) :
    w.due = true ↔ w.lapsed = false ∨ w.ended = false ∧ w.dropped = false := by
  simp [Watch.due]

theorem Watch.after_observed {now : Time} (hobs : o.observed s = some now)
    (hended : w.ended = false) : w.after o d s = { last := now } := by
  rw [Watch.after, hobs, hended]

theorem Watch.after_unobserved (h : o.observed s = none ∨ w.ended = true) :
    w.after o d s =
      { last := w.last
        lapsed := w.lapsed || w.lapses d s
        expired := w.expires d s
        cleared := w.cleared || d.clears o s
        missed := w.missed
        ended := w.ended || w.ends d o s
        dropped := w.dropped || w.sweeps d o s && w.expires d s } := by
  unfold Watch.after
  split
  next hobs hended =>
    rcases h with h | h
    · rw [hobs] at h
      exact absurd h (by simp)
    · rw [hended] at h
      exact absurd h (by simp)
  next => rfl

theorem Watch.after_cases (o : Occurrence) (w : Watch) (s : Section) :
    (∃ now, o.observed s = some now ∧ w.ended = false) ∨
      (o.observed s = none ∨ w.ended = true) := by
  cases hobs : o.observed s with
  | none => exact Or.inr (Or.inl rfl)
  | some now =>
    cases hended : w.ended with
    | false => exact Or.inl ⟨now, rfl, rfl⟩
    | true => exact Or.inr (Or.inr rfl)

theorem Watch.due_of_after (hobs : o.observed s = none ∨ w.ended = true)
    (h : (w.after o d s).due = true) : w.due = true := by
  rw [Watch.after_unobserved hobs] at h
  rw [Watch.due_iff] at h ⊢
  simp only [Bool.or_eq_false_iff] at h
  exact h.imp (fun hl => hl.1) (fun hk => ⟨hk.1.1, hk.2.1⟩)

theorem Watch.clock_after (hclock : w.expired = true → w.lapsed = true)
    (h : (w.after o d s).expired = true) : (w.after o d s).lapsed = true := by
  rcases Watch.after_cases o w s with ⟨now, hobs, hended⟩ | hobs
  · rw [Watch.after_observed hobs hended] at h
    exact absurd h Bool.false_ne_true
  · rw [Watch.after_unobserved hobs] at h ⊢
    simp only [Watch.expires, Bool.or_eq_true, Bool.and_eq_true] at h ⊢
    exact h.imp hclock And.right

theorem undisturbed_settings {aHost : HostRef} (hd : undisturbed aHost d s = true)
    (hactive : d.conf.isActive aHost = true) (htrack : d.trackQuery ≠ 0) :
    (d.exec s).sliderValue = d.sliderValue ∧
      (d.exec s).conf.isActive aHost = true ∧ (d.exec s).trackQuery ≠ 0 := by
  obtain ⟨hconf, hslider, htracking⟩ := d.exec_settings s
  rw [hconf, hslider, htracking]
  cases s with
  | edit conf => exact ⟨rfl, hd, htrack⟩
  | detectChangedSlider value =>
    simp only [undisturbed, decide_eq_true_eq] at hd
    exact ⟨hd, hactive, htrack⟩
  | trackQuery value =>
    simp only [undisturbed, decide_eq_true_eq] at hd
    exact ⟨rfl, hactive, hd⟩
  | _ => exact ⟨rfl, hactive, htrack⟩

theorem Answers.frame (h : Answers o d w r) (hr : r ∈ d'.items) (he : d'.entry r = d.entry r)
    (hslider : d'.sliderValue = d.sliderValue) (hlast : w'.last = w.last)
    (hexpired : w'.expired = false → w.expired = false)
    (hcleared : w'.cleared = w.cleared)
    (hended : w.ended = false → (d.entry r).processID = printID o.id → w'.ended = false) :
    Answers o d' w' r := by
  obtain ⟨_, hshows, htimeout, hstate⟩ := h
  refine ⟨hr, he ▸ hshows, ?_, ?_⟩
  · intro hx
    rw [he, htimeout (hexpired hx), Watch.deadline, Watch.deadline, hslider, hlast]
  · rw [he, hcleared]
    rcases hstate with ⟨hlive, hpid, hupdated⟩ | hdead
    · exact Or.inl ⟨hended hlive hpid, hpid, hupdated⟩
    · exact Or.inr hdead

-- A sweep takes the entry only if its mark is cleared, and drops it only if its retention is over.
theorem Answers.sweep {hosts : List HostRef} {e : DBMLogEntry} (h : Answers o d w r)
    (htrack : d.trackQuery ≠ 0) (hslider : d'.sliderValue = d.sliderValue)
    (hframe : e = { d.entry r with dead := e.dead, displayTimeout := e.displayTimeout })
    (htimeout : w'.expired = false → e.displayTimeout = some (w.deadline d))
    (hmem : (sweeps d.conf hosts (d.entry r) && !d.tracks e) = false → r ∈ d'.items)
    (hentry : d'.entry r = d.sweepEntry hosts e)
    (hlast : w'.last = w.last) (hcleared : w'.cleared = w.cleared)
    (hended : (w.cleared && hosts.any (fun g => d.conf.sameHostname o.host g)) = false →
      w'.ended = w.ended)
    (hsafe : (w.cleared && hosts.any (fun g => d.conf.sameHostname o.host g)) = true →
      w'.expired = false) : Answers o d' w' r := by
  obtain ⟨_, ⟨hhost, hrow⟩, _, hstate⟩ := h
  have hsame : sweeps d.conf hosts e = sweeps d.conf hosts (d.entry r) := by
    rw [hframe]
    rfl
  have hdeadline : w'.deadline d' = w.deadline d := by
    rw [Watch.deadline, Watch.deadline, hslider, hlast]
  cases hs : sweeps d.conf hosts (d.entry r) with
  | false =>
    have he : d'.entry r = e := by
      rw [hentry, sweepEntry, hsame, hs]
      rfl
    refine ⟨hmem (by rw [hs]; rfl), ?_, fun hx => ?_, ?_⟩
    · rw [he, hframe]
      exact ⟨hhost, hrow⟩
    · rw [he, hdeadline]
      exact htimeout hx
    · rw [he, hframe, hcleared]
      rcases hstate with ⟨hlive, hpid, hupdated⟩ | hdead
      · rw [sweeps, hhost, hupdated, Bool.not_not] at hs
        exact Or.inl ⟨(hended hs).trans hlive, hpid, hupdated⟩
      · exact Or.inr hdead
  | true =>
    have hswept : (w.cleared && hosts.any (fun g => d.conf.sameHostname o.host g)) = true := by
      rw [sweeps, hhost] at hs
      rcases hstate with ⟨_, _, hupdated⟩ | ⟨hdead, _⟩
      · rwa [hupdated, Bool.not_not] at hs
      · rw [hdead, Bool.true_and]
        exact (Bool.and_eq_true_iff.mp hs).2
    have hkept := htimeout (hsafe hswept)
    have ht : d.tracks e = true := by simp [tracks, hkept, htrack]
    have he : d'.entry r = relabel e := by
      rw [hentry, sweepEntry, hsame, hs, ht]
      rfl
    refine ⟨hmem (by rw [hs, ht]; rfl), ?_, fun _ => ?_, Or.inr ⟨?_, ?_⟩⟩
    · rw [he, hframe]
      exact ⟨hhost, hrow⟩
    · rw [he, hdeadline]
      exact hkept
    · rw [hcleared]
      exact (Bool.and_eq_true_iff.mp hswept).1
    · rw [he]
      rfl

-- A section that neither clears, sweeps, observes nor refreshes.
theorem Answers.idle (h : Answers o d w r) (hr : r ∈ d'.items) (he : d'.entry r = d.entry r)
    (hslider : d'.sliderValue = d.sliderValue) (hobs : o.observed s = none ∨ w.ended = true)
    (hclear : d.clears o s = false) (hsweep : d.sweeping s = []) (hrefresh : s.refreshes = false)
    (hrep : (d.entry r).processID = printID o.id → d.replaces o s = false) :
    Answers o d' (w.after o d s) r := by
  rw [Watch.after_unobserved hobs]
  have hidle : w.sweeps d o s = false := by simp [Watch.sweeps, sweepsHost, hsweep]
  refine h.frame hr he hslider rfl ?_ ?_ ?_
  · simp [Watch.expires, hrefresh]
  · simp [hclear]
  · intro hlive hpid
    simp [hlive, Watch.ends, hidle, hrep hpid]

theorem Answers.file (h : Answers o d w r) {g : HostRef} {f : Filing}
    (hf : d.filing s = some (g, f)) (ht : r ≠ d.target g f.pid)
    (hobs : o.observed s = none ∨ w.ended = true)
    (hrep : (d.entry r).processID = printID o.id → d.replaces o s = false) :
    Answers o (d.exec s) (w.after o d s) r := by
  rw [exec_filing hf]
  refine h.idle ((d.mem_file g f r).mpr (Or.inl h.1)) (d.file_entry g f ht) rfl hobs ?_ ?_ ?_ hrep
  all_goals
    rcases filing_cases hf with ⟨_, _, rfl, _⟩ | ⟨_, _, rfl, _⟩ | ⟨_, rfl, _⟩ <;> rfl

theorem Answers.find (h : Answers o d w r) (hkeys : d.WellKept) {now : Time} {row : QueryRow}
    (hq : qualifies d.conf o.host row = true)
    (hp : preserves d (.updateRow now o.host row) = true) (hid : row.id = o.id)
    (hlive : (d.entry r).processID = printID o.id) :
    d.find o.host (printID row.id) = some r := by
  obtain ⟨hr, ⟨hhost, _⟩, _⟩ := h
  rw [← hid] at hlive
  cases hfind : d.find o.host (printID row.id) with
  | none =>
    refine absurd hlive ((d.find_none_iff o.host).mp hfind r hr ?_)
    rw [hhost]
    exact d.conf.sameHostname_self _
  | some t =>
    obtain ⟨htm, _, htp⟩ := d.find_mem o.host hfind
    have hover : d.writesOver now o.host row (d.entry t) = true := by
      simpa [preserves, hq, hfind] using hp
    simp only [writesOver, Bool.and_eq_true, decide_eq_true_eq] at hover
    have hnotdead : (d.entry t).processID ≠ deadProcess := htp ▸ printID_ne_dead row.id
    rw [hkeys.2.eq (fun _ _ => Eq.symm) htm hr (hover.1.trans hhost.symm)
      (htp.trans hlive.symm) hnotdead]

theorem Answers.observed {now : Time} {row : QueryRow} (hid : row.id = o.id)
    (hhost : (d.filedOver o.host (d.rowFiling o.host now row)).eventHost = o.host)
    (hinfo : row.info = o.info) (hrecorded : row.recordedDuration ≥ d.conf.triggerTimer o.host) :
    Answers o (d.file o.host (d.rowFiling o.host now row)) { last := now }
      (d.target o.host (printID row.id)) := by
  have hentry : (d.file o.host (d.rowFiling o.host now row)).entry
      (d.target o.host (printID row.id)) =
        d.recordRow now o.host row (d.filedOver o.host (d.rowFiling o.host now row)) :=
    d.file_target o.host (d.rowFiling o.host now row)
  refine ⟨(d.mem_file _ _ _).mpr (Or.inr rfl), ?_, ?_, Or.inl ⟨rfl, ?_, ?_⟩⟩ <;> rw [hentry]
  · exact ⟨hhost, row, rfl, hinfo, rfl⟩
  · intro _
    change (if row.recordedDuration ≥ d.conf.triggerTimer o.host then _ else _) = _
    rw [if_pos hrecorded]
    rfl
  · rw [← hid]
    exact (d.filedOver_key o.host (d.rowFiling o.host now row)).2
  · rfl

theorem observed_answers {now : Time} {row : QueryRow} (hid : row.id = o.id)
    (hinfo : row.info = o.info) (hq : qualifies d.conf o.host row = true)
    (hp : preserves d (.updateRow now o.host row) = true)
    (hrecorded : row.recordedDuration ≥ d.conf.triggerTimer o.host) :
    ∃ r, Answers o (d.exec (.updateRow now o.host row)) { last := now } r := by
  have hhost : (d.filedOver o.host (d.rowFiling o.host now row)).eventHost = o.host := by
    cases hfind : d.find o.host (printID row.id) with
    | none => simp [filedOver, rowFiling, hfind, DBMLogEntry.initWithHost]
    | some t =>
      rw [d.filedOver_of_find o.host (d.rowFiling o.host now row) hfind]
      have hwrites : d.writesOver now o.host row (d.entry t) = true := by
        simpa [preserves, hq, hfind] using hp
      simp only [writesOver, Bool.and_eq_true, decide_eq_true_eq] at hwrites
      exact hwrites.1
  rw [exec, updateRow_eq, if_pos hq]
  exact ⟨_, Answers.observed hid hhost hinfo hrecorded⟩

-- While its retention runs no row is written over the entry but one that shows its statement.
theorem Answers.not_overwritten (h : Answers o d w r)
    (hclock : w.expired = true → w.lapsed = true) {now : Time} {g : HostRef} {row : QueryRow}
    (hq : qualifies d.conf g row = true) (hp : preserves d (.updateRow now g row) = true)
    (hobs : o.observed (.updateRow now g row) = none ∨ w.ended = true)
    (hdue : (w.after o d (.updateRow now g row)).due = true) :
    r ≠ d.target g (printID row.id) := by
  intro ht
  obtain ⟨hr, ⟨hhost, shown, hshown, hinfo, _⟩, htimeout, hstate⟩ := h
  have hfind := d.find_of_target hr ht
  have hover : d.writesOver now g row (d.entry r) = true := by
    simpa [preserves, hq, hfind] using hp
  simp only [writesOver, Bool.and_eq_true, Bool.or_eq_true, decide_eq_true_eq,
    Bool.not_eq_true'] at hover
  obtain ⟨hgr, hretained⟩ := hover
  have hg : g = o.host := hgr.symm.trans hhost
  subst hg
  have hpid := (d.find_mem o.host hfind).2.2
  obtain ⟨hended, hlive, _⟩ := hstate.resolve_right
    (fun hdead => printID_ne_dead row.id (hpid.symm.trans hdead.2))
  have hid : row.id = o.id := printID_injective (hpid.symm.trans hlive)
  have hother : row.info ≠ o.info := by
    intro hsame
    have hseen : o.observed (.updateRow now o.host row) = some now := by
      simp [Occurrence.observed, hid, hsame]
    rcases hobs with hnone | hover
    · rw [hseen] at hnone
      exact absurd hnone (by simp)
    · rw [hended] at hover
      exact absurd hover (by decide)
  have hrep : d.replaces o (.updateRow now o.host row) = true := by
    simp [replaces, hid, hother, hq]
  rw [Watch.after_unobserved hobs] at hdue
  simp only [Watch.due, Watch.ends, hrep, Bool.or_true, Bool.not_true, Bool.false_and,
    Bool.or_false, Bool.not_eq_true', Bool.or_eq_false_iff] at hdue
  have hexpired : w.expired = false := by
    by_contra hx
    rw [hclock (by simpa using hx)] at hdue
    exact absurd hdue.1 (by decide)
  have hstatement : (d.entry r).query.bind QueryRow.info = o.info := by
    rw [hshown]
    exact hinfo
  rw [hstatement] at hretained
  have hover := hretained.resolve_right (fun heq => hother heq.symm)
  have hlapse := hdue.2
  simp only [Watch.lapses, Section.reading, Option.any_some] at hlapse
  rw [retained, htimeout hexpired] at hover
  simp only [Option.any_some, Bool.not_eq_false', hlapse] at hover
  exact absurd hover (by decide)

theorem Answers.row (h : Answers o d w r) (hkeys : d.WellKept)
    (hclock : w.expired = true → w.lapsed = true) {now : Time} {g : HostRef}
    {row : QueryRow} (hp : preserves d (.updateRow now g row) = true)
    (hobs : o.observed (.updateRow now g row) = none ∨ w.ended = true)
    (hdue : (w.after o d (.updateRow now g row)).due = true) :
    Answers o (d.exec (.updateRow now g row)) (w.after o d (.updateRow now g row)) r := by
  cases hq : qualifies d.conf g row with
  | false =>
    have hsame : d.exec (.updateRow now g row) = d := by
      rw [exec, updateRow_eq, hq]
      rfl
    rw [hsame]
    exact h.idle h.1 rfl rfl hobs rfl rfl rfl (fun _ => by simp [replaces, hq])
  | true =>
    have ht := h.not_overwritten hclock hq hp hobs hdue
    have hf : d.filing (.updateRow now g row) = some (g, d.rowFiling g now row) := by
      simp [filing, hq]
    refine h.file hf ht hobs (fun hlive => ?_)
    by_contra hrep
    simp only [Bool.not_eq_false, replaces, Bool.and_eq_true, decide_eq_true_eq] at hrep
    obtain ⟨⟨⟨rfl, hid⟩, _⟩, _⟩ := hrep
    exact ht (d.target_of_find o.host (h.find hkeys hq hp hid hlive)).symm

theorem Answers.clear (h : Answers o d w r) (g : HostRef) :
    Answers o (d.exec (.clearUpdates g)) (w.after o d (.clearUpdates g)) r := by
  obtain ⟨hr, ⟨hhost, row, hrow⟩, htimeout, hstate⟩ := h
  have hentry : (d.clearUpdates g).entry r =
      { d.entry r with
        updated := (d.entry r).updated && !d.conf.sameHostname o.host g } := by
    rw [clearUpdates_entry, if_pos hr, clearMark]
    cases hs : d.conf.sameHostname o.host g with
    | false =>
      rw [if_neg (by rw [hhost, hs]; decide)]
      simp
    | true =>
      rw [if_pos (by rw [hhost, hs])]
      simp
  rw [Watch.after_unobserved (Or.inl rfl), exec]
  refine ⟨by simpa using hr, ?_, fun hx => ?_, ?_⟩
  · rw [hentry]
    exact ⟨hhost, row, hrow⟩
  · rw [hentry]
    exact htimeout (Bool.or_eq_false_iff.mp hx).1
  · rw [hentry]
    rcases hstate with ⟨hended, hpid, hupdated⟩ | ⟨hcleared, hpid⟩
    · refine Or.inl ⟨?_, hpid, ?_⟩
      · simp [hended, Watch.ends, Watch.sweeps, sweepsHost, sweeping, replaces]
      · simp [hupdated, clears, Bool.not_or]
    · exact Or.inr ⟨by simp [hcleared], hpid⟩

theorem Answers.sentinel (h : Answers o d w r) (hid : 0 ≤ o.id) {g : HostRef} {f : Filing}
    (hf : d.filing s = some (g, f)) (hpid : f.pid = replicationID ∨ f.pid = connectFailID)
    (hobs : o.observed s = none) (hrep : d.replaces o s = false) :
    Answers o (d.exec s) (w.after o d s) r := by
  refine h.file hf (fun ht => ?_) (Or.inl hobs) (fun _ => hrep)
  have hkey := (d.find_mem g (d.find_of_target h.1 ht)).2.2
  rcases h.2.2.2 with ⟨_, hlive, _⟩ | ⟨_, hdead⟩
  · rcases hpid with hpid | hpid
    · exact printID_ne_replication hid (hlive.symm.trans (hkey.trans hpid))
    · exact printID_ne_connectFail hid (hlive.symm.trans (hkey.trans hpid))
  · exact f.live (hkey.symm.trans hdead)

-- While the watch is due no sweep finds the retention over.
theorem Watch.spares_due (hclock : w.expired = true → w.lapsed = true)
    (hobs : o.observed s = none ∨ w.ended = true) (hdue : (w.after o d s).due = true)
    (hswept : w.sweeps d o s = true) : w.expires d s = false := by
  rw [Watch.after_unobserved hobs, Watch.due_iff] at hdue
  simp only [Bool.or_eq_false_iff] at hdue
  rcases hdue with hl | ⟨_, hd⟩
  · rw [Watch.expires, hl.2, Bool.and_false, Bool.or_false]
    by_contra hx
    rw [hclock (by simpa using hx)] at hl
    exact absurd hl.1 (by decide)
  · simpa [hswept] using hd.2

theorem Answers.refresh (h : Answers o d w r) (hactive : d.conf.isActive o.host = true)
    (htrack : d.trackQuery ≠ 0) (hclock : w.expired = true → w.lapsed = true) {now : Time}
    {order : List EntryRef} (hdue : (w.after o d (.refresh now order)).due = true) :
    Answers o (d.exec (.refresh now order)) (w.after o d (.refresh now order)) r := by
  have hset := d.refresh_settings now order
  have hpurged := d.purged_of_active now (e := d.entry r) (by rw [h.2.1.1]; exact hactive)
  have hspares := Watch.spares_due hclock (Or.inl rfl) hdue
  rw [Watch.after_unobserved (Or.inl rfl), exec]
  refine h.sweep (e := d.purged now (d.entry r)) htrack hset.2.1 (d.purged_frame now _) ?_ ?_ ?_
    rfl (by simp [clears]) ?_ hspares
  · intro hx
    obtain ⟨hw, hlapse⟩ := Bool.or_eq_false_iff.mp hx
    simp only [Section.refreshes, Bool.true_and, Watch.lapses, Section.reading, Option.any_some,
      Bool.and_eq_false_iff, decide_eq_false_iff_not] at hlapse
    rw [hpurged, h.2.2.1 hw, keptTimeout, Option.filter_some, if_pos]
    simp only [Bool.not_eq_true', decide_eq_false_iff_not, not_and_or]
    exact hlapse
  · intro hk
    change (sweeps d.conf d.deadHosts (d.entry r) && _) = false at hk
    rw [(d.refresh_perm now order).mem_iff, purge_items, List.mem_filter]
    exact ⟨h.1, by rw [hk]; rfl⟩
  · rw [refresh_entry, purge_entry, if_pos h.1]
    rfl
  · intro hidle
    have hsweeps : w.sweeps d o (.refresh now order) = false := hidle
    simp [Watch.ends, hsweeps, replaces]

theorem Answers.discard (h : Answers o d w r) (htrack : d.trackQuery ≠ 0)
    (hclock : w.expired = true → w.lapsed = true) {g : HostRef}
    (hdue : (w.after o d (.discardMySQLDead g)).due = true) :
    Answers o (d.exec (.discardMySQLDead g)) (w.after o d (.discardMySQLDead g)) r := by
  have hspares := Watch.spares_due hclock (Or.inl rfl) hdue
  rw [Watch.after_unobserved (Or.inl rfl), exec]
  refine h.sweep (e := d.entry r) htrack rfl rfl ?_ ?_ ?_ rfl (by simp [clears]) ?_ hspares
  · intro hx
    exact h.2.2.1 (Bool.or_eq_false_iff.mp hx).1
  · intro hk
    change (sweeps d.conf [g] (d.entry r) && _) = false at hk
    rw [discardMySQLDead_items, List.mem_filter]
    exact ⟨h.1, by rw [hk]; rfl⟩
  · rw [discardMySQLDead_entry, if_pos h.1]
    rfl
  · intro hidle
    have hsweeps : w.sweeps d o (.discardMySQLDead g) = false := hidle
    simp [Watch.ends, hsweeps, replaces]

theorem Answers.step (h : Answers o d w r) (hid : 0 ≤ o.id) (hkeys : d.WellKept)
    (hactive : d.conf.isActive o.host = true) (htrack : d.trackQuery ≠ 0)
    (hclock : w.expired = true → w.lapsed = true) (hd : undisturbed o.host d s = true)
    (hp : preserves d s = true) (hobs : o.observed s = none ∨ w.ended = true)
    (hdue : (w.after o d s).due = true) : Answers o (d.exec s) (w.after o d s) r := by
  obtain ⟨hslider, _⟩ := undisturbed_settings hd hactive htrack
  cases s with
  | clearUpdates g => exact h.clear g
  | updateRow now g row => exact h.row hkeys hclock hp hobs hdue
  | updateMySQLSlaveStatus now g status =>
    cases hu : status.unhealthy with
    | false =>
      have hsame : d.exec (.updateMySQLSlaveStatus now g status) = d := by
        rw [exec, updateMySQLSlaveStatus_eq, hu]
        rfl
      rw [hsame]
      exact h.idle h.1 rfl rfl hobs rfl rfl rfl (fun _ => rfl)
    | true =>
      have hf : d.filing (.updateMySQLSlaveStatus now g status) =
          some (g, d.statusFiling g now status) := by
        simp [filing, hu]
      exact h.sentinel hid hf (Or.inl rfl) rfl rfl
  | updateMySQLFail now g => exact h.sentinel hid rfl (Or.inr rfl) rfl rfl
  | discardMySQLDead g => exact h.discard htrack hclock hdue
  | refresh now order => exact h.refresh hactive htrack hclock hdue
  | sortDescriptorsDidChange order =>
    have hlog := (d.sortDescriptorsDidChange_sameLog order).1
    refine h.idle ?_ ?_ hslider hobs rfl rfl rfl (fun _ => rfl)
    · change r ∈ (d.sortDescriptorsDidChange order).dataList.items
      rw [hlog]
      exact (ObjectArray.reorder_perm _ _).mem_iff.mpr h.1
    · change (d.sortDescriptorsDidChange order).dataList.heap r = _
      rw [hlog]
      exact congrFun (ObjectArray.reorder_heap _ _) r
  | killProcess => simp [undisturbed] at hd
  | select row =>
    exact h.idle (by simpa [exec, items] using h.1) (by simp [exec, entry]) hslider hobs rfl rfl rfl
      (fun _ => rfl)
  | edit conf => exact h.idle h.1 rfl hslider hobs rfl rfl rfl (fun _ => rfl)
  | detectChangedSlider value => exact h.idle h.1 rfl hslider hobs rfl rfl rfl (fun _ => rfl)
  | trackQuery value => exact h.idle h.1 rfl hslider hobs rfl rfl rfl (fun _ => rfl)

-- An occurrence observed again starts its watch anew, whatever became of its entry before.
theorem Watched.observed {now : Time} (hobs : o.observed s = some now) (hended : w.ended = false)
    (hp : preserves d s = true) (hres : resumes o (d, w) s = true) :
    ∃ r, Answers o (d.exec s) (w.after o d s) r := by
  rw [Watch.after_observed hobs hended]
  cases s with
  | updateRow t g row =>
    have hrecorded := hres
    simp only [resumes, hended, hobs, Option.isNone_some, Bool.or_self, Bool.false_or,
      Bool.and_eq_true, decide_eq_true_eq] at hrecorded
    simp only [Occurrence.observed] at hobs
    split at hobs
    next hrow =>
      obtain ⟨rfl, hid, hinfo⟩ := hrow
      obtain rfl := Option.some.inj hobs
      exact observed_answers hid hinfo hrecorded.1.1 hp hrecorded.1.2
    next => exact absurd hobs (by simp)
  | _ => simp [Occurrence.observed] at hobs

theorem Watched.locked (h : Watched o d w) (hid : 0 ≤ o.id)
    (hd : undisturbed o.host d s = true) (hp : preserves d s = true)
    (hres : resumes o (d, w) s = true) : Watched o (d.exec s) (w.after o d s) where
  keys := exec_wellKept s h.keys
  active := (undisturbed_settings hd h.active h.tracking).2.1
  tracking := (undisturbed_settings hd h.active h.tracking).2.2
  clock := Watch.clock_after h.clock
  kept := by
    intro hdue
    rcases Watch.after_cases o w s with ⟨now, hobs, hended⟩ | hobs
    · exact Watched.observed hobs hended hp hres
    · obtain ⟨r, hr⟩ := h.kept (Watch.due_of_after hobs hdue)
      exact ⟨r, hr.step hid h.keys h.active h.tracking h.clock hd hp hobs hdue⟩

theorem Watched.step {a : Event} (h : Watched o d w) (hid : 0 ≤ o.id)
    (ha : steady o (d, w) a = true) : Watched o (d.happen a) (w.next o d a) := by
  cases a with
  | locked s =>
    simp only [steady, Event.issued, Option.all_some, Bool.and_eq_true] at ha
    exact h.locked hid ha.1.1 ha.1.2 ha.2
  | fetched aHost rows =>
    refine ⟨h.keys, h.active, h.tracking, h.clock, fun hdue => ?_⟩
    obtain ⟨r, hr⟩ := h.kept hdue
    exact ⟨r, hr⟩

theorem Watched.start (hkeys : d.WellKept) (hactive : d.conf.isActive o.host = true)
    (htrack : d.trackQuery ≠ 0) {now : Time} {row : QueryRow} (hid : row.id = o.id)
    (hinfo : row.info = o.info) (hq : qualifies d.conf o.host row = true)
    (hduration : row.recordedDuration ≥ d.conf.triggerTimer o.host)
    (hp : preserves d (.updateRow now o.host row) = true) :
    Watched o (d.updateRow now o.host row) { last := now } where
  keys := exec_wellKept (.updateRow now o.host row) hkeys
  active := by
    rw [updateRow_eq]
    split <;> exact hactive
  tracking := by
    rw [updateRow_eq]
    split <;> exact htrack
  clock := fun h => absurd h Bool.false_ne_true
  kept := fun _ => observed_answers hid hinfo hq hp hduration

end Watching

end Document

end DBMonitor
