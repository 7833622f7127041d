import DBMonitor.Library.Transition
import DBMonitor.Log.Steps

namespace DBMonitor

namespace Document

structure MarksDead (d : Document) (aHost : HostRef) (r : EntryRef) (timeout : Time) : Prop where
  logged : r ∈ d.items
  owned : d.conf.sameHostname (d.entry r).eventHost aHost = true
  unmarked : (d.entry r).updated = false
  tracked : (d.entry r).displayTimeout = some timeout
  tracking : d.trackQuery ≠ 0

-- The user does not dismiss the entry, its host and pool stay active, tracking stays enabled.
def spares (r : EntryRef) (d : Document) : Section → Bool
  | .killProcess => !decide (d.objectAtRow d.selectedRow = some r)
  | .edit conf => conf.isActive (d.entry r).eventHost
  | .trackQuery value => decide (value ≠ 0)
  | _ => true

def expires (timeout : Time) (d : Document) : Section → Bool
  | .refresh now _ => decide (0 ≤ d.sliderValue) && decide (timeout < now)
  | _ => false

structure Tombstone (e : DBMLogEntry) : Prop where
  unmarked : e.updated = false
  dead : e.dead = true
  label : e.processID = deadProcess

structure Lingers (r : EntryRef) (e : DBMLogEntry) (d : Document) : Prop where
  logged : r ∈ d.items
  same : d.entry r = e
  active : d.conf.isActive e.eventHost = true
  tracking : d.trackQuery ≠ 0

structure Expired (r : EntryRef) (aHost : HostRef) (d : Document) : Prop where
  allocated : r < d.dataList.next
  entry : r ∈ d.items → Tombstone (d.entry r) ∧ (d.entry r).displayTimeout = none ∧
    (d.entry r).eventHost = aHost

section Step
variable {d : Document} {s : Section} {r : EntryRef} {e : DBMLogEntry} {timeout : Time}

theorem Tombstone.relabel_eq (he : Tombstone e) : relabel e = e := by
  obtain ⟨host, text, time, pid, updated, dead, duration, timeout, query, status⟩ := e
  obtain ⟨_, rfl, rfl⟩ := he
  rfl

theorem Tombstone.sweepEntry_eq (he : Tombstone e) (hosts : List HostRef) :
    d.sweepEntry hosts e = e := by
  rcases d.sweepEntry_frame hosts e with h | ⟨_, _, h⟩
  · exact h
  · rw [h, he.relabel_eq]

theorem Tombstone.clearMark_eq (he : Tombstone e) (c : Configuration) (aHost : HostRef) :
    clearMark c aHost e = e := by
  obtain ⟨host, text, time, pid, updated, dead, duration, timeout, query, status⟩ := e
  obtain ⟨rfl, _, _⟩ := he
  unfold clearMark
  split <;> rfl

theorem Tombstone.not_filed (he : Tombstone (d.entry r)) (hr : r ∈ d.items) {aHost : HostRef}
    {f : Filing} : r ≠ d.target aHost f.pid := by
  intro ht
  exact f.live ((d.find_mem aHost (d.find_of_target hr ht)).2.2.symm.trans he.label)

theorem not_expires {now : Time} {order : List EntryRef}
    (h : d.expires timeout (.refresh now order) = false) :
    ¬(0 ≤ d.sliderValue ∧ timeout < now) := by
  rintro ⟨hslider, hlt⟩
  simp [expires, hslider, hlt] at h

theorem Tombstone.passed (he : Tombstone e) (hactive : d.conf.isActive e.eventHost = true)
    (htimeout : e.displayTimeout = some timeout) (hs : d.expires timeout s = false) :
    d.passEntry s e = e := by
  cases s with
  | clearUpdates g => exact he.clearMark_eq d.conf g
  | discardMySQLDead g => exact he.sweepEntry_eq [g]
  | refresh now order =>
    rw [passEntry, d.purged_unexpired now hactive htimeout (not_expires hs)]
    exact he.sweepEntry_eq d.deadHosts
  | _ => rfl

theorem killProcess_spares (hr : r ∈ d.items) (hs : d.objectAtRow d.selectedRow ≠ some r) :
    r ∈ d.killProcess.items := by
  rw [killProcess]
  split
  · exact hr
  next e' he' =>
    have hne : r ≠ e' := fun heq => hs (heq ▸ he')
    split
    · exact mem_eraseIdx_of_ne hr (objectAtRow_mem he').2.2 hne
    · exact hr

theorem Lingers.step (he : Tombstone e) (htimeout : e.displayTimeout = some timeout)
    (h : Lingers r e d) (hs : d.spares r s = true) (hx : d.expires timeout s = false) :
    Lingers r e (d.exec s) := by
  obtain ⟨hconf, _, htrack⟩ := d.exec_settings s
  have hlater := he.passed h.active htimeout hx
  have htracks : ∀ a, a = e → d.tracks a = true := by
    rintro a rfl
    simp [tracks, htimeout, h.tracking]
  refine ⟨?_, ?_, ?_, ?_⟩
  · by_cases hk : s = .killProcess
    · subst hk
      exact killProcess_spares h.logged (by simpa [spares] using hs)
    · refine (exec_mem_iff hk h.logged).mpr ?_
      cases s with
      | discardMySQLDead g => simp [drops, htracks _ h.same]
      | refresh now order =>
        have hkept := d.purged_unexpired now h.active htimeout (not_expires hx)
        simp [drops, h.same, hkept, htracks e rfl]
      | _ => rfl
  · have hpass := exec_passed (s := s) h.logged (fun g f _ => (h.same ▸ he).not_filed h.logged)
    rw [hpass, h.same, hlater]
  · rw [hconf]
    cases s with
    | edit conf => simpa [confAfter, spares, h.same] using hs
    | _ => exact h.active
  · rw [htrack]
    cases s with
    | trackQuery value => simpa [trackAfter, spares] using hs
    | _ => exact h.tracking

theorem Lingers.run {sections : List Section} (he : Tombstone e)
    (htimeout : e.displayTimeout = some timeout) (h : Lingers r e d)
    (hs : Transition.along exec (fun d s => d.spares r s && !d.expires timeout s) d sections = true) :
    Lingers r e (d.runSections sections) := by
  refine Transition.along_invariant (I := Lingers r e) ?_ h hs
  intro d s h hs
  rw [Bool.and_eq_true, Bool.not_eq_true'] at hs
  exact h.step he htimeout hs.1 hs.2

theorem Tombstone.settled (he : Tombstone e) (htimeout : e.displayTimeout = none) :
    d.passEntry s e = e := by
  cases s with
  | clearUpdates g => exact he.clearMark_eq d.conf g
  | discardMySQLDead g => exact he.sweepEntry_eq [g]
  | refresh now order =>
    have hsame : d.purged now e = e := by
      obtain ⟨host, text, time, pid, updated, dead, duration, timeout, query, status⟩ := e
      obtain ⟨_, rfl, _⟩ := he
      cases htimeout
      cases ha : d.conf.isActive host with
      | true => exact d.purged_of_active now ha
      | false => exact d.purged_of_inactive now ha
    rw [passEntry, hsame]
    exact he.sweepEntry_eq d.deadHosts
  | _ => rfl

theorem Lingers.expire {now : Time} {order : List EntryRef} (he : Tombstone e)
    (htimeout : e.displayTimeout = some timeout) (h : Lingers r e d)
    (hx : d.expires timeout (.refresh now order) = true) :
    Expired r e.eventHost (d.exec (.refresh now order)) := by
  refine ⟨(d.dataList.allocated r h.logged).trans_le exec_next_le, fun _ => ?_⟩
  have hpass := exec_passed (s := .refresh now order) h.logged
    (fun g f _ => (h.same ▸ he).not_filed h.logged)
  have hlapsed : 0 ≤ d.sliderValue ∧ timeout < now := by simpa [expires] using hx
  have hcleared : d.purged now e = { e with displayTimeout := none } := by
    rw [d.purged_of_active now h.active, htimeout, keptTimeout_some, if_pos hlapsed]
  have hstone : Tombstone { e with displayTimeout := none } := ⟨he.unmarked, he.dead, he.label⟩
  rw [hpass, h.same, passEntry, hcleared, hstone.sweepEntry_eq]
  exact ⟨hstone, rfl, rfl⟩

theorem Expired.step {aHost : HostRef} (h : Expired r aHost d) (s : Section) :
    Expired r aHost (d.exec s) := by
  refine ⟨h.allocated.trans_le exec_next_le, fun hm => ?_⟩
  by_cases hr : r ∈ d.items
  · obtain ⟨he, htimeout, hhost⟩ := h.entry hr
    rw [exec_passed hr (fun _ _ _ => he.not_filed hr), he.settled htimeout]
    exact ⟨he, htimeout, hhost⟩
  · exact absurd hm (exec_absent h.allocated hr).1

theorem Expired.swept {aHost : HostRef} (h : Expired r aHost d) :
    r ∉ (d.exec (.discardMySQLDead aHost)).items := by
  intro hm
  by_cases hr : r ∈ d.items
  · obtain ⟨he, htimeout, rfl⟩ := h.entry hr
    have hdrop := (exec_mem_iff (by simp) hr).mp hm
    simp [drops, sweeps, he.unmarked, tracks, htimeout] at hdrop
  · exact (exec_absent h.allocated hr).1 hm

theorem absent_run (hr : r < d.dataList.next) (hn : r ∉ d.items) (sections : List Section) :
    r ∉ (d.runSections sections).items := by
  have h : r ∉ (d.runSections sections).items ∧ r < (d.runSections sections).dataList.next :=
    Transition.foldl_invariant (I := fun d : Document => r ∉ d.items ∧ r < d.dataList.next)
      ⟨hn, hr⟩ (fun _ hi _ _ => exec_absent hi.2 hi.1)
  exact h.1

theorem MarksDead.lingers {aHost : HostRef} (h : d.MarksDead aHost r timeout)
    (hactive : d.conf.isActive (d.entry r).eventHost = true) :
    Lingers r (relabel (d.entry r)) (d.discardMySQLDead aHost) := by
  have hs : sweeps d.conf [aHost] (d.entry r) = true := by simp [sweeps, h.unmarked, h.owned]
  have ht : d.tracks (d.entry r) = true := by simp [tracks, h.tracked, h.tracking]
  refine ⟨(exec_mem_iff (s := .discardMySQLDead aHost) (by simp) h.logged).mpr ?_, ?_, hactive,
    h.tracking⟩
  · simp [drops, ht]
  · rw [discardMySQLDead_entry, if_pos h.logged, sweepEntry, hs, ht]
    rfl

end Step

theorem dead_entry_lifetime {d : Document} {aHost : HostRef} {r : EntryRef} {timeout : Time}
    (hm : d.MarksDead aHost r timeout) (hactive : d.conf.isActive (d.entry r).eventHost = true) :
    let start := d.discardMySQLDead aHost
    let lasting : Document → Section → Bool := fun d s => d.spares r s && !d.expires timeout s
    (∀ sections, Transition.along exec lasting start sections = true →
      r ∈ (start.runSections sections).items ∧
        (start.runSections sections).entry r = relabel (d.entry r)) ∧
    ∀ before now order between after, Transition.along exec lasting start before = true →
      (start.runSections before).expires timeout (.refresh now order) = true →
      r ∉ (start.runSections (before ++ .refresh now order :: between ++
        .discardMySQLDead (d.entry r).eventHost :: after)).items := by
  intro start lasting
  have hstone : Tombstone (relabel (d.entry r)) := ⟨hm.unmarked, rfl, rfl⟩
  have hrun : ∀ sections, Transition.along exec lasting start sections = true →
      Lingers r (relabel (d.entry r)) (start.runSections sections) := fun sections hs =>
    (hm.lingers hactive).run hstone hm.tracked hs
  refine ⟨fun sections hs => ⟨(hrun sections hs).logged, (hrun sections hs).same⟩, ?_⟩
  intro before now order between after hs hx
  have hexpired := (hrun before hs).expire hstone hm.tracked hx
  have hbetween : Expired r (d.entry r).eventHost
      (((start.runSections before).exec (.refresh now order)).runSections between) :=
    Transition.foldl_invariant hexpired (fun _ h s _ => h.step s)
  have hgone := absent_run (hbetween.allocated.trans_le exec_next_le) hbetween.swept after
  simpa [runSections] using hgone

theorem dead_entry_lifetime_swept :
    let c := Configuration.onePool { active := some 1 } [3] (by decide) (fun _ => 1) (fun _ => 0)
    let row : QueryRow := { id := 8, host := "web", info := some [97], time := 9 }
    let d := ((initial c 30 1).generateMySQLOperation 3
      (.connected (some [(0, row)]) 0 none)).clearUpdates 3
    let start := d.discardMySQLDead 3
    let early : List Section := [.refresh second [0], .clearUpdates 3, .detectChangedSlider 20,
      .discardMySQLDead 3]
    (0 ∈ (start.runSections early).items ∧
      (start.runSections early).entry 0 = relabel (d.entry 0)) ∧
    0 ∉ (start.runSections (early ++ .refresh (31 * second) [] :: [.clearUpdates 3] ++
      .discardMySQLDead (d.entry 0).eventHost :: [])).items := by
  intro c row d start early
  have hm : d.MarksDead 3 0 (30 * second) :=
    ⟨by decide +kernel, by decide +kernel, by decide +kernel, by decide +kernel, by decide +kernel⟩
  have hactive : d.conf.isActive (d.entry 0).eventHost = true := by decide +kernel
  have hearly : Transition.along exec (fun d s => d.spares 0 s && !d.expires (30 * second) s)
      start early = true := by
    decide +kernel
  have hx : (start.runSections early).expires (30 * second) (.refresh (31 * second) []) = true := by
    decide +kernel
  clear_value d
  refine ⟨(dead_entry_lifetime hm hactive).1 early hearly, ?_⟩
  exact (dead_entry_lifetime hm hactive).2 early (31 * second) [] [.clearUpdates 3] [] hearly hx

end Document

end DBMonitor
