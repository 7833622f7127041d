import DBMonitor.Library.Transition
import DBMonitor.Log.Steps

namespace DBMonitor

namespace Document

def SliderInRange (d : Document) : Prop :=
  d.sliderValue = -1 ∨ (0 ≤ d.sliderValue ∧ d.sliderValue ≤ 299)

-- No poll updates the entry, its host stays active, tracking stays enabled, and the slider moves
-- between its stops.
def leavesRecord (r : EntryRef) (d : Document) : Section → Bool
  | .edit conf => conf.isActive (d.entry r).eventHost
  | .trackQuery value => decide (value ≠ 0)
  | .detectChangedSlider value => decide (0 ≤ value) && decide (value ≤ 300)
  | s => (d.filing s).all (fun p => decide (r ≠ d.target p.1 p.2.pid))

def slidersInForce (d : Document) (sections : List Section) : List Int :=
  (sections.scanl exec d).map sliderValue

def smallestFinite (d : Document) (sections : List Section) : Option Int :=
  ((d.slidersInForce sections).filter (fun v => decide (0 ≤ v))).min?

def Clears (r : EntryRef) (now : Time) (order : List EntryRef) (d : Document) : Prop :=
  r ∈ d.items ∧ (d.entry r).displayTimeout ≠ none ∧
    ((d.exec (.refresh now order)).entry r).displayTimeout = none

def RespectsSlider (r : EntryRef) (updated : Time) (d : Document) : Prop :=
  ∀ between now order, Transition.along exec (leavesRecord r) d between = true →
    Clears r now order (d.runSections between) →
    0 ≤ (d.runSections between).sliderValue ∧
      ∃ v, d.smallestFinite between = some v ∧ v * second < now - updated

-- The longest that the slider can promise an entry: its value, or its last finite stop.
def promised (d : Document) (now : Time) : Time :=
  now + (if 0 ≤ d.sliderValue then d.sliderValue else 299) * second

def statusDuration (now : Time) (status : MysqlSlaveStatus) (e : DBMLogEntry) : Int :=
  if status.secondsBehindMaster > 1 then intValue status.secondsBehindMaster else elapsed now e

def honoursSlider (d : Document) : Section → Prop
  | .updateRow _ _ _ => 0 ≤ d.sliderValue
  | .updateMySQLSlaveStatus now aHost status =>
    let e := d.filedOver aHost (d.statusFiling aHost now status)
    if statusDuration now status e ≥ d.conf.triggerTimer aHost then 0 ≤ d.sliderValue
    else ∀ timeout ∈ e.displayTimeout, d.promised now ≤ timeout
  | .updateMySQLFail now aHost =>
    ∀ timeout ∈ (d.filedOver aHost (failFiling now)).displayTimeout, d.promised now ≤ timeout
  | _ => True

structure Recorded (r : EntryRef) (aHost : HostRef) (timeout : Time) (d : Document) : Prop where
  allocated : r < d.dataList.next
  slider : d.SliderInRange
  host : (d.entry r).eventHost = aHost
  active : d.conf.isActive aHost = true
  kept : r ∈ d.items → (d.entry r).displayTimeout = some timeout ∨ (d.entry r).displayTimeout = none

section Slider
variable {d : Document} {sections : List Section}

theorem slider_first (sections : List Section) : d.sliderValue ∈ d.slidersInForce sections := by
  cases sections <;> simp [slidersInForce]

theorem slider_last (sections : List Section) :
    (d.runSections sections).sliderValue ∈ d.slidersInForce sections := by
  refine List.mem_map_of_mem (List.mem_of_getLast? ?_)
  exact List.getLast?_scanl

theorem exists_smallestFinite {v x : Int} (hv : v ∈ d.slidersInForce sections) (hfinite : 0 ≤ v)
    (hx : v * second < x) : ∃ u, d.smallestFinite sections = some u ∧ u * second < x := by
  have hm : v ∈ (d.slidersInForce sections).filter (fun v => decide (0 ≤ v)) :=
    List.mem_filter.mpr ⟨hv, decide_eq_true hfinite⟩
  cases hmin : ((d.slidersInForce sections).filter (fun v => decide (0 ≤ v))).min? with
  | none =>
    rw [List.min?_eq_none_iff.mp hmin] at hm
    exact absurd hm List.not_mem_nil
  | some u =>
    have hle : u ≤ v := (List.min?_eq_some_iff.mp hmin).2 v hm
    refine ⟨u, hmin, lt_of_le_of_lt ?_ hx⟩
    exact Int.mul_le_mul_of_nonneg_right hle (by decide)

theorem SliderInRange.exec {s : Section} {r : EntryRef} (h : d.SliderInRange)
    (hs : d.leavesRecord r s = true) : (d.exec s).SliderInRange := by
  rw [SliderInRange, (d.exec_settings s).2.1]
  cases s with
  | detectChangedSlider value =>
    simp only [leavesRecord, Bool.and_eq_true, decide_eq_true_eq] at hs
    simp only [sliderAfter]
    split <;> omega
  | _ => exact h

end Slider

section Record
variable {d : Document} {s : Section} {r : EntryRef} {aHost : HostRef} {timeout : Time}

theorem sweepEntry_displayTimeout (d : Document) (hosts : List HostRef) (e : DBMLogEntry) :
    (d.sweepEntry hosts e).displayTimeout = e.displayTimeout := by
  unfold sweepEntry
  split <;> rfl

theorem passEntry_displayTimeout {e : DBMLogEntry} (hactive : d.conf.isActive e.eventHost = true) :
    (d.passEntry s e).displayTimeout = e.displayTimeout ∨
      (d.passEntry s e).displayTimeout = none := by
  cases s with
  | clearUpdates g =>
    rw [passEntry, clearMark]
    split <;> exact Or.inl rfl
  | discardMySQLDead g => exact Or.inl (d.sweepEntry_displayTimeout [g] e)
  | refresh now order =>
    rw [passEntry, sweepEntry_displayTimeout, d.purged_of_active now hactive]
    cases ht : e.displayTimeout with
    | none => exact Or.inl rfl
    | some t =>
      rw [keptTimeout_some]
      split
      · exact Or.inr rfl
      · exact Or.inl rfl
  | _ => exact Or.inl rfl

theorem leavesRecord_not_filed (hs : d.leavesRecord r s = true) {g : HostRef} {f : Filing}
    (hf : d.filing s = some (g, f)) : r ≠ d.target g f.pid := by
  have hall : (d.filing s).all (fun p => decide (r ≠ d.target p.1 p.2.pid)) = true := by
    cases s <;> first | exact hs | rfl
  rw [hf] at hall
  simpa using hall

theorem Recorded.step (h : Recorded r aHost timeout d) (hs : d.leavesRecord r s = true) :
    Recorded r aHost timeout (d.exec s) := by
  refine ⟨h.allocated.trans_le exec_next_le, h.slider.exec hs, ?_, ?_, fun hm => ?_⟩
  · rw [(exec_evolves h.allocated).1, h.host]
  · rw [(d.exec_settings s).1]
    cases s with
    | edit conf => simpa [confAfter, leavesRecord, h.host] using hs
    | _ => exact h.active
  · by_cases hr : r ∈ d.items
    · rw [exec_passed hr (fun _ _ hf => leavesRecord_not_filed hs hf)]
      rcases passEntry_displayTimeout (s := s) (e := d.entry r) (h.host ▸ h.active) with hk | hk
      · rw [hk]
        exact h.kept hr
      · exact Or.inr hk
    · exact absurd hm (exec_absent h.allocated hr).1

theorem Recorded.cleared {now : Time} {order : List EntryRef} (h : Recorded r aHost timeout d)
    (hc : Clears r now order d) : 0 ≤ d.sliderValue ∧ timeout < now := by
  obtain ⟨hr, hset, hnone⟩ := hc
  have hpass := exec_passed (s := .refresh now order) hr (by simp [filing])
  rw [hpass, passEntry, sweepEntry_displayTimeout, d.purged_of_active now (h.host ▸ h.active),
    (h.kept hr).resolve_right hset, keptTimeout_some] at hnone
  by_contra hkeep
  simp [if_neg hkeep] at hnone

theorem Recorded.clears {now : Time} {order : List EntryRef} (h : Recorded r aHost timeout d)
    (hr : r ∈ d.items) (ht : (d.entry r).displayTimeout = some timeout)
    (hslider : 0 ≤ d.sliderValue) (hlt : timeout < now) : Clears r now order d := by
  refine ⟨hr, by simp [ht], ?_⟩
  rw [exec_passed hr (by simp [filing]), passEntry, sweepEntry_displayTimeout,
    d.purged_of_active now (h.host ▸ h.active), ht, keptTimeout_some, if_pos ⟨hslider, hlt⟩]

theorem exec_filed_timeout {f : Filing} (hf : d.filing s = some (aHost, f)) :
    ((d.exec s).entry (d.target aHost f.pid)).displayTimeout =
      (f.write (d.filedOver aHost f)).displayTimeout := by
  rw [exec_filing hf, file_target]

theorem promised_of_infinite (hrange : d.SliderInRange) {now : Time} :
    d.promised now ≤ d.displayDeadline now ↔ 0 ≤ d.sliderValue := by
  unfold promised displayDeadline
  rcases hrange with h | ⟨h, _⟩
  · rw [h]
    refine iff_of_false (fun hle => ?_) (by decide)
    have hlt : now + 299 * second ≤ now + -1 * second := hle
    unfold second at hlt
    linarith
  · simp [h]

theorem honoursSlider_iff {f : Filing} (hf : d.filing s = some (aHost, f))
    (hrange : d.SliderInRange)
    (ht : ((d.exec s).entry (d.target aHost f.pid)).displayTimeout = some timeout) :
    d.honoursSlider s ↔ d.promised f.now ≤ timeout := by
  rw [exec_filed_timeout hf] at ht
  rcases filing_cases hf with ⟨now, row, rfl, rfl, _⟩ | ⟨now, status, rfl, rfl, _⟩ | ⟨now, rfl, rfl⟩
  · change (if row.recordedDuration ≥ d.conf.triggerTimer aHost then
      some (d.displayDeadline now) else none) = some timeout at ht
    split at ht
    · rw [← Option.some.inj ht]
      exact (promised_of_infinite hrange).symm
    · simp at ht
  · simp only [honoursSlider]
    change (if statusDuration now status _ ≥ d.conf.triggerTimer aHost then
      some (d.displayDeadline now) else _) = some timeout at ht
    split at ht
    next hd =>
      rw [if_pos hd, ← Option.some.inj ht]
      exact (promised_of_infinite hrange).symm
    next hd =>
      rw [if_neg hd, ht]
      simp [statusFiling]
  · change (d.filedOver aHost (failFiling now)).displayTimeout = some timeout at ht
    simp only [honoursSlider, ht, Option.mem_def, Option.some.injEq, forall_eq']
    rfl

theorem Recorded.start {f : Filing} (hf : d.filing s = some (aHost, f)) (hrange : d.SliderInRange)
    (hactive : d.conf.isActive ((d.exec s).entry (d.target aHost f.pid)).eventHost = true)
    (ht : ((d.exec s).entry (d.target aHost f.pid)).displayTimeout = some timeout) :
    Recorded (d.target aHost f.pid) ((d.exec s).entry (d.target aHost f.pid)).eventHost timeout
      (d.exec s) := by
  have hsettings : (d.exec s).conf = d.conf ∧ (d.exec s).sliderValue = d.sliderValue := by
    rw [exec_filing hf]
    exact ⟨rfl, rfl⟩
  refine ⟨(d.exec s).dataList.allocated _ (exec_filed hf).1, ?_, rfl, ?_, fun _ => Or.inl ht⟩
  · rw [SliderInRange, hsettings.2]
    exact hrange
  · rw [hsettings.1]
    exact hactive

theorem promised_exec {f : Filing} (hf : d.filing s = some (aHost, f)) (now : Time) :
    (d.exec s).promised now = d.promised now := by
  rw [exec_filing hf]
  rfl

theorem Recorded.respects {now : Time} (h : Recorded r aHost timeout d)
    (hp : d.promised now ≤ timeout) : RespectsSlider r now d := by
  intro between later order hs hc
  have hlast : Recorded r aHost timeout (d.runSections between) :=
    Transition.along_invariant (I := Recorded r aHost timeout) (fun _ _ h hs => h.step hs) h hs
  obtain ⟨hslider, hlt⟩ := hlast.cleared hc
  refine ⟨hslider, ?_⟩
  by_cases hfinite : 0 ≤ d.sliderValue
  · rw [promised, if_pos hfinite] at hp
    refine exists_smallestFinite (slider_first between) hfinite ?_
    linarith
  · rw [promised, if_neg hfinite] at hp
    refine exists_smallestFinite (slider_last between) hslider ?_
    have hle : (d.runSections between).sliderValue ≤ 299 := by
      rcases hlast.slider with h | h <;> omega
    have hmul := Int.mul_le_mul_of_nonneg_right hle (by decide : (0 : Int) ≤ second)
    linarith

theorem smallestFinite_mem {sections : List Section} {v : Int}
    (h : d.smallestFinite sections = some v) : v ∈ d.slidersInForce sections ∧ 0 ≤ v := by
  have hm := List.mem_filter.mp (List.min?_mem h)
  exact ⟨hm.1, of_decide_eq_true hm.2⟩

-- The slider stays, or moves to its last finite stop, and the next refresh comes one tick after
-- the timeout.
theorem Recorded.promised_le {now : Time} (h : Recorded r aHost timeout d) (hr : r ∈ d.items)
    (ht : (d.entry r).displayTimeout = some timeout) (hlaw : RespectsSlider r now d) :
    d.promised now ≤ timeout := by
  by_cases hfinite : 0 ≤ d.sliderValue
  · obtain ⟨_, v, hv, hlt⟩ := hlaw [] (timeout + 1) [] rfl
      (h.clears hr ht hfinite (Int.lt_succ timeout))
    have hsame : v = d.sliderValue := by
      simpa [slidersInForce] using (smallestFinite_mem hv).1
    rw [promised, if_pos hfinite, ← hsame]
    exact Int.le_of_lt_add_one (by linarith)
  · have hmoved : Recorded r aHost timeout (d.exec (.detectChangedSlider 299)) :=
      h.step (by simp [leavesRecord])
    obtain ⟨_, v, hv, hlt⟩ := hlaw [.detectChangedSlider 299] (timeout + 1) []
      (by simp [Transition.along, leavesRecord])
      (hmoved.clears hr ht (by simp [exec, detectChangedSlider]) (Int.lt_succ timeout))
    obtain ⟨hm, hpos⟩ := smallestFinite_mem hv
    have hsame : v = 299 := by
      have hm' : v = d.sliderValue ∨ v = 299 := by
        simpa [slidersInForce, exec, detectChangedSlider] using hm
      omega
    rw [promised, if_neg hfinite]
    rw [hsame] at hlt
    exact Int.le_of_lt_add_one (by linarith)

end Record

theorem respectsSlider_iff {d : Document} {s : Section} {aHost : HostRef} {f : Filing}
    (hf : d.filing s = some (aHost, f)) (hrange : d.SliderInRange)
    (hactive : d.conf.isActive ((d.exec s).entry (d.target aHost f.pid)).eventHost = true)
    (htracked : ((d.exec s).entry (d.target aHost f.pid)).displayTimeout ≠ none) :
    RespectsSlider (d.target aHost f.pid) f.now (d.exec s) ↔ d.honoursSlider s := by
  obtain ⟨timeout, ht⟩ := Option.ne_none_iff_exists'.mp htracked
  have hstart := Recorded.start hf hrange hactive ht
  rw [honoursSlider_iff hf hrange ht, ← promised_exec hf]
  exact ⟨hstart.promised_le (exec_filed hf).1 ht, hstart.respects⟩

theorem respectsSlider_iff_finite :
    let c := Configuration.onePool { active := some 1 } [3] (by decide) (fun _ => 1) (fun _ => 0)
    let row : QueryRow := { id := 8, host := "web", info := some [97], time := 9 }
    let d := initial c 30 1
    let s : Section := .updateRow 0 3 row
    d.honoursSlider s ∧ RespectsSlider 0 0 (d.exec s) ∧
      Clears 0 (31 * second) [] ((d.exec s).runSections [.detectChangedSlider 300,
        .detectChangedSlider 60]) := by
  intro c row d s
  have hq : qualifies d.conf 3 row = true := by decide +kernel
  have hf : d.filing s = some (3, d.rowFiling 3 0 row) := by rw [filing, if_pos hq]
  have hhonours : d.honoursSlider s := Int.zero_le_ofNat 30
  have hlaw := (respectsSlider_iff hf (Or.inr (by decide +kernel)) (by decide +kernel)
    (by decide +kernel)).mpr hhonours
  exact ⟨hhonours, hlaw, by decide +kernel, by decide +kernel, by decide +kernel⟩

theorem infinite_slider_expires_at_once :
    let c := Configuration.onePool { active := some 1 } [3] (by decide) (fun _ => 1) (fun _ => 0)
    let row : QueryRow := { id := 8, host := "web", info := some [97], time := 9 }
    let recorded := ((initial c 30 1).detectChangedSlider 300).exec (.updateRow 0 3 row)
    (recorded.entry 0).displayTimeout = some (-second) ∧
      Clears 0 (2 * second) [0] (recorded.runSections [.detectChangedSlider 60]) ∧
      recorded.smallestFinite [.detectChangedSlider 60] = some 60 ∧
      ¬RespectsSlider 0 0 recorded := by
  intro c row recorded
  have hc : Clears 0 (2 * second) [0] (recorded.runSections [.detectChangedSlider 60]) :=
    ⟨by decide +kernel, by decide +kernel, by decide +kernel⟩
  have hmin : recorded.smallestFinite [.detectChangedSlider 60] = some 60 := by decide +kernel
  refine ⟨by decide +kernel, hc, hmin, fun hlaw => ?_⟩
  obtain ⟨_, v, hv, hlt⟩ := hlaw [.detectChangedSlider 60] (2 * second) [0] (by decide +kernel) hc
  rw [hmin] at hv
  obtain rfl := Option.some.inj hv
  revert hlt
  decide

end Document

end DBMonitor
