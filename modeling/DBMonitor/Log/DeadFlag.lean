import DBMonitor.Log.Keys
import DBMonitor.Model.Display

namespace DBMonitor

namespace Document

def FlagAgrees (d : Document) : Prop :=
  ∀ r ∈ d.items, ((d.entry r).dead = true ↔ (d.entry r).processID = deadProcess)

def Retired (d : Document) : Prop :=
  ∀ r ∈ d.items, (d.entry r).processID = deadProcess → (d.entry r).updated = false

-- A refresh finds no marked entry of an inactive host.
def purgesClean (d : Document) : Section → Bool
  | .refresh _ _ => d.items.all fun r =>
    !(d.entry r).updated || d.conf.isActive (d.entry r).eventHost
  | _ => true

structure DeadConsistent (d : Document) : Prop where
  labelled : d.FlagAgrees
  running : ∀ r ∈ d.items, (d.entry r).updated = true → (d.entry r).dead = false
  drawn : ∀ row r, d.objectAtRow row = some r → (d.entry r).updated = true →
    d.willDisplayCell row ≠ some .grayColor
  dismissed : ∀ row r, d.objectAtRow row = some r → (d.entry r).dead = true →
    (d.selectRow row).killTarget = none ∧ r ∉ (d.selectRow row).killProcess.items

section Step
variable {d : Document} {s : Section} {r : EntryRef}

theorem filing_creates_alive {aHost : HostRef} {f : Filing} (hf : d.filing s = some (aHost, f))
    (e : DBMLogEntry) : (f.create e).dead = e.dead := by
  rcases filing_cases hf with ⟨_, _, _, rfl, _⟩ | ⟨_, _, _, rfl, _⟩ | ⟨_, _, rfl⟩ <;> rfl

theorem Retired.exec (hi : d.Retired) : (d.exec s).Retired := by
  intro r hr hp
  by_contra hu
  rcases exec_updated_true hr (by simpa using hu) with ⟨hm, hmark⟩ | ⟨g, f, hf, rfl⟩
  · rcases (exec_evolves (s := s) (d.dataList.allocated r hm)).2.2 with hk | ⟨_, hs⟩
    · rw [hi r hm (hk.symm.trans hp)] at hmark
      exact absurd hmark (by decide)
    · simp [sweeps, hmark] at hs
  · exact f.live ((exec_filed hf).2.2.1.symm.trans hp)

theorem FlagAgrees.file (hi : d.FlagAgrees) {aHost : HostRef} {f : Filing}
    (hf : d.filing s = some (aHost, f)) : (d.exec s).FlagAgrees := by
  intro r hr
  by_cases ht : r = d.target aHost f.pid
  · have hp := (exec_filed hf).2.2.1
    rw [← ht] at hp
    have halive : ((d.exec s).entry r).dead = false := by
      rw [exec_filing hf, ht, file_target, f.keeps_dead]
      rcases d.target_mem_or_fresh aHost f.pid with h | ⟨h, _⟩
      · obtain ⟨hm, _, hk⟩ := d.find_mem aHost h
        rw [d.filedOver_of_find aHost f h]
        by_contra hd
        exact f.live (hk.symm.trans ((hi _ hm).mp (by simpa using hd)))
      · simp [filedOver, h, filing_creates_alive hf, DBMLogEntry.initWithHost]
    rw [halive, hp]
    simpa using f.live
  · rw [exec_filing hf] at hr ⊢
    rw [d.file_entry aHost f ht]
    exact hi r (((d.mem_file aHost f r).mp hr).resolve_right ht)

theorem sweepEntry_agrees (hosts : List HostRef) {e : DBMLogEntry}
    (hi : e.dead = true ↔ e.processID = deadProcess) :
    (d.sweepEntry hosts e).dead = true ↔ (d.sweepEntry hosts e).processID = deadProcess := by
  rcases d.sweepEntry_frame hosts e with h | ⟨_, _, h⟩
  · rw [h]
    exact hi
  · rw [h]
    simp [relabel]

theorem mem_refresh_inactive {now : Time} {order : List EntryRef} (hm : r ∈ d.items)
    (hr : r ∈ (d.exec (.refresh now order)).items)
    (ha : d.conf.isActive (d.entry r).eventHost = false) : (d.entry r).updated = true := by
  by_contra hu
  have hs : sweeps d.conf d.deadHosts (d.entry r) = true := by
    simp only [sweeps, Bool.and_eq_true, List.any_eq_true]
    exact ⟨by simpa using hu, _, d.mem_deadHosts.mpr ⟨r, hm, rfl, ha⟩, d.conf.sameHostname_self _⟩
  have ht : d.tracks (d.purged now (d.entry r)) = false := by
    rw [d.purged_of_inactive now ha]
    simp [tracks]
  have hkept := (exec_mem_iff (by simp) hm).mp hr
  simp [drops, hs, ht] at hkept

theorem refresh_agrees_iff (now : Time) (order : List EntryRef) (hi : d.FlagAgrees)
    (hretired : d.Retired) :
    (d.exec (.refresh now order)).FlagAgrees ↔
      ∀ r ∈ d.items, (d.entry r).updated = true → d.conf.isActive (d.entry r).eventHost = true := by
  have hentry : ∀ r ∈ d.items, (d.exec (.refresh now order)).entry r =
      d.sweepEntry d.deadHosts (d.purged now (d.entry r)) :=
    fun r hr => exec_passed hr (by simp [filing])
  constructor
  · intro h r hr hu
    by_contra ha
    have hs : sweeps d.conf d.deadHosts (d.entry r) = false := by simp [sweeps, hu]
    have hflag := h r ((exec_mem_iff (by simp) hr).mpr (by simp [drops, hs]))
    rw [hentry r hr, sweepEntry, sweeps_purged, hs, d.purged_of_inactive now (by simpa using ha)]
      at hflag
    rw [hretired r hr (hflag.mp rfl)] at hu
    exact absurd hu (by decide)
  · intro h r hr
    have hm : r ∈ d.items := (exec_mem hr).resolve_right (by simp [filing])
    cases ha : d.conf.isActive (d.entry r).eventHost with
    | true =>
      rw [hentry r hm]
      refine sweepEntry_agrees d.deadHosts ?_
      rw [d.purged_of_active now ha]
      exact hi r hm
    | false => simp [h r hm (mem_refresh_inactive hm hr ha)] at ha

theorem exec_agrees (hi : d.FlagAgrees) (hs : ∀ now order, s ≠ .refresh now order) :
    (d.exec s).FlagAgrees := by
  cases hf : d.filing s with
  | some p => exact hi.file hf
  | none =>
    refine exec_unfiled (P := fun e => e.dead = true ↔ e.processID = deadProcess) hf ?_ hi
    intro e he
    cases s with
    | clearUpdates g =>
      rw [passEntry, clearMark]
      split <;> exact he
    | discardMySQLDead g => exact sweepEntry_agrees [g] he
    | refresh now order => exact absurd rfl (hs now order)
    | _ => exact he

theorem exec_agrees_iff (hi : d.FlagAgrees) (hretired : d.Retired) :
    (d.exec s).FlagAgrees ↔ d.purgesClean s = true := by
  cases s with
  | refresh now order =>
    rw [refresh_agrees_iff now order hi hretired]
    simp only [purgesClean, List.all_eq_true, Bool.or_eq_true, Bool.not_eq_true',
      ← Bool.not_eq_true (DBMLogEntry.updated _), ← imp_iff_not_or]
  | _ => exact iff_of_true (exec_agrees hi (by simp)) rfl

theorem selectRow_objectAtRow (row : Int) :
    (d.selectRow row).objectAtRow (d.selectRow row).selectedRow = d.objectAtRow row := by
  unfold selectRow
  split
  next h => rw [h]
  next => rfl

theorem dead_dismissed (hk : d.WellKept) {row : Int} (hr : d.objectAtRow row = some r)
    (hp : (d.entry r).processID = deadProcess) :
    (d.selectRow row).killTarget = none ∧ r ∉ (d.selectRow row).killProcess.items := by
  have hrow := (d.selectRow_objectAtRow row).trans hr
  have hentry : (d.selectRow row).entry r = d.entry r := by
    rw [entry, selectRow_dataList]
  refine ⟨?_, ?_⟩
  · rw [killTarget, hrow, Option.filter_some]
    simp [hentry, hp]
  · refine killProcess_dismissed ?_ hrow (Or.inr (hentry ▸ hp))
    rw [items, selectRow_dataList]
    exact hk.1

theorem deadConsistent_iff (hk : d.WellKept) (hretired : d.Retired) :
    d.DeadConsistent ↔ d.FlagAgrees := by
  refine ⟨fun h => h.labelled, fun h => ?_⟩
  have hrunning : ∀ r ∈ d.items, (d.entry r).updated = true → (d.entry r).dead = false := by
    intro r hr hu
    by_contra hd
    rw [hretired r hr ((h r hr).mp (by simpa using hd))] at hu
    exact absurd hu (by decide)
  refine ⟨h, hrunning, ?_, ?_⟩
  · intro row r hr hu hgray
    unfold willDisplayCell at hgray
    split at hgray
    · simp at hgray
    · rw [hr, Option.map_some, Option.some.injEq, textColor_gray_iff,
        hrunning r (objectAtRow_mem hr).1 hu] at hgray
      exact absurd hgray (by decide)
  · intro row r hr hd
    exact dead_dismissed hk hr ((h r (objectAtRow_mem hr).1).mp hd)

end Step

theorem initial_flags (conf : Configuration) (sliderValue trackQuery : Int) :
    (initial conf sliderValue trackQuery).Retired ∧
      (initial conf sliderValue trackQuery).FlagAgrees := by
  simp [Retired, FlagAgrees, initial, items, ObjectArray.empty]

end Document

end DBMonitor
