import DBMonitor.Detail.Statistics

namespace DBMonitor

namespace StatisticsState

def records (r : Nat) : StatisticsState → Option MysqlStatus
  | .reset _ (some q) status => if q = r then some status else none
  | _ => none

def samples (aHost : HostRef) : StatisticsState → Option MysqlStatus
  | .reset g _ status => if g = aHost then some status else none
  | _ => none

def sampling : StatisticsState → Bool
  | .lookup _ => true
  | .test _ _ => true
  | .fetch _ _ => true
  | .reset _ _ _ => false
  | .decrement _ => false

end StatisticsState

namespace Statistics

def recorded (r : Nat) (s : Statistics) : StatisticsAct → Option MysqlStatus
  | .advance i _ _ => s.calls[i]?.bind (StatisticsState.records r)
  | _ => none

def sampled (aHost : HostRef) (s : Statistics) : StatisticsAct → Option MysqlStatus
  | .advance i _ _ => s.calls[i]?.bind (StatisticsState.samples aHost)
  | _ => none

-- The samples that a row object recorded, and those of a host, whichever row took them.
def rowSamples (r : Nat) (conf : Configuration) (acts : List StatisticsAct) : List MysqlStatus :=
  Transition.outputs step (recorded r) (initial conf) acts

def hostSamples (aHost : HostRef) (conf : Configuration) (acts : List StatisticsAct) :
    List MysqlStatus :=
  Transition.outputs step (sampled aHost) (initial conf) acts

-- The counter of the last sample, zero where there is none yet.
def held (counter : MysqlStatus → UInt64) (samples : List MysqlStatus) : UInt64 :=
  (samples.getLast?.map counter).getD 0

structure ExactGrowth (previous current growth : UInt64) : Prop where
  bounded : growth ≤ current
  exact : previous ≤ current → growth.toNat = current.toNat - previous.toNat

-- The step takes a sample of the host into the row.
def Samples (aHost : HostRef) (r : Nat) (status : MysqlStatus) (s : Statistics)
    (a : StatisticsAct) : Prop :=
  ∃ i now serverStatus, a = .advance i now serverStatus ∧
    s.calls[i]? = some (.reset aHost (some r) status)

structure SampledFrom (previous : Option MysqlStatus) (aHost : HostRef) (s : Statistics)
    (a : StatisticsAct) (t : Statistics) : Prop where
  reads : ∀ last ∈ previous, ∀ r status, Samples aHost r status s a →
    ExactGrowth last.innodbDataReads status.innodbDataReads
      (t.detailList.heap r).readsPerSecond.growth
  writes : ∀ last ∈ previous, ∀ r status, Samples aHost r status s a →
    ExactGrowth last.innodbDataWrites status.innodbDataWrites
      (t.detailList.heap r).writesPerSecond.growth
  unrecorded : ∀ i now serverStatus, a = .advance i now serverStatus →
    s.calls[i]?.any StatisticsState.sampling = true → t.detailList = s.detailList

-- What the row holds is no larger, and is the host's last sample unless the counter went back.
structure Comparable (held last current : UInt64) : Prop where
  grown : held ≤ current
  same : last ≤ current → held = last

structure Sampled (r : Nat) (s : Statistics) (samples : List MysqlStatus) : Prop where
  allocated : s.Allocated
  logged : samples ≠ [] → r < s.detailList.next
  reads : (s.detailList.heap r).currentReads = held MysqlStatus.innodbDataReads samples
  writes : (s.detailList.heap r).currentWrites = held MysqlStatus.innodbDataWrites samples

theorem exactGrowth_iff (held previous current : UInt64) :
    ExactGrowth previous current (current - held) ↔ Comparable held previous current := by
  constructor
  · intro h
    have hle : held ≤ current := by
      by_contra hlt
      have hbounded := UInt64.le_iff_toNat_le.mp h.bounded
      have hheld := held.toNat_lt
      rw [UInt64.not_le, UInt64.lt_iff_toNat_lt] at hlt
      rw [UInt64.toNat_sub, Nat.mod_eq_of_lt (by omega)] at hbounded
      omega
    refine ⟨hle, fun hprevious => UInt64.toNat_inj.mp ?_⟩
    have hexact := h.exact hprevious
    rw [UInt64.toNat_sub_of_le _ _ hle] at hexact
    rw [UInt64.le_iff_toNat_le] at hle hprevious
    omega
  · rintro ⟨hle, hsame⟩
    have hsub := UInt64.toNat_sub_of_le _ _ hle
    refine ⟨?_, fun hprevious => ?_⟩
    · rw [UInt64.le_iff_toNat_le, hsub]
      exact Nat.sub_le _ _
    · rw [hsub, hsame hprevious]

section Steps
variable {s t : Statistics} {a : StatisticsAct} {r : Nat} {samples : List MysqlStatus}

theorem records_iff {call : StatisticsState} {status : MysqlStatus} :
    call.records r = some status ↔ ∃ aHost, call = .reset aHost (some r) status := by
  cases call with
  | reset aHost myEntry other =>
    cases myEntry with
    | none => simp [StatisticsState.records]
    | some q => by_cases hq : q = r <;> simp [StatisticsState.records, hq]
  | _ => simp [StatisticsState.records]

theorem records_none {call : StatisticsState}
    (h : ∀ aHost status, call ≠ .reset aHost (some r) status) : call.records r = none := by
  cases hr : call.records r with
  | none => rfl
  | some status =>
    obtain ⟨aHost, hcall⟩ := records_iff.mp hr
    exact absurd hcall (h aHost status)

theorem sample_current {e e' : DBMDetailEntry} (h : e'.sample = e.sample) :
    e'.currentReads = e.currentReads ∧ e'.currentWrites = e.currentWrites := by
  constructor
  · simpa [DBMDetailEntry.sample] using congrArg DBMDetailEntry.currentReads h
  · simpa [DBMDetailEntry.sample] using congrArg DBMDetailEntry.currentWrites h

theorem held_snoc (counter : MysqlStatus → UInt64) (samples : List MysqlStatus)
    (status : MysqlStatus) : held counter (samples ++ [status]) = counter status := by
  simp [held]

theorem Sampled.keep (hs : s.Sampled r samples) (ht : t.Allocated)
    (hn : s.detailList.next ≤ t.detailList.next) (hnone : recorded r s a = none)
    (hkept : (t.detailList.heap r).currentReads = (s.detailList.heap r).currentReads ∧
      (t.detailList.heap r).currentWrites = (s.detailList.heap r).currentWrites) :
    t.Sampled r (samples ++ (recorded r s a).toList) := by
  rw [hnone, Option.toList_none, List.append_nil]
  exact ⟨ht, fun hne => (hs.logged hne).trans_le hn, hkept.1.trans hs.reads,
    hkept.2.trans hs.writes⟩

theorem Sampled.grow (hs : s.Sampled r samples) (ht : t.Allocated)
    (hd : s.detailList.Grows t.detailList) (hnone : recorded r s a = none) :
    t.Sampled r (samples ++ (recorded r s a).toList) := by
  rcases lt_or_ge r s.detailList.next with hlt | hge
  · exact hs.keep ht hd.next hnone (sample_current (hd.kept r hlt))
  · have hempty : samples = [] := by
      by_contra hne
      exact absurd (hs.logged hne) (by omega)
    rcases hd.fresh r hge with hsame | hnew
    · exact hs.keep ht hd.next hnone (sample_current hsame)
    · -- A row made by a reload starts from zero, as one that has recorded nothing does.
      have hzero := sample_current (e := { host := 0 }) hnew
      refine hs.keep ht hd.next hnone ⟨hzero.1.trans ?_, hzero.2.trans ?_⟩
      · rw [hs.reads, hempty]
        rfl
      · rw [hs.writes, hempty]
        rfl

theorem Sampled.record (hs : s.Sampled r samples) {calls : List StatisticsState} {q : Nat}
    {aHost : HostRef} (hq : q < s.detailList.next) (now : Time) (status : MysqlStatus)
    (ht : Allocated ⟨s.conf, s.detailList.modify q (DBMDetailEntry.recordStatus now status),
      calls⟩) :
    Sampled r ⟨s.conf, s.detailList.modify q (DBMDetailEntry.recordStatus now status), calls⟩
      (samples ++ ((StatisticsState.reset aHost (some q) status).records r).toList) := by
  by_cases hr : q = r
  · subst hr
    rw [records_iff.mpr ⟨aHost, rfl⟩, Option.toList_some]
    refine ⟨ht, fun _ => hq, ?_, ?_⟩ <;> rw [held_snoc, ObjectArray.modify_heap, if_pos rfl] <;> rfl
  · rw [records_none (by simp [hr]), Option.toList_none, List.append_nil]
    refine ⟨ht, hs.logged, ?_, ?_⟩
    · simpa [ObjectArray.modify_heap, Ne.symm hr] using hs.reads
    · simpa [ObjectArray.modify_heap, Ne.symm hr] using hs.writes

theorem Sampled.step (hs : s.Sampled r samples) (h : Moves s a t) :
    t.Sampled r (samples ++ (recorded r s a).toList) := by
  have halloc := hs.allocated.step h
  cases h with
  | begin aHost => exact hs.keep halloc le_rfl rfl ⟨rfl, rfl⟩
  | grows conf ha hd =>
    have hnone : recorded r s a = none := by
      cases a with
      | advance i now serverStatus => exact absurd rfl (ha i now serverStatus)
      | _ => rfl
    exact hs.grow halloc hd hnone
  | @advance i pre call post now serverStatus hcalls hi =>
    have hrecorded : recorded r s (.advance i now serverStatus) = call.records r := by
      rw [recorded, hi, Option.bind_some]
    obtain ⟨_, q, status, hcall, heq⟩ | ⟨q, hcall, heq⟩ | ⟨_, q, hcall, _, heq⟩ | ⟨hd, hcall, _⟩ :=
      call.advance_cases s.conf s.detailList now serverStatus
    · have hq : q < s.detailList.next :=
        hs.allocated call (List.mem_of_getElem? hi) q (by rw [hcall]; rfl)
      simp only [heq] at halloc ⊢
      rw [hrecorded, hcall]
      exact hs.record hq now status halloc
    · have hnone : call.records r = none := records_none (by simp [hcall])
      simp only [heq] at halloc ⊢
      refine hs.keep halloc le_rfl (hrecorded.trans hnone) ?_
      by_cases hq : r = q <;> simp [ObjectArray.modify_heap, hq, DBMDetailEntry.countDown]
    · have hnone : call.records r = none := records_none (by simp [hcall])
      simp only [heq] at halloc ⊢
      exact hs.keep halloc le_rfl (hrecorded.trans hnone) ⟨rfl, rfl⟩
    · have hnone : call.records r = none := records_none (fun aHost => hcall aHost r)
      rw [hd] at halloc ⊢
      exact hs.keep halloc le_rfl (hrecorded.trans hnone) ⟨rfl, rfl⟩

theorem samples_step {aHost : HostRef} {status : MysqlStatus} (hsample : Samples aHost r status s a)
    (h : step s a = some t) :
    ∃ now, t.detailList.heap r = (s.detailList.heap r).recordStatus now status := by
  obtain ⟨i, now, serverStatus, rfl, hi⟩ := hsample
  simp only [step, hi, Option.map_some, Option.some.injEq] at h
  subst h
  exact ⟨now, Function.update_self r _ _⟩

theorem sampling_keeps {i : Nat} {now : Time} {serverStatus : Option MysqlStatus}
    (hcall : s.calls[i]?.any StatisticsState.sampling = true)
    (h : step s (.advance i now serverStatus) = some t) : t.detailList = s.detailList := by
  obtain ⟨call, hi, hsampling⟩ := (Option.any_eq_true _ _).mp hcall
  simp only [step, hi, Option.map_some, Option.some.injEq] at h
  subst h
  cases call with
  | reset aHost myEntry status => simp [StatisticsState.sampling] at hsampling
  | decrement myEntry => simp [StatisticsState.sampling] at hsampling
  | _ => rfl

end Steps

theorem initial_sampled (conf : Configuration) (r : Nat) : (initial conf).Sampled r [] :=
  ⟨fun _ hcall => absurd hcall List.not_mem_nil, fun h => absurd rfl h, rfl, rfl⟩

theorem run_sampled {conf : Configuration} {acts : List StatisticsAct} {s : Statistics}
    (h : Transition.run step Transition.anyStep (initial conf) acts = some s) (r : Nat) :
    s.Sampled r (rowSamples r conf acts) := by
  have hstep : ∀ s samples a t, Sampled r s samples → Transition.anyStep s a = true →
      step s a = some t → t.Sampled r (samples ++ (recorded r s a).toList) :=
    fun _ _ _ _ hs _ ht => hs.step (step_moves ht)
  exact Transition.run_outputs hstep (initial_sampled conf r) h

theorem rates_exact_iff {conf : Configuration} {acts : List StatisticsAct} {s t : Statistics}
    {a : StatisticsAct}
    (h : Transition.run step Transition.anyStep (initial conf) acts = some s)
    (ht : step s a = some t) (aHost : HostRef) :
    SampledFrom (hostSamples aHost conf acts).getLast? aHost s a t ↔
      ∀ last ∈ (hostSamples aHost conf acts).getLast?, ∀ r status, Samples aHost r status s a →
        Comparable (held MysqlStatus.innodbDataReads (rowSamples r conf acts))
            last.innodbDataReads status.innodbDataReads ∧
          Comparable (held MysqlStatus.innodbDataWrites (rowSamples r conf acts))
            last.innodbDataWrites status.innodbDataWrites := by
  have hgrowth : ∀ r status, Samples aHost r status s a →
      (t.detailList.heap r).readsPerSecond.growth = status.innodbDataReads -
          held MysqlStatus.innodbDataReads (rowSamples r conf acts) ∧
        (t.detailList.heap r).writesPerSecond.growth = status.innodbDataWrites -
          held MysqlStatus.innodbDataWrites (rowSamples r conf acts) := by
    intro r status hsample
    have hrow := run_sampled h r
    obtain ⟨now, hentry⟩ := samples_step hsample ht
    rw [hentry, ← hrow.reads, ← hrow.writes]
    exact ⟨rfl, rfl⟩
  constructor
  · intro hs last hlast r status hsample
    obtain ⟨hreads, hwrites⟩ := hgrowth r status hsample
    have hr := hs.reads last hlast r status hsample
    have hw := hs.writes last hlast r status hsample
    rw [hreads, exactGrowth_iff] at hr
    rw [hwrites, exactGrowth_iff] at hw
    exact ⟨hr, hw⟩
  · intro hgrown
    refine ⟨fun last hlast r status hsample => ?_, fun last hlast r status hsample => ?_, ?_⟩
    · rw [(hgrowth r status hsample).1, exactGrowth_iff]
      exact (hgrown last hlast r status hsample).1
    · rw [(hgrowth r status hsample).2, exactGrowth_iff]
      exact (hgrown last hlast r status hsample).2
    · rintro i now serverStatus rfl hsampling
      exact sampling_keeps hsampling ht

def sampleOf (reads : UInt64) : List StatisticsAct :=
  [.begin 3, .advance 0 0 none, .advance 0 0 none, .advance 0 0 (some { innodbDataReads := reads })]

def resampled (reads : UInt64) : List StatisticsAct :=
  .reloadDataWatchers :: (sampleOf 1000 ++ .advance 0 second none ::
    ([.begin 3, .advance 0 0 none, .advance 0 0 none, .advance 0 0 none,
      .begin 3, .advance 0 0 none, .advance 0 0 none, .advance 0 0 none] ++ sampleOf reads))

theorem rates_exact_growing :
    let conf := Configuration.onePool { active := some 1 } [3] (by decide) (fun _ => 1) (fun _ => 0)
    let last := (hostSamples 3 conf (resampled 1500)).getLast?
    last = some { innodbDataReads := 1000 } ∧
      ∃ s t, Transition.run step Transition.anyStep (initial conf) (resampled 1500) = some s ∧
        Samples 3 0 { innodbDataReads := 1500 } s (.advance 0 (2 * second) none) ∧
        step s (.advance 0 (2 * second) none) = some t ∧
        (t.detailList.heap 0).readsPerSecond.growth = 500 ∧
        SampledFrom last 3 s (.advance 0 (2 * second) none) t := by
  intro conf last
  have hlast : last = some { innodbDataReads := 1000 } := by decide +kernel
  have hrow : rowSamples 0 conf (resampled 1500) = [{ innodbDataReads := 1000 }] := by
    decide +kernel
  have hcheck : (Transition.run step Transition.anyStep (initial conf) (resampled 1500)).any
      (fun s => decide (s.calls[0]? = some (.reset 3 (some 0) { innodbDataReads := 1500 })) &&
        (step s (.advance 0 (2 * second) none)).any
          (fun t => decide ((t.detailList.heap 0).readsPerSecond.growth = 500))) = true := by
    decide +kernel
  obtain ⟨s, hrun, hs⟩ := (Option.any_eq_true _ _).mp hcheck
  rw [Bool.and_eq_true, decide_eq_true_eq] at hs
  obtain ⟨t, hstep, hgrowth⟩ := (Option.any_eq_true _ _).mp hs.2
  refine ⟨hlast, s, t, hrun, ⟨0, _, _, rfl, hs.1⟩, hstep, of_decide_eq_true hgrowth, ?_⟩
  refine (rates_exact_iff hrun hstep 3).mpr (fun prev hprev r status hsample => ?_)
  obtain rfl := Option.some.inj (hlast.symm.trans hprev)
  obtain ⟨i, _, _, hact, hcall⟩ := hsample
  cases hact
  cases hs.1.symm.trans hcall
  rw [hrow]
  exact ⟨⟨by decide, fun _ => rfl⟩, ⟨by decide, fun _ => rfl⟩⟩

theorem restarted_server_wraps_rate :
    let conf := Configuration.onePool { active := some 1 } [3] (by decide) (fun _ => 1) (fun _ => 0)
    let last := (hostSamples 3 conf (resampled 10)).getLast?
    last = some { innodbDataReads := 1000 } ∧
      ∃ s t, Transition.run step Transition.anyStep (initial conf) (resampled 10) = some s ∧
        Samples 3 0 { innodbDataReads := 10 } s (.advance 0 (2 * second) none) ∧
        step s (.advance 0 (2 * second) none) = some t ∧
        (t.detailList.heap 0).readsPerSecond.growth = 18446744073709550626 ∧
        ¬SampledFrom last 3 s (.advance 0 (2 * second) none) t := by
  intro conf last
  have hlast : last = some { innodbDataReads := 1000 } := by decide +kernel
  have hcheck : (Transition.run step Transition.anyStep (initial conf) (resampled 10)).any
      (fun s => decide (s.calls[0]? = some (.reset 3 (some 0) { innodbDataReads := 10 })) &&
        (step s (.advance 0 (2 * second) none)).any
          (fun t => decide ((t.detailList.heap 0).readsPerSecond.growth = 18446744073709550626))) =
        true := by
    decide +kernel
  obtain ⟨s, hrun, hs⟩ := (Option.any_eq_true _ _).mp hcheck
  rw [Bool.and_eq_true, decide_eq_true_eq] at hs
  obtain ⟨t, hstep, hgrowth⟩ := (Option.any_eq_true _ _).mp hs.2
  have hsample : Samples 3 0 { innodbDataReads := 10 } s (.advance 0 (2 * second) none) :=
    ⟨0, _, _, rfl, hs.1⟩
  refine ⟨hlast, s, t, hrun, hsample, hstep, of_decide_eq_true hgrowth, fun h => ?_⟩
  have hbounded := (h.reads _ hlast 0 _ hsample).bounded
  rw [of_decide_eq_true hgrowth] at hbounded
  revert hbounded
  decide

-- A reload between two samples: the new row holds zero, and the growth is the whole counter.
example :
    let conf := Configuration.onePool { active := some 1 } [3] (by decide) (fun _ => 1) (fun _ => 0)
    let acts := .reloadDataWatchers :: (sampleOf 1000 ++ .advance 0 second none ::
      .reloadDataWatchers :: (sampleOf 1500 ++ [.advance 0 (2 * second) none]))
    ((Transition.run step Transition.anyStep (initial conf) acts).map
      fun s => (s.detailList.heap 1).readsPerSecond.growth) = some 1500 := by
  decide +kernel

end Statistics

end DBMonitor
