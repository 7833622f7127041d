import DBMonitor.Detail.Statistics

namespace DBMonitor.Statistics

def pending (r : Nat) (calls : List StatisticsState) : Nat := calls.count (.decrement (some r))

def pollsLeft (s : Statistics) (r : Nat) : UInt64 := (s.detailList.heap r).pollsLeftBeforeStatus

def spaced (s : Statistics) : StatisticsAct → Bool
  | .advance i _ _ =>
    match s.calls[i]? with
    | some (.test _ (some r)) =>
      (s.detailList.heap r).isDue || decide (pending r s.calls < (s.pollsLeft r).toNat)
    | _ => true
  | _ => true

structure InRange (s : Statistics) : Prop where
  range : ∀ r, s.pollsLeft r = 0 ∨ s.pollsLeft r = 1 ∨ s.pollsLeft r = 2
  noWrap : ∀ r, .decrement (some r) ∈ s.calls → 0 < s.pollsLeft r
  sampled : ∀ r, ∃ n ≤ 2, (DBMDetailEntry.countDown^[n] (s.detailList.heap r)).isDue = true

structure Counted (s : Statistics) : Prop where
  allocated : s.Allocated
  range : ∀ r, (s.pollsLeft r).toNat ≤ 2
  claimed : ∀ r, pending r s.calls ≤ (s.pollsLeft r).toNat

section Steps
variable {s t : Statistics} {a : StatisticsAct}

theorem sample_pollsLeft {e e' : DBMDetailEntry} (h : e'.sample = e.sample) :
    e'.pollsLeftBeforeStatus = e.pollsLeftBeforeStatus := by
  simpa [DBMDetailEntry.sample] using congrArg DBMDetailEntry.pollsLeftBeforeStatus h

theorem pending_zero (hs : s.Allocated) {r : Nat} (hr : s.detailList.next ≤ r) :
    pending r s.calls = 0 :=
  List.count_eq_zero.mpr (fun hm => absurd (hs _ hm r rfl) (Nat.not_lt.mpr hr))

theorem pending_split (r : Nat) (pre post : List StatisticsState) (call : StatisticsState) :
    pending r (pre ++ call :: post) =
      pending r (pre ++ post) + if call = .decrement (some r) then 1 else 0 := by
  simp only [pending, List.count_append, List.count_cons, beq_iff_eq]
  omega

theorem Counted.grows (hs : s.Counted) {conf : Configuration} {d : DetailList}
    (hd : s.detailList.Grows d) (ht : Allocated ⟨conf, d, s.calls⟩) :
    Counted ⟨conf, d, s.calls⟩ := by
  have hpolls : ∀ r, (d.heap r).pollsLeftBeforeStatus = s.pollsLeft r ∨
      s.detailList.next ≤ r ∧ (d.heap r).pollsLeftBeforeStatus = 0 := by
    intro r
    rcases lt_or_ge r s.detailList.next with hlt | hge
    · exact Or.inl (sample_pollsLeft (hd.kept r hlt))
    · rcases hd.fresh r hge with hsame | hnew
      · exact Or.inl (sample_pollsLeft hsame)
      · exact Or.inr ⟨hge, sample_pollsLeft (e := { host := 0 }) hnew⟩
  refine ⟨ht, fun r => ?_, fun r => ?_⟩
  · rcases hpolls r with heq | ⟨_, heq⟩
    · simpa [pollsLeft, heq] using hs.range r
    · simp [pollsLeft, heq]
  · rcases hpolls r with heq | ⟨hge, heq⟩
    · simpa [pollsLeft, heq] using hs.claimed r
    · simp [pending_zero hs.allocated hge]

theorem countDown_toNat {e : DBMDetailEntry} (h : 0 < e.pollsLeftBeforeStatus.toNat) :
    e.countDown.pollsLeftBeforeStatus.toNat = e.pollsLeftBeforeStatus.toNat - 1 := by
  have hle : (1 : UInt64) ≤ e.pollsLeftBeforeStatus := by
    rw [UInt64.le_iff_toNat_le]
    exact h
  exact UInt64.toNat_sub_of_le _ _ hle

theorem recordStatus_pollsLeft (now : Time) (status : MysqlStatus) (e : DBMDetailEntry) :
    (e.recordStatus now status).pollsLeftBeforeStatus = 2 := rfl

theorem modify_pollsLeft (conf : Configuration) (q r : Nat) (f : DBMDetailEntry → DBMDetailEntry)
    (calls : List StatisticsState) :
    pollsLeft ⟨conf, s.detailList.modify q f, calls⟩ r =
      if r = q then (f (s.detailList.heap q)).pollsLeftBeforeStatus else s.pollsLeft r := by
  rw [pollsLeft, ObjectArray.modify_heap]
  split <;> rfl

section Advance
variable {pre post : List StatisticsState} {call : StatisticsState} {d : DetailList} {q : Nat}

theorem Counted.rest (hs : s.Counted) (hcalls : s.calls = pre ++ call :: post) (r : Nat) :
    pending r (pre ++ post) + (if call = .decrement (some r) then 1 else 0) ≤
      (s.pollsLeft r).toNat := by
  rw [← pending_split, ← hcalls]
  exact hs.claimed r

theorem Counted.reset (hs : s.Counted) (hcalls : s.calls = pre ++ call :: post) (now : Time)
    (status : MysqlStatus)
    (ht : Allocated ⟨s.conf, s.detailList.modify q (DBMDetailEntry.recordStatus now status),
      pre ++ post⟩) :
    Counted ⟨s.conf, s.detailList.modify q (DBMDetailEntry.recordStatus now status),
      pre ++ post⟩ := by
  refine ⟨ht, fun r => ?_, fun r => ?_⟩
  · rw [modify_pollsLeft, recordStatus_pollsLeft]
    split
    · decide
    · exact hs.range r
  · have hrest := hs.rest hcalls r
    have hrange := hs.range r
    rw [modify_pollsLeft, recordStatus_pollsLeft]
    change pending r (pre ++ post) ≤ _
    split
    · have htwo : (2 : UInt64).toNat = 2 := rfl
      omega
    · omega

theorem Counted.decrement (hs : s.Counted)
    (hcalls : s.calls = pre ++ .decrement (some q) :: post)
    (ht : Allocated ⟨s.conf, s.detailList.modify q DBMDetailEntry.countDown, pre ++ post⟩) :
    Counted ⟨s.conf, s.detailList.modify q DBMDetailEntry.countDown, pre ++ post⟩ := by
  have hmine := hs.rest hcalls q
  rw [if_pos rfl] at hmine
  have hpos : 0 < (s.pollsLeft q).toNat := by omega
  have hdown : ((s.detailList.heap q).countDown.pollsLeftBeforeStatus).toNat =
      (s.pollsLeft q).toNat - 1 := countDown_toNat hpos
  refine ⟨ht, fun r => ?_, fun r => ?_⟩
  · have hrange := hs.range r
    rw [modify_pollsLeft]
    split
    next hr =>
      subst hr
      omega
    next => exact hrange
  · have hrest := hs.rest hcalls r
    rw [modify_pollsLeft]
    change pending r (pre ++ post) ≤ _
    split
    next hr =>
      subst hr
      omega
    next => omega

theorem Counted.claim (hs : s.Counted) {aHost : HostRef}
    (hcalls : s.calls = pre ++ .test aHost (some q) :: post)
    (hspaced : pending q s.calls < (s.pollsLeft q).toNat)
    (ht : Allocated ⟨s.conf, s.detailList, pre ++ .decrement (some q) :: post⟩) :
    Counted ⟨s.conf, s.detailList, pre ++ .decrement (some q) :: post⟩ := by
  refine ⟨ht, hs.range, fun r => ?_⟩
  have hrest := hs.rest hcalls r
  rw [hcalls, pending_split, if_neg (by simp)] at hspaced
  rw [if_neg (by simp)] at hrest
  change pending r (pre ++ .decrement (some q) :: post) ≤ (s.pollsLeft r).toNat
  rw [pending_split]
  split
  next hr =>
    obtain rfl : q = r := by simpa using hr
    omega
  next => exact hrest

theorem Counted.pass (hs : s.Counted) (hcalls : s.calls = pre ++ call :: post)
    {next : Option StatisticsState}
    (hnext : ∀ call', next = some call' → ∀ r, call' ≠ .decrement (some r))
    (ht : Allocated ⟨s.conf, s.detailList, pre ++ next.toList ++ post⟩) :
    Counted ⟨s.conf, s.detailList, pre ++ next.toList ++ post⟩ := by
  refine ⟨ht, hs.range, fun r => ?_⟩
  have hrest := hs.rest hcalls r
  have hzero : pending r next.toList = 0 :=
    List.count_eq_zero.mpr (fun hm => hnext _ (Option.mem_toList.mp hm) r rfl)
  change pending r (pre ++ next.toList ++ post) ≤ (s.pollsLeft r).toNat
  simp only [pending, List.count_append] at hrest hzero ⊢
  omega

end Advance

theorem Counted.step (hs : s.Counted) (hok : spaced s a = true) (h : Moves s a t) :
    t.Counted := by
  have halloc := hs.allocated.step h
  cases h with
  | begin aHost =>
    have hsame : ∀ r, pending r (s.calls ++ [.lookup aHost]) = pending r s.calls := by
      intro r
      simp [pending, List.count_append]
    exact ⟨halloc, hs.range, fun r => (hsame r).trans_le (hs.claimed r)⟩
  | grows conf ha hd => exact hs.grows hd halloc
  | @advance i pre call post now serverStatus hcalls hi =>
    obtain ⟨_, q, status, rfl, heq⟩ | ⟨q, rfl, heq⟩ | ⟨_, q, rfl, hdue, heq⟩ | ⟨hd, _, hnext⟩ :=
      call.advance_cases s.conf s.detailList now serverStatus
    · simp only [heq, Option.toList_none, List.append_nil] at halloc ⊢
      exact hs.reset hcalls now status halloc
    · simp only [heq, Option.toList_none, List.append_nil] at halloc ⊢
      exact hs.decrement hcalls halloc
    · have hspaced : pending q s.calls < (s.pollsLeft q).toNat := by
        simpa [spaced, hi, hdue] using hok
      simp only [heq, Option.toList_some, List.append_assoc, List.singleton_append] at halloc ⊢
      exact hs.claim hcalls hspaced halloc
    · rw [hd] at halloc ⊢
      exact hs.pass hcalls hnext halloc

theorem toNat_range {n : UInt64} (h : n.toNat ≤ 2) : n = 0 ∨ n = 1 ∨ n = 2 := by
  rcases Nat.lt_or_eq_of_le h with hlt | heq
  · rcases Nat.lt_or_eq_of_le (Nat.le_of_lt_succ hlt) with hzero | hone
    · exact Or.inl (UInt64.toNat_inj.mp (Nat.lt_one_iff.mp hzero))
    · exact Or.inr (Or.inl (UInt64.toNat_inj.mp hone))
  · exact Or.inr (Or.inr (UInt64.toNat_inj.mp heq))

theorem countDown_due {e : DBMDetailEntry} (h : e.pollsLeftBeforeStatus.toNat ≤ 2) :
    ∃ n ≤ 2, (DBMDetailEntry.countDown^[n] e).isDue = true := by
  rcases toNat_range h with h0 | h1 | h2
  · exact ⟨0, by decide, by simp [DBMDetailEntry.isDue, h0]⟩
  · exact ⟨1, by decide, by simp [DBMDetailEntry.isDue, DBMDetailEntry.countDown, h1]⟩
  · exact ⟨2, le_rfl, by simp [DBMDetailEntry.isDue, DBMDetailEntry.countDown, h2]⟩

theorem Counted.inRange (hs : s.Counted) : s.InRange := by
  refine ⟨fun r => toNat_range (hs.range r), fun r hm => ?_, fun r => countDown_due (hs.range r)⟩
  have hpos : 0 < pending r s.calls := List.count_pos_iff.mpr hm
  rw [UInt64.lt_iff_toNat_lt]
  exact hpos.trans_le (hs.claimed r)

end Steps

theorem initial_counted (conf : Configuration) : (initial conf).Counted :=
  ⟨fun _ hcall => absurd hcall List.not_mem_nil, fun _ => Nat.zero_le _, fun _ => le_rfl⟩

theorem pollsLeft_inRange {conf : Configuration} {acts : List StatisticsAct} {s : Statistics}
    (h : Transition.run step spaced (initial conf) acts = some s) : s.InRange := by
  have hcounted : s.Counted :=
    Transition.run_invariant (I := Counted) (fun _ _ _ hs hok ht => hs.step hok (step_moves ht))
      (initial_counted conf) h
  exact hcounted.inRange

def sampledOnce (aHost : HostRef) : List StatisticsAct :=
  [.begin aHost, .advance 0 0 none, .advance 0 0 none, .advance 0 0 (some {}), .advance 0 0 none]

theorem pollsLeft_inRange_overlapping :
    let conf := (Configuration.onePool { active := some 1 } [3, 4] (by decide) (fun _ => 1)
      (fun _ => 0)).withHostnames (fun h => some ⟨h, "localhost"⟩)
    let acts := .reloadDataWatchers :: (sampledOnce 3 ++ [.begin 3, .begin 4, .advance 0 0 none,
      .advance 1 0 none, .advance 0 0 none, .advance 1 0 none, .advance 1 0 none,
      .advance 0 0 none])
    ∃ s, Transition.run step spaced (initial conf) acts = some s ∧ s.pollsLeft 1 = 0 ∧
      s.InRange := by
  intro conf acts
  have hcheck : (Transition.run step spaced (initial conf) acts).any
      (fun s => decide (s.pollsLeft 1 = 0)) = true := by decide +kernel
  obtain ⟨s, hrun, hs⟩ := (Option.any_eq_true _ _).mp hcheck
  exact ⟨s, hrun, of_decide_eq_true hs, pollsLeft_inRange hrun⟩

theorem equal_hostnames_wrap_countdown :
    let conf := (Configuration.onePool { active := some 1 } [3, 4] (by decide) (fun _ => 1)
      (fun _ => 0)).withHostnames (fun h => some ⟨h, "localhost"⟩)
    let acts := .reloadDataWatchers :: (sampledOnce 3 ++ [.begin 3, .advance 0 0 none,
      .advance 0 0 none, .advance 0 0 none, .begin 3, .begin 4, .advance 0 0 none,
      .advance 1 0 none, .advance 0 0 none, .advance 1 0 none, .advance 1 0 none,
      .advance 0 0 none])
    conf.isActive 3 = true ∧ conf.isActive 4 = true ∧
      ∃ s, Transition.run step Transition.anyStep (initial conf) acts = some s ∧
        1 ∈ s.detailList.items ∧ s.pollsLeft 1 = 18446744073709551615 ∧ ¬s.InRange := by
  intro conf acts
  have hcheck : (Transition.run step Transition.anyStep (initial conf) acts).any
      (fun s => decide (1 ∈ s.detailList.items ∧ s.pollsLeft 1 = 18446744073709551615)) =
        true := by decide +kernel
  obtain ⟨s, hrun, hs⟩ := (Option.any_eq_true _ _).mp hcheck
  obtain ⟨hlisted, hpolls⟩ := of_decide_eq_true hs
  refine ⟨by decide +kernel, by decide +kernel, s, hrun, hlisted, hpolls, fun h => ?_⟩
  have hrange := h.range 1
  rw [hpolls] at hrange
  revert hrange
  decide

end DBMonitor.Statistics
