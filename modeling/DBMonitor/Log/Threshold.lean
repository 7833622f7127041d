import DBMonitor.Log.Ownership

namespace DBMonitor

namespace Document

def FilesRow (d d' : Document) (aHost : HostRef) (row : QueryRow) : Prop :=
  let r := d.target aHost (printID row.id)
  r ∈ d'.items ∧ (d'.entry r).updated = true ∧ (d'.entry r).query = some row ∧
    (d'.entry r).duration = row.recordedDuration

-- Every row is weighed on the log that the rows before it left.
structure ShowsAfter (d : Document) (aHost : HostRef) (rows : List (Time × QueryRow)) : Prop where
  files : ∀ before now row later, rows = before ++ (now, row) :: later → row.info.isSome = true →
    row.recordedDuration > d.conf.monitorTimer aHost →
      FilesRow (d.updateMySQLQueries aHost (some before))
        ((d.updateMySQLQueries aHost (some before)).updateRow now aHost row) aHost row
  ignores : ∀ before now row later, rows = before ++ (now, row) :: later → row.info.isSome = true →
    row.recordedDuration ≤ d.conf.monitorTimer aHost →
      (d.updateMySQLQueries aHost (some before)).updateRow now aHost row =
        d.updateMySQLQueries aHost (some before)
  shown : ∀ r ∈ (d.updateMySQLQueries aHost (some rows)).items,
    (r ∈ d.items → (d.updateMySQLQueries aHost (some rows)).entry r ≠ d.entry r) →
      ((d.updateMySQLQueries aHost (some rows)).entry r).duration > d.conf.monitorTimer aHost

-- The artefact passes the test as it came and is recorded as 1.
def slipsThrough (monitorTimer : Int) (row : QueryRow) : Bool :=
  row.info.isSome && decide (intValue row.time = 2147483647) && decide (1 ≤ monitorTimer) &&
    decide (monitorTimer < 2147483647)

section Rows
variable {d d₀ : Document} {aHost : HostRef} {now : Time} {row : QueryRow}
  {rows before : List (Time × QueryRow)} {monitorTimer : Int}

theorem recorded_gt_iff (h : slipsThrough monitorTimer row = false) (hinfo : row.info.isSome = true) :
    row.recordedDuration > monitorTimer ↔ intValue row.time > monitorTimer := by
  unfold QueryRow.recordedDuration
  split
  next htime =>
    simp only [slipsThrough, hinfo, htime, decide_true, Bool.true_and, Bool.and_eq_false_iff,
      decide_eq_false_iff_not] at h
    rw [htime]
    omega
  next => rfl

theorem slipsThrough_qualifies (h : slipsThrough (d.conf.monitorTimer aHost) row = true) :
    row.info.isSome = true ∧ qualifies d.conf aHost row = true ∧
      row.recordedDuration ≤ d.conf.monitorTimer aHost := by
  simp only [slipsThrough, Bool.and_eq_true, decide_eq_true_eq] at h
  obtain ⟨⟨⟨hinfo, htime⟩, hlow⟩, hhigh⟩ := h
  refine ⟨hinfo, ?_, ?_⟩
  · rw [qualifies, hinfo, htime, Bool.true_and, decide_eq_true_eq]
    exact hhigh
  · rw [QueryRow.recordedDuration, if_pos htime]
    exact hlow

theorem updateRow_files (now : Time) (hq : qualifies d.conf aHost row = true) :
    FilesRow d (d.updateRow now aHost row) aHost row := by
  have hentry := d.file_target aHost (d.rowFiling aHost now row)
  rw [show (d.rowFiling aHost now row).pid = printID row.id from rfl] at hentry
  rw [FilesRow, updateRow_eq, if_pos hq, hentry]
  exact ⟨(d.mem_file aHost _ _).mpr (Or.inr rfl), rfl, rfl, rfl⟩

-- Whatever the rows changed or added is over the threshold.
def ShownSince (monitorTimer : Int) (d₀ d : Document) : Prop :=
  ∀ r ∈ d.items, (r ∈ d₀.items ∧ d.entry r = d₀.entry r) ∨ (d.entry r).duration > monitorTimer

theorem ShownSince.updateRow (h : ShownSince (d.conf.monitorTimer aHost) d₀ d)
    (hrow : slipsThrough (d.conf.monitorTimer aHost) row = false) :
    ShownSince (d.conf.monitorTimer aHost) d₀ (Document.updateRow now aHost row d) := by
  by_cases hq : qualifies d.conf aHost row = true
  · obtain ⟨_, _, _, hduration⟩ := updateRow_files now hq
    have hover : row.recordedDuration > d.conf.monitorTimer aHost := by
      obtain ⟨hinfo, htime⟩ := Bool.and_eq_true_iff.mp hq
      exact (recorded_gt_iff hrow hinfo).mpr (of_decide_eq_true htime)
    intro r hr
    by_cases ht : r = d.target aHost (printID row.id)
    · refine Or.inr ?_
      rw [ht, hduration]
      exact hover
    · rw [updateRow_eq, if_pos hq] at hr ⊢
      have hold : r ∈ d.items := ((d.mem_file aHost _ r).mp hr).resolve_right ht
      rw [d.file_entry aHost (d.rowFiling aHost now row) ht]
      exact h r hold
  · rw [updateRow_eq, if_neg hq]
    exact h

theorem ShownSince.queries (h : ShownSince (d.conf.monitorTimer aHost) d₀ d)
    (hrows : ∀ p ∈ rows, slipsThrough (d.conf.monitorTimer aHost) p.2 = false) :
    ShownSince (d.conf.monitorTimer aHost) d₀ (d.updateMySQLQueries aHost (some rows)) := by
  induction rows generalizing d with
  | nil => exact h
  | cons p rows ih =>
    have hconf := updateRow_conf d aHost p.1 p.2
    rw [updateMySQLQueries_cons, ← hconf]
    refine ih ?_ ?_
    · rw [hconf]
      exact h.updateRow (hrows p List.mem_cons_self)
    · rw [hconf]
      exact fun q hq => hrows q (List.mem_cons_of_mem p hq)

theorem showsAfter_of (h : ∀ p ∈ rows, slipsThrough (d.conf.monitorTimer aHost) p.2 = false) :
    d.ShowsAfter aHost rows := by
  refine ⟨?_, ?_, ?_⟩
  · rintro before now row later rfl hinfo hover
    refine updateRow_files now ?_
    rw [qualifies, hinfo, Bool.true_and, decide_eq_true_eq, updateMySQLQueries_conf]
    exact (recorded_gt_iff (h (now, row) (by simp)) hinfo).mp hover
  · rintro before now row later rfl hinfo hbelow
    rw [updateRow_eq, if_neg]
    intro hq
    rw [qualifies, hinfo, Bool.true_and, decide_eq_true_eq, updateMySQLQueries_conf] at hq
    exact Int.not_lt.mpr hbelow ((recorded_gt_iff (h (now, row) (by simp)) hinfo).mpr hq)
  · have hstart : ShownSince (d.conf.monitorTimer aHost) d d := fun _ hr => Or.inl ⟨hr, rfl⟩
    intro r hr hchanged
    exact (hstart.queries h r hr).resolve_left (fun ⟨hold, hsame⟩ => hchanged hold hsame)

-- On an empty log the first row to slip through is filed, and its entry shows below the threshold.
theorem ShowsAfter.sound (hempty : d.items = []) (h : d.ShowsAfter aHost rows)
    {later : List (Time × QueryRow)} (hrows : rows = before ++ later) :
    ∀ p ∈ before, slipsThrough (d.conf.monitorTimer aHost) p.2 = false := by
  induction before using List.reverseRecOn generalizing later with
  | nil => exact fun _ hp => absurd hp List.not_mem_nil
  | append_singleton before p ih =>
    rw [List.append_assoc] at hrows
    have hbefore := ih hrows
    intro q hq
    rcases List.mem_append.mp hq with hq | hq
    · exact hbefore q hq
    · obtain rfl := List.mem_singleton.mp hq
      by_contra hslips
      have hconf := d.updateMySQLQueries_conf aHost before
      rw [Bool.not_eq_false, ← hconf] at hslips
      obtain ⟨hinfo, hqualifies, hbelow⟩ := slipsThrough_qualifies hslips
      obtain ⟨hm, _, _, hduration⟩ := updateRow_files q.1 hqualifies
      rw [hconf] at hbelow
      rw [h.ignores before q.1 q.2 later hrows hinfo hbelow] at hm hduration
      have hstart : ShownSince (d.conf.monitorTimer aHost) d d := fun _ hr => Or.inl ⟨hr, rfl⟩
      rcases hstart.queries hbefore _ hm with ⟨hold, _⟩ | hover
      · rw [hempty] at hold
        exact absurd hold List.not_mem_nil
      · rw [hduration] at hover
        exact Int.not_lt.mpr hbelow hover

end Rows

theorem show_after_iff (c : Configuration) (aHost : HostRef) (rows : List (Time × QueryRow)) :
    (∀ d : Document, d.conf = c → d.ShowsAfter aHost rows) ↔
      ∀ p ∈ rows, slipsThrough (c.monitorTimer aHost) p.2 = false := by
  constructor
  · intro h
    have hshows := h (initial c 0 0) rfl
    exact hshows.sound rfl (List.append_nil rows).symm
  · rintro h d rfl
    exact showsAfter_of h

theorem artefact_shown_early :
    let c := Configuration.onePool { active := some 1 } [3] (by decide) (fun _ => 1) (fun _ => 0)
    let row : QueryRow := { id := 8, host := "web", info := some [97], time := 2147483647 }
    let d := initial c 30 1
    let shown := d.updateMySQLQueries 3 (some [(0, row)])
    c.monitorTimer 3 = 1 ∧ ¬d.ShowsAfter 3 [(0, row)] ∧ shown.items = [0] ∧
      (shown.entry 0).duration = 1 := by
  intro c row d shown
  have hitems : shown.items = [0] := by decide +kernel
  have hduration : (shown.entry 0).duration = 1 := by decide +kernel
  refine ⟨by decide, fun h => ?_, hitems, hduration⟩
  have hover := h.shown 0 (by rw [hitems]; simp) (fun hold => absurd hold List.not_mem_nil)
  rw [hduration] at hover
  exact absurd hover (by decide)

end Document

end DBMonitor
