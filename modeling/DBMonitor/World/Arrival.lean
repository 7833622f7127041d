import DBMonitor.World.Moves

namespace DBMonitor

-- The order that a section is told to sort the log by; nil descriptors leave it as it is.
def Section.order : Section → List EntryRef
  | .refresh _ order => order
  | .sortDescriptorsDidChange order => order
  | _ => []

namespace Document

-- Each entry was filed after the one above it, and not at an earlier time.
def Chronological (d : Document) : Prop :=
  d.items.Pairwise (fun r t => r < t ∧ (d.entry r).eventTime ≤ (d.entry t).eventTime)

-- The clock a section reads is not behind the entries of the log.
def onTime (d : Document) (s : Section) : Bool :=
  (d.filing s).all (fun p => d.items.all (fun r => decide ((d.entry r).eventTime ≤ p.2.now)))

section Arrival
variable {d : Document} {s : Section}

theorem reorder_nil (a : ObjectArray DBMLogEntry) : (a.reorder []).items = a.items := by
  unfold ObjectArray.reorder
  split
  next h => exact (List.perm_nil.mp h.symm).symm
  next => rfl

theorem refresh_unsorted (now : Time) : (d.refresh now []).items.Sublist d.items := by
  have hpurge := List.filter_sublist (l := d.items) (p := fun r =>
    !(sweeps d.conf d.deadHosts (d.entry r) && !d.tracks (d.purged now (d.entry r))))
  rw [← purge_items, ← (purge_congr d.alignSelection_sameLog now).1] at hpurge
  have hreorder : ((d.alignSelection.1.purge now).sortDataList []).dataList.items =
      (d.alignSelection.1.purge now).items := reorder_nil _
  rw [items, (d.refresh_sameLog now []).1, hreorder]
  exact hpurge

theorem sort_unsorted : (d.sortDescriptorsDidChange []).items = d.items := by
  rw [items, (d.sortDescriptorsDidChange_sameLog []).1]
  exact reorder_nil _

theorem exec_sublist (horder : s.order = []) (hf : d.filing s = none) :
    (d.exec s).items.Sublist d.items := by
  cases s with
  | clearUpdates g => simp [exec]
  | discardMySQLDead g =>
    rw [exec, discardMySQLDead_items]
    exact List.filter_sublist
  | refresh now order =>
    obtain rfl : order = [] := horder
    exact refresh_unsorted now
  | sortDescriptorsDidChange order =>
    obtain rfl : order = [] := horder
    rw [exec, sort_unsorted]
  | killProcess =>
    simp only [exec, killProcess]
    split
    · exact List.Sublist.refl _
    · split
      · exact List.eraseIdx_sublist _ _
      · exact List.Sublist.refl _
  | updateRow now g row =>
    rw [exec, updateRow_eq]
    split
    next hq => simp [filing, hq] at hf
    next => exact List.Sublist.refl _
  | updateMySQLSlaveStatus now g status =>
    rw [exec, updateMySQLSlaveStatus_eq]
    split
    next hu => simp [filing, hu] at hf
    next => exact List.Sublist.refl _
  | updateMySQLFail now g => simp [filing] at hf
  | select row => simp [exec, items]
  | _ => exact List.Sublist.refl _

theorem exec_eventTime {r : EntryRef} (hr : r ∈ d.items) :
    ((d.exec s).entry r).eventTime = (d.entry r).eventTime :=
  (exec_evolves (d.dataList.allocated r hr)).2.1

theorem file_eventTime {aHost : HostRef} {f : Filing} (h : d.find aHost f.pid = none) :
    ((d.file aHost f).entry d.dataList.next).eventTime = f.now := by
  have htarget := d.file_target aHost f
  rw [d.target_of_find_none aHost h] at htarget
  rw [htarget, (f.write_key _).2.1]
  simp [filedOver, h, (f.create_key _).2.1, DBMLogEntry.initWithHost]

theorem Chronological.kept (hi : d.Chronological) {items : List EntryRef}
    (h : items.Sublist d.items) : items.Pairwise (fun r t =>
      r < t ∧ ((d.exec s).entry r).eventTime ≤ ((d.exec s).entry t).eventTime) := by
  refine (hi.sublist h).imp_of_mem (fun {r t} hr ht hrt => ?_)
  rw [exec_eventTime (h.subset hr), exec_eventTime (h.subset ht)]
  exact hrt

theorem Chronological.exec (hi : d.Chronological) (horder : s.order = [])
    (htime : d.onTime s = true) : (d.exec s).Chronological := by
  cases hf : d.filing s with
  | none => exact hi.kept (exec_sublist horder hf)
  | some p =>
    obtain ⟨aHost, f⟩ := p
    have hfile := exec_filing hf
    have hitems := d.file_items aHost f
    rw [← hfile] at hitems
    rw [Chronological, hitems]
    cases hfind : d.find aHost f.pid with
    | some t => exact hi.kept (List.Sublist.refl _)
    | none =>
      refine List.pairwise_append.mpr ⟨hi.kept (List.Sublist.refl _), List.pairwise_singleton _ _, ?_⟩
      intro r hr t ht
      obtain rfl := List.mem_singleton.mp ht
      rw [onTime, hf, Option.all_some, List.all_eq_true] at htime
      refine ⟨d.dataList.allocated r hr, ?_⟩
      rw [exec_eventTime hr, hfile, file_eventTime hfind]
      exact of_decide_eq_true (htime r hr)

end Arrival

end Document

namespace World

def unsorted (w : World) (a : Act) : Bool :=
  (w.locked a).all (fun s => decide (s.order = []) && w.doc.onTime s)

theorem log_chronological {conf : Configuration} {sliderValue trackQuery : Int} {acts : List Act}
    {w : World} (hrun : Transition.run step unsorted (initial conf sliderValue trackQuery) acts =
      some w) : w.doc.Chronological := by
  refine Transition.run_invariant (I := fun w => w.doc.Chronological) (fun w a t hi hg hs => ?_)
    List.Pairwise.nil hrun
  rw [step_doc hs]
  cases hlocked : w.locked a with
  | none => exact hi
  | some s =>
    rw [unsorted, hlocked, Option.all_some, Bool.and_eq_true, decide_eq_true_eq] at hg
    exact hi.exec hg.1 hg.2

theorem log_chronological_two_rows :
    let c := Configuration.onePool { active := some 1 } [3] (by decide) (fun _ => 1) (fun _ => 0)
    let row (id : Int) : QueryRow := { id := id, host := "web", info := some [97], time := 9 }
    let acts : List Act := [.reloadDataWatchers, .mainThread, .mainThread, .mainThread] ++
      (List.range 10).map (fun k => .operation 1 { now := k, results := some [row 9, row 8] }) ++
      [.select 0, .operation 0 { now := 20 }, .operation 0 { now := 20 }]
    ∃ w, Transition.run step unsorted (initial c 30 1) acts = some w ∧
      w.doc.items.map (fun r => (w.doc.entry r).eventTime) = [4, 5] ∧ w.doc.Chronological := by
  intro c row acts
  have hcheck : (Transition.run step unsorted (initial c 30 1) acts).any (fun w =>
      decide (w.doc.items.map (fun r => (w.doc.entry r).eventTime) = [4, 5])) = true := by
    decide +kernel
  obtain ⟨w, hrun, hw⟩ := (Option.any_eq_true _ _).mp hcheck
  exact ⟨w, hrun, of_decide_eq_true hw, log_chronological hrun⟩

end World

end DBMonitor
