import DBMonitor.Library.Cursor
import DBMonitor.Log.Effects

namespace DBMonitor

namespace Document

section Refresh

theorem purge_congr {a b : Document} (h : SameLog a b) (now : Time) :
    (a.purge now).items = (b.purge now).items ∧
      ∀ r, (a.purge now).entry r = (b.purge now).entry r := by
  obtain ⟨listA, confA, sliderA, trackA, rowA, currentA⟩ := a
  obtain ⟨listB, confB, sliderB, trackB, rowB, currentB⟩ := b
  obtain ⟨hl, hc, hs, ht⟩ := h
  simp only at hl hc hs ht
  subst hl hc hs ht
  refine ⟨?_, fun r => ?_⟩
  · rw [purge_items, purge_items]
    rfl
  · rw [purge_entry, purge_entry]
    rfl

variable (d : Document) (now : Time) (order : List EntryRef)

theorem refresh_perm : (d.refresh now order).items.Perm (d.purge now).items := by
  have h := (d.refresh_sameLog now order).1
  have hp := ObjectArray.reorder_perm (d.alignSelection.1.purge now).dataList order
  change (d.refresh now order).dataList.items.Perm _
  rw [h]
  exact hp.trans (List.Perm.of_eq (purge_congr d.alignSelection_sameLog now).1)

theorem refresh_entry (r : EntryRef) :
    (d.refresh now order).entry r = (d.purge now).entry r := by
  have h := (d.refresh_sameLog now order).1
  change (d.refresh now order).dataList.heap r = _
  rw [h, ← (purge_congr d.alignSelection_sameLog now).2 r]
  exact congrFun (ObjectArray.reorder_heap (d.alignSelection.1.purge now).dataList order) r

theorem refresh_settings : SameSettings (d.refresh now order) d :=
  ((d.refresh_sameLog now order).settings.trans
    (d.alignSelection.1.purge_settings now)).trans d.alignSelection_sameLog.settings

theorem refresh_next : (d.refresh now order).dataList.next = d.dataList.next := by
  rw [(d.refresh_sameLog now order).1]
  have h := d.alignSelection.1.purge_next now
  rw [d.alignSelection_sameLog.1] at h
  exact (ObjectArray.reorder_next (d.alignSelection.1.purge now).dataList order).trans h

end Refresh

def filing (d : Document) : Section → Option (HostRef × Filing)
  | .updateRow now aHost row =>
    if qualifies d.conf aHost row then some (aHost, d.rowFiling aHost now row) else none
  | .updateMySQLSlaveStatus now aHost status =>
    if status.unhealthy then some (aHost, d.statusFiling aHost now status) else none
  | .updateMySQLFail now aHost => some (aHost, failFiling now)
  | _ => none

def sweeping (d : Document) : Section → List HostRef
  | .discardMySQLDead aHost => [aHost]
  | .refresh _ _ => d.deadHosts
  | _ => []

theorem filing_cases {d : Document} {s : Section} {aHost : HostRef} {f : Filing}
    (h : d.filing s = some (aHost, f)) :
    (∃ now row, s = .updateRow now aHost row ∧ f = d.rowFiling aHost now row ∧
      qualifies d.conf aHost row = true) ∨
    (∃ now status, s = .updateMySQLSlaveStatus now aHost status ∧
      f = d.statusFiling aHost now status ∧ status.unhealthy = true) ∨
    ∃ now, s = .updateMySQLFail now aHost ∧ f = failFiling now := by
  cases s with
  | updateRow now g row =>
    simp only [filing] at h
    split at h
    next hq =>
      obtain ⟨rfl, rfl⟩ := Prod.mk.inj (Option.some.inj h)
      exact Or.inl ⟨now, row, rfl, rfl, hq⟩
    next => simp at h
  | updateMySQLSlaveStatus now g status =>
    simp only [filing] at h
    split at h
    next hu =>
      obtain ⟨rfl, rfl⟩ := Prod.mk.inj (Option.some.inj h)
      exact Or.inr (Or.inl ⟨now, status, rfl, rfl, hu⟩)
    next => simp at h
  | updateMySQLFail now g =>
    obtain ⟨rfl, rfl⟩ := Prod.mk.inj (Option.some.inj h)
    exact Or.inr (Or.inr ⟨now, rfl, rfl⟩)
  | _ => simp [filing] at h

theorem exec_filing {d : Document} {s : Section} {aHost : HostRef} {f : Filing}
    (h : d.filing s = some (aHost, f)) : d.exec s = d.file aHost f := by
  rcases filing_cases h with ⟨now, row, rfl, rfl, hq⟩ | ⟨now, status, rfl, rfl, hu⟩ | ⟨now, rfl, rfl⟩
  · rw [exec, updateRow_eq, if_pos hq]
  · rw [exec, updateMySQLSlaveStatus_eq, if_pos hu]
  · rfl

theorem sort_heap (d : Document) (order : List EntryRef) :
    (d.sortDescriptorsDidChange order).dataList.heap = d.dataList.heap := by
  rw [(d.sortDescriptorsDidChange_sameLog order).1]
  exact ObjectArray.reorder_heap _ _

theorem sort_perm (d : Document) (order : List EntryRef) :
    (d.sortDescriptorsDidChange order).items.Perm d.items := by
  rw [items, (d.sortDescriptorsDidChange_sameLog order).1]
  exact ObjectArray.reorder_perm _ _

theorem killProcess_heap (d : Document) : d.killProcess.dataList.heap = d.dataList.heap := by
  unfold killProcess
  split
  · rfl
  · split <;> rfl

theorem exec_cases (d : Document) (s : Section) :
    (∃ aHost f, d.filing s = some (aHost, f)) ∨
    (∃ aHost, s = .clearUpdates aHost) ∨
    (∃ aHost, s = .discardMySQLDead aHost) ∨
    (∃ now order, s = .refresh now order) ∨
    (d.filing s = none ∧ (d.exec s).dataList.heap = d.dataList.heap ∧
      (d.exec s).dataList.next = d.dataList.next ∧
      ((d.exec s).items.Perm d.items ∨ s = .killProcess)) := by
  cases s with
  | clearUpdates g => exact Or.inr (Or.inl ⟨g, rfl⟩)
  | discardMySQLDead g => exact Or.inr (Or.inr (Or.inl ⟨g, rfl⟩))
  | refresh now order => exact Or.inr (Or.inr (Or.inr (Or.inl ⟨now, order, rfl⟩)))
  | updateMySQLFail now g => exact Or.inl ⟨g, _, rfl⟩
  | updateRow now g row =>
    cases hq : qualifies d.conf g row with
    | true => exact Or.inl ⟨g, d.rowFiling g now row, by simp [filing, hq]⟩
    | false => simp [filing, hq, exec, updateRow]
  | updateMySQLSlaveStatus now g status =>
    cases hu : status.unhealthy with
    | true => exact Or.inl ⟨g, d.statusFiling g now status, by simp [filing, hu]⟩
    | false => simp [filing, hu, exec, updateMySQLSlaveStatus]
  | sortDescriptorsDidChange order =>
    refine Or.inr (Or.inr (Or.inr (Or.inr ⟨rfl, d.sort_heap order, ?_, Or.inl (d.sort_perm order)⟩)))
    simp [exec, (d.sortDescriptorsDidChange_sameLog order).1, sortDataList]
  | killProcess =>
    refine Or.inr (Or.inr (Or.inr (Or.inr ⟨rfl, d.killProcess_heap, ?_, Or.inr rfl⟩)))
    simp only [exec, killProcess]
    split
    · rfl
    · split <;> rfl
  | select row => simp [filing, exec, items]
  | edit conf => simp [filing, exec, items]
  | detectChangedSlider value => simp [filing, exec, detectChangedSlider, items]
  | trackQuery value => simp [filing, exec, items]

section Entry
variable {d : Document} {s : Section} {r : EntryRef}

theorem sweepEntry_frame (d : Document) (hosts : List HostRef) (e : DBMLogEntry) :
    d.sweepEntry hosts e = e ∨ (sweeps d.conf hosts e = true ∧ d.tracks e = true ∧
      d.sweepEntry hosts e = relabel e) := by
  unfold sweepEntry
  split
  next h =>
    rw [Bool.and_eq_true] at h
    exact Or.inr ⟨h.1, h.2, rfl⟩
  next => exact Or.inl rfl

theorem sweepEntry_evolves (d : Document) (hosts : List HostRef) (e : DBMLogEntry) :
    (d.sweepEntry hosts e).eventHost = e.eventHost ∧
      (d.sweepEntry hosts e).eventTime = e.eventTime ∧
      (d.sweepEntry hosts e).updated = e.updated ∧
      ((d.sweepEntry hosts e).processID = e.processID ∨
        ((d.sweepEntry hosts e).processID = deadProcess ∧ sweeps d.conf hosts e = true)) := by
  rcases d.sweepEntry_frame hosts e with h | ⟨hs, _, h⟩
  · rw [h]
    exact ⟨rfl, rfl, rfl, Or.inl rfl⟩
  · rw [h]
    exact ⟨rfl, rfl, rfl, Or.inr ⟨rfl, hs⟩⟩

theorem sweeps_purged (d : Document) (now : Time) (hosts : List HostRef) (e : DBMLogEntry) :
    sweeps d.conf hosts (d.purged now e) = sweeps d.conf hosts e := by
  simp [sweeps]

theorem exec_evolves (hr : r < d.dataList.next) :
    ((d.exec s).entry r).eventHost = (d.entry r).eventHost ∧
      ((d.exec s).entry r).eventTime = (d.entry r).eventTime ∧
      (((d.exec s).entry r).processID = (d.entry r).processID ∨
        (((d.exec s).entry r).processID = deadProcess ∧
          sweeps d.conf (d.sweeping s) (d.entry r) = true)) := by
  rcases d.exec_cases s with ⟨g, f, hf⟩ | ⟨g, rfl⟩ | ⟨g, rfl⟩ | ⟨now, order, rfl⟩ | ⟨_, hh, _⟩
  · rw [exec_filing hf]
    obtain ⟨hh, ht, hp⟩ := d.file_key g f hr
    exact ⟨hh, ht, Or.inl hp⟩
  · change ((d.clearUpdates g).entry r).eventHost = _ ∧ ((d.clearUpdates g).entry r).eventTime = _ ∧ _
    simp only [exec, clearUpdates_entry, clearMark]
    split <;> (try split) <;> exact ⟨rfl, rfl, Or.inl rfl⟩
  · simp only [exec, discardMySQLDead_entry, sweeping]
    split
    · have h := d.sweepEntry_evolves [g] (d.entry r)
      exact ⟨h.1, h.2.1, h.2.2.2⟩
    · exact ⟨rfl, rfl, Or.inl rfl⟩
  · simp only [exec, refresh_entry, purge_entry, sweeping]
    split
    · have h := d.sweepEntry_evolves d.deadHosts (d.purged now (d.entry r))
      rw [sweeps_purged, purged_eventHost, purged_eventTime, purged_processID] at h
      exact ⟨h.1, h.2.1, h.2.2.2⟩
    · exact ⟨rfl, rfl, Or.inl rfl⟩
  · rw [entry, hh]
    exact ⟨rfl, rfl, Or.inl rfl⟩

theorem exec_items (d : Document) (s : Section) :
    (∃ aHost f, d.filing s = some (aHost, f) ∧ (d.exec s).items =
      if (d.find aHost f.pid).isSome then d.items else d.items ++ [d.dataList.next]) ∨
    (d.exec s).items.Subperm d.items := by
  rcases d.exec_cases s with ⟨g, f, hf⟩ | ⟨g, rfl⟩ | ⟨g, rfl⟩ | ⟨now, order, rfl⟩ | ⟨_, _, _, hp⟩
  · exact Or.inl ⟨g, f, hf, by rw [exec_filing hf, file_items]⟩
  · exact Or.inr (List.Perm.of_eq (by simp [exec])).subperm
  · rw [exec, discardMySQLDead_items]
    exact Or.inr List.filter_sublist.subperm
  · have hk := List.filter_sublist (l := d.items) (p := fun r =>
      !(sweeps d.conf d.deadHosts (d.entry r) && !d.tracks (d.purged now (d.entry r))))
    rw [← purge_items] at hk
    exact Or.inr ((d.refresh_perm now order).subperm.trans hk.subperm)
  · rcases hp with hp | rfl
    · exact Or.inr hp.subperm
    · refine Or.inr ?_
      simp only [exec, killProcess]
      split
      · exact List.Subperm.refl _
      · split
        · exact (List.eraseIdx_sublist _ _).subperm
        · exact List.Subperm.refl _

theorem exec_mem (h : r ∈ (d.exec s).items) :
    r ∈ d.items ∨ ∃ aHost f, d.filing s = some (aHost, f) ∧ d.find aHost f.pid = none ∧
      r = d.dataList.next := by
  rcases d.exec_items s with ⟨g, f, hf, hi⟩ | hp
  · rw [hi] at h
    cases hn : d.find g f.pid with
    | some t => exact Or.inl (by simpa [hn] using h)
    | none =>
      have hm : r ∈ d.items ∨ r = d.dataList.next := by simpa [hn] using h
      exact hm.imp_right (fun hr => ⟨g, f, hf, hn, hr⟩)
  · exact Or.inl (hp.subset h)

theorem objectAtRow_mem {row : Int} (h : d.objectAtRow row = some r) :
    r ∈ d.items ∧ 0 ≤ row ∧ d.items[row.toNat]? = some r := by
  unfold objectAtRow at h
  split at h
  next hrow => exact ⟨List.mem_of_getElem? h, hrow, h⟩
  next => simp at h

theorem mem_eraseIdx_of_ne {l : List EntryRef} {i : Nat} {e : EntryRef} (hr : r ∈ l)
    (he : l[i]? = some e) (hne : r ≠ e) : r ∈ l.eraseIdx i := by
  obtain ⟨k, hk, hkr⟩ := List.mem_iff_getElem.mp hr
  refine List.mem_eraseIdx_iff_getElem?.mpr ⟨k, ?_, by rw [List.getElem?_eq_getElem hk, hkr]⟩
  rintro rfl
  rw [List.getElem?_eq_getElem hk, hkr] at he
  exact hne (Option.some.inj he)

theorem killProcess_removed (h : r ∈ d.items) (hn : r ∉ d.killProcess.items) :
    d.objectAtRow d.selectedRow = some r ∧
      ((d.entry r).processID = connectFailID ∨ (d.entry r).processID = deadProcess) := by
  unfold killProcess at hn
  split at hn
  · exact absurd h hn
  next e he =>
    split at hn
    next hd =>
      have heq : r = e := by
        by_contra hne
        exact hn (mem_eraseIdx_of_ne h (objectAtRow_mem he).2.2 hne)
      subst heq
      exact ⟨he, hd⟩
    next => exact absurd h hn

theorem killProcess_dismissed (hn : d.items.Nodup) (hr : d.objectAtRow d.selectedRow = some r)
    (hp : (d.entry r).processID = connectFailID ∨ (d.entry r).processID = deadProcess) :
    r ∉ d.killProcess.items := by
  rw [killProcess, hr]
  simp only [hp, if_true]
  exact Cursor.not_mem_eraseIdx hn (objectAtRow_mem hr).2.2

theorem exec_removed (h : r ∈ d.items) (hn : r ∉ (d.exec s).items) :
    (sweeps d.conf (d.sweeping s) (d.entry r) = true) ∨
      (s = .killProcess ∧ d.objectAtRow d.selectedRow = some r ∧
        ((d.entry r).processID = connectFailID ∨ (d.entry r).processID = deadProcess)) := by
  rcases d.exec_cases s with ⟨g, f, hf⟩ | ⟨g, rfl⟩ | ⟨g, rfl⟩ | ⟨now, order, rfl⟩ | ⟨_, _, _, hp⟩
  · rw [exec_filing hf, mem_file] at hn
    exact absurd (Or.inl h) hn
  · exact absurd h (by simpa [exec] using hn)
  · rw [exec, discardMySQLDead_items, List.mem_filter] at hn
    have hs : sweeps d.conf [g] (d.entry r) = true := by
      by_contra hs
      exact hn ⟨h, by simp [hs]⟩
    exact Or.inl hs
  · rw [exec, (d.refresh_perm now order).mem_iff, purge_items, List.mem_filter] at hn
    have hs : sweeps d.conf d.deadHosts (d.entry r) = true := by
      by_contra hs
      exact hn ⟨h, by simp [hs]⟩
    exact Or.inl hs
  · rcases hp with hp | rfl
    · exact absurd (hp.mem_iff.mpr h) hn
    · exact Or.inr ⟨rfl, killProcess_removed h hn⟩

theorem exec_dead (h : r ∈ d.items) :
    ((d.exec s).entry r).dead = (d.entry r).dead ∨
      sweeps d.conf (d.sweeping s) (d.entry r) = true ∨ ∃ now order, s = .refresh now order := by
  rcases d.exec_cases s with ⟨g, f, hf⟩ | ⟨g, rfl⟩ | ⟨g, rfl⟩ | hrefresh | ⟨_, hh, _⟩
  · refine Or.inl ?_
    rw [exec_filing hf]
    by_cases ht : r = d.target g f.pid
    · rw [ht, d.file_target, f.keeps_dead, d.filedOver_of_find g f (d.find_of_target h ht), ht]
    · rw [d.file_entry g f ht]
  · refine Or.inl ?_
    rw [exec, clearUpdates_entry, if_pos h, clearMark]
    split <;> rfl
  · rw [exec, discardMySQLDead_entry, if_pos h]
    rcases d.sweepEntry_frame [g] (d.entry r) with hkept | ⟨hs, _⟩
    · exact Or.inl (by rw [hkept])
    · exact Or.inr (Or.inl hs)
  · exact Or.inr (Or.inr hrefresh)
  · exact Or.inl (by rw [entry, hh])

theorem exec_updated_false (h : ((d.exec s).entry r).updated = false) :
    (d.entry r).updated = false ∨
      ∃ g, s = .clearUpdates g ∧ d.conf.sameHostname (d.entry r).eventHost g = true := by
  rcases d.exec_cases s with ⟨g, f, hf⟩ | ⟨g, rfl⟩ | ⟨g, rfl⟩ | ⟨now, order, rfl⟩ | ⟨_, hh, _⟩
  · rw [exec_filing hf] at h
    by_cases ht : r = d.target g f.pid
    · rw [ht, file_target, f.marks] at h
      exact absurd h (by decide)
    · rw [d.file_entry g f ht] at h
      exact Or.inl h
  · simp only [exec, clearUpdates_entry, clearMark] at h
    split at h
    · split at h
      next hs => exact Or.inr ⟨g, rfl, hs⟩
      next => exact Or.inl h
    · exact Or.inl h
  · simp only [exec, discardMySQLDead_entry] at h
    split at h
    · rw [(d.sweepEntry_evolves [g] (d.entry r)).2.2.1] at h
      exact Or.inl h
    · exact Or.inl h
  · simp only [exec, refresh_entry, purge_entry] at h
    split at h
    · rw [(d.sweepEntry_evolves d.deadHosts _).2.2.1, purged_updated] at h
      exact Or.inl h
    · exact Or.inl h
  · rw [entry, hh] at h
    exact Or.inl h

theorem exec_updated_true (hr : r ∈ (d.exec s).items)
    (h : ((d.exec s).entry r).updated = true) :
    (r ∈ d.items ∧ (d.entry r).updated = true) ∨
      ∃ aHost f, d.filing s = some (aHost, f) ∧ r = d.target aHost f.pid := by
  rcases d.exec_cases s with ⟨g, f, hf⟩ | ⟨g, rfl⟩ | ⟨g, rfl⟩ | ⟨now, order, rfl⟩ | ⟨hf, hh, _⟩
  · rw [exec_filing hf] at h hr
    by_cases ht : r = d.target g f.pid
    · exact Or.inr ⟨g, f, hf, ht⟩
    · rw [d.file_entry g f ht] at h
      exact Or.inl ⟨((d.mem_file g f r).mp hr).resolve_right ht, h⟩
  · have hm : r ∈ d.items := by simpa [exec] using hr
    simp only [exec, clearUpdates_entry, clearMark, hm, if_true] at h
    split at h
    · simp at h
    · exact Or.inl ⟨hm, h⟩
  · have hm : r ∈ d.items := by
      rw [exec, discardMySQLDead_items] at hr
      exact List.mem_of_mem_filter hr
    simp only [exec, discardMySQLDead_entry, hm, if_true] at h
    rw [(d.sweepEntry_evolves [g] (d.entry r)).2.2.1] at h
    exact Or.inl ⟨hm, h⟩
  · have hm : r ∈ d.items := by
      rw [exec, (d.refresh_perm now order).mem_iff, purge_items] at hr
      exact List.mem_of_mem_filter hr
    simp only [exec, refresh_entry, purge_entry, hm, if_true] at h
    rw [(d.sweepEntry_evolves d.deadHosts _).2.2.1, purged_updated] at h
    exact Or.inl ⟨hm, h⟩
  · rw [entry, hh] at h
    rcases exec_mem hr with hm | ⟨g, f, hf', _⟩
    · exact Or.inl ⟨hm, h⟩
    · rw [hf] at hf'
      simp at hf'

theorem exec_filed {aHost : HostRef} {f : Filing} (hf : d.filing s = some (aHost, f)) :
    d.target aHost f.pid ∈ (d.exec s).items ∧
      ((d.exec s).entry (d.target aHost f.pid)).updated = true ∧
      ((d.exec s).entry (d.target aHost f.pid)).processID = f.pid ∧
      d.conf.sameHostname ((d.exec s).entry (d.target aHost f.pid)).eventHost aHost = true := by
  obtain ⟨hk, hp⟩ := d.filedOver_key aHost f
  obtain ⟨hwh, _, hwp⟩ := f.write_key (d.filedOver aHost f)
  rw [exec_filing hf, file_target, hwh, hwp]
  exact ⟨(d.mem_file aHost f _).mpr (Or.inr rfl), f.marks _, hp, hk⟩

theorem exec_next_le : d.dataList.next ≤ (d.exec s).dataList.next := by
  rcases d.exec_cases s with ⟨g, f, hf⟩ | ⟨g, rfl⟩ | ⟨g, rfl⟩ | ⟨now, order, rfl⟩ | ⟨_, _, hn, _⟩
  · rw [exec_filing hf]
    exact d.file_next_le g f
  · simp [exec]
  · simp [exec]
  · simp [exec, refresh_next]
  · exact Nat.le_of_eq hn.symm

def confAfter (d : Document) : Section → Configuration
  | .edit conf => conf
  | _ => d.conf

def sliderAfter (d : Document) : Section → Int
  | .detectChangedSlider value => if value = 300 then -1 else value
  | _ => d.sliderValue

def trackAfter (d : Document) : Section → Int
  | .trackQuery value => value
  | _ => d.trackQuery

theorem exec_settings (d : Document) (s : Section) :
    (d.exec s).conf = d.confAfter s ∧ (d.exec s).sliderValue = d.sliderAfter s ∧
      (d.exec s).trackQuery = d.trackAfter s := by
  cases s with
  | updateRow now g row =>
    rw [exec, updateRow_eq]
    split <;> exact SameSettings.refl d
  | updateMySQLSlaveStatus now g status =>
    rw [exec, updateMySQLSlaveStatus_eq]
    split <;> exact SameSettings.refl d
  | refresh now order => exact d.refresh_settings now order
  | sortDescriptorsDidChange order => exact (d.sortDescriptorsDidChange_sameLog order).settings
  | killProcess =>
    rw [exec, killProcess]
    split
    · exact SameSettings.refl d
    · split <;> exact SameSettings.refl d
  | select row => exact (d.selectRow_sameLog row).settings
  | _ => exact ⟨rfl, rfl, rfl⟩

theorem exec_conf (hs : ∀ conf, s ≠ .edit conf) : (d.exec s).conf = d.conf := by
  rw [(d.exec_settings s).1]
  cases s with
  | edit conf => exact absurd rfl (hs conf)
  | _ => rfl

-- What a section does to an entry it does not file into, and whether it then drops it.
def passEntry (d : Document) (s : Section) (e : DBMLogEntry) : DBMLogEntry :=
  match s with
  | .clearUpdates g => clearMark d.conf g e
  | .discardMySQLDead g => d.sweepEntry [g] e
  | .refresh now _ => d.sweepEntry d.deadHosts (d.purged now e)
  | _ => e

def drops (d : Document) (s : Section) (e : DBMLogEntry) : Bool :=
  match s with
  | .discardMySQLDead g => sweeps d.conf [g] e && !d.tracks e
  | .refresh now _ => sweeps d.conf d.deadHosts e && !d.tracks (d.purged now e)
  | _ => false

theorem exec_passed (hr : r ∈ d.items)
    (hf : ∀ g f, d.filing s = some (g, f) → r ≠ d.target g f.pid) :
    (d.exec s).entry r = d.passEntry s (d.entry r) := by
  cases hfile : d.filing s with
  | some p =>
    have hpass : d.passEntry s (d.entry r) = d.entry r := by
      cases s <;> first | rfl | simp [filing] at hfile
    rw [hpass, exec_filing hfile, d.file_entry p.1 p.2 (hf p.1 p.2 hfile)]
  | none =>
    cases s with
    | clearUpdates g => simp [exec, clearUpdates_entry, hr, passEntry]
    | discardMySQLDead g => simp [exec, discardMySQLDead_entry, hr, passEntry]
    | refresh now order => simp [exec, refresh_entry, purge_entry, hr, passEntry]
    | updateRow now g row =>
      have hq : qualifies d.conf g row ≠ true := fun hq => by simp [filing, hq] at hfile
      rw [exec, updateRow_eq, if_neg hq]
      rfl
    | updateMySQLSlaveStatus now g status =>
      have hu : status.unhealthy ≠ true := fun hu => by simp [filing, hu] at hfile
      rw [exec, updateMySQLSlaveStatus_eq, if_neg hu]
      rfl
    | updateMySQLFail now g => simp [filing] at hfile
    | sortDescriptorsDidChange order => exact congrFun (d.sort_heap order) r
    | killProcess => exact congrFun d.killProcess_heap r
    | select row => exact congrFun (congrArg ObjectArray.heap (d.selectRow_dataList row)) r
    | _ => rfl

theorem exec_unfiled {P : DBMLogEntry → Prop} (hf : d.filing s = none)
    (hpass : ∀ e, P e → P (d.passEntry s e)) (h : ∀ r ∈ d.items, P (d.entry r)) :
    ∀ r ∈ (d.exec s).items, P ((d.exec s).entry r) := by
  intro r hr
  have hold : r ∈ d.items := (exec_mem hr).resolve_right (by simp [hf])
  rw [exec_passed hold (by simp [hf])]
  exact hpass _ (h r hold)

theorem exec_mem_iff (hs : s ≠ .killProcess) (hr : r ∈ d.items) :
    r ∈ (d.exec s).items ↔ d.drops s (d.entry r) = false := by
  cases s with
  | clearUpdates g => simp [exec, hr, drops]
  | discardMySQLDead g =>
    rw [exec, discardMySQLDead_items, List.mem_filter, Bool.not_eq_true', drops]
    exact and_iff_right hr
  | refresh now order =>
    rw [exec, (d.refresh_perm now order).mem_iff, purge_items, List.mem_filter,
      Bool.not_eq_true', drops]
    exact and_iff_right hr
  | updateRow now g row =>
    refine iff_of_true ?_ rfl
    rw [exec, updateRow_eq]
    split
    · exact (d.mem_file g _ r).mpr (Or.inl hr)
    · exact hr
  | updateMySQLSlaveStatus now g status =>
    refine iff_of_true ?_ rfl
    rw [exec, updateMySQLSlaveStatus_eq]
    split
    · exact (d.mem_file g _ r).mpr (Or.inl hr)
    · exact hr
  | updateMySQLFail now g => exact iff_of_true ((d.mem_file g (failFiling now) r).mpr (Or.inl hr)) rfl
  | sortDescriptorsDidChange order => exact iff_of_true ((d.sort_perm order).mem_iff.mpr hr) rfl
  | killProcess => exact absurd rfl hs
  | select row => exact iff_of_true (by rwa [exec, items, selectRow_dataList]) rfl
  | _ => exact iff_of_true hr rfl

theorem exec_absent (hr : r < d.dataList.next) (hn : r ∉ d.items) :
    r ∉ (d.exec s).items ∧ r < (d.exec s).dataList.next := by
  refine ⟨fun hm => ?_, hr.trans_le exec_next_le⟩
  rcases exec_mem hm with hold | ⟨_, _, _, _, rfl⟩
  · exact hn hold
  · exact Nat.lt_irrefl _ hr

end Entry

end Document

end DBMonitor
