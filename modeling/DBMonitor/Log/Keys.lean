import DBMonitor.Library.Transition
import DBMonitor.Log.Steps

namespace DBMonitor

namespace Document

def KeysUnique (same : HostRef → HostRef → Prop) (d : Document) : Prop :=
  d.items.Pairwise (fun r t => same (d.entry r).eventHost (d.entry t).eventHost →
    (d.entry r).processID = (d.entry t).processID → (d.entry r).processID = deadProcess)

theorem KeysUnique.eq {same : HostRef → HostRef → Prop} {d : Document} (h : d.KeysUnique same)
    (hsymm : ∀ a b, same a b → same b a) {r t : EntryRef} (hr : r ∈ d.items) (ht : t ∈ d.items)
    (hs : same (d.entry r).eventHost (d.entry t).eventHost)
    (hp : (d.entry r).processID = (d.entry t).processID)
    (hlive : (d.entry r).processID ≠ deadProcess) : r = t := by
  by_contra hne
  have hsym : Std.Symm (fun r t => same (d.entry r).eventHost (d.entry t).eventHost →
      (d.entry r).processID = (d.entry t).processID → (d.entry r).processID = deadProcess) :=
    ⟨fun _ _ hrt hs hp => hp.trans (hrt (hsymm _ _ hs) hp.symm)⟩
  exact hlive (List.Pairwise.forall h hr ht hne hs hp)

theorem exec_nodup {d : Document} (s : Section) (h : d.items.Nodup) : (d.exec s).items.Nodup := by
  rcases d.exec_items s with ⟨g, f, hf, hi⟩ | ⟨l, hl, hsub⟩
  · rw [hi]
    split
    · exact h
    · exact List.nodup_append_comm.mp (List.nodup_cons.mpr ⟨d.next_not_mem, h⟩)
  · exact hl.nodup_iff.mp (h.sublist hsub)

section Step
variable {d : Document} {s : Section} {same : HostRef → HostRef → Prop}

theorem exec_old_key {r : EntryRef} (hr : r ∈ d.items)
    (hlive : ((d.exec s).entry r).processID ≠ deadProcess) :
    ((d.exec s).entry r).eventHost = (d.entry r).eventHost ∧
      ((d.exec s).entry r).processID = (d.entry r).processID := by
  obtain ⟨hh, _, hp⟩ := exec_evolves (s := s) (d.dataList.allocated r hr)
  exact ⟨hh, hp.resolve_right (fun hd => hlive hd.1)⟩

theorem exec_mark_kept {r : EntryRef} (hr : r ∈ (d.exec s).items)
    (hclear : r ∈ d.items → ∀ g, s = .clearUpdates g →
      d.conf.sameHostname (d.entry r).eventHost g = false)
    (hmark : r ∈ d.items → (d.entry r).updated = true) : ((d.exec s).entry r).updated = true := by
  rcases exec_mem hr with hm | ⟨g, f, hf, hn, rfl⟩
  · by_contra hu
    rcases exec_updated_false (by simpa using hu) with hold | ⟨g, rfl, hsame⟩
    · rw [hmark hm] at hold
      exact absurd hold (by decide)
    · rw [hclear hm g rfl] at hsame
      exact absurd hsame (by decide)
  · rw [← d.target_of_find_none g hn]
    exact (exec_filed hf).2.1

theorem fresh_not_duplicate (hsame : ∀ a b, same a b → d.conf.sameHostname a b = true)
    {aHost : HostRef} {f : Filing} (hf : d.filing s = some (aHost, f))
    (hn : d.find aHost f.pid = none) {r t : EntryRef} (hr : r ∈ d.items)
    (ht : t = d.dataList.next)
    (hs : same ((d.exec s).entry r).eventHost ((d.exec s).entry t).eventHost)
    (hp : ((d.exec s).entry r).processID = ((d.exec s).entry t).processID) :
    ((d.exec s).entry r).processID = deadProcess := by
  by_contra hlive
  have htarget : t = d.target aHost f.pid := ht.trans (d.target_of_find_none aHost hn).symm
  obtain ⟨hh, hk⟩ := exec_old_key hr hlive
  have hfresh : ((d.exec s).entry t).eventHost = aHost := by
    rw [exec_filing hf, htarget]
    exact d.file_fresh aHost f hn
  rw [hfresh, hh] at hs
  rw [htarget, (exec_filed hf).2.2.1, hk] at hp
  exact (d.find_none_iff aHost).mp hn r hr (hsame _ _ hs) hp

theorem exec_keysUnique (hsymm : ∀ a b, same a b → same b a)
    (hsame : ∀ a b, same a b → d.conf.sameHostname a b = true) (h : d.KeysUnique same) :
    (d.exec s).KeysUnique same := by
  have hold : d.items.Pairwise (fun r t =>
      same ((d.exec s).entry r).eventHost ((d.exec s).entry t).eventHost →
        ((d.exec s).entry r).processID = ((d.exec s).entry t).processID →
        ((d.exec s).entry r).processID = deadProcess) := by
    refine h.imp_of_mem ?_
    intro r t hr ht hrt hs hp
    by_contra hlive
    obtain ⟨hhr, hkr⟩ := exec_old_key hr hlive
    obtain ⟨hht, hkt⟩ := exec_old_key ht (hp ▸ hlive)
    rw [hhr, hht] at hs
    rw [hkr, hkt] at hp
    exact hlive (hkr.trans (hrt hs hp))
  unfold KeysUnique
  rcases d.exec_items s with ⟨g, f, hf, hi⟩ | ⟨l, hl, hsub⟩
  · rw [hi]
    cases hn : d.find g f.pid with
    | some r => simpa using hold
    | none =>
      simp only [Option.isSome_none, Bool.false_eq_true, if_false]
      refine List.pairwise_append.mpr ⟨hold, List.pairwise_singleton _ _, ?_⟩
      intro r hr t ht hs hp
      exact fresh_not_duplicate hsame hf hn hr (List.mem_singleton.mp ht) hs hp
  · refine (List.Perm.pairwise_iff ?_ hl).mp (hold.sublist hsub)
    intro r t hrt hs hp
    exact hp.trans (hrt (hsymm _ _ hs) hp.symm)

end Step

def WellKept (d : Document) : Prop := d.items.Nodup ∧ d.KeysUnique Eq

theorem initial_wellKept (conf : Configuration) (sliderValue trackQuery : Int) :
    (initial conf sliderValue trackQuery).WellKept := by
  simp [WellKept, KeysUnique, initial, items, ObjectArray.empty]

theorem exec_wellKept {d : Document} (s : Section) (h : d.WellKept) : (d.exec s).WellKept := by
  refine ⟨exec_nodup s h.1, exec_keysUnique (fun _ _ => Eq.symm) ?_ h.2⟩
  rintro a _ rfl
  exact d.conf.sameHostname_self a

theorem runSections_wellKept {d : Document} (sections : List Section) (h : d.WellKept) :
    (d.runSections sections).WellKept :=
  Transition.foldl_invariant h (fun _ hd s _ => exec_wellKept s hd)

theorem log_keys_unique (conf : Configuration) (sliderValue trackQuery : Int)
    (sections : List Section) :
    let d := (initial conf sliderValue trackQuery).runSections sections
    d.items.Nodup ∧ ∀ r ∈ d.items, ∀ t ∈ d.items, r ≠ t →
      (d.entry r).eventHost = (d.entry t).eventHost →
      (d.entry r).processID = (d.entry t).processID → (d.entry r).processID = deadProcess := by
  have h := runSections_wellKept sections (initial_wellKept conf sliderValue trackQuery)
  refine ⟨h.1, fun r hr t ht hne hh hp => ?_⟩
  by_contra hlive
  exact hne (h.2.eq (fun _ _ => Eq.symm) hr ht hh hp hlive)

end Document

end DBMonitor
