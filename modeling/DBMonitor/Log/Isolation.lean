import DBMonitor.Log.PollCycle
import Mathlib.Data.Multiset.Filter

namespace DBMonitor

namespace Document

def log (d : Document) : Multiset DBMLogEntry := (d.items : Multiset EntryRef).map d.entry

def hostLog (h : HostRef) (d : Document) : Multiset DBMLogEntry :=
  d.log.filter (fun e => e.eventHost = h)

section HostLog

def hostFile (h : HostRef) (f : Filing) (log : Multiset DBMLogEntry) : Multiset DBMLogEntry :=
  if f.pid ∈ log.map DBMLogEntry.processID then
    log.map (fun e => if e.processID = f.pid then f.write e else e)
  else f.write (f.create (DBMLogEntry.initWithHost h f.pid f.now)) ::ₘ log

def hostStep (d₀ : Document) (h : HostRef) (log : Multiset DBMLogEntry) (s : Section) :
    Multiset DBMLogEntry :=
  match s with
  | .clearUpdates _ => log.map (fun e => { e with updated := false })
  | .discardMySQLDead _ =>
    (log.filter (fun e => (e.updated || d₀.tracks e) = true)).map
      (fun e => if e.updated then e else relabel e)
  | .refresh now _ =>
    log.map (fun e => { e with displayTimeout := d₀.keptTimeout now e.displayTimeout })
  | s =>
    match d₀.filing s with
    | some (_, f) => hostFile h f log
    | none => log

end HostLog

def pollHost : Section → Option HostRef
  | .clearUpdates aHost => some aHost
  | .updateRow _ aHost _ => some aHost
  | .updateMySQLSlaveStatus _ aHost _ => some aHost
  | .updateMySQLFail _ aHost => some aHost
  | .discardMySQLDead aHost => some aHost
  | _ => none

-- What a host sees of a section: its own poll sections and the refreshes, whatever they sort.
def own (h : HostRef) : Section → Option Section
  | .refresh now _ => some (.refresh now [])
  | s => if pollHost s = some h then some s else none

inductive Within (hosts : Set HostRef) : Section → Prop where
  | poll {s : Section} {aHost : HostRef} (hs : pollHost s = some aHost) (hmem : aHost ∈ hosts) :
    Within hosts s
  | refresh (now : Time) (order : List EntryRef) : Within hosts (.refresh now order)
  | sort (order : List EntryRef) : Within hosts (.sortDescriptorsDidChange order)

structure Separate (c : Configuration) (hosts : Set HostRef) : Prop where
  active : ∀ a ∈ hosts, c.isActive a = true
  distinct : ∀ a ∈ hosts, ∀ b ∈ hosts, c.sameHostname a b = true → a = b

structure Isolated (hosts : Set HostRef) (d₀ d : Document) : Prop where
  settings : SameSettings d d₀
  keys : d.WellKept
  hosts : ∀ r ∈ d.items, (d.entry r).eventHost ∈ hosts

section Effect
variable {d d' : Document} {h : HostRef}

theorem hostLog_of (keep : DBMLogEntry → Bool) {φ : DBMLogEntry → DBMLogEntry}
    (hperm : d'.items.Perm (d.items.filter (fun r => keep (d.entry r))))
    (hentry : ∀ r ∈ d.items, d'.entry r = φ (d.entry r))
    (hhost : ∀ e, (φ e).eventHost = e.eventHost) :
    d'.hostLog h = ((d.hostLog h).filter (fun e => keep e = true)).map φ := by
  have hitems : (d'.items : Multiset EntryRef) =
      (d.items : Multiset EntryRef).filter (fun r => keep (d.entry r) = true) := by
    rw [Multiset.filter_coe]
    exact Multiset.coe_eq_coe.mpr (by simpa using hperm)
  have hmap : d'.log = (d.log.filter (fun e => keep e = true)).map φ := by
    rw [log, log, hitems, Multiset.filter_map, Multiset.map_map]
    refine Multiset.map_congr rfl (fun r hr => ?_)
    exact hentry r (Multiset.mem_of_mem_filter hr)
  rw [hostLog, hostLog, hmap, Multiset.filter_map]
  congr 1
  rw [Multiset.filter_filter, Multiset.filter_filter]
  refine Multiset.filter_congr (fun e _ => ?_)
  simp only [Function.comp_apply, hhost]
  exact and_comm

theorem hostLog_map {φ : DBMLogEntry → DBMLogEntry} (hperm : d'.items.Perm d.items)
    (hentry : ∀ r ∈ d.items, d'.entry r = φ (d.entry r))
    (hhost : ∀ e, (φ e).eventHost = e.eventHost) : d'.hostLog h = (d.hostLog h).map φ := by
  have hall : d'.items.Perm (d.items.filter (fun _ => true)) := by simpa using hperm
  rw [hostLog_of (fun _ => true) hall hentry hhost, Multiset.filter_eq_self.mpr (fun _ _ => rfl)]

theorem mem_hostLog {e : DBMLogEntry} :
    e ∈ d.hostLog h ↔ ∃ r ∈ d.items, (d.entry r).eventHost = h ∧ d.entry r = e := by
  simp only [hostLog, log, Multiset.mem_filter, Multiset.mem_map, Multiset.mem_coe]
  constructor
  · rintro ⟨⟨r, hr, rfl⟩, hh⟩
    exact ⟨r, hr, hh, rfl⟩
  · rintro ⟨r, hr, hh, rfl⟩
    exact ⟨⟨r, hr, rfl⟩, hh⟩

theorem host_of_mem {e : DBMLogEntry} (he : e ∈ d.hostLog h) : e.eventHost = h := by
  obtain ⟨r, _, hh, rfl⟩ := mem_hostLog.mp he
  exact hh

theorem hostLog_perm (hperm : d'.items.Perm d.items) (hentry : d'.dataList.heap = d.dataList.heap) :
    d'.hostLog h = d.hostLog h := by
  have hlog : d'.log = d.log := by
    rw [log, log, Multiset.coe_eq_coe.mpr hperm]
    exact Multiset.map_congr rfl (fun r _ => congrFun hentry r)
  rw [hostLog, hostLog, hlog]

end Effect

section Settings
variable {d d₀ : Document} (hset : SameSettings d d₀)
include hset

theorem filing_congr (s : Section) : d.filing s = d₀.filing s := by
  obtain ⟨listA, confA, sliderA, trackA, rowA, currentA⟩ := d
  obtain ⟨listB, confB, sliderB, trackB, rowB, currentB⟩ := d₀
  obtain ⟨hc, hs, ht⟩ := hset
  simp only at hc hs ht
  subst hc hs ht
  cases s <;> rfl

theorem tracks_congr (e : DBMLogEntry) : d.tracks e = d₀.tracks e := by
  rw [tracks, tracks, hset.2.2]

theorem keptTimeout_congr (now : Time) (timeout : Option Time) :
    d.keptTimeout now timeout = d₀.keptTimeout now timeout := by
  rw [keptTimeout, keptTimeout, hset.2.1]

end Settings

section Step
variable {hosts : Set HostRef} {d₀ d : Document} {g h : HostRef}

theorem Isolated.same_iff (hi : Isolated hosts d₀ d) (hsep : Separate d₀.conf hosts)
    (hg : g ∈ hosts) {a : HostRef} (ha : a ∈ hosts) : d.conf.sameHostname a g = true ↔ a = g := by
  rw [hi.settings.1]
  constructor
  · exact hsep.distinct a ha g hg
  · rintro rfl
    exact d₀.conf.sameHostname_self a

theorem Isolated.other (hi : Isolated hosts d₀ d) (hsep : Separate d₀.conf hosts)
    (hg : g ∈ hosts) (hh : h ∈ hosts) (hne : g ≠ h) : d.conf.sameHostname h g = false := by
  rw [← Bool.not_eq_true, hi.same_iff hsep hg hh]
  exact fun heq => hne heq.symm

theorem hostLog_clearMark :
    (d.clearUpdates g).hostLog h = (d.hostLog h).map (clearMark d.conf g) := by
  refine hostLog_map (List.Perm.of_eq (by simp)) ?_ ?_
  · intro r hr
    rw [clearUpdates_entry, if_pos hr]
  · intro e
    unfold clearMark
    split <;> rfl

theorem hostLog_clear (hsame : d.conf.sameHostname h g = true) :
    (d.clearUpdates g).hostLog h =
      (d.hostLog h).map (fun e => { e with updated := false }) := by
  rw [hostLog_clearMark]
  refine Multiset.map_congr rfl (fun e he => ?_)
  rw [clearMark, host_of_mem he, if_pos hsame]

theorem hostLog_clear_other (hother : d.conf.sameHostname h g = false) :
    (d.clearUpdates g).hostLog h = d.hostLog h := by
  rw [hostLog_clearMark]
  refine (Multiset.map_congr rfl (fun e he => ?_)).trans (Multiset.map_id _)
  rw [clearMark, host_of_mem he, if_neg (by rw [hother]; decide)]
  rfl

theorem hostLog_discard :
    (d.discardMySQLDead g).hostLog h =
      ((d.hostLog h).filter
        (fun e => (!(sweeps d.conf [g] e && !d.tracks e)) = true)).map (d.sweepEntry [g]) := by
  refine hostLog_of (fun e => !(sweeps d.conf [g] e && !d.tracks e)) ?_ ?_ ?_
  · rw [discardMySQLDead_items]
  · intro r hr
    rw [discardMySQLDead_entry, if_pos hr]
  · exact fun e => (d.sweepEntry_evolves [g] e).1

theorem hostLog_discard_own (hsame : d.conf.sameHostname h g = true) :
    (d.discardMySQLDead g).hostLog h =
      ((d.hostLog h).filter (fun e => (e.updated || d.tracks e) = true)).map
        (fun e => if e.updated then e else relabel e) := by
  have hsweeps : ∀ e ∈ d.hostLog h, sweeps d.conf [g] e = !e.updated := by
    intro e he
    exact sweeps_single g d.conf e (by rw [host_of_mem he]; exact hsame)
  rw [hostLog_discard, Multiset.filter_congr (q := fun e => (e.updated || d.tracks e) = true)]
  · refine Multiset.map_congr rfl (fun e he => ?_)
    obtain ⟨hm, hk⟩ := Multiset.mem_filter.mp he
    rw [sweepEntry, hsweeps e hm]
    cases hu : e.updated with
    | true => rfl
    | false =>
      have ht : d.tracks e = true := by simpa [hu] using hk
      simp [ht]
  · intro e he
    rw [hsweeps e he]
    cases e.updated <;> simp

theorem hostLog_discard_other (hother : d.conf.sameHostname h g = false) :
    (d.discardMySQLDead g).hostLog h = d.hostLog h := by
  have hsweeps : ∀ e ∈ d.hostLog h, sweeps d.conf [g] e = false := by
    intro e he
    simp [sweeps, host_of_mem he, hother]
  rw [hostLog_discard, Multiset.filter_eq_self.mpr (fun e he => by simp [hsweeps e he])]
  refine (Multiset.map_congr rfl (fun e he => ?_)).trans (Multiset.map_id _)
  rw [sweepEntry, hsweeps e he]
  rfl

theorem hostLog_refresh (hactive : ∀ r ∈ d.items, d.conf.isActive (d.entry r).eventHost = true)
    (now : Time) (order : List EntryRef) :
    (d.refresh now order).hostLog h =
      (d.hostLog h).map
        (fun e => { e with displayTimeout := d.keptTimeout now e.displayTimeout }) := by
  have hdead : d.deadHosts = [] := by
    refine List.eq_nil_iff_forall_not_mem.mpr (fun a ha => ?_)
    obtain ⟨r, hr, rfl, hn⟩ := d.mem_deadHosts.mp ha
    rw [hactive r hr] at hn
    exact absurd hn (by decide)
  have hpurged : (d.refresh now order).hostLog h = (d.hostLog h).map (d.purged now) := by
    refine hostLog_map ?_ ?_ (fun e => d.purged_eventHost now e)
    · have hp := d.refresh_perm now order
      rw [purge_items, hdead] at hp
      simpa [sweeps_nil] using hp
    · intro r hr
      rw [refresh_entry, purge_entry, if_pos hr, hdead, sweepEntry, sweeps_nil]
      rfl
  rw [hpurged]
  refine Multiset.map_congr rfl (fun e he => ?_)
  obtain ⟨r, hr, _, rfl⟩ := mem_hostLog.mp he
  exact d.purged_of_active now (hactive r hr)

theorem hostLog_file_found (hi : Isolated hosts d₀ d) (hsep : Separate d₀.conf hosts)
    (hg : g ∈ hosts) {f : Filing} {r : EntryRef} (hfind : d.find g f.pid = some r) :
    (d.file g f).hostLog h =
      (d.hostLog h).map (fun e => if matchesKey d.conf g f.pid e then f.write e else e) := by
  obtain ⟨hr, hrhost, hrpid⟩ := d.find_mem g hfind
  have hrg := (hi.same_iff hsep hg (hi.hosts r hr)).mp hrhost
  have htarget := d.target_of_find g hfind
  refine hostLog_map ?_ ?_ ?_
  · rw [file_items, hfind]
    simp
  · intro t ht
    by_cases hmatch : matchesKey d.conf g f.pid (d.entry t) = true
    · have hkey := hmatch
      simp only [matchesKey, Bool.and_eq_true, decide_eq_true_eq] at hkey
      have htg := (hi.same_iff hsep hg (hi.hosts t ht)).mp hkey.1
      have htr : t = r := hi.keys.2.eq (fun _ _ => Eq.symm) ht hr (htg.trans hrg.symm)
        (hkey.2.trans hrpid.symm) (hkey.2 ▸ f.live)
      rw [if_pos hmatch, htr, d.file_found g f hfind]
    · have htr : t ≠ d.target g f.pid := by
        rintro rfl
        apply hmatch
        rw [htarget]
        simp [matchesKey, hrhost, hrpid]
      rw [if_neg hmatch, d.file_entry g f htr]
  · intro e
    split
    · exact (f.write_key e).1
    · rfl

theorem hostLog_file_fresh {f : Filing} (hfind : d.find g f.pid = none) :
    (d.file g f).hostLog h =
      if g = h then f.write (f.create (DBMLogEntry.initWithHost g f.pid f.now)) ::ₘ d.hostLog h
      else d.hostLog h := by
  have hnext := d.target_of_find_none g hfind
  have hover : d.filedOver g f = f.create (DBMLogEntry.initWithHost g f.pid f.now) := by
    simp [filedOver, hfind]
  have hfile := d.file_target g f
  rw [hnext, hover] at hfile
  have hhost : (f.write (f.create (DBMLogEntry.initWithHost g f.pid f.now))).eventHost = g :=
    (f.write_key _).1.trans (f.create_key _).1
  have hlog : (d.file g f).log =
      f.write (f.create (DBMLogEntry.initWithHost g f.pid f.now)) ::ₘ d.log := by
    have hitems : ((d.file g f).items : Multiset EntryRef) =
        d.dataList.next ::ₘ (d.items : Multiset _) := by
      rw [file_items, hfind]
      exact Multiset.coe_eq_coe.mpr (List.perm_append_singleton _ _)
    rw [log, log, hitems, Multiset.map_cons, hfile]
    congr 1
    refine Multiset.map_congr rfl (fun r hr => d.file_entry g f ?_)
    rw [hnext]
    rintro rfl
    exact d.next_not_mem hr
  rw [hostLog, hostLog, hlog]
  split
  next hg => exact Multiset.filter_cons_of_pos _ (hhost.trans hg)
  next hg => exact Multiset.filter_cons_of_neg _ (fun heq => hg (hhost.symm.trans heq))

theorem hostLog_file (hi : Isolated hosts d₀ d) (hsep : Separate d₀.conf hosts)
    (hh : h ∈ hosts) (f : Filing) : (d.file h f).hostLog h = hostFile h f (d.hostLog h) := by
  have hself := d.conf.sameHostname_self h
  unfold hostFile
  cases hfind : d.find h f.pid with
  | none =>
    have hmem : f.pid ∉ (d.hostLog h).map DBMLogEntry.processID := by
      intro hm
      obtain ⟨e, he, hp⟩ := Multiset.mem_map.mp hm
      obtain ⟨r, hr, hrh, rfl⟩ := mem_hostLog.mp he
      exact (d.find_none_iff h).mp hfind r hr (hrh ▸ hself) hp
    rw [if_neg hmem, hostLog_file_fresh hfind, if_pos rfl]
  | some r =>
    obtain ⟨hr, hrhost, hrpid⟩ := d.find_mem h hfind
    have hmem : f.pid ∈ (d.hostLog h).map DBMLogEntry.processID :=
      Multiset.mem_map.mpr ⟨d.entry r, mem_hostLog.mpr
        ⟨r, hr, (hi.same_iff hsep hh (hi.hosts r hr)).mp hrhost, rfl⟩, hrpid⟩
    rw [if_pos hmem, hostLog_file_found hi hsep hh hfind]
    refine Multiset.map_congr rfl (fun e he => ?_)
    simp [matchesKey, host_of_mem he]

theorem hostLog_file_other (hi : Isolated hosts d₀ d) (hsep : Separate d₀.conf hosts)
    (hg : g ∈ hosts) (hh : h ∈ hosts) (hne : g ≠ h) (f : Filing) :
    (d.file g f).hostLog h = d.hostLog h := by
  cases hfind : d.find g f.pid with
  | none => rw [hostLog_file_fresh hfind, if_neg hne]
  | some r =>
    rw [hostLog_file_found hi hsep hg hfind]
    refine (Multiset.map_congr rfl (fun e he => ?_)).trans (Multiset.map_id _)
    simp [matchesKey, host_of_mem he, hi.other hsep hg hh hne]

theorem filing_pollHost {s : Section} {f : Filing} (hf : d.filing s = some (g, f)) :
    pollHost s = some g := by
  rcases filing_cases hf with ⟨now, row, rfl, _⟩ | ⟨now, status, rfl, _⟩ | ⟨now, rfl, _⟩ <;> rfl

theorem Isolated.exec (hi : Isolated hosts d₀ d) {s : Section} (hs : Within hosts s) :
    Isolated hosts d₀ (d.exec s) where
  settings := by
    have hsame : SameSettings (d.exec s) d := by
      rw [SameSettings, (d.exec_settings s).1, (d.exec_settings s).2.1, (d.exec_settings s).2.2]
      cases hs with
      | refresh now order => exact ⟨rfl, rfl, rfl⟩
      | sort order => exact ⟨rfl, rfl, rfl⟩
      | @poll s aHost hs hmem => cases s <;> first | exact ⟨rfl, rfl, rfl⟩ | simp [pollHost] at hs
    exact hsame.trans hi.settings
  keys := exec_wellKept s hi.keys
  hosts := by
    intro r hr
    rcases exec_mem hr with hm | ⟨g, f, hf, hfind, rfl⟩
    · rw [(exec_evolves (d.dataList.allocated r hm)).1]
      exact hi.hosts r hm
    · have hfresh := d.file_fresh g f hfind
      rw [d.target_of_find_none g hfind, ← exec_filing hf] at hfresh
      rw [hfresh]
      have hg := filing_pollHost hf
      cases hs with
      | poll hs hmem => exact (Option.some.inj (hs.symm.trans hg)) ▸ hmem
      | refresh now order => simp [pollHost] at hg
      | sort order => simp [pollHost] at hg

def isFiler : Section → Bool
  | .updateRow _ _ _ => true
  | .updateMySQLSlaveStatus _ _ _ => true
  | .updateMySQLFail _ _ => true
  | _ => false

theorem hostStep_filer {s : Section} (hs : isFiler s = true) (log : Multiset DBMLogEntry) :
    hostStep d₀ h log s =
      match d₀.filing s with
      | some (_, f) => hostFile h f log
      | none => log := by
  cases s <;> first | rfl | simp [isFiler] at hs

theorem exec_filer_idle {s : Section} (hs : isFiler s = true) (hf : d.filing s = none) :
    d.exec s = d := by
  cases s with
  | updateRow now g row =>
    rw [Document.exec, updateRow_eq, if_neg]
    intro hq
    simp [filing, hq] at hf
  | updateMySQLSlaveStatus now g status =>
    rw [Document.exec, updateMySQLSlaveStatus_eq, if_neg]
    intro hu
    simp [filing, hu] at hf
  | updateMySQLFail now g => simp [filing] at hf
  | _ => simp [isFiler] at hs

theorem hostLog_filer (hi : Isolated hosts d₀ d) (hsep : Separate d₀.conf hosts) (hh : h ∈ hosts)
    (hg : g ∈ hosts) {s : Section} (hs : isFiler s = true) (hpoll : pollHost s = some g) :
    (d.exec s).hostLog h = if g = h then hostStep d₀ h (d.hostLog h) s else d.hostLog h := by
  cases hf : d.filing s with
  | none =>
    rw [exec_filer_idle hs hf, hostStep_filer hs, ← filing_congr hi.settings, hf]
    split <;> rfl
  | some p =>
    obtain ⟨a, f⟩ := p
    have ha : a = g := Option.some.inj ((filing_pollHost hf).symm.trans hpoll)
    subst ha
    rw [exec_filing hf, hostStep_filer hs, ← filing_congr hi.settings, hf]
    split
    next heq =>
      subst heq
      exact hostLog_file hi hsep hh f
    next hne => exact hostLog_file_other hi hsep hg hh hne f

theorem hostLog_poll (hi : Isolated hosts d₀ d) (hsep : Separate d₀.conf hosts) (hh : h ∈ hosts)
    (hg : g ∈ hosts) {s : Section} (hpoll : pollHost s = some g) :
    (d.exec s).hostLog h = if g = h then hostStep d₀ h (d.hostLog h) s else d.hostLog h := by
  cases s with
  | clearUpdates a =>
    obtain rfl := Option.some.inj hpoll
    split
    next heq => exact heq ▸ hostLog_clear (d.conf.sameHostname_self a)
    next hne => exact hostLog_clear_other (hi.other hsep hg hh hne)
  | discardMySQLDead a =>
    obtain rfl := Option.some.inj hpoll
    split
    next heq =>
      subst heq
      have hstep := hostLog_discard_own (d := d) (d.conf.sameHostname_self a)
      simp only [tracks_congr hi.settings] at hstep
      exact hstep
    next hne => exact hostLog_discard_other (hi.other hsep hg hh hne)
  | updateRow now a row => exact hostLog_filer hi hsep hh hg rfl hpoll
  | updateMySQLSlaveStatus now a status => exact hostLog_filer hi hsep hh hg rfl hpoll
  | updateMySQLFail now a => exact hostLog_filer hi hsep hh hg rfl hpoll
  | _ => simp [pollHost] at hpoll

theorem own_poll {s : Section} (hpoll : pollHost s = some g) :
    own h s = if g = h then some s else none := by
  have hown : own h s = if pollHost s = some h then some s else none := by
    cases s <;> first | rfl | simp [pollHost] at hpoll
  rw [hown, hpoll]
  simp only [Option.some.injEq]

theorem hostLog_step (hi : Isolated hosts d₀ d) (hsep : Separate d₀.conf hosts) (hh : h ∈ hosts)
    {s : Section} (hs : Within hosts s) :
    (∀ b, own h s = some b → (d.exec s).hostLog h = hostStep d₀ h (d.hostLog h) b) ∧
      (own h s = none → (d.exec s).hostLog h = d.hostLog h) := by
  cases hs with
  | refresh now order =>
    refine ⟨?_, fun hnone => by simp [own] at hnone⟩
    rintro _ ⟨⟩
    have hactive : ∀ r ∈ d.items, d.conf.isActive (d.entry r).eventHost = true := by
      intro r hr
      rw [hi.settings.1]
      exact hsep.active _ (hi.hosts r hr)
    have hstep := hostLog_refresh (h := h) hactive now order
    simp only [keptTimeout_congr hi.settings] at hstep
    exact hstep
  | sort order =>
    refine ⟨fun b hb => by simp [own, pollHost] at hb, fun _ => ?_⟩
    have hlog := (d.sortDescriptorsDidChange_sameLog order).1
    refine hostLog_perm ?_ ?_
    · change (d.sortDescriptorsDidChange order).dataList.items.Perm _
      rw [hlog]
      exact ObjectArray.reorder_perm _ _
    · change (d.sortDescriptorsDidChange order).dataList.heap = _
      rw [hlog]
      exact ObjectArray.reorder_heap _ _
  | poll hpoll hg =>
    rw [own_poll hpoll, hostLog_poll hi hsep hh hg hpoll]
    split
    next => exact ⟨fun b hb => by rw [Option.some.inj hb], fun hnone => by simp at hnone⟩
    next => exact ⟨fun b hb => by simp at hb, fun _ => rfl⟩

theorem hostLog_run (hsep : Separate d₀.conf hosts) (hh : h ∈ hosts)
    (hi : Isolated hosts d₀ d) {sections : List Section} (hs : ∀ s ∈ sections, Within hosts s) :
    (d.runSections sections).hostLog h =
      (sections.filterMap (own h)).foldl (hostStep d₀ h) (d.hostLog h) :=
  Transition.foldl_project (I := Isolated hosts d₀) hi (fun _ he s hm => he.exec (hs s hm))
    (fun _ he s hm b hb => (hostLog_step he hsep hh (hs s hm)).1 b hb)
    (fun _ he s hm hn => (hostLog_step he hsep hh (hs s hm)).2 hn)

end Step

theorem hosts_do_not_interfere {hosts : Set HostRef} {d : Document} (hkeys : d.WellKept)
    (hentries : ∀ r ∈ d.items, (d.entry r).eventHost ∈ hosts) (hsep : Separate d.conf hosts)
    {h : HostRef} (hh : h ∈ hosts) {sections alone : List Section}
    (hsections : ∀ s ∈ sections, Within hosts s) (halone : ∀ s ∈ alone, Within {h} s)
    (hsame : sections.filterMap (own h) = alone.filterMap (own h)) :
    (d.runSections sections).hostLog h = (d.runSections alone).hostLog h := by
  have hi : Isolated hosts d d := ⟨SameSettings.refl d, hkeys, hentries⟩
  have halone' : ∀ s ∈ alone, Within hosts s := by
    intro s hs
    cases halone s hs with
    | poll hpoll hmem => exact .poll hpoll (Set.mem_singleton_iff.mp hmem ▸ hh)
    | refresh now order => exact .refresh now order
    | sort order => exact .sort order
  rw [hostLog_run hsep hh hi hsections, hostLog_run hsep hh hi halone', hsame]

theorem hosts_do_not_interfere_two :
    let c := Configuration.onePool { active := some 1 } [3, 4] (by decide) (fun _ => 1) (fun _ => 0)
    let row : QueryRow := { id := 8, host := "web", info := some [97], time := 9 }
    let d := initial c 30 1
    (d.runSections [.clearUpdates 3, .clearUpdates 4, .updateRow 5 4 row, .updateRow 6 3 row,
        .refresh 7 [1, 0], .discardMySQLDead 4, .discardMySQLDead 3]).hostLog 3 =
      (d.runSections [.clearUpdates 3, .updateRow 6 3 row, .refresh 7 [],
        .discardMySQLDead 3]).hostLog 3 := by
  intro c row d
  have hsep : Separate d.conf {3, 4} := by
    refine ⟨?_, fun a _ b _ hab => ?_⟩
    · rintro a (rfl | rfl) <;> decide
    · exact Configuration.onePool_ownsHostname _ _ (by decide) _ _ b a hab
  have hmem : (3 : HostRef) ∈ ({3, 4} : Set HostRef) := Or.inl rfl
  have hmem' : (4 : HostRef) ∈ ({3, 4} : Set HostRef) := Or.inr rfl
  have hentries : ∀ r ∈ d.items, (d.entry r).eventHost ∈ ({3, 4} : Set HostRef) :=
    fun _ hr => absurd hr List.not_mem_nil
  refine hosts_do_not_interfere (initial_wellKept c 30 1) hentries hsep hmem ?_ ?_ rfl
  · simp only [List.forall_mem_cons]
    exact ⟨.poll rfl hmem, .poll rfl hmem', .poll rfl hmem', .poll rfl hmem, .refresh _ _,
      .poll rfl hmem', .poll rfl hmem, by simp⟩
  · simp only [List.forall_mem_cons]
    exact ⟨.poll rfl rfl, .poll rfl rfl, .refresh _ _, .poll rfl rfl, by simp⟩

end Document

end DBMonitor
