import DBMonitor.Model.DetailList

namespace DBMonitor

theorem Configuration.active_mem_hosts {c : Configuration} {h : HostRef} (ha : c.isActive h = true) :
    h ∈ c.hosts := by
  rw [mem_hosts]
  cases hp : (c.host h).pool with
  | some p => rfl
  | none => simp [isActive, poolOf, hp, integerValue] at ha

namespace DetailList

inductive Reachable (c : Configuration) : DetailList → Prop
  | reload (detailList) : Reachable c (reloadDataWatchers c detailList)
  | sort (order) {detailList} : Reachable c detailList → Reachable c (detailList.reorder order)
  | queries (aHost results) {detailList} : Reachable c detailList →
      Reachable c (updateMySQLQueries c aHost results detailList)
  | slaveStatus (aHost status) {detailList} : Reachable c detailList →
      Reachable c (updateMySQLSlaveStatus c aHost status detailList)
  | statistics (aHost now status) {detailList} : Reachable c detailList →
      Reachable c (updateMySQLStatistics c aHost now status detailList)

def hostsOf (detailList : DetailList) : List HostRef :=
  detailList.items.map (fun r => (detailList.heap r).host)

def Built (c : Configuration) (detailList : DetailList) : Prop :=
  (detailList.hostsOf).Perm (c.hosts.filter c.isActive)

def ChangesOnly (aHost : HostRef) (f : DBMDetailEntry → DBMDetailEntry)
    (detailList detailList' : DetailList) : Prop :=
  detailList'.items = detailList.items ∧ ∀ r ∈ detailList.items,
    detailList'.heap r =
      if (detailList.heap r).host = aHost then f (detailList.heap r) else detailList.heap r

structure OwnRow (c : Configuration) (aHost : HostRef) (detailList : DetailList) : Prop where
  queries : ∀ results, ChangesOnly aHost
    (fun e => results.elim e (fun rows => setActiveQueries rows.length e)) detailList
    (updateMySQLQueries c aHost results detailList)
  slaveStatus : ∀ slaveStatus, ChangesOnly aHost
    (fun e => slaveStatus.elim e (fun status => { e with slaveStatus := some status })) detailList
    (updateMySQLSlaveStatus c aHost slaveStatus detailList)
  statistics : ∀ now serverStatus, ChangesOnly aHost
    (fun e => if e.isDue then serverStatus.elim e (fun status => e.recordStatus now status)
      else e.countDown) detailList
    (updateMySQLStatistics c aHost now serverStatus detailList)

def SoleHostname (c : Configuration) (aHost : HostRef) : Prop :=
  (c.host aHost).hostname.isSome = true ∧ ∀ other, c.isActive other = true → other ≠ aHost →
    c.equalHostname other aHost = false ∧ c.sameHostname other aHost = false

section Reload
variable {c : Configuration} {detailList : DetailList}

theorem hostsOf_congr {detailList' : DetailList} (hi : detailList'.items = detailList.items)
    (hh : ∀ r ∈ detailList.items, (detailList'.heap r).host = (detailList.heap r).host) :
    detailList'.hostsOf = detailList.hostsOf := by
  rw [hostsOf, hostsOf, hi]
  exact List.map_congr_left hh

theorem Built.congr {detailList' : DetailList} (hb : Built c detailList)
    (h : detailList'.hostsOf = detailList.hostsOf) : Built c detailList' := by
  rw [Built, h]
  exact hb

theorem hostsOf_addObject (e : DBMDetailEntry) :
    hostsOf (detailList.addObject e) = detailList.hostsOf ++ [e.host] := by
  rw [hostsOf, hostsOf]
  simp only [ObjectArray.addObject, List.map_append, List.map_cons, List.map_nil,
    Function.update_self]
  congr 1
  refine List.map_congr_left (fun r hr => ?_)
  have hne : r ≠ detailList.next := Nat.ne_of_lt (detailList.allocated r hr)
  rw [Function.update_of_ne hne]

theorem hostsOf_addAll (hosts : List HostRef) :
    hostsOf (hosts.foldl (fun detailList aHost => detailList.addObject { host := aHost })
      detailList) = detailList.hostsOf ++ hosts := by
  induction hosts generalizing detailList with
  | nil => simp
  | cons h hosts ih => rw [List.foldl_cons, ih, hostsOf_addObject, List.append_assoc]; rfl

theorem reload_built (c : Configuration) (detailList : DetailList) :
    Built c (reloadDataWatchers c detailList) := by
  rw [Built, reloadDataWatchers, hostsOf_addAll]
  exact List.Perm.of_eq rfl

theorem write_host (target : Option Nat) {f : DBMDetailEntry → DBMDetailEntry}
    (hf : ∀ e, (f e).host = e.host) :
    hostsOf (detailList.write target f) = detailList.hostsOf := by
  cases target with
  | none => rfl
  | some t =>
    refine hostsOf_congr rfl (fun r _ => ?_)
    simp only [write, Option.elim_some, ObjectArray.modify_heap]
    split
    next h => rw [hf, h]
    next => rfl

theorem mapObjects_hostsOf {f : DBMDetailEntry → DBMDetailEntry} (hf : ∀ e, (f e).host = e.host) :
    hostsOf (detailList.mapObjects f) = detailList.hostsOf :=
  hostsOf_congr (ObjectArray.mapObjects_items detailList f)
    (fun r _ => ObjectArray.mapObjects_keeps hf detailList r)

theorem updateMySQLQueries_heap (aHost : HostRef) (rows : List QueryRow) {r : Nat}
    (hr : r ∈ detailList.items) :
    (updateMySQLQueries c aHost (some rows) detailList).heap r =
      if c.equalHostname (detailList.heap r).host aHost then
        setActiveQueries rows.length (detailList.heap r) else detailList.heap r := by
  have hstable : ∀ e : DBMDetailEntry,
      (fun e => if c.equalHostname e.host aHost then setActiveQueries rows.length e else e)
        ((fun e => if c.equalHostname e.host aHost then setActiveQueries rows.length e else e) e) =
      (fun e => if c.equalHostname e.host aHost then setActiveQueries rows.length e else e) e := by
    intro e
    cases h : c.equalHostname e.host aHost <;> simp [setActiveQueries, h]
  exact (ObjectArray.mapObjects_heap hstable detailList r).trans (if_pos hr)

theorem updateMySQLSlaveStatus_heap (aHost : HostRef) (status : MysqlSlaveStatus) {r : Nat}
    (hr : r ∈ detailList.items) :
    (updateMySQLSlaveStatus c aHost (some status) detailList).heap r =
      if c.sameHostname (detailList.heap r).host aHost then
        { detailList.heap r with slaveStatus := some status } else detailList.heap r := by
  have hstable : ∀ e : DBMDetailEntry,
      (fun e : DBMDetailEntry =>
        if c.sameHostname e.host aHost then { e with slaveStatus := some status } else e)
        ((fun e : DBMDetailEntry =>
          if c.sameHostname e.host aHost then { e with slaveStatus := some status } else e) e) =
      (fun e : DBMDetailEntry =>
        if c.sameHostname e.host aHost then { e with slaveStatus := some status } else e) e := by
    intro e
    cases h : c.sameHostname e.host aHost <;> simp [h]
  exact (ObjectArray.mapObjects_heap hstable detailList r).trans (if_pos hr)

theorem updateMySQLStatistics_some (aHost : HostRef) (now : Time)
    (serverStatus : Option MysqlStatus) {t : Nat} (h : detailList.myEntry c aHost = some t) :
    updateMySQLStatistics c aHost now serverStatus detailList =
      if (detailList.heap t).isDue then serverStatus.elim detailList
        (fun status => detailList.write (some t) (DBMDetailEntry.recordStatus now status))
      else detailList.write (some t) DBMDetailEntry.countDown := by
  unfold updateMySQLStatistics
  rw [h]
  cases serverStatus <;> rfl

theorem Built.reorder (hb : Built c detailList) (order : List Nat) :
    Built c (detailList.reorder order) := by
  have hp := (ObjectArray.reorder_perm detailList order).map (fun r => (detailList.heap r).host)
  rw [Built, hostsOf, ObjectArray.reorder_heap]
  exact hp.trans hb

theorem Built.updateMySQLQueries (hb : Built c detailList) (aHost : HostRef)
    (results : Option (List QueryRow)) :
    Built c (detailList.updateMySQLQueries c aHost results) := by
  cases results with
  | none => exact hb
  | some rows =>
    refine hb.congr (mapObjects_hostsOf (fun e => ?_))
    split <;> rfl

theorem Built.updateMySQLSlaveStatus (hb : Built c detailList) (aHost : HostRef)
    (slaveStatus : Option MysqlSlaveStatus) :
    Built c (detailList.updateMySQLSlaveStatus c aHost slaveStatus) := by
  cases slaveStatus with
  | none => exact hb
  | some status =>
    refine hb.congr (mapObjects_hostsOf (fun e => ?_))
    split <;> rfl

theorem Built.updateMySQLStatistics (hb : Built c detailList) (aHost : HostRef) (now : Time)
    (serverStatus : Option MysqlStatus) :
    Built c (detailList.updateMySQLStatistics c aHost now serverStatus) := by
  refine hb.congr ?_
  unfold DetailList.updateMySQLStatistics
  split
  · cases serverStatus with
    | none => rfl
    | some status => exact write_host _ (fun _ => rfl)
  · exact write_host _ (fun _ => rfl)

theorem Reachable.built (h : Reachable c detailList) : Built c detailList := by
  induction h with
  | reload detailList => exact reload_built c detailList
  | sort order _ ih => exact ih.reorder order
  | queries aHost results _ ih => exact ih.updateMySQLQueries aHost results
  | slaveStatus aHost status _ ih => exact ih.updateMySQLSlaveStatus aHost status
  | statistics aHost now status _ ih => exact ih.updateMySQLStatistics aHost now status

end Reload

section Own
variable {c : Configuration} {detailList : DetailList} {aHost : HostRef}

theorem Built.row (hb : Built c detailList) {h : HostRef} (ha : c.isActive h = true) :
    ∃ r ∈ detailList.items, (detailList.heap r).host = h := by
  have hm : h ∈ c.hosts.filter c.isActive :=
    List.mem_filter.mpr ⟨Configuration.active_mem_hosts ha, ha⟩
  simpa [hostsOf] using (List.Perm.mem_iff hb).mpr hm

theorem Built.active (hb : Built c detailList) {r : Nat} (hr : r ∈ detailList.items) :
    c.isActive (detailList.heap r).host = true := by
  have hm : (detailList.heap r).host ∈ detailList.hostsOf := List.mem_map_of_mem hr
  exact (List.mem_filter.mp ((List.Perm.mem_iff hb).mp hm)).2

theorem Built.unique (hb : Built c detailList) {r t : Nat} (hr : r ∈ detailList.items)
    (ht : t ∈ detailList.items) (hh : (detailList.heap r).host = (detailList.heap t).host) :
    r = t := by
  have hn : detailList.hostsOf.Nodup :=
    hb.nodup_iff.mpr (c.hosts_nodup.sublist List.filter_sublist)
  exact List.inj_on_of_nodup_map hn hr ht hh

theorem equalHostname_self (h : (c.host aHost).hostname.isSome = true) :
    c.equalHostname aHost aHost = true := by
  obtain ⟨name, hname⟩ := Option.isSome_iff_exists.mp h
  simp [Configuration.equalHostname, hname]

theorem SoleHostname.row_iff (hs : SoleHostname c aHost) (hb : Built c detailList) {r : Nat}
    (hr : r ∈ detailList.items) :
    (c.equalHostname (detailList.heap r).host aHost = true ↔ (detailList.heap r).host = aHost) ∧
      (c.sameHostname (detailList.heap r).host aHost = true ↔
        (detailList.heap r).host = aHost) := by
  by_cases h : (detailList.heap r).host = aHost
  · rw [h]
    exact ⟨iff_of_true (equalHostname_self hs.1) rfl,
      iff_of_true (c.sameHostname_self aHost) rfl⟩
  · obtain ⟨he, hp⟩ := hs.2 _ (hb.active hr) h
    exact ⟨iff_of_false (by simp [he]) h, iff_of_false (by simp [hp]) h⟩

theorem SoleHostname.myEntry (hs : SoleHostname c aHost) (hb : Built c detailList) {r : Nat}
    (hr : r ∈ detailList.items) (hh : (detailList.heap r).host = aHost) :
    detailList.myEntry c aHost = some r := by
  refine ObjectArray.lastMatch_unique hr ((hs.row_iff hb hr).1.mpr hh) (fun t ht hmatch => ?_)
  exact hb.unique ht hr (((hs.row_iff hb ht).1.mp hmatch).trans hh.symm)

theorem write_changesOnly (hb : Built c detailList) {t : Nat} (ht : t ∈ detailList.items)
    (hh : (detailList.heap t).host = aHost) (f : DBMDetailEntry → DBMDetailEntry) :
    ChangesOnly aHost f detailList (detailList.write (some t) f) := by
  refine ⟨rfl, fun r hr => ?_⟩
  simp only [write, Option.elim_some, ObjectArray.modify_heap]
  by_cases h : r = t
  · rw [if_pos h, h, if_pos hh]
  · have hother : (detailList.heap r).host ≠ aHost := fun heq =>
      h (hb.unique hr ht (heq.trans hh.symm))
    rw [if_neg h, if_neg hother]

theorem ChangesOnly.congr {f g : DBMDetailEntry → DBMDetailEntry} {detailList' : DetailList}
    (h : ChangesOnly aHost f detailList detailList')
    (hfg : ∀ r ∈ detailList.items, (detailList.heap r).host = aHost →
      f (detailList.heap r) = g (detailList.heap r)) :
    ChangesOnly aHost g detailList detailList' := by
  refine ⟨h.1, fun r hr => (h.2 r hr).trans ?_⟩
  split
  next hh => exact hfg r hr hh
  next => rfl

theorem ChangesOnly.refl (aHost : HostRef) (detailList : DetailList) :
    ChangesOnly aHost id detailList detailList := by
  refine ⟨rfl, fun r _ => ?_⟩
  split <;> rfl

theorem SoleHostname.ownStatistics (hs : SoleHostname c aHost) (hb : Built c detailList)
    (ha : c.isActive aHost = true) (now : Time) (serverStatus : Option MysqlStatus) :
    ChangesOnly aHost (fun e => if e.isDue then
        serverStatus.elim e (fun status => e.recordStatus now status) else e.countDown) detailList
      (updateMySQLStatistics c aHost now serverStatus detailList) := by
  obtain ⟨t, ht, hh⟩ := hb.row ha
  have honly : ∀ r ∈ detailList.items, (detailList.heap r).host = aHost → r = t :=
    fun r hr heq => hb.unique hr ht (heq.trans hh.symm)
  rw [updateMySQLStatistics_some aHost now serverStatus (hs.myEntry hb ht hh)]
  cases hdue : (detailList.heap t).isDue with
  | false =>
    refine (write_changesOnly hb ht hh _).congr (fun r hr heq => ?_)
    rw [honly r hr heq, hdue]
    rfl
  | true =>
    cases serverStatus with
    | none =>
      refine (ChangesOnly.refl aHost detailList).congr (fun r hr heq => ?_)
      rw [honly r hr heq, hdue]
      rfl
    | some status =>
      refine (write_changesOnly hb ht hh _).congr (fun r hr heq => ?_)
      rw [honly r hr heq, hdue]
      rfl

theorem SoleHostname.ownRow (hs : SoleHostname c aHost) (hb : Built c detailList)
    (ha : c.isActive aHost = true) : OwnRow c aHost detailList := by
  refine ⟨fun results => ?_, fun slaveStatus => ?_, hs.ownStatistics hb ha⟩
  · cases results with
    | none => exact (ChangesOnly.refl aHost detailList).congr (fun _ _ _ => rfl)
    | some rows =>
      refine ⟨ObjectArray.mapObjects_items _ _, fun r hr => ?_⟩
      rw [updateMySQLQueries_heap aHost rows hr]
      simp only [(hs.row_iff hb hr).1, Option.elim_some]
  · cases slaveStatus with
    | none => exact (ChangesOnly.refl aHost detailList).congr (fun _ _ _ => rfl)
    | some status =>
      refine ⟨ObjectArray.mapObjects_items _ _, fun r hr => ?_⟩
      rw [updateMySQLSlaveStatus_heap aHost status hr]
      simp only [(hs.row_iff hb hr).2, Option.elim_some]

theorem setActiveQueries_moves (e : DBMDetailEntry) :
    ∃ rows : List QueryRow, setActiveQueries rows.length e ≠ e := by
  by_contra hall
  rw [not_exists] at hall
  have hnone := not_not.mp (hall [])
  have hone := not_not.mp (hall [⟨0, "", none, 0⟩])
  have heq := congrArg DBMDetailEntry.activeQueries (hnone.trans hone.symm)
  revert heq
  simp only [setActiveQueries]
  decide

theorem OwnRow.soleHostname (h : OwnRow c aHost detailList) (hb : Built c detailList)
    (ha : c.isActive aHost = true) : SoleHostname c aHost := by
  refine ⟨?_, fun other ho hne => ⟨?_, ?_⟩⟩
  · by_contra hnil
    obtain ⟨t, ht, hh⟩ := hb.row ha
    obtain ⟨rows, hrows⟩ := setActiveQueries_moves (detailList.heap t)
    have hafter := (h.queries (some rows)).2 t ht
    have hunnamed : c.equalHostname (detailList.heap t).host aHost = false := by
      rw [Option.not_isSome_iff_eq_none] at hnil
      unfold Configuration.equalHostname
      rw [hnil]
      cases (c.host (detailList.heap t).host).hostname <;> rfl
    rw [updateMySQLQueries_heap aHost rows ht, hunnamed, if_pos hh] at hafter
    exact hrows hafter.symm
  · by_contra he
    obtain ⟨t, ht, hh⟩ := hb.row ho
    obtain ⟨rows, hrows⟩ := setActiveQueries_moves (detailList.heap t)
    have hafter := (h.queries (some rows)).2 t ht
    rw [updateMySQLQueries_heap aHost rows ht, hh, if_pos (by simpa using he), if_neg hne] at hafter
    exact hrows hafter
  · by_contra hp
    obtain ⟨t, ht, hh⟩ := hb.row ho
    have hkept : ∀ status, some status = (detailList.heap t).slaveStatus := by
      intro status
      have hafter := (h.slaveStatus (some status)).2 t ht
      rw [updateMySQLSlaveStatus_heap aHost status ht, hh, if_pos (by simpa using hp),
        if_neg hne] at hafter
      exact congrArg DBMDetailEntry.slaveStatus hafter
    have hclash := (hkept { secondsBehindMaster := 0 }).trans
      (hkept { secondsBehindMaster := 1 }).symm
    simp at hclash

end Own

theorem ownRow_iff {c : Configuration} {aHost : HostRef} {detailList : DetailList}
    (hb : Built c detailList) (ha : c.isActive aHost = true) :
    OwnRow c aHost detailList ↔ SoleHostname c aHost :=
  ⟨fun h => h.soleHostname hb ha, fun hs => hs.ownRow hb ha⟩

theorem ownRow_iff_named :
    let c := Configuration.onePool { active := some 1 } [3, 4] (by decide) (fun _ => 1) (fun _ => 1)
    let detailList := reloadDataWatchers c empty
    detailList.hostsOf = [3, 4] ∧ OwnRow c 3 detailList := by
  intro c detailList
  have hb : Built c detailList := (Reachable.reload empty).built
  have hs : SoleHostname c 3 := by
    refine ⟨rfl, fun other ho hne => ?_⟩
    have hm := Configuration.active_mem_hosts ho
    have hother : other = 3 ∨ other = 4 := by
      have hhosts : c.hosts = [3, 4] := by decide +kernel
      simpa [hhosts] using hm
    rcases hother with rfl | rfl
    · exact absurd rfl hne
    · decide +kernel
  exact ⟨by decide +kernel, (ownRow_iff hb (by decide +kernel)).mpr hs⟩

theorem ports_share_rows :
    let c := (Configuration.onePool { active := some 1 } [3, 4] (by decide) (fun _ => 1)
      (fun _ => 0)).withHostnames (fun h => some ⟨h, "localhost"⟩)
    let detailList := reloadDataWatchers c empty
    Built c detailList ∧ detailList.hostsOf = [3, 4] ∧
      ((updateMySQLQueries c 3 (some [⟨8, "web", none, 0⟩, ⟨9, "web", none, 0⟩]) detailList).heap
        1).activeQueries = 1 ∧
      detailList.myEntry c 3 = some 1 ∧ ¬OwnRow c 3 detailList := by
  intro c detailList
  have hb : Built c detailList := (Reachable.reload empty).built
  have hactive : ∀ h, h = 3 ∨ h = 4 → c.isActive h = true := by
    rintro h (rfl | rfl) <;> decide +kernel
  refine ⟨hb, by decide +kernel, by decide +kernel, by decide +kernel, fun h => ?_⟩
  have hs := h.soleHostname hb (hactive 3 (Or.inl rfl))
  have hequal := (hs.2 4 (hactive 4 (Or.inr rfl)) (by decide)).1
  revert hequal
  decide +kernel

end DetailList

end DBMonitor
