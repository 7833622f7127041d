import DBMonitor.Detail.Rows
import DBMonitor.Model.StatusTable
import DBMonitor.World.Moves

namespace DBMonitor

-- The document's window: the World with its status table, its panels and their waiting blocks.
-- resets holds while reloadDataWatchers is between its refresh and its detailList.
structure Desk where
  world : World
  table : StatusTable := {}
  panel : SlavePanel := {}
  blocks : List PanelBlock := []
  resets : Bool := false

-- A world step carries the order that a refresh of the status table sorts by.
inductive DeskAct where
  | world (a : Act) (order : List Nat)
  | resetDetailList
  | selectHost (row : Int)
  | sortHosts (order : List Nat)
  | detectChangedView (view : MainDisplay)
  | panelBlock
  | updateMySQLQueries (aHost : HostRef) (results : Option (List QueryRow))
  | updateMySQLSlaveStatus (aHost : HostRef) (slaveStatus : Option MysqlSlaveStatus)
  | updateMySQLStatistics (aHost : HostRef) (now : Time) (serverStatus : Option MysqlStatus)

namespace World

def seeding (w : World) : Bool :=
  match w.main with
  | .reloading (.seedRefresh :: _) => true
  | _ => false

def seedsRefresh (w : World) : Act → Bool
  | .mainThread => w.seeding
  | _ => false

def refreshesDetail (w : World) : Act → Bool
  | .operation i _ => w.ops[i]?.any (fun op => decide (op.body = .refresh .detail))
  | _ => false

end World

namespace Desk

-- windowControllerDidLoadNib begins with reloadDataWatchers.
def opened (conf : Configuration) (sliderValue trackQuery : Int) : Desk where
  world := (World.initial conf sliderValue trackQuery).beginReload

-- Rows selected from code notify the delegate, which looks at the log's table.
def retable (t : StatusTable) (k : Desk) : Desk :=
  { k with
    table := t
    world := if t.selectedRow = k.table.selectedRow then k.world
      else { k.world with doc := k.world.doc.tableViewSelectionDidChange } }

def logBlock (k : Desk) (a : Act) : Option PanelBlock :=
  match k.world.locked a with
  | some (.refresh now _) =>
    if k.panel.mainDisplay = .logDisplay then
      PanelBlock.ofLog (k.world.doc.alignSelection.1.purge now) k.world.doc.alignSelection.2
    else none
  | _ => none

def refreshDetail (order : List Nat) (k : Desk) : Desk :=
  if k.panel.mainDisplay = .detailDisplay then
    { k with blocks := k.blocks ++ (PanelBlock.ofStatus k.world.doc.conf k.table).toList }.retable
      (k.table.resort order)
  else k

def worldStep (a : Act) (order : List Nat) (k : Desk) : Option Desk :=
  (k.world.step a).map (fun w =>
    let moved := { k with
      world := w
      blocks := k.blocks ++ (k.logBlock a).toList
      resets := k.resets || k.world.seedsRefresh a }
    if k.world.refreshesDetail a then moved.refreshDetail order else moved)

def runPanelBlock (k : Desk) : Option Desk :=
  match k.blocks with
  | [] => none
  | b :: rest => some { k with
      blocks := rest
      panel := b.run k.world.doc k.table.detailList k.panel }

def withDetailList (detailList : DetailList) (k : Desk) : Desk :=
  { k with table := { k.table with detailList := detailList } }

def onIdle (k : Desk) (next : Option Desk) : Option Desk := if k.world.main = .idle then next else none

def step (k : Desk) : DeskAct → Option Desk
  | .world .mainThread order => if k.resets then none else k.worldStep .mainThread order
  | .world a order => k.worldStep a order
  | .resetDetailList =>
    if k.resets then some ({ k with resets := false }.withDetailList
      (k.table.detailList.reloadDataWatchers k.world.doc.conf)) else none
  | .selectHost row => k.onIdle (some (k.retable { k.table with selectedRow := row }))
  | .sortHosts order => k.onIdle (some (k.retable (k.table.resort order)))
  | .detectChangedView view =>
    k.onIdle (some { k with panel := { k.panel with mainDisplay := view } })
  | .panelBlock => k.onIdle k.runPanelBlock
  | .updateMySQLQueries aHost results => some (k.withDetailList
      (k.table.detailList.updateMySQLQueries k.world.doc.conf aHost results))
  | .updateMySQLSlaveStatus aHost slaveStatus => some (k.withDetailList
      (k.table.detailList.updateMySQLSlaveStatus k.world.doc.conf aHost slaveStatus))
  | .updateMySQLStatistics aHost now serverStatus => some (k.withDetailList
      (k.table.detailList.updateMySQLStatistics k.world.doc.conf aHost now serverStatus))

section Frames
variable {k k' : Desk} {a : Act} {order : List Nat}

theorem worldStep_some (h : k.worldStep a order = some k') :
    ∃ w, k.world.step a = some w ∧ k'.panel = k.panel ∧
      k'.resets = (k.resets || k.world.seedsRefresh a) ∧
      (k'.table = k.table ∨ k'.table = k.table.resort order) ∧
      k'.world.doc.conf = w.doc.conf ∧ k'.world.main = w.main ∧
      k'.world.sheetOpen = w.sheetOpen := by
  obtain ⟨w, hw, rfl⟩ := Option.map_eq_some_iff.mp h
  refine ⟨w, hw, ?_⟩
  simp only [refreshDetail]
  split
  · split
    · refine ⟨rfl, rfl, Or.inr rfl, ?_⟩
      simp only [retable]
      split <;> exact ⟨rfl, rfl, rfl⟩
    · exact ⟨rfl, rfl, Or.inl rfl, rfl, rfl, rfl⟩
  · exact ⟨rfl, rfl, Or.inl rfl, rfl, rfl, rfl⟩

theorem step_world (h : k.step (.world a order) = some k') : k.worldStep a order = some k' := by
  cases a with
  | mainThread => exact (Option.ite_none_left_eq_some.mp h).2
  | _ => exact h

theorem onIdle_some {next : Option Desk} (h : k.onIdle next = some k') : next = some k' :=
  (Option.ite_none_right_eq_some.mp h).2

theorem retable_frame (t : StatusTable) : (k.retable t).table = t ∧ (k.retable t).panel = k.panel ∧
    (k.retable t).resets = k.resets ∧ (k.retable t).world.doc.conf = k.world.doc.conf ∧
    (k.retable t).world.main = k.world.main ∧
    (k.retable t).world.sheetOpen = k.world.sheetOpen := by
  unfold retable
  split <;> exact ⟨rfl, rfl, rfl, rfl, rfl, rfl⟩

theorem runPanelBlock_some (h : k.runPanelBlock = some k') : ∃ b : PanelBlock, k'.table = k.table ∧
    k'.panel = b.run k.world.doc k.table.detailList k.panel ∧ k'.world = k.world ∧
    k'.resets = k.resets := by
  unfold runPanelBlock at h
  split at h
  · cases h
  next b rest _ =>
    obtain rfl := Option.some.inj h
    exact ⟨b, rfl, rfl, rfl, rfl⟩

end Frames

end Desk

namespace StatusTable
variable {t : StatusTable}

theorem selectEntry_detailList (r : Nat) : (t.selectEntry r).detailList = t.detailList := by
  refine List.foldlRecOn t.detailList.items.zipIdx _
    (motive := fun u : StatusTable => u.detailList = t.detailList) rfl ?_
  intro u hu p _
  split
  · exact hu
  · exact hu

theorem resort_detailList (order : List Nat) :
    (t.resort order).detailList = t.detailList.reorder order := by
  unfold resort reselect
  split
  · rfl
  · split
    · exact selectEntry_detailList _
    · rfl

theorem selectEntry_selected {r : Nat} (hn : t.detailList.items.Nodup)
    (hr : r ∈ t.detailList.items) : (t.selectEntry r).selectedEntry = some r := by
  have hrow : t.selectEntry r = { t with selectedRow := (t.detailList.items.idxOf r : Int) } :=
    Cursor.foldl_zipIdx_eq (f := fun i (t : StatusTable) => { t with selectedRow := (i : Int) })
      hn hr t
  rw [hrow]
  simp [selectedEntry, objectAtRow, List.getElem?_idxOf hr]

theorem resort_selectedEntry (hn : t.detailList.items.Nodup) (order : List Nat) :
    (t.resort order).selectedEntry = t.selectedEntry := by
  have hp := ObjectArray.reorder_perm t.detailList order
  unfold resort
  cases h : t.selectedEntry with
  | some r =>
    have hr : r ∈ (t.detailList.reorder order).items := by
      refine hp.mem_iff.mpr ?_
      simp only [selectedEntry, objectAtRow] at h
      exact List.mem_of_getElem? (Option.ite_none_right_eq_some.mp h).2
    simp only [reselect, hr, if_true]
    exact selectEntry_selected (hp.nodup_iff.mpr hn) hr
  | none =>
    simp only [reselect]
    simp only [selectedEntry, objectAtRow] at h ⊢
    split
    next hrow =>
      rw [if_pos hrow, List.getElem?_eq_none_iff] at h
      rw [List.getElem?_eq_none_iff, hp.length_eq]
      exact h
    next => rfl

end StatusTable

namespace Desk

section Rows
variable {k k' : Desk} {a : DeskAct}

def settled (k : Desk) : Bool := !k.world.sheetOpen && !k.resets && !k.world.seeding

structure Kept (k : Desk) : Prop where
  nodup : k.table.detailList.items.Nodup
  built : k.settled = true → DetailList.Built k.world.doc.conf k.table.detailList

theorem seeding_congr {w w' : World} (h : w'.main = w.main) : w'.seeding = w.seeding := by
  rw [World.seeding, World.seeding, h]

theorem settled_step {w w' : World} {a : Act} (h : w.step a = some w')
    (hsheet : w'.sheetOpen = false) (hseeding : w'.seeding = false) (hseeds : w.seedsRefresh a = false) :
    w.sheetOpen = false ∧ w.seeding = false ∧ w'.doc.conf = w.doc.conf := by
  obtain ⟨v, hm, rfl⟩ := World.step_moves h
  have hv : v.sheetOpen = false := hsheet
  have hvs : v.seeding = false := hseeding
  have hedit : ∀ conf, a ≠ .edit conf := by
    rintro conf rfl
    rw [hm.edit_sheet] at hv
    cases hv
  have hidle : ∀ u : World, u.main = .idle → u.seeding = false := fun u hu => by
    rw [World.seeding, hu]
  refine ⟨?_, ?_, World.step_conf h hedit⟩ <;> generalize w.locked a = s at hm
  · cases hm with
    | block hmain hqueue => unfold World.runBlock at hv; split at hv <;> exact hv
    | reload hmain => exact (World.runReload_reloads _ _).sheetOpen ▸ hv
    | endConfigSheet hmain hsheet => cases hvs
    | reloadDataWatchers hmain hshut => exact hshut
    | opened hmain => cases hv
    | quiet hmain hq => cases hq <;> exact hv
    | _ => exact hv
  · cases hm with
    | operation x hops => exact hvs
    | @reload item todo hmain =>
      cases hs : w.seeding with
      | false => rfl
      | true => exact hs.symm.trans hseeds
    | opened hmain => cases hv
    | reloaded hmain => rw [World.seeding, hmain]
    | alert hmain => rw [World.seeding, hmain]
    | block hmain hqueue => exact hidle w hmain
    | openConfigSheet hmain => exact hidle w hmain
    | endConfigSheet hmain hsheet => exact hidle w hmain
    | reloadDataWatchers hmain hsheet => exact hidle w hmain
    | edit hmain hsheet => exact hidle w hmain
    | quiet hmain hq => exact hidle w hmain

theorem Kept.resort (hi : k.Kept) (order : List Nat) :
    (k.table.resort order).detailList.items.Nodup ∧
      (k.settled = true →
        DetailList.Built k.world.doc.conf (k.table.resort order).detailList) := by
  rw [StatusTable.resort_detailList]
  exact ⟨(ObjectArray.reorder_perm _ _).nodup_iff.mpr hi.nodup,
    fun hs => (hi.built hs).reorder order⟩

theorem settled_congr (hsheet : k'.world.sheetOpen = k.world.sheetOpen)
    (hresets : k'.resets = k.resets) (hmain : k'.world.main = k.world.main) :
    k'.settled = k.settled := by
  rw [settled, settled, hsheet, hresets, seeding_congr hmain]

theorem Kept.world {a : Act} {order : List Nat} (hi : k.Kept)
    (h : k.worldStep a order = some k') : k'.Kept := by
  obtain ⟨w, hw, _, hresets, htable, hconf, hmain, hsheet⟩ := worldStep_some h
  obtain ⟨hnodup, hbuilt⟩ := hi.resort order
  constructor
  · rcases htable with htable | htable
    · rw [htable]
      exact hi.nodup
    · rw [htable]
      exact hnodup
  · intro hs
    simp only [settled, Bool.and_eq_true, Bool.not_eq_true', hresets, Bool.or_eq_false_iff, hsheet,
      seeding_congr hmain] at hs
    obtain ⟨hopen, hseeding, hsame⟩ := settled_step hw hs.1.1 hs.2 hs.1.2.2
    have hold : k.settled = true := by simp [settled, hopen, hseeding, hs.1.2.1]
    rw [hconf, hsame]
    rcases htable with htable | htable
    · rw [htable]
      exact hi.built hold
    · rw [htable]
      exact hbuilt hold

theorem updateMySQLStatistics_items {detailList : DetailList} {c : Configuration} (aHost : HostRef)
    (now : Time) (serverStatus : Option MysqlStatus) :
    (detailList.updateMySQLStatistics c aHost now serverStatus).items = detailList.items := by
  have hwrite : ∀ (r : Option Nat) (f : DBMDetailEntry → DBMDetailEntry),
      (detailList.write r f).items = detailList.items := by
    intro r f
    cases r <;> rfl
  unfold DetailList.updateMySQLStatistics
  split
  · split
    · rfl
    · exact hwrite _ _
  · exact hwrite _ _

theorem Kept.updated {detailList : DetailList} (hi : k.Kept)
    (hitems : detailList.items = k.table.detailList.items)
    (hbuilt : DetailList.Built k.world.doc.conf k.table.detailList →
      DetailList.Built k.world.doc.conf detailList) : (k.withDetailList detailList).Kept := by
  refine ⟨?_, fun hs => hbuilt (hi.built hs)⟩
  simp only [withDetailList, hitems]
  exact hi.nodup

theorem Kept.step (hi : k.Kept) (h : k.step a = some k') : k'.Kept := by
  cases a with
  | world a order => exact hi.world (step_world h)
  | resetDetailList =>
    obtain ⟨_, heq⟩ := Option.ite_none_right_eq_some.mp h
    obtain rfl := Option.some.inj heq
    have hbuilt := DetailList.reload_built k.world.doc.conf k.table.detailList
    refine ⟨?_, fun _ => hbuilt⟩
    refine List.Nodup.of_map (fun r => ((DetailList.reloadDataWatchers k.world.doc.conf
      k.table.detailList).heap r).host) ?_
    exact hbuilt.nodup_iff.mpr (k.world.doc.conf.hosts_nodup.filter _)
  | selectHost row =>
    obtain rfl := Option.some.inj (onIdle_some h)
    obtain ⟨htable, _, hresets, hconf, hmain, hsheet⟩ :=
      k.retable_frame { k.table with selectedRow := row }
    refine ⟨by rw [htable]; exact hi.nodup, fun hs => ?_⟩
    rw [settled_congr hsheet hresets hmain] at hs
    rw [htable, hconf]
    exact hi.built hs
  | sortHosts order =>
    obtain rfl := Option.some.inj (onIdle_some h)
    obtain ⟨htable, _, hresets, hconf, hmain, hsheet⟩ := k.retable_frame (k.table.resort order)
    obtain ⟨hnodup, hbuilt⟩ := hi.resort order
    refine ⟨by rw [htable]; exact hnodup, fun hs => ?_⟩
    rw [settled_congr hsheet hresets hmain] at hs
    rw [htable, hconf]
    exact hbuilt hs
  | detectChangedView view =>
    obtain rfl := Option.some.inj (onIdle_some h)
    exact ⟨hi.nodup, hi.built⟩
  | panelBlock =>
    obtain ⟨b, htable, _, hworld, hresets⟩ := runPanelBlock_some (onIdle_some h)
    refine ⟨by rw [htable]; exact hi.nodup, fun hs => ?_⟩
    rw [settled, hworld, hresets] at hs
    rw [htable, hworld]
    exact hi.built hs
  | updateMySQLQueries aHost results =>
    obtain rfl := Option.some.inj h
    refine hi.updated ?_ (fun hb => hb.updateMySQLQueries aHost results)
    cases results with
    | none => rfl
    | some rows => exact ObjectArray.mapObjects_items _ _
  | updateMySQLSlaveStatus aHost slaveStatus =>
    obtain rfl := Option.some.inj h
    refine hi.updated ?_ (fun hb => hb.updateMySQLSlaveStatus aHost slaveStatus)
    cases slaveStatus with
    | none => rfl
    | some status => exact ObjectArray.mapObjects_items _ _
  | updateMySQLStatistics aHost now serverStatus =>
    obtain rfl := Option.some.inj h
    exact hi.updated (updateMySQLStatistics_items aHost now serverStatus)
      (fun hb => hb.updateMySQLStatistics aHost now serverStatus)

theorem opened_kept (conf : Configuration) (sliderValue trackQuery : Int) :
    (opened conf sliderValue trackQuery).Kept :=
  ⟨List.nodup_nil, fun hs => by cases hs⟩

theorem run_kept {ok : Desk → DeskAct → Bool} {conf : Configuration} {sliderValue trackQuery : Int}
    {acts : List DeskAct}
    (hrun : Transition.run step ok (opened conf sliderValue trackQuery) acts = some k) : k.Kept :=
  Transition.run_invariant (I := Kept) (fun _ _ _ hi _ hs => hi.step hs)
    (opened_kept conf sliderValue trackQuery) hrun

-- Outside the config sheet and a reload the status table has one row for each active host.
theorem status_rows {conf : Configuration} {sliderValue trackQuery : Int} {acts : List DeskAct}
    (hrun : Transition.run step Transition.anyStep (opened conf sliderValue trackQuery) acts = some k)
    (hsettled : k.settled = true) :
    k.table.detailList.hostsOf.Nodup ∧ ∀ aHost,
      aHost ∈ k.table.detailList.hostsOf ↔ k.world.doc.conf.isActive aHost = true := by
  have hbuilt := (run_kept hrun).built hsettled
  refine ⟨hbuilt.nodup_iff.mpr (k.world.doc.conf.hosts_nodup.filter _), fun aHost => ?_⟩
  rw [hbuilt.mem_iff, List.mem_filter]
  exact ⟨fun h => h.2, fun h => ⟨Configuration.active_mem_hosts h, h⟩⟩

theorem status_rows_reloaded :
    let c := Configuration.onePool { active := some 1 } [3, 4, 5] (by decide)
      (fun h => if h = 4 then 0 else 1) (fun _ => 0)
    let acts : List DeskAct := [.world .mainThread [], .resetDetailList,
      .updateMySQLQueries 5 (some [])]
    ∃ k, Transition.run step Transition.anyStep (opened c 30 1) acts = some k ∧
      k.table.detailList.hostsOf.Nodup ∧ ∀ aHost,
        aHost ∈ k.table.detailList.hostsOf ↔ k.world.doc.conf.isActive aHost = true := by
  intro c acts
  have hcheck : (Transition.run step Transition.anyStep (opened c 30 1) acts).any
      settled = true := by
    decide +kernel
  obtain ⟨k, hrun, hsettled⟩ := (Option.any_eq_true _ _).mp hcheck
  exact ⟨k, hrun, status_rows hrun hsettled⟩

end Rows

section Selection
variable {k k' : Desk} {a : DeskAct}

def keepsTable (_ : Desk) : DeskAct → Bool
  | .selectHost _ => false
  | .resetDetailList => false
  | _ => true

structure SameSelection (k k' : Desk) : Prop where
  selectedEntry : k'.table.selectedEntry = k.table.selectedEntry
  host : ∀ r, (k'.table.detailList.heap r).host = (k.table.detailList.heap r).host

theorem SameSelection.refl (k : Desk) : SameSelection k k := ⟨rfl, fun _ => rfl⟩

theorem SameSelection.trans {u : Desk} (h : SameSelection k u) (h' : SameSelection u k') :
    SameSelection k k' :=
  ⟨h'.selectedEntry.trans h.selectedEntry, fun r => (h'.host r).trans (h.host r)⟩

theorem sameSelection_table (h : k'.table = k.table) : SameSelection k k' := by
  constructor <;> rw [h]
  exact fun _ => rfl

theorem sameSelection_resort (hi : k.Kept) {order : List Nat}
    (h : k'.table = k.table.resort order) : SameSelection k k' := by
  constructor
  · rw [h, StatusTable.resort_selectedEntry hi.nodup]
  · intro r
    rw [h, StatusTable.resort_detailList, ObjectArray.reorder_heap]

theorem sameSelection_updated {detailList : DetailList}
    (hitems : detailList.items = k.table.detailList.items)
    (hhost : ∀ r, (detailList.heap r).host = (k.table.detailList.heap r).host) :
    SameSelection k (k.withDetailList detailList) := by
  refine ⟨?_, hhost⟩
  simp only [withDetailList, StatusTable.selectedEntry, StatusTable.objectAtRow, hitems]

theorem write_heap_host {detailList : DetailList} (target : Option Nat)
    {f : DBMDetailEntry → DBMDetailEntry} (hf : ∀ e, (f e).host = e.host) (r : Nat) :
    ((detailList.write target f).heap r).host = (detailList.heap r).host := by
  cases target with
  | none => rfl
  | some t =>
    simp only [DetailList.write, Option.elim_some, ObjectArray.modify_heap]
    split
    next h => rw [hf, h]
    next => rfl

theorem updateMySQLStatistics_host {detailList : DetailList} {c : Configuration} (aHost : HostRef)
    (now : Time) (serverStatus : Option MysqlStatus) (r : Nat) :
    ((detailList.updateMySQLStatistics c aHost now serverStatus).heap r).host =
      (detailList.heap r).host := by
  unfold DetailList.updateMySQLStatistics
  split
  · split
    · rfl
    next status => exact write_heap_host _ (f := DBMDetailEntry.recordStatus now status) (fun _ => rfl) r
  · exact write_heap_host _ (f := DBMDetailEntry.countDown) (fun _ => rfl) r

theorem sameSelection_step (hi : k.Kept) (hg : k.keepsTable a = true) (h : k.step a = some k') :
    SameSelection k k' := by
  cases a with
  | selectHost row => cases hg
  | resetDetailList => cases hg
  | world a order =>
    obtain ⟨w, _, _, _, htable | htable, _⟩ := worldStep_some (step_world h)
    · exact sameSelection_table htable
    · exact sameSelection_resort hi htable
  | sortHosts order =>
    obtain rfl := Option.some.inj (onIdle_some h)
    exact sameSelection_resort hi (k.retable_frame _).1
  | detectChangedView view =>
    obtain rfl := Option.some.inj (onIdle_some h)
    exact ⟨rfl, fun _ => rfl⟩
  | panelBlock =>
    obtain ⟨b, htable, _⟩ := runPanelBlock_some (onIdle_some h)
    exact sameSelection_table htable
  | updateMySQLQueries aHost results =>
    obtain rfl := Option.some.inj h
    cases results with
    | none => exact SameSelection.refl k
    | some rows =>
      refine sameSelection_updated (ObjectArray.mapObjects_items _ _)
        (ObjectArray.mapObjects_keeps (fun e => ?_) _)
      split <;> rfl
  | updateMySQLSlaveStatus aHost slaveStatus =>
    obtain rfl := Option.some.inj h
    cases slaveStatus with
    | none => exact SameSelection.refl k
    | some status =>
      refine sameSelection_updated (ObjectArray.mapObjects_items _ _)
        (ObjectArray.mapObjects_keeps (fun e => ?_) _)
      split <;> rfl
  | updateMySQLStatistics aHost now serverStatus =>
    obtain rfl := Option.some.inj h
    exact sameSelection_updated (updateMySQLStatistics_items aHost now serverStatus)
      (updateMySQLStatistics_host aHost now serverStatus)

theorem status_selection_stays {conf : Configuration} {sliderValue trackQuery : Int}
    {acts more : List DeskAct}
    (hrun : Transition.run step Transition.anyStep (opened conf sliderValue trackQuery) acts = some k)
    (hmore : Transition.run step keepsTable k more = some k') : SameSelection k k' :=
  (Transition.run_invariant (I := fun u => u.Kept ∧ SameSelection k u)
    (fun _ _ _ hi hg hs => ⟨hi.1.step hs, hi.2.trans (sameSelection_step hi.1 hg hs)⟩)
    ⟨run_kept hrun, SameSelection.refl k⟩ hmore).2

theorem status_selection_stays_sorted :
    let c := Configuration.onePool { active := some 1 } [3, 4, 5] (by decide) (fun _ => 1)
      (fun _ => 0)
    let acts : List DeskAct := [.world .mainThread [], .resetDetailList] ++
      List.replicate 4 (.world .mainThread []) ++ [.selectHost 2]
    let more : List DeskAct := [.updateMySQLStatistics 3 0 none, .sortHosts [2, 0, 1]]
    ∃ k k', Transition.run step Transition.anyStep (opened c 30 1) acts = some k ∧
      Transition.run step keepsTable k more = some k' ∧ k.table.selectedEntry = some 2 ∧
      k'.table.selectedRow = 0 ∧ SameSelection k k' := by
  intro c acts more
  have hcheck : (Transition.run step Transition.anyStep (opened c 30 1) acts).any (fun k =>
      decide (k.table.selectedEntry = some 2) && (Transition.run step keepsTable k more).any
        (fun k' => decide (k'.table.selectedRow = 0))) = true := by
    decide +kernel
  obtain ⟨k, hrun, hk⟩ := (Option.any_eq_true _ _).mp hcheck
  simp only [Bool.and_eq_true, decide_eq_true_eq, Option.any_eq_true] at hk
  obtain ⟨hselected, k', hmore, hrow⟩ := hk
  exact ⟨k, k', hrun, hmore, hselected, hrow, status_selection_stays hrun hmore⟩

end Selection

section KillButton
variable {k k' : Desk} {a : DeskAct} {panel : SlavePanel}

def SameViews (panel panel' : SlavePanel) : Prop :=
  panel'.details = panel.details ∧ panel'.killEnabled = panel.killEnabled

def Keeps {α : Type} (m : Display α) : Prop :=
  ∀ panel, Program.wp m (fun _ panel' => SameViews panel panel') panel

theorem keeps_bind {α β : Type} {m : Display α} {f : α → Display β} (hm : Keeps m)
    (hf : ∀ a, Keeps (f a)) : Keeps (m >>= f) := by
  intro panel
  rw [Program.wp_bind]
  refine Program.wp_mono (fun r t h => ?_) (hm panel)
  cases r with
  | error e => exact h
  | ok a =>
    refine Program.wp_mono (fun r u hu => ?_) (hf a t)
    exact ⟨hu.1.trans h.1, hu.2.trans h.2⟩

theorem keeps_setStringValue (outlet : Outlet) (text : Option String) :
    Keeps (SlavePanel.setStringValue outlet text) := by
  intro panel
  cases text <;> exact ⟨rfl, rfl⟩

theorem keeps_showUnconfigured : Keeps SlavePanel.showUnconfigured := by
  unfold SlavePanel.showUnconfigured
  iterate 9 refine keeps_bind (keeps_setStringValue _ _) (fun _ => ?_)
  exact keeps_setStringValue _ _

theorem keeps_showStatus (status : MysqlSlaveStatus) : Keeps (SlavePanel.showStatus status) := by
  unfold SlavePanel.showStatus
  iterate 9 refine keeps_bind (keeps_setStringValue _ _) (fun _ => ?_)
  refine keeps_bind (fun panel => ⟨rfl, rfl⟩) (fun panel => ?_)
  split
  · exact fun panel => ⟨rfl, rfl⟩
  · exact keeps_setStringValue _ _

theorem refreshed_views (status : Option MysqlSlaveStatus) :
    SameViews panel.setContentView (panel.refreshed status) := by
  have hviews : Program.wp (SlavePanel.refreshSlavePanel status)
      (fun _ panel' => SameViews panel.setContentView panel') panel := by
    rw [SlavePanel.refreshSlavePanel, Program.wp_bind, Program.wp_modify]
    simp only
    split
    next status _ => exact keeps_showStatus status _
    next => exact keeps_showUnconfigured _
  exact hviews

def ButtonAgrees (panel : SlavePanel) : Prop :=
  panel.killEnabled = true ↔ panel.details = .queryView

theorem agrees_refreshed (h : ButtonAgrees panel) (status : Option MysqlSlaveStatus) :
    ButtonAgrees (panel.refreshed status) := by
  obtain ⟨hdetails, hkill⟩ : SameViews panel.setContentView (panel.refreshed status) :=
    refreshed_views status
  rw [ButtonAgrees, hdetails, hkill, SlavePanel.setContentView]
  split
  · split
    · exact h
    · simp
  · exact h

theorem agrees_block (h : ButtonAgrees panel) (d : Document) (detailList : DetailList)
    (b : PanelBlock) : ButtonAgrees (b.run d detailList panel) := by
  cases b with
  | logSlave e => exact agrees_refreshed h _
  | hostSlave r => exact agrees_refreshed h _
  | noStatusDetails => exact h
  | noDetails =>
    simp only [PanelBlock.run, SlavePanel.clearDetails]
    split
    · exact h
    · simp [ButtonAgrees]
  | logQuery e =>
    simp only [PanelBlock.run, SlavePanel.showQueryView]
    split
    · exact h
    · simp [ButtonAgrees]

theorem agrees_step (hi : ButtonAgrees k.panel) (h : k.step a = some k') :
    ButtonAgrees k'.panel := by
  cases a with
  | world a order =>
    obtain ⟨_, _, hpanel, _⟩ := worldStep_some (step_world h)
    rw [hpanel]
    exact hi
  | resetDetailList =>
    obtain ⟨_, heq⟩ := Option.ite_none_right_eq_some.mp h
    obtain rfl := Option.some.inj heq
    exact hi
  | selectHost row =>
    obtain rfl := Option.some.inj (onIdle_some h)
    rw [(k.retable_frame _).2.1]
    exact hi
  | sortHosts order =>
    obtain rfl := Option.some.inj (onIdle_some h)
    rw [(k.retable_frame _).2.1]
    exact hi
  | detectChangedView view =>
    obtain rfl := Option.some.inj (onIdle_some h)
    exact hi
  | panelBlock =>
    obtain ⟨b, _, hpanel, _⟩ := runPanelBlock_some (onIdle_some h)
    rw [hpanel]
    exact agrees_block hi _ _ b
  | _ =>
    obtain rfl := Option.some.inj h
    exact hi

-- The kill button can be pressed exactly while the panel shows a query.
theorem kill_button_agrees {conf : Configuration} {sliderValue trackQuery : Int}
    {acts : List DeskAct}
    (hrun : Transition.run step Transition.anyStep (opened conf sliderValue trackQuery) acts = some k) :
    ButtonAgrees k.panel := by
  refine Transition.run_invariant (I := fun k => ButtonAgrees k.panel)
    (fun _ _ _ hi _ hs => agrees_step hi hs) ?_ hrun
  exact iff_of_false Bool.false_ne_true (by simp [opened])

theorem kill_button_agrees_query :
    let c := Configuration.onePool { active := some 1 } [3] (by decide) (fun _ => 1) (fun _ => 0)
    let row : QueryRow := { id := 8, host := "web", info := some [97], time := 2 }
    let acts : List DeskAct := [.world .mainThread [], .resetDetailList] ++
      List.replicate 2 (.world .mainThread []) ++
      List.replicate 8 (.world (.operation 1 { results := some [row] }) []) ++
      [.world (.select 0) [], .world (.operation 0 {}) [], .world (.operation 0 {}) [], .panelBlock]
    ∃ k, Transition.run step Transition.anyStep (opened c 30 1) acts = some k ∧
      k.panel.killEnabled = true ∧ ButtonAgrees k.panel := by
  intro c row acts
  have hcheck : (Transition.run step Transition.anyStep (opened c 30 1) acts).any
      (fun k => k.panel.killEnabled) = true := by
    decide +kernel
  obtain ⟨k, hrun, hkill⟩ := (Option.any_eq_true _ _).mp hcheck
  exact ⟨k, hrun, hkill, kill_button_agrees hrun⟩

end KillButton

end Desk

end DBMonitor
