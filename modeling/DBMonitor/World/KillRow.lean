import DBMonitor.World.Window

namespace DBMonitor

namespace Document

-- What killProcess: reads at the selected row is there, current, and what the user clicked.
def ActsOnSelected (d : Document) (clicked : Option EntryRef) : Prop :=
  0 ≤ d.selectedRow ∧ d.selectedRow < d.items.length ∧
    ∃ e, d.objectAtRow d.selectedRow = some e ∧ d.currentLogEntry = some e ∧ clicked = some e

def dismisses (d : Document) (e : EntryRef) : Bool :=
  decide ((d.entry e).processID = connectFailID) || decide ((d.entry e).processID = deadProcess)

def keepsRow (d : Document) : Change → Bool
  | .locked (.discardMySQLDead aHost) =>
    (d.items.take (d.selectedRow + 1).toNat).all
      (fun e => !d.drops (.discardMySQLDead aHost) (d.entry e))
  | .locked .killProcess => (d.objectAtRow d.selectedRow).all (fun e => !d.dismisses e)
  | .locked (.select row) => decide (row = -1) || (d.objectAtRow row).isSome
  | _ => true

-- A row that shows the current entry is deselected by a refresh that drops it, or by a click.
def keepsSelected (d : Document) : Change → Bool
  | .locked (.refresh now order) =>
    d.currentLogEntry.all (fun e => !d.drops (.refresh now order) (d.entry e))
  | _ => true

def Unselected (d : Document) : Prop := d.selectedRow = -1 ∧ d.currentLogEntry = none

section Selected
variable {d : Document} {c : Change} {clicked : Option EntryRef} {e : EntryRef}

theorem actsOnSelected_iff :
    d.ActsOnSelected clicked ↔ ∃ e, d.cursor.Points e ∧ clicked = some e := by
  constructor
  · rintro ⟨_, _, e, hrow, hcurrent, hclicked⟩
    exact ⟨e, ⟨hrow, hcurrent⟩, hclicked⟩
  · rintro ⟨e, hp, hclicked⟩
    obtain ⟨hrow, hlt⟩ := Cursor.objectAt_lt hp.1
    exact ⟨hrow, hlt, e, hp.1, hp.2, hclicked⟩

theorem dismisses_iff :
    d.dismisses e = true ↔
      (d.entry e).processID = connectFailID ∨ (d.entry e).processID = deadProcess := by
  simp [dismisses]

theorem points_iff {d' : Document} (hcurrent : d'.currentLogEntry = some e) :
    d'.cursor.Points e ↔ d'.objectAtRow d'.selectedRow = some e := and_iff_left hcurrent

theorem file_appends (aHost : HostRef) (f : Filing) : ∃ l, (d.file aHost f).items = d.items ++ l := by
  rw [file_items]
  split
  · exact ⟨[], (List.append_nil _).symm⟩
  · exact ⟨_, rfl⟩

theorem exec_appends {s : Section} (hs : movesSelection s = false) (hkill : s ≠ .killProcess)
    (hdiscard : ∀ g, s ≠ .discardMySQLDead g) : ∃ l, (d.exec s).items = d.items ++ l := by
  cases s with
  | updateRow now g row =>
    rw [exec, updateRow_eq]
    split
    · exact file_appends g _
    · exact ⟨[], (List.append_nil _).symm⟩
  | updateMySQLSlaveStatus now g status =>
    rw [exec, updateMySQLSlaveStatus_eq]
    split
    · exact file_appends g _
    · exact ⟨[], (List.append_nil _).symm⟩
  | updateMySQLFail now g => exact file_appends g (failFiling now)
  | clearUpdates g => exact ⟨[], by simp [exec]⟩
  | killProcess => exact absurd rfl hkill
  | discardMySQLDead g => exact absurd rfl (hdiscard g)
  | refresh now order => simp [movesSelection] at hs
  | sortDescriptorsDidChange order => simp [movesSelection] at hs
  | select row => simp [movesSelection] at hs
  | _ => exact ⟨[], (List.append_nil _).symm⟩

theorem discard_points_iff (hn : d.items.Nodup) (hp : d.cursor.Points e) (aHost : HostRef) :
    (d.discardMySQLDead aHost).objectAtRow d.selectedRow = some e ↔
      d.keepsRow (.locked (.discardMySQLDead aHost)) = true := by
  obtain ⟨hrow, hget⟩ : 0 ≤ d.selectedRow ∧ d.items[d.selectedRow.toNat]? = some e :=
    Cursor.objectAt_some.mp hp.1
  have hindex : (d.selectedRow + 1).toNat = d.selectedRow.toNat + 1 := by omega
  rw [keepsRow, List.all_eq_true, hindex,
    ← Cursor.filter_getElem?_iff hn hget
      (fun r => !d.drops (.discardMySQLDead aHost) (d.entry r)),
    objectAtRow, if_pos hrow, discardMySQLDead_items]
  rfl

theorem kill_points_iff (hn : d.items.Nodup) (hp : d.cursor.Points e) :
    d.killProcess.objectAtRow d.selectedRow = some e ↔ d.keepsRow (.locked .killProcess) = true := by
  have hrow : d.objectAtRow d.selectedRow = some e := hp.1
  rw [keepsRow, hrow, Option.all_some]
  by_cases hd : d.dismisses e = true
  · refine iff_of_false (fun hsome => ?_) (by simp [hd])
    exact killProcess_dismissed hn hrow (dismisses_iff.mp hd) (objectAtRow_mem hsome).1
  · have hlabel := mt dismisses_iff.mpr hd
    rw [killProcess, hrow]
    simp only [hlabel, if_false]
    exact iff_of_true hrow (by simpa using hd)

theorem exec_points_iff (hn : d.items.Nodup) (hp : d.cursor.Points e) {s : Section}
    (hs : movesSelection s = false) :
    (d.exec s).cursor.Points e ↔ d.keepsRow (.locked s) = true := by
  obtain ⟨hrow, hcurrent⟩ := exec_selection (d := d) hs
  rw [points_iff (hcurrent.trans hp.2), hrow]
  by_cases hkill : s = .killProcess
  · rw [hkill]
    exact kill_points_iff hn hp
  by_cases hdiscard : ∃ g, s = .discardMySQLDead g
  · obtain ⟨g, rfl⟩ := hdiscard
    exact discard_points_iff hn hp g
  · obtain ⟨l, hl⟩ := exec_appends (d := d) hs hkill (fun g hg => hdiscard ⟨g, hg⟩)
    obtain ⟨hpos, hget⟩ : 0 ≤ d.selectedRow ∧ d.items[d.selectedRow.toNat]? = some e :=
      Cursor.objectAt_some.mp hp.1
    obtain ⟨hlt, _⟩ := List.getElem?_eq_some_iff.mp hget
    refine iff_of_true ?_ ?_
    · rw [objectAtRow, if_pos hpos, hl]
      exact (List.getElem?_append_left hlt).trans hget
    · cases s with
      | killProcess => exact absurd rfl hkill
      | discardMySQLDead g => exact absurd ⟨g, rfl⟩ hdiscard
      | select row => simp [movesSelection] at hs
      | _ => rfl

theorem Unselected.apply (h : d.Unselected) (hn : d.items.Nodup)
    (hc : ∀ row, c ≠ .locked (.select row)) :
    (d.apply c).Unselected ∧ d.keepsRow c = true := by
  obtain ⟨hrow, hcurrent⟩ := h
  have hnone : d.objectAtRow d.selectedRow = none := by
    rw [hrow]
    rfl
  cases c with
  | nothing => exact ⟨⟨hrow, hcurrent⟩, rfl⟩
  | notified => exact ⟨⟨hrow, hnone⟩, rfl⟩
  | reloaded notifies =>
    rw [Document.apply, reloadData, if_neg (by omega)]
    exact ⟨⟨hrow, hcurrent⟩, rfl⟩
  | locked s =>
    cases s with
    | select row => exact absurd rfl (hc row)
    | refresh now order =>
      have hrefreshed := Cursor.refresh_none (c := d.cursor) (d.refresh now order).items hcurrent
      rw [← cursor_refresh hn now order, if_pos (c := d.cursor.objectAt d.cursor.row = none) hnone]
        at hrefreshed
      exact ⟨⟨hrefreshed.1.trans hrow, hrefreshed.2⟩, rfl⟩
    | sortDescriptorsDidChange order =>
      have hsorted : d.sortDescriptorsDidChange order = d.sortDataList order := by
        rw [sortDescriptorsDidChange, hnone]
      rw [Document.apply, exec, hsorted]
      exact ⟨⟨hrow, hcurrent⟩, rfl⟩
    | discardMySQLDead g =>
      refine ⟨⟨hrow, hcurrent⟩, ?_⟩
      rw [keepsRow, hrow]
      rfl
    | killProcess =>
      obtain ⟨hrow', hcurrent'⟩ := exec_selection (d := d) (s := .killProcess) rfl
      refine ⟨⟨hrow'.trans hrow, hcurrent'.trans hcurrent⟩, ?_⟩
      rw [keepsRow, hnone]
      rfl
    | _ =>
      refine ⟨⟨?_, ?_⟩, rfl⟩
      · exact (exec_selection (by rfl)).1.trans hrow
      · exact (exec_selection (by rfl)).2.trans hcurrent

-- The row goes on showing the entry, or a refresh lets go of both, or the row shows another.
theorem pointed_apply (hp : d.cursor.Points e) (hn : d.items.Nodup)
    (hc : ∀ row, c ≠ .locked (.select row)) :
    ((d.apply c).cursor.Points e ∧ d.keepsRow c = true ∧ d.keepsSelected c = true) ∨
      ((d.apply c).Unselected ∧ d.keepsRow c = true ∧ d.keepsSelected c = false ∧
        ∃ now order, c = .locked (.refresh now order)) ∨
      ((d.apply c).selectedRow = d.selectedRow ∧ (d.apply c).currentLogEntry = some e ∧
        ¬(d.apply c).cursor.Points e ∧ d.keepsRow c = false) := by
  have hrow : d.objectAtRow d.selectedRow = some e := hp.1
  have hcurrent : d.currentLogEntry = some e := hp.2
  have hlt : d.selectedRow < d.items.length := (Cursor.objectAt_lt hp.1).2
  have hm : e ∈ d.items := (objectAtRow_mem hrow).1
  cases c with
  | nothing => exact Or.inl ⟨hp, rfl, rfl⟩
  | notified => exact Or.inl ⟨⟨hrow, hrow⟩, rfl, rfl⟩
  | reloaded notifies =>
    rw [Document.apply, reloadData, if_neg (Int.not_le.mpr hlt)]
    exact Or.inl ⟨hp, rfl, rfl⟩
  | locked s =>
    by_cases hs : movesSelection s = false
    · obtain ⟨hrow', hcurrent'⟩ := exec_selection (d := d) hs
      have hiff := exec_points_iff hn hp hs
      cases hk : d.keepsRow (.locked s) with
      | true =>
        refine Or.inl ⟨hiff.mpr hk, rfl, ?_⟩
        cases s <;> first | rfl | simp [movesSelection] at hs
      | false =>
        exact Or.inr (Or.inr ⟨hrow', hcurrent'.trans hcurrent, by simp [hiff, hk, apply], rfl⟩)
    · cases s with
      | select row => exact absurd rfl (hc row)
      | refresh now order =>
        have hkept : e ∈ (d.refresh now order).items ↔
            d.keepsSelected (.locked (.refresh now order)) = true := by
          rw [keepsSelected, hcurrent, Option.all_some, Bool.not_eq_true']
          exact exec_mem_iff (s := .refresh now order) (by simp) hm
        by_cases hmem : e ∈ (d.refresh now order).items
        · exact Or.inl ⟨refresh_points hn hm hcurrent hmem, rfl, hkept.mp hmem⟩
        · refine Or.inr (Or.inl ⟨refresh_dropped hn hm hcurrent hmem, rfl, ?_, now, order, rfl⟩)
          exact Bool.eq_false_iff.mpr (fun hkeeps => hmem (hkept.mpr hkeeps))
      | sortDescriptorsDidChange order =>
        have hperm : (d.sortDataList order).items.Perm d.items := ObjectArray.reorder_perm _ _
        have hpointed := Cursor.rearrange_points hp (hperm.mem_iff.mpr hm)
        rw [← cursor_sort hn order] at hpointed
        exact Or.inl ⟨hpointed, rfl, rfl⟩
      | _ => exact absurd rfl hs

theorem selectRow_row (row : Int) : (d.selectRow row).selectedRow = row :=
  (congrArg Cursor.row (cursor_selectRow row)).trans Cursor.select_row

theorem selectRow_points {row : Int} (hd : d.Unselected ∨ ∃ x, d.cursor.Points x)
    (h : d.objectAtRow row = some e) : (d.selectRow row).cursor.Points e := by
  rw [cursor_selectRow]
  refine Cursor.select_points h (fun hsame => ?_)
  rcases hd with ⟨hrow, _⟩ | ⟨x, hp⟩
  · rw [show row = -1 from hsame.trans hrow] at h
    simp [objectAtRow] at h
  · rw [show row = d.selectedRow from hsame] at h
    exact hp.2.trans (hp.1.symm.trans h)

theorem selectRow_unselected (hd : d.Unselected ∨ ∃ x, d.cursor.Points x) :
    (d.selectRow (-1)).Unselected := by
  unfold selectRow
  split
  next hrow =>
    exact hd.resolve_right (fun ⟨_, hp⟩ => Cursor.points_row hp hrow.symm)
  next => exact ⟨rfl, rfl⟩

end Selected

end Document

namespace World

def alerting (w : World) : Bool :=
  match w.main with
  | .alerting _ _ _ => true
  | _ => false

-- The main thread is about to run the block that killProcess: posted.
def asks (w : World) (a : Act) : Bool :=
  match a, w.main, w.mainQueue with
  | .mainThread, .idle, .killDialog _ :: _ => true
  | _, _, _ => false

section Alerting
variable {w v : World} {a : Act} {s : Option Section}

theorem alerting_eq (h : v.main = w.main) : v.alerting = w.alerting := by
  rw [alerting, alerting, h]

theorem Quiet.asks (h : Quiet w a s v) : w.asks a = false := by
  cases h <;> rfl

theorem alerting_reloading {todo : List ReloadItem} (h : w.main = .reloading todo) :
    w.alerting = false := by
  rw [alerting, h]

theorem Moves.alerting_locked {s : Section} (h : Moves w a (some s) v) :
    v.alerting = w.alerting := by
  rcases h.locked_frame.2 with hsame | ⟨⟨_, hbefore⟩, _, hafter⟩
  · exact alerting_eq hsame
  · rw [alerting_reloading hbefore, alerting_reloading hafter]

theorem Moves.alerting (h : Moves w a s v) (hw : w.alerting = false) : v.alerting = w.asks a := by
  cases h with
  | operation x hops => exact hw
  | @block b rest hmain hqueue =>
    cases b with
    | reschedule g => simp [World.alerting, World.asks, runBlock, hmain, hqueue]
    | killDialog e => simp [World.alerting, World.asks, runBlock, hmain, hqueue]
  | opened hmain => simp [World.alerting, World.asks, hmain]
  | reloaded hmain => simp [World.alerting, World.asks, hmain]
  | @reload item todo hmain =>
    obtain ⟨todo', hmain'⟩ := (w.runReload_reloads item todo).main
    rw [alerting_reloading hmain']
    simp [World.asks, hmain]
  | alert hmain => simp [World.alerting, hmain] at hw
  | quiet hmain hq => rw [alerting_eq hq.main, hw, hq.asks]
  | edit hmain hsheet => exact hw
  | _ => rfl

theorem disabled_asks (h : w.step a = none) : w.asks a = false := by
  refine Bool.eq_false_iff.mpr (fun hasks => ?_)
  unfold asks at hasks
  split at hasks
  next hmain hqueue =>
    simp [step, control, runMain, hmain, hqueue] at h
  next => exact Bool.false_ne_true hasks

theorem step_alerting {w' : World} (h : w.step a = some w') (hw : w.alerting = false) :
    w'.alerting = w.asks a := by
  obtain ⟨v, hm, rfl⟩ := step_moves h
  exact hm.alerting hw

theorem step_alerting_locked {w' : World} {s : Section} (h : w.step a = some w')
    (hs : w.locked a = some s) : w'.alerting = w.alerting := by
  obtain ⟨v, hm, rfl⟩ := step_moves h
  rw [hs] at hm
  exact hm.alerting_locked

end Alerting

end World

namespace Window

-- killProcess: returns when no row is selected; the block it posts indexes the list regardless.
def KillsSelected (k : Window) : Prop :=
  k.doc.selectedRow ≠ -1 ∨ k.world.alerting = true → k.doc.ActsOnSelected k.clicked

def asks (k : Window) : TableAct → Bool
  | .world a => k.world.asks a
  | _ => false

def keepsKillRow (k : Window) (a : TableAct) : Bool :=
  k.doc.keepsRow (k.change a) && (!k.world.alerting || k.doc.keepsSelected (k.change a)) &&
    (!k.asks a || decide (k.doc.selectedRow ≠ -1))

section Step
variable {k k' : Window} {a : TableAct} {e : EntryRef} {row : Int}

theorem KillsSelected.of_points (hp : k.doc.cursor.Points e) (hclicked : k.clicked = some e) :
    k.KillsSelected := fun _ => Document.actsOnSelected_iff.mpr ⟨e, hp, hclicked⟩

theorem killsSelected_unselected (hu : k.doc.Unselected) :
    k.KillsSelected ↔ k.world.alerting = false := by
  constructor
  · intro hk
    refine Bool.eq_false_iff.mpr (fun hw => ?_)
    obtain ⟨hrow, _⟩ := hk (Or.inr hw)
    rw [hu.1] at hrow
    omega
  · intro hw hselected
    rw [hu.1, hw] at hselected
    simp at hselected

theorem step_alerting (h : k.step a = some k') (hw : k.world.alerting = false) :
    k'.world.alerting = k.asks a := by
  have hworld := step_world h
  cases a with
  | world b => exact World.step_alerting hworld hw
  | tableViewSelectionDidChange =>
    rw [← Option.some.inj hworld]
    exact hw
  | reloadData notifies =>
    obtain ⟨_, heq⟩ := Option.ite_none_right_eq_some.mp hworld
    rw [← Option.some.inj heq]
    exact hw

theorem step_clicked (h : k.step a = some k') (ha : a.isClick = false) : k'.clicked = k.clicked := by
  obtain ⟨w, hw, rfl⟩ := Option.map_eq_some_iff.mp h
  cases a with
  | world b => cases b <;> first | rfl | simp [TableAct.isClick] at ha
  | _ => rfl

theorem step_unselected_iff (h : k.step a = some k') (hn : k.doc.items.Nodup)
    (hu : k.doc.Unselected) (hw : k.world.alerting = false)
    (hc : ∀ row, k.change a ≠ .locked (.select row)) :
    k'.KillsSelected ↔ k.keepsKillRow a = true := by
  obtain ⟨hu', hkeeps⟩ := hu.apply hn hc
  rw [← step_doc h] at hu'
  rw [killsSelected_unselected hu', step_alerting h hw, keepsKillRow, hkeeps, hw, hu.1]
  simp

theorem step_pointed_iff (h : k.step a = some k') (hn : k.doc.items.Nodup)
    (hp : k.doc.cursor.Points e) (hclicked : k'.clicked = some e)
    (hc : ∀ row, k.change a ≠ .locked (.select row)) :
    k'.KillsSelected ↔ k.keepsKillRow a = true := by
  have hrow : k.doc.selectedRow ≠ -1 := Cursor.points_row hp
  rw [keepsKillRow, decide_eq_true hrow, Bool.or_true, Bool.and_true]
  rcases Document.pointed_apply hp hn hc with ⟨hp', hkeeps, hselected⟩ |
    ⟨hu', hkeeps, hselected, now, order, hrefresh⟩ | ⟨hrow', hcurrent', hmoved, hkeeps⟩
  · rw [← step_doc h] at hp'
    rw [hkeeps, hselected, Bool.or_true]
    exact iff_of_true (.of_points hp' hclicked) rfl
  · rw [← step_doc h] at hu'
    obtain ⟨b, rfl, hlocked⟩ := change_locked hrefresh
    rw [killsSelected_unselected hu', World.step_alerting_locked (step_world h) hlocked, hkeeps,
      hselected]
    simp
  · rw [← step_doc h] at hrow' hcurrent' hmoved
    rw [hkeeps, Bool.false_and]
    refine iff_of_false (fun hk => hmoved ?_) Bool.false_ne_true
    obtain ⟨x, hx, _⟩ := Document.actsOnSelected_iff.mp (hk (Or.inl (hrow'.trans_ne hrow)))
    obtain rfl := Option.some.inj (hcurrent'.symm.trans hx.2)
    exact hx

theorem step_select (h : k.step (.world (.select row)) = some k') :
    k'.doc = k.doc.selectRow row ∧ k'.clicked = k.doc.objectAtRow row ∧
      k.world.alerting = false ∧ k.change (.world (.select row)) = .locked (.select row) := by
  have hworld : k.world.step (.select row) = some k'.world := step_world h
  obtain ⟨⟨s, v⟩, hcontrol, _⟩ := Option.map_eq_some_iff.mp hworld
  obtain ⟨hmain, hevent⟩ := Option.ite_none_right_eq_some.mp hcontrol
  obtain ⟨rfl, rfl⟩ := Prod.mk.inj (Option.some.inj hevent)
  have hchange : k.change (.world (.select row)) = .locked (.select row) := by
    rw [change, World.locked, hcontrol]
    rfl
  obtain ⟨w, _, rfl⟩ := Option.map_eq_some_iff.mp h
  refine ⟨?_, rfl, by rw [World.alerting, hmain], hchange⟩
  rw [step_doc h, hchange]
  rfl

theorem step_select_iff (h : k.step (.world (.select row)) = some k')
    (hd : k.doc.Unselected ∨ ∃ x, k.doc.cursor.Points x) :
    k'.KillsSelected ↔ k.keepsKillRow (.world (.select row)) = true := by
  obtain ⟨hdoc, hclicked, hw, hchange⟩ := step_select h
  have hguard : k.keepsKillRow (.world (.select row)) =
      k.doc.keepsRow (.locked (.select row)) := by
    simp [keepsKillRow, hchange, hw, asks, World.asks]
  rw [hguard, Document.keepsRow, Bool.or_eq_true, decide_eq_true_eq]
  cases hobject : k.doc.objectAtRow row with
  | some e =>
    have hp := Document.selectRow_points hd hobject
    rw [← hdoc] at hp
    exact iff_of_true (.of_points hp (hclicked.trans hobject)) (Or.inr rfl)
  | none =>
    by_cases hrow : row = -1
    · have hu := Document.selectRow_unselected hd
      rw [← hrow, ← hdoc] at hu
      exact iff_of_true ((killsSelected_unselected hu).mpr (step_alerting h hw)) (Or.inl hrow)
    · refine iff_of_false (fun hk => ?_) (by simp [hrow])
      have hrow' : k'.doc.selectedRow = row := by
        rw [hdoc]
        exact Document.selectRow_row row
      obtain ⟨_, _, e, _, _, hsome⟩ := hk (Or.inl (hrow'.trans_ne hrow))
      exact absurd (hclicked.symm.trans hsome) (by simp [hobject])

theorem selected_cases (hnone : k.doc.selectedRow = -1 → k.doc.currentLogEntry = none)
    (hk : k.KillsSelected) :
    (k.doc.Unselected ∧ k.world.alerting = false) ∨
      ∃ e, k.doc.cursor.Points e ∧ k.clicked = some e := by
  by_cases hrow : k.doc.selectedRow = -1
  · have hu : k.doc.Unselected := ⟨hrow, hnone hrow⟩
    exact Or.inl ⟨hu, (killsSelected_unselected hu).mp hk⟩
  · exact Or.inr (Document.actsOnSelected_iff.mp (hk (Or.inl hrow)))

theorem isClick_cases (h : k.step a = some k') :
    (∃ row, a = .world (.select row)) ∨
      (k'.clicked = k.clicked ∧ ∀ row, k.change a ≠ .locked (.select row)) := by
  cases ha : a.isClick with
  | true => cases a with
    | world b =>
      cases b <;> simp [TableAct.isClick] at ha
      exact Or.inl ⟨_, rfl⟩
    | _ => simp [TableAct.isClick] at ha
  | false =>
    refine Or.inr ⟨step_clicked h ha, fun row hc => ?_⟩
    obtain ⟨b, rfl, hb⟩ := change_issued h hc rfl
    cases b <;> simp [Act.issues] at hb
    simp [TableAct.isClick] at ha

theorem step_kills_iff (h : k.step a = some k') (hn : k.doc.items.Nodup)
    (hnone : k.doc.selectedRow = -1 → k.doc.currentLogEntry = none) (hk : k.KillsSelected) :
    k'.KillsSelected ↔ k.keepsKillRow a = true := by
  have hselected := selected_cases hnone hk
  rcases isClick_cases h with ⟨row, rfl⟩ | ⟨hclicked, hc⟩
  · exact step_select_iff h (hselected.imp And.left (Exists.imp fun _ => And.left))
  · rcases hselected with ⟨hu, hw⟩ | ⟨e, hp, he⟩
    · exact step_unselected_iff h hn hu hw hc
    · exact step_pointed_iff h hn hp (hclicked.trans he) hc

theorem step_deselected (h : k.step a = some k') (hn : k.doc.items.Nodup)
    (hnone : k.doc.selectedRow = -1 → k.doc.currentLogEntry = none) (hk : k.KillsSelected) :
    k'.doc.selectedRow = -1 → k'.doc.currentLogEntry = none := by
  have hselected := selected_cases hnone hk
  rcases isClick_cases h with ⟨row, rfl⟩ | ⟨_, hc⟩
  · obtain ⟨hdoc, _⟩ := step_select h
    rw [hdoc, Document.selectRow_row]
    rintro rfl
    exact (Document.selectRow_unselected
      (hselected.imp And.left (Exists.imp fun _ => And.left))).2
  · rw [step_doc h]
    rcases hselected with ⟨hu, _⟩ | ⟨e, hp, _⟩
    · exact fun _ => (hu.apply hn hc).1.2
    · intro hrow
      rcases Document.pointed_apply hp hn hc with ⟨hp', _⟩ | ⟨hu', _⟩ | ⟨hrow', _⟩
      · exact absurd hrow (Cursor.points_row hp')
      · exact hu'.2
      · exact absurd (hrow'.symm.trans hrow) (Cursor.points_row hp)

theorem disabled_keepsKillRow (h : k.step a = none) : k.keepsKillRow a = true := by
  have hasks : k.asks a = false := by
    cases a with
    | world b => exact World.disabled_asks (Option.map_eq_none_iff.mp h)
    | _ => rfl
  rw [keepsKillRow, change_disabled h, hasks]
  simp [Document.keepsRow, Document.keepsSelected]

end Step

theorem kill_acts_on_selected_iff (conf : Configuration) (sliderValue trackQuery : Int)
    (acts : List TableAct) :
    (∀ n k, Transition.run step Transition.anyStep (initial conf sliderValue trackQuery)
      (acts.take n) = some k → k.KillsSelected) ↔
    (∀ n k a, Transition.run step Transition.anyStep (initial conf sliderValue trackQuery)
      (acts.take n) = some k → acts[n]? = some a → k.keepsKillRow a = true) := by
  refine Transition.prefixes_iff_of_mem
    (I := fun k : Window => k.doc.Tidy ∧
      (k.doc.selectedRow = -1 → k.doc.currentLogEntry = none))
    ⟨initial_tidy conf sliderValue trackQuery, fun _ => rfl⟩ ?_ ?_ ?_
    (fun _ _ _ => disabled_keepsKillRow)
  · exact (killsSelected_unselected ⟨rfl, rfl⟩).mpr rfl
  · rintro k a k' _ ⟨hi, hnone⟩ hk hs _
    exact ⟨step_tidy hs hi, step_deselected hs hi.1 hnone hk⟩
  · rintro k a k' _ ⟨hi, hnone⟩ hk hs
    exact step_kills_iff hs hi.1 hnone hk

theorem misses_clicked {k : Window} (hrow : k.doc.selectedRow ≠ -1)
    (h : k.doc.objectAtRow k.doc.selectedRow ≠ k.clicked) : ¬k.KillsSelected := by
  intro hk
  obtain ⟨_, _, e, hobject, _, hclicked⟩ := hk (Or.inl hrow)
  exact h (hobject.trans hclicked.symm)

theorem kill_hits_neighbour :
    let c := Configuration.onePool { active := some 1 } [3] (by decide) (fun _ => 1) (fun _ => 0)
    let row := fun time n : Int =>
      ({ id := n, host := "web", info := some [97], time := time } : QueryRow)
    let opened := fun (rows : List QueryRow) (i : Int) =>
      ([.reloadDataWatchers, .mainThread, .mainThread, .mainThread] ++
        List.replicate (rows.length + 9) (.operation 1 { results := some rows }) ++
        [.mainThread, .select i] : List Act).map TableAct.world
    let poll := fun rows : List QueryRow =>
      List.replicate (rows.length + 7) (TableAct.world (.operation 1 { results := some rows }))
    let killProcess := TableAct.world .killProcess
    (∃ k, Transition.run step Transition.anyStep (initial c 30 1)
        (opened [row 4 7, row 4 8, row 4 9] 1 ++ poll [row 4 8, row 4 9]) = some k ∧
      ¬k.KillsSelected ∧ k.clicked = some 1 ∧ k.doc.killTarget = some 2) ∧
    (∃ k, Transition.run step Transition.anyStep (initial c 30 1)
        (opened [row 4 7, row 4 8, row 4 9] 1 ++ poll []) = some k ∧
      ¬k.KillsSelected ∧ k.doc.selectedRow = 1 ∧ k.doc.items = []) ∧
    (∃ k, Transition.run step Transition.anyStep (initial c 30 1)
        (opened [row 9 7, row 9 8] 0 ++ poll [] ++ [killProcess]) = some k ∧
      ¬k.KillsSelected ∧ k.clicked = some 0 ∧ k.doc.items = [1] ∧
        k.doc.killProcess.items = []) := by
  intro c row opened poll killProcess
  have hneighbour : (Transition.run step Transition.anyStep (initial c 30 1)
      (opened [row 4 7, row 4 8, row 4 9] 1 ++ poll [row 4 8, row 4 9])).any (fun k =>
        decide (k.doc.selectedRow = 1) && decide (k.clicked = some 1) &&
          decide (k.doc.objectAtRow 1 = some 2) && decide (k.doc.killTarget = some 2)) = true := by
    decide +kernel
  have hempty : (Transition.run step Transition.anyStep (initial c 30 1)
      (opened [row 4 7, row 4 8, row 4 9] 1 ++ poll [])).any (fun k =>
        decide (k.doc.selectedRow = 1) && decide (k.clicked = some 1) &&
          decide (k.doc.items = [])) = true := by
    decide +kernel
  have htwice : (Transition.run step Transition.anyStep (initial c 30 1)
      (opened [row 9 7, row 9 8] 0 ++ poll [] ++ [killProcess])).any (fun k =>
        decide (k.doc.selectedRow = 0) && decide (k.clicked = some 0) &&
          decide (k.doc.items = [1]) && decide (k.doc.killProcess.items = [])) = true := by
    decide +kernel
  obtain ⟨k₁, hrun₁, hk₁⟩ := (Option.any_eq_true _ _).mp hneighbour
  obtain ⟨k₂, hrun₂, hk₂⟩ := (Option.any_eq_true _ _).mp hempty
  obtain ⟨k₃, hrun₃, hk₃⟩ := (Option.any_eq_true _ _).mp htwice
  simp only [Bool.and_eq_true, decide_eq_true_eq] at hk₁ hk₂ hk₃
  refine ⟨⟨k₁, hrun₁, misses_clicked (by simp [hk₁]) (by simp [hk₁]), by simp [hk₁]⟩, ?_, ?_⟩
  · exact ⟨k₂, hrun₂, misses_clicked (by simp [hk₂]) (by simp [Document.objectAtRow, hk₂]),
      by simp [hk₂]⟩
  · exact ⟨k₃, hrun₃, misses_clicked (by simp [hk₃]) (by simp [Document.objectAtRow, hk₃]),
      by simp [hk₃]⟩

end Window

end DBMonitor
