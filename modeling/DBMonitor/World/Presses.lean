import DBMonitor.World.Kill

namespace DBMonitor

namespace World

-- The entry that a press of the kill button asks about.
def pressed (w : World) : Act → Option EntryRef
  | .killProcess => w.doc.killTarget
  | _ => none

def confirmed (w : World) : Act → Option Kill
  | .killEnded i true true junk => w.dialogs[i]?.map (w.killed junk)
  | _ => none

def alerted (e : EntryRef) (w : World) : Nat :=
  match w.main with
  | .alerting e' _ _ => if e' = e then 1 else 0
  | _ => 0

-- The questions about an entry: waiting, being put, on the screen, and answered by a KILL.
def questions (e : EntryRef) (w : World) : Nat :=
  w.mainQueue.count (.killDialog e) + w.alerted e +
    w.dialogs.countP (fun dialog => dialog.entry = e) +
    w.sent.countP (fun k => k.dialog.entry = e)

structure Accounted (w : World) (presses : List EntryRef) (confirmations : List Kill) : Prop where
  sent : w.sent = confirmations
  questions : ∀ e, w.questions e ≤ presses.count e

section Presses
variable {w v w' : World} {a : Act} {s : Option Section} {e : EntryRef}

theorem countP_eraseIdx {α : Type} (p : α → Bool) {l : List α} {i : Nat} {x : α}
    (h : l[i]? = some x) : (l.eraseIdx i).countP p + (if p x then 1 else 0) = l.countP p := by
  induction l generalizing i with
  | nil => simp at h
  | cons y l ih =>
    cases i with
    | zero =>
      obtain rfl := Option.some.inj h
      rw [List.eraseIdx_cons_zero, List.countP_cons]
    | succ i =>
      rw [List.getElem?_cons_succ] at h
      have hrest := ih h
      rw [List.eraseIdx_cons_succ, List.countP_cons, List.countP_cons]
      omega

theorem killed_dialog (junk : HostRef × String) (dialog : Dialog) :
    (w.killed junk dialog).dialog = dialog := by
  unfold killed
  split <;> rfl

theorem questions_congr (hqueue : v.mainQueue.count (.killDialog e) =
    w.mainQueue.count (.killDialog e)) (halerted : v.alerted e = w.alerted e)
    (hdialogs : v.dialogs = w.dialogs) (hsent : v.sent = w.sent) :
    v.questions e = w.questions e := by
  rw [questions, questions, hqueue, halerted, hdialogs, hsent]

theorem advance_count (c : Configuration) (x : Input) (op : Operation) :
    (op.advance c x).posts.toList.count (.killDialog e) = 0 := by
  refine List.count_eq_zero.mpr (fun hmem => ?_)
  exact advance_posts c x op e (Option.mem_toList.mp hmem)

theorem Quiet.questions (hq : Quiet w a s v) (e : EntryRef) :
    v.questions e ≤ w.questions e + (w.pressed a).toList.count e := by
  cases hq with
  | killProcess =>
    have hinj : Function.Injective Block.killDialog := fun _ _ heq => Block.killDialog.inj heq
    simp only [World.questions, pressed, alerted, List.count_append,
      List.count_map_of_injective _ _ hinj]
    omega
  | @killEnded i dialog accept connected junk hd =>
    have herase := countP_eraseIdx (fun dialog => decide (dialog.entry = e)) hd
    cases accept <;> cases connected <;>
      simp only [World.questions, pressed, alerted, Bool.and_true, Bool.and_false,
        Bool.false_eq_true, if_false, if_true, List.countP_append, List.countP_singleton,
        killed_dialog, Option.toList_none, List.count_nil] <;> omega
  | _ => exact Nat.le_add_right _ _

theorem Moves.questions (hm : Moves w a s v) (e : EntryRef) :
    v.questions e ≤ w.questions e + (w.pressed a).toList.count e := by
  have hsame : v.questions e = w.questions e →
      v.questions e ≤ w.questions e + (w.pressed a).toList.count e := fun h => by omega
  have hidle : ∀ u : World, u.main = .idle → u.alerted e = 0 := fun u hu => by rw [alerted, hu]
  cases hm with
  | @operation l r op x hops =>
    refine hsame (questions_congr ?_ rfl rfl rfl)
    rw [advanced, List.count_append, advance_count, Nat.add_zero]
  | @block b rest hmain hqueue =>
    cases b with
    | reschedule g =>
      refine hsame (questions_congr ?_ rfl rfl rfl)
      simp [runBlock, hqueue]
    | killDialog e' =>
      have hbefore := hidle w hmain
      simp only [World.questions, runBlock, hqueue, alerted, List.count_cons, beq_iff_eq,
        Block.killDialog.injEq] at hbefore ⊢
      simp only [hbefore]
      omega
  | opened hmain => exact hsame (questions_congr rfl (by simp [alerted, hmain]) rfl rfl)
  | reloaded hmain => exact hsame (questions_congr rfl (by simp [alerted, hmain]) rfl rfl)
  | @reload item todo hmain =>
    obtain ⟨_, hqueue, _, hdialogs, hsent, todo', hmain'⟩ := w.runReload_reloads item todo
    exact hsame (questions_congr (by rw [hqueue]) (by simp [alerted, hmain, hmain']) hdialogs hsent)
  | @alert e' host processID hmain =>
    have hnew : ((w.doc.objectAtRow w.doc.selectedRow).toList.map (fun r =>
        ({ entry := e', host := host, processID := processID, context := r } : Dialog))).countP
          (fun dialog => decide (dialog.entry = e)) ≤ if e' = e then 1 else 0 := by
      cases w.doc.objectAtRow w.doc.selectedRow <;> simp [List.countP_singleton]
    simp only [World.questions, beginSheet, alerted, hmain, List.countP_append]
    omega
  | openConfigSheet hmain => exact hsame (questions_congr rfl (by simp [alerted, hmain]) rfl rfl)
  | endConfigSheet hmain hsheet =>
    exact hsame (questions_congr rfl (by simp [alerted, beginReload, hmain]) rfl rfl)
  | reloadDataWatchers hmain hsheet =>
    exact hsame (questions_congr rfl (by simp [alerted, beginReload, hmain]) rfl rfl)
  | edit hmain hsheet => exact hsame rfl
  | quiet hmain hq => exact hq.questions e

theorem Moves.confirmed (hm : Moves w a s v) : v.sent = w.sent ++ (w.confirmed a).toList := by
  cases hm with
  | block hmain hqueue => unfold runBlock; split <;> simp [World.confirmed]
  | reload hmain =>
    rw [(runReload_reloads _ _).sent]
    simp [World.confirmed]
  | quiet hmain hq =>
    cases hq with
    | @killEnded i dialog accept connected junk hd =>
      cases accept <;> cases connected <;> simp [World.confirmed, hd]
    | _ => simp [World.confirmed]
  | _ => simp [World.confirmed, advanced, beginReload, beginSheet]

theorem step_sent (h : w.step a = some w') : w'.sent = w.sent ++ (w.confirmed a).toList := by
  obtain ⟨v, hm, rfl⟩ := step_moves h
  exact hm.confirmed

theorem step_questions (h : w.step a = some w') (e : EntryRef) :
    w'.questions e ≤ w.questions e + (w.pressed a).toList.count e := by
  obtain ⟨v, hm, rfl⟩ := step_moves h
  exact hm.questions e

end Presses

theorem kills_accounted {conf : Configuration} {sliderValue trackQuery : Int} {acts : List Act}
    {w : World} (hrun : Transition.run step Transition.anyStep (initial conf sliderValue trackQuery)
      acts = some w) :
    w.Accounted (Transition.outputs step pressed (initial conf sliderValue trackQuery) acts)
      (Transition.outputs step confirmed (initial conf sliderValue trackQuery) acts) := by
  have hsent := Transition.run_outputs (I := fun u confirmations => u.sent = confirmations)
    (fun u confirmations a t hi _ hstep => by rw [step_sent hstep, hi])
    (show (initial conf sliderValue trackQuery).sent = [] from rfl) hrun
  have hnone : ∀ e, (initial conf sliderValue trackQuery).questions e ≤
      ([] : List EntryRef).count e := fun _ => Nat.le_refl 0
  have hquestions : ∀ e, w.questions e ≤
      ([] ++ Transition.outputs step pressed (initial conf sliderValue trackQuery) acts).count e := by
    refine Transition.run_outputs (I := fun u presses => ∀ e, u.questions e ≤ presses.count e)
      (fun u presses a t hi _ hstep e => ?_) hnone hrun
    have hmore := step_questions hstep e
    have hbefore := hi e
    rw [List.count_append]
    omega
  exact ⟨hsent, hquestions⟩

-- The button is pressed twice, and one of the two dialogs is confirmed.
theorem kills_accounted_twice :
    let c := Configuration.onePool { active := some 1 } [3] (by decide) (fun _ => 1) (fun _ => 0)
    let row : QueryRow := { id := 8, host := "web", info := some [97], time := 9 }
    let acts : List Act := [.reloadDataWatchers, .mainThread, .mainThread, .mainThread] ++
      List.replicate 10 (.operation 1 { results := some [row] }) ++
      [.select 0, .killProcess, .killProcess] ++ List.replicate 5 .mainThread ++
      [.killEnded 0 true true (0, "")]
    ∃ w, Transition.run step Transition.anyStep (initial c 30 1) acts = some w ∧
      w.sent.length = 1 ∧ w.dialogs.length = 1 ∧
      w.Accounted (Transition.outputs step pressed (initial c 30 1) acts)
        (Transition.outputs step confirmed (initial c 30 1) acts) := by
  intro c row acts
  have hcheck : (Transition.run step Transition.anyStep (initial c 30 1) acts).any (fun w =>
      decide (w.sent.length = 1) && decide (w.dialogs.length = 1)) = true := by
    decide +kernel
  obtain ⟨w, hrun, hw⟩ := (Option.any_eq_true _ _).mp hcheck
  simp only [Bool.and_eq_true, decide_eq_true_eq] at hw
  exact ⟨w, hrun, hw.1, hw.2, kills_accounted hrun⟩

end World

end DBMonitor
