import DBMonitor.World.Moves

namespace DBMonitor

def Operation.refreshes (op : Operation) : Bool :=
  op.isRefresh && (!op.isCancelled || op.isRefreshing)

namespace World

def refreshOperations (w : World) : Nat :=
  w.ops.countP (fun op => op.isRefresh && !op.isCancelled)

def loops (w : World) : Nat := w.ops.countP Operation.refreshes

def seeds (w : World) : Nat :=
  match w.main with
  | .reloading todo => todo.count .seedRefresh
  | _ => 0

def reloads : Act → Bool
  | .endConfigSheet => true
  | .reloadDataWatchers => true
  | _ => false

-- A reload finds no refresh operation past its cancellation check.
def reloadsBetween (w : World) (a : Act) : Bool :=
  !reloads a || w.ops.all (fun op => !op.isRefreshing)

def OneLoop (w : World) : Prop := w.loops + w.seeds ≤ 1

section Loops
variable {w v : World} {a : Act} {s : Option Section}

theorem advance_refreshes (c : Configuration) (x : Input) (op : Operation) :
    (((op.advance c x).body.map (fun b => { op with body := b })).toList).countP
          Operation.refreshes +
        ((op.advance c x).enqueues.toList).countP Operation.refreshes ≤
      if op.refreshes then 1 else 0 := by
  obtain ⟨body, isCancelled⟩ := op
  cases body with
  | refresh state =>
    obtain ⟨_, ⟨rfl, hbody, henq⟩ | ⟨_, henq, ⟨_, _, hbody⟩ | ⟨next, hbody, hnext, hlive⟩⟩⟩ :=
      RefreshState.advance_cases isCancelled x state
    · simp [Operation.advance, hbody, henq, Operation.refreshes, Operation.isRefresh,
        Operation.isRefreshing, generateRefreshOperation]
    · simp [Operation.advance, hbody, henq]
    · have hop : ({ body := .refresh state, isCancelled := isCancelled } : Operation).refreshes =
          true := by
        cases state with
        | queued => simp [Operation.refreshes, Operation.isRefresh, hlive rfl]
        | _ => simp [Operation.refreshes, Operation.isRefresh, Operation.isRefreshing]
      rw [hop]
      simp [Operation.advance, hbody, henq, List.countP_singleton]
      split <;> simp
  | poll g state =>
    obtain ⟨henq, ⟨_, hbody, _⟩ | ⟨_, _, ⟨_, hbody⟩ | ⟨next, hbody, _⟩⟩⟩ :=
      PollState.advance_cases c g isCancelled x state <;>
      simp [Operation.advance, hbody, henq, Operation.refreshes, Operation.isRefresh]

theorem countP_cancelled (ops : List Operation) :
    (cancelAllOperations ops).countP Operation.refreshes ≤ ops.countP Operation.refreshes := by
  rw [cancelAllOperations, List.countP_map]
  refine List.countP_mono_left (fun op _ h => ?_)
  simp only [Function.comp_apply, Operation.refreshes, Bool.and_eq_true, Bool.or_eq_true] at h ⊢
  exact ⟨h.1, Or.inr (h.2.resolve_left (by simp))⟩

theorem OneLoop.still (hi : w.OneLoop) (hloops : v.loops ≤ w.loops) (hseeds : v.seeds = 0) :
    v.OneLoop := by
  unfold OneLoop at hi ⊢
  omega

theorem OneLoop.reload (hi : w.OneLoop) {item : ReloadItem} {todo : List ReloadItem}
    (hmain : w.main = .reloading (item :: todo)) : (w.runReload item todo).2.OneLoop := by
  simp only [OneLoop, seeds, hmain, List.count_cons] at hi
  cases item with
  | seedRefresh =>
    have hloops : (w.runReload .seedRefresh todo).2.loops = w.loops + 1 := by
      simp [loops, runReload, generateRefreshOperation, Operation.refreshes, Operation.isRefresh]
    have hseeds : (w.runReload .seedRefresh todo).2.seeds = todo.count .seedRefresh := rfl
    simp only [OneLoop, hloops, hseeds]
    simp at hi
    omega
  | sweep g => simpa [OneLoop, loops, seeds, runReload] using hi
  | visit g =>
    cases hactive : w.doc.conf.isActive g <;>
      simpa [OneLoop, loops, seeds, runReload, hactive, generateMySQLOperation,
        Operation.refreshes, Operation.isRefresh] using hi

theorem beginReload_oneLoop (hg : w.ops.all (fun op => !op.isRefreshing) = true) :
    w.beginReload.OneLoop := by
  have hloops : w.beginReload.loops = 0 := by
    refine List.countP_eq_zero.mpr (fun op hop => ?_)
    obtain ⟨op', hop', rfl⟩ := List.mem_map.mp hop
    have hn := List.all_eq_true.mp hg op' hop'
    simp only [Operation.refreshes, Operation.isRefreshing, Bool.not_eq_true'] at hn ⊢
    simp [hn]
  have hseeds : w.beginReload.seeds = 1 := by
    simp [seeds, beginReload, List.count_eq_zero]
  rw [OneLoop, hloops, hseeds]

theorem OneLoop.moves (hi : w.OneLoop) (hg : w.reloadsBetween a = true) (h : Moves w a s v) :
    v.OneLoop := by
  cases h with
  | @operation l r op x hops =>
    have ha := advance_refreshes w.doc.conf x op
    have hseeds : (w.advanced l r op (op.advance w.doc.conf x)).seeds = w.seeds := rfl
    simp only [OneLoop, hseeds] at hi ⊢
    simp only [loops, advanced, hops, List.countP_append, List.countP_cons] at hi ⊢
    omega
  | @block b rest hmain hqueue =>
    cases b with
    | reschedule g =>
      refine hi.still (Nat.le_of_eq ?_) (by simp [seeds, runBlock, hmain])
      simp [loops, runBlock, generateMySQLOperation, Operation.refreshes, Operation.isRefresh]
    | killDialog e => exact hi.still (Nat.le_refl _) (by simp [seeds, runBlock])
  | opened hmain => exact hi.still (countP_cancelled w.ops) (by simp [seeds])
  | reloaded hmain => exact hi.still (Nat.le_refl _) (by simp [seeds])
  | reload hmain => exact hi.reload hmain
  | alert hmain => exact hi.still (Nat.le_refl _) (by simp [seeds, beginSheet])
  | openConfigSheet hmain => exact hi.still (countP_cancelled w.ops) (by simp [seeds])
  | endConfigSheet hmain hsheet =>
    exact beginReload_oneLoop (by simpa [reloadsBetween, reloads] using hg)
  | reloadDataWatchers hmain hsheet =>
    exact beginReload_oneLoop (by simpa [reloadsBetween, reloads] using hg)
  | edit hmain hsheet => exact hi
  | quiet hmain hq => cases hq <;> exact hi

end Loops

theorem one_refresh_chain {conf : Configuration} {sliderValue trackQuery : Int} {acts : List Act}
    {w : World}
    (h : Transition.run step reloadsBetween (initial conf sliderValue trackQuery) acts = some w) :
    w.refreshOperations ≤ 1 := by
  have hi : w.OneLoop := by
    refine Transition.run_invariant (I := OneLoop) ?_ ?_ h
    · intro u a u' hu hg hs
      obtain ⟨v, hm, rfl⟩ := step_moves hs
      have hv : v.OneLoop := hu.moves hg hm
      exact hv
    · simp [OneLoop, loops, seeds, initial]
  have hle : w.refreshOperations ≤ w.loops := by
    refine List.countP_mono_left (fun op _ hop => ?_)
    simp only [Bool.and_eq_true] at hop
    simp [Operation.refreshes, hop.1, hop.2]
  unfold OneLoop at hi
  omega

theorem one_refresh_chain_reloaded :
    let c := Configuration.onePool { active := some 1 } [3] (by decide) (fun _ => 1) (fun _ => 0)
    let acts : List Act := [.reloadDataWatchers, .mainThread, .mainThread, .mainThread,
      .openConfigSheet, .mainThread, .endConfigSheet, .mainThread, .operation 2 {},
      .operation 2 {}, .operation 2 {}, .operation 2 {}]
    let w := (Transition.run step reloadsBetween (initial c 30 1) acts).get (by decide +kernel)
    w.refreshOperations ≤ 1 := by
  intro c acts w
  have hrun : Transition.run step reloadsBetween (initial c 30 1) acts = some w :=
    (Option.some_get _).symm
  exact one_refresh_chain hrun

theorem reload_duplicates_refresh :
    let c := Configuration.onePool { active := some 1 } [3] (by decide) (fun _ => 1) (fun _ => 0)
    let acts : List Act := [.reloadDataWatchers, .mainThread, .mainThread, .mainThread,
      .operation 0 {}, .openConfigSheet, .mainThread, .endConfigSheet, .mainThread, .mainThread,
      .mainThread, .operation 0 {}, .operation 0 {}, .operation 0 {}]
    ∃ w, Transition.run step Transition.anyStep (initial c 30 1) acts = some w ∧
      w.refreshOperations = 2 := by
  intro c acts
  exact ⟨(Transition.run step Transition.anyStep (initial c 30 1) acts).get (by decide +kernel),
    (Option.some_get _).symm, by decide +kernel⟩

end World

end DBMonitor
