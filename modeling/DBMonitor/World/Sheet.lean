import DBMonitor.World.Liveness

namespace DBMonitor

-- No operation will start a successor, and no block will.
structure World.Stopped (w : World) : Prop where
  cancelled : ∀ op ∈ w.ops, op.isCancelled = true
  finishing : ∀ op ∈ w.ops, op.isPosting = false ∧ op.isRefreshing = false
  queue : ∀ b ∈ w.mainQueue, b.isReschedule = false

namespace PollState

def awaits : PollState → Bool
  | .queued => true
  | .clearing => true
  | .connecting => true
  | .fetching => true
  | _ => false

-- The steps to the end of an operation, as far as they are known before the process list is.
def remaining : PollState → Nat
  | .queued => 9
  | .clearing => 8
  | .connecting => 7
  | .fetching => 6
  | .filing _ rest => rest.length + 5
  | .replicating _ => 4
  | .failing => 4
  | .sweeping _ => 3
  | .checking => 2
  | .posting => 1

end PollState

def Body.awaits : Body → Nat
  | .poll _ state => if state.awaits then 1 else 0
  | .refresh _ => 0

def Body.remaining : Body → Nat
  | .poll _ state => state.remaining
  | .refresh _ => 1

namespace World

def work (w : World) : Nat ×ₗ Nat :=
  toLex ((w.ops.map (fun op => op.body.awaits)).sum, (w.ops.map (fun op => op.body.remaining)).sum)

-- The sheet finds no poll between its last cancellation test and its successor, and no refresh
-- past its own.
def opensStopped (w : World) (a : Act) : Bool :=
  match a with
  | .mainThread =>
    !decide (w.main = .opening) || w.settled && w.ops.all (fun op => !op.isRefreshing)
  | _ => true

structure SheetStops (w : World) : Prop where
  reloading : ∀ todo, w.main = .reloading todo → w.sheetOpen = false
  stopped : w.sheetOpen = true → w.Stopped

section Advance

theorem stopped_advance (c : Configuration) (x : Input) {op : Operation}
    (hcancelled : op.isCancelled = true) (hposting : op.isPosting = false)
    (hrefreshing : op.isRefreshing = false) :
    (op.advance c x).posts = none ∧ (op.advance c x).enqueues = none ∧
      ∀ b, (op.advance c x).body = some b →
        ({ op with body := b } : Operation).isPosting = false ∧
          ({ op with body := b } : Operation).isRefreshing = false ∧
          (b.awaits < op.body.awaits ∨
            b.awaits = op.body.awaits ∧ b.remaining < op.body.remaining) := by
  obtain ⟨body, isCancelled⟩ := op
  obtain rfl : isCancelled = true := hcancelled
  cases body with
  | refresh state =>
    cases state with
    | queued => simp [Operation.advance, RefreshState.advance]
    | _ => simp [Operation.isRefreshing] at hrefreshing
  | poll g state =>
    cases state with
    | posting => simp [Operation.isPosting] at hposting
    | connecting =>
      cases hc : x.connects <;>
        simp [Operation.advance, PollState.advance, hc, Operation.isPosting, Operation.isRefreshing,
          Body.awaits, Body.remaining, PollState.awaits, PollState.remaining]
    | fetching =>
      cases hr : x.results <;>
        simp [Operation.advance, PollState.advance, hr, Operation.isPosting, Operation.isRefreshing,
          Body.awaits, Body.remaining, PollState.awaits, PollState.remaining]
    | filing qualified rest =>
      cases rest with
      | nil =>
        simp [Operation.advance, PollState.advance, Operation.isPosting, Operation.isRefreshing,
          Body.awaits, Body.remaining, PollState.awaits, PollState.remaining]
      | cons row rest =>
        cases hq : Document.qualifies c g row <;>
          simp [Operation.advance, PollState.advance, hq, Operation.isPosting,
            Operation.isRefreshing, Body.awaits, Body.remaining, PollState.awaits,
            PollState.remaining]
    | _ =>
      simp [Operation.advance, PollState.advance, Operation.isPosting, Operation.isRefreshing,
        Body.awaits, Body.remaining, PollState.awaits, PollState.remaining]

end Advance

section Sheet
variable {w v : World} {a : Act} {s : Option Section}

theorem Stopped.no_reschedule (h : w.Stopped) {g : HostRef} {rest : List Block} :
    w.mainQueue ≠ .reschedule g :: rest := fun hqueue =>
  absurd (h.queue (.reschedule g) (hqueue ▸ List.mem_cons_self)) (by simp [Block.isReschedule])

theorem stopped_cancelAll (h : w.Stopped) {v : World} (hops : v.ops = cancelAllOperations w.ops)
    (hqueue : v.mainQueue = w.mainQueue) : v.Stopped := by
  refine ⟨fun op hop => ?_, fun op hop => ?_, hqueue ▸ h.queue⟩
  · rw [hops] at hop
    obtain ⟨op', _, rfl⟩ := List.mem_map.mp hop
    rfl
  · rw [hops] at hop
    obtain ⟨op', hop', rfl⟩ := List.mem_map.mp hop
    exact h.finishing op' hop'

theorem Stopped.advanced (h : w.Stopped) (x : Input) {l r : List Operation} {op : Operation}
    (hops : w.ops = l ++ op :: r) :
    (w.advanced l r op (op.advance w.doc.conf x)).Stopped := by
  have hmem : ∀ op', op' ∈ l ++ op :: r → op' ∈ w.ops := fun op' h => hops ▸ h
  have hop := hmem op (by simp)
  obtain ⟨hposts, henq, hbody⟩ := stopped_advance w.doc.conf x (h.cancelled op hop)
    (h.finishing op hop).1 (h.finishing op hop).2
  have hops' : (w.advanced l r op (op.advance w.doc.conf x)).ops =
      l ++ ((op.advance w.doc.conf x).body.map (fun b => { op with body := b })).toList ++ r := by
    simp [World.advanced, henq]
  refine ⟨fun op' hop' => ?_, fun op' hop' => ?_, ?_⟩
  · rw [hops', List.append_assoc, List.mem_append, List.mem_append] at hop'
    rcases hop' with hm | hm | hm
    · exact h.cancelled op' (hmem op' (by simp [hm]))
    · obtain ⟨b, _, rfl⟩ := Option.map_eq_some_iff.mp (Option.mem_toList.mp hm)
      exact h.cancelled op hop
    · exact h.cancelled op' (hmem op' (by simp [hm]))
  · rw [hops', List.append_assoc, List.mem_append, List.mem_append] at hop'
    rcases hop' with hm | hm | hm
    · exact h.finishing op' (hmem op' (by simp [hm]))
    · obtain ⟨b, hb, rfl⟩ := Option.map_eq_some_iff.mp (Option.mem_toList.mp hm)
      exact ⟨(hbody b hb).1, (hbody b hb).2.1⟩
    · exact h.finishing op' (hmem op' (by simp [hm]))
  · simpa [World.advanced, hposts] using h.queue

theorem Stopped.moves (h : w.Stopped) (hm : Moves w a s v) (hsheet : v.sheetOpen = true)
    (hmain : ∀ todo, w.main ≠ .reloading todo) : v.Stopped := by
  cases hm with
  | operation x hops => exact h.advanced x hops
  | @block b rest hidle hqueue =>
    have hrest : ∀ b' ∈ rest, b'.isReschedule = false := fun b' hb' =>
      h.queue b' (hqueue ▸ List.mem_cons_of_mem b hb')
    cases b with
    | reschedule g => exact absurd hqueue h.no_reschedule
    | killDialog e => exact ⟨h.cancelled, h.finishing, hrest⟩
  | opened hopening => exact stopped_cancelAll h rfl rfl
  | reloaded hreload => exact absurd hreload (hmain _)
  | reload hreload => exact absurd hreload (hmain _)
  | alert halert => exact ⟨h.cancelled, h.finishing, h.queue⟩
  | openConfigSheet hidle => exact stopped_cancelAll h rfl rfl
  | endConfigSheet hidle hopen => cases hsheet
  | reloadDataWatchers hidle hopen => cases hsheet
  | edit hidle hopen => exact h
  | quiet hidle hq =>
    cases hq with
    | killProcess =>
      refine ⟨h.cancelled, h.finishing, fun b hb => ?_⟩
      rcases List.mem_append.mp hb with hm | hm
      · exact h.queue b hm
      · obtain ⟨e, _, rfl⟩ := List.mem_map.mp hm
        rfl
    | killEnded accept connected junk hd => exact ⟨h.cancelled, h.finishing, h.queue⟩
    | _ => exact h

theorem stopped_opened (hops : w.ops.all (fun op => !op.isRefreshing) = true)
    (hsettled : w.settled = true) {v : World} (hv : v.ops = cancelAllOperations w.ops)
    (hqueue : v.mainQueue = w.mainQueue) : v.Stopped := by
  simp only [settled, Bool.and_eq_true, List.all_eq_true, Bool.not_eq_true'] at hsettled hops
  refine ⟨fun op hop => ?_, fun op hop => ?_, hqueue ▸ hsettled.2⟩
  · rw [hv] at hop
    obtain ⟨op', _, rfl⟩ := List.mem_map.mp hop
    rfl
  · rw [hv] at hop
    obtain ⟨op', hop', rfl⟩ := List.mem_map.mp hop
    exact ⟨hsettled.1 op' hop', hops op' hop'⟩

theorem SheetStops.moves (hi : w.SheetStops) (hg : w.opensStopped a = true)
    (hm : Moves w a s v) : v.SheetStops := by
  have hclosed : ∀ todo, w.main = .reloading todo → w.sheetOpen = true → False := by
    intro todo hmain hopen
    rw [hi.reloading todo hmain] at hopen
    cases hopen
  constructor
  · intro todo hmain
    cases hm with
    | operation x hops => exact hi.reloading todo hmain
    | @block b rest hidle hqueue =>
      cases b with
      | reschedule g => exact absurd (hidle.symm.trans hmain) (by simp)
      | killDialog e => cases hmain
    | reload hreload => exact (w.runReload_reloads _ _).sheetOpen.trans (hi.reloading _ hreload)
    | endConfigSheet hidle hopen => rfl
    | reloadDataWatchers hidle hopen => rfl
    | edit hidle hopen => exact absurd (hidle.symm.trans hmain) (by simp)
    | quiet hidle hq => exact absurd (hidle.symm.trans (hq.main.symm.trans hmain)) (by simp)
    | _ => cases hmain
  · intro hsheet
    have hkept : w.sheetOpen = true → v.Stopped := fun hopen =>
      (hi.stopped hopen).moves hm hsheet (fun todo hmain => hclosed todo hmain hopen)
    cases hm with
    | operation x hops => exact hkept hsheet
    | @block b rest hidle hqueue =>
      exact hkept (by unfold runBlock at hsheet; split at hsheet <;> exact hsheet)
    | opened hopening =>
      simp only [opensStopped, hopening, decide_true, Bool.not_true, Bool.false_or,
        Bool.and_eq_true] at hg
      exact stopped_opened hg.2 hg.1 rfl rfl
    | reload hreload => exact hkept ((w.runReload_reloads _ _).sheetOpen ▸ hsheet)
    | endConfigSheet hidle hopen => cases hsheet
    | reloadDataWatchers hidle hopen => cases hsheet
    | quiet hidle hq => exact hkept (by cases hq <;> exact hsheet)
    | _ => exact hkept hsheet

theorem SheetStops.step (hi : w.SheetStops) (hg : w.opensStopped a = true) {w' : World}
    (h : w.step a = some w') : w'.SheetStops := by
  obtain ⟨v, hm, rfl⟩ := step_moves h
  have hv := hi.moves hg hm
  exact ⟨hv.reloading, fun hopen =>
    ⟨(hv.stopped hopen).cancelled, (hv.stopped hopen).finishing, (hv.stopped hopen).queue⟩⟩

end Sheet

section Drains
variable {w v : World} {a : Act} {s : Option Section}

theorem work_lt_iff : v.work < w.work ↔
    (v.ops.map (fun op => op.body.awaits)).sum < (w.ops.map (fun op => op.body.awaits)).sum ∨
      (v.ops.map (fun op => op.body.awaits)).sum = (w.ops.map (fun op => op.body.awaits)).sum ∧
        (v.ops.map (fun op => op.body.remaining)).sum <
          (w.ops.map (fun op => op.body.remaining)).sum := by
  simp only [work, Prod.Lex.toLex_lt_toLex]

theorem work_congr (h : v.ops.map Operation.body = w.ops.map Operation.body) :
    v.work = w.work := by
  have hsum : ∀ f : Body → Nat,
      (v.ops.map (fun op => f op.body)).sum = (w.ops.map (fun op => f op.body)).sum := by
    intro f
    have hmap := congrArg (fun bodies => (bodies.map f).sum) h
    simp only [List.map_map] at hmap
    exact hmap
  rw [work, work, hsum, hsum]

theorem remaining_pos (b : Body) : 0 < b.remaining := by
  cases b with
  | refresh state => exact Nat.one_pos
  | poll g state => cases state <;> simp [Body.remaining, PollState.remaining]

theorem Stopped.work (h : w.Stopped) (x : Input) {l r : List Operation} {op : Operation}
    (hops : w.ops = l ++ op :: r) :
    (w.advanced l r op (op.advance w.doc.conf x)).work < w.work := by
  have hop : op ∈ w.ops := by simp [hops]
  obtain ⟨_, henq, hbody⟩ := stopped_advance w.doc.conf x (h.cancelled op hop)
    (h.finishing op hop).1 (h.finishing op hop).2
  rw [work_lt_iff]
  simp only [World.advanced, hops, henq, Option.toList_none, List.append_nil, List.map_append,
    List.map_cons, List.sum_append, List.sum_cons]
  cases hb : (op.advance w.doc.conf x).body with
  | none =>
    have hpos := remaining_pos op.body
    simp only [Option.map_none, Option.toList_none, List.map_nil, List.sum_nil]
    omega
  | some b =>
    have hless := (hbody b hb).2.2
    simp only [Option.map_some, Option.toList_some, List.map_cons, List.map_nil, List.sum_cons,
      List.sum_nil]
    omega

def isOperation : Act → Bool
  | .operation _ _ => true
  | _ => false

structure Drains (w : World) : Prop where
  sheetOpen : w.sheetOpen = true
  stopped : w.Stopped
  main : ∀ todo, w.main ≠ .reloading todo

theorem cancelAll_map (ops : List Operation) :
    (cancelAllOperations ops).map Operation.body = ops.map Operation.body := by
  rw [cancelAllOperations, List.map_map]
  rfl

theorem Drains.moves (hi : w.Drains) (hm : Moves w a s v) (ha : a ≠ .endConfigSheet) :
    v.Drains ∧ (v.work < w.work ∨ v.work = w.work ∧ isOperation a = false) := by
  have hopen : v.sheetOpen = true := by
    cases hm with
    | block hidle hqueue => unfold runBlock; split <;> exact hi.sheetOpen
    | opened hmain => rfl
    | reload hmain => exact absurd hmain (hi.main _)
    | endConfigSheet hidle hsheet => exact absurd rfl ha
    | reloadDataWatchers hidle hsheet => exact absurd hi.sheetOpen (by simp [hsheet])
    | quiet hidle hq => cases hq <;> exact hi.sheetOpen
    | _ => exact hi.sheetOpen
  refine ⟨⟨hopen, hi.stopped.moves hm hopen hi.main, ?_⟩, ?_⟩
  · intro todo
    cases hm with
    | operation x hops => exact hi.main todo
    | @block b rest hidle hqueue => cases b <;> simp [runBlock, hidle]
    | reload hmain => exact absurd hmain (hi.main _)
    | endConfigSheet hidle hsheet => exact absurd rfl ha
    | reloadDataWatchers hidle hsheet => exact absurd hi.sheetOpen (by simp [hsheet])
    | edit hidle hsheet => exact hi.main todo
    | quiet hidle hq => exact hq.main ▸ hi.main todo
    | _ => simp [beginSheet]
  · cases hm with
    | operation x hops => exact Or.inl (hi.stopped.work x hops)
    | @block b rest hidle hqueue =>
      cases b with
      | reschedule g => exact absurd hqueue hi.stopped.no_reschedule
      | killDialog e => exact Or.inr ⟨rfl, rfl⟩
    | opened hmain => exact Or.inr ⟨work_congr (cancelAll_map w.ops), rfl⟩
    | reload hmain => exact absurd hmain (hi.main _)
    | openConfigSheet hidle => exact Or.inr ⟨work_congr (cancelAll_map w.ops), rfl⟩
    | endConfigSheet hidle hsheet => exact absurd rfl ha
    | reloadDataWatchers hidle hsheet => exact absurd hi.sheetOpen (by simp [hsheet])
    | quiet hidle hq => cases hq <;> exact Or.inr ⟨rfl, rfl⟩
    | _ => exact Or.inr ⟨rfl, rfl⟩

theorem Drains.step (hi : w.Drains) (ha : a ≠ .endConfigSheet) {w' : World}
    (h : w.step a = some w') :
    w'.Drains ∧ (w'.work < w.work ∨ w'.work = w.work ∧ isOperation a = false) := by
  obtain ⟨v, hm, rfl⟩ := step_moves h
  obtain ⟨⟨hsheet, hstopped, hmain⟩, hwork⟩ := hi.moves hm ha
  exact ⟨⟨hsheet, ⟨hstopped.cancelled, hstopped.finishing, hstopped.queue⟩, hmain⟩, hwork⟩

theorem Drains.still (hi : w.Drains) (hm : Moves w a s v) (ha : a ≠ .endConfigSheet)
    (hops : w.ops = []) : v.ops = [] := by
  have hbodies : ∀ op ∈ v.ops, False := by
    intro op hop
    cases hm with
    | operation x hsplit => simp [hsplit] at hops
    | @block b rest hidle hqueue =>
      cases b with
      | reschedule g => exact absurd hqueue hi.stopped.no_reschedule
      | killDialog e => simp [runBlock, hops] at hop
    | reload hmain => exact absurd hmain (hi.main _)
    | endConfigSheet hidle hsheet => exact absurd rfl ha
    | reloadDataWatchers hidle hsheet => exact absurd hi.sheetOpen (by simp [hsheet])
    | quiet hidle hq => cases hq <;> simp [hops] at hop
    | _ => simp [cancelAllOperations, beginSheet, hops] at hop
  exact List.eq_nil_iff_forall_not_mem.mpr hbodies

theorem operation_enabled (hops : w.ops ≠ []) :
    Transition.Enabled step (serves (fun _ => true) .queue) w := by
  obtain ⟨op, r, hcons⟩ := List.exists_cons_of_ne_nil hops
  have hget : w.ops[0]? = some op := by simp [hcons]
  have hstep : w.step (.operation 0 {}) = (w.runOperation 0 {}).map (fun p => p.2.execute p.1) := rfl
  rw [runOperation, hget] at hstep
  exact ⟨.operation 0 {}, _, ⟨0, {}, op, rfl, hget, rfl⟩, hstep⟩

theorem sheet_drains {conf : Configuration} {sliderValue trackQuery : Int} {acts : List Act}
    {r : Transition.InfiniteRun step}
    (hstart : Transition.run step opensStopped (initial conf sliderValue trackQuery) acts =
      some (r.state 0))
    (hopen : (r.state 0).sheetOpen = true) (hstays : ∀ n, r.act n ≠ .endConfigSheet)
    (hfair : Transition.WeaklyFair r (serves (fun _ => true) .queue)) :
    ∃ n, ∀ m, n ≤ m → (r.state m).ops = [] := by
  have hstops : (r.state 0).SheetStops := by
    refine Transition.run_invariant (I := SheetStops) (fun _ _ _ hi hg hs => hi.step hg hs) ?_ hstart
    exact ⟨fun _ _ => rfl, fun h => absurd h (by simp [initial])⟩
  have hdrains : (r.state 0).Drains := by
    refine ⟨hopen, hstops.stopped hopen, fun todo hmain => ?_⟩
    rw [hstops.reloading todo hmain] at hopen
    cases hopen
  have hall := r.invariant (K := fun _ a => a ≠ .endConfigSheet) (fun m _ => hstays m) hdrains
    (fun _ _ _ hi ha hs => (hi.step ha hs).1)
  obtain ⟨n, _, hstill⟩ := r.eventually_still (K := fun _ a => a ≠ .endConfigSheet)
    (fun _ a => isOperation a = true) World.work (fun m _ => hstays m)
    (fun _ _ _ hi ha hs => (hi.step ha hs).1)
    (fun _ _ _ hi ha hs => (hi.step ha hs).2.imp_right (And.imp_right (by simp))) hdrains
  have hempty : ∃ m, n ≤ m ∧ (r.state m).ops = [] := by
    by_contra hbusy
    push Not at hbusy
    obtain ⟨m, hm, i, x, _, hact, _⟩ :=
      hfair n (fun m hm => operation_enabled (hbusy m hm))
    exact hstill m hm (by rw [hact]; rfl)
  obtain ⟨m, hm, hops⟩ := hempty
  refine ⟨m, fun k hk => ?_⟩
  induction k, hk using Nat.le_induction with
  | base => exact hops
  | succ k hk ih =>
    obtain ⟨v, hmoves, hv⟩ := step_moves (r.steps k)
    have hsame : v.ops = [] := (hall k (by omega)).still hmoves (hstays k) ih
    rw [hv]
    exact hsame

section SheetRun

def sheetRow : QueryRow := { id := 7, host := "web", info := some [97], time := 3 }

def pollingSheet : World where
  doc := (Document.initial cycleConf 30 1).runSections [.clearUpdates 3]
  ops := cancelAllOperations [generateRefreshOperation, { body := .poll 3 .fetching }]
  sheetOpen := true

def drainedSheet : World where
  doc := pollingSheet.doc.runSections [.updateRow 0 3 sheetRow, .discardMySQLDead 3]
  sheetOpen := true

-- The refresh has not begun; the poll still files its row and sweeps before it stops.
def drainActs : List Act :=
  [.operation 0 {}, .operation 0 { results := some [sheetRow] }] ++
    List.replicate 5 (.operation 0 {})

theorem pollingSheet_start : Transition.run step opensStopped (initial cycleConf 30 1)
    ([.reloadDataWatchers, .mainThread, .mainThread, .mainThread] ++
      List.replicate 3 (.operation 1 {}) ++ [.openConfigSheet, .mainThread]) =
      some pollingSheet := rfl

theorem pollingSheet_drops :
    Transition.run step Transition.anyStep pollingSheet drainActs = some drainedSheet := rfl

theorem drainedSheet_loop :
    Transition.run step Transition.anyStep drainedSheet [.select (-1)] = some drainedSheet := rfl

def idleRun : Transition.InfiniteRun step := .cycle drainedSheet_loop (by decide)

def drainRun : Transition.InfiniteRun step := idleRun.prepend pollingSheet_drops

theorem idleRun_state (n : Nat) : idleRun.state n = drainedSheet := by
  have hzero : idleRun.state n = idleRun.state 0 := by
    simp only [idleRun, Transition.InfiniteRun.cycle, Transition.InfiniteRun.rounds,
      List.length_singleton, Nat.mod_one]
  rw [hzero]
  rfl

theorem drainRun_fair : Transition.WeaklyFair drainRun (serves (fun _ => true) .queue) := by
  refine Transition.InfiniteRun.prepend_fair _ pollingSheet_drops (fun n henabled => ?_)
  obtain ⟨_, _, ⟨i, x, op, rfl, hop, _⟩, _⟩ := henabled n (Nat.le_refl n)
  rw [idleRun_state] at hop
  cases hop

end SheetRun

theorem sheet_drains_polling : (drainRun.state 0).ops.length = 2 ∧
    ∃ n, ∀ m, n ≤ m → (drainRun.state m).ops = [] := by
  refine ⟨rfl, sheet_drains pollingSheet_start rfl (fun n => ?_) drainRun_fair⟩
  have hdrops : ∀ a ∈ drainActs, a ≠ .endConfigSheet := by
    intro a ha
    rcases List.mem_append.mp ha with hm | hm
    · rcases List.mem_pair.mp hm with rfl | rfl <;> nofun
    · rw [List.eq_of_mem_replicate hm]
      nofun
  have hidle : ∀ a ∈ [Act.select (-1)], a ≠ .endConfigSheet := by
    intro a ha
    rw [List.mem_singleton.mp ha]
    nofun
  exact Transition.InfiniteRun.prepend_acts (P := fun a => a ≠ Act.endConfigSheet) idleRun
    pollingSheet_drops hdrops (fun k => hidle (idleRun.act k) (List.get_mem _ _)) n

end Drains

end World

end DBMonitor
