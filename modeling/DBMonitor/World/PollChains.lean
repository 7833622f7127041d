import DBMonitor.World.Moves

namespace DBMonitor

def Operation.continues (aHost : HostRef) (op : Operation) : Bool :=
  !op.isCancelled && op.isPollOf aHost

def Block.isReschedule : Block → Bool
  | .reschedule _ => true
  | .killDialog _ => false

namespace World

def chains (w : World) (aHost : HostRef) : Nat :=
  w.ops.countP (Operation.continues aHost) + w.mainQueue.count (.reschedule aHost)

def visits (w : World) (aHost : HostRef) : Nat :=
  match w.main with
  | .reloading todo => todo.count (.visit aHost)
  | _ => 0

def cancelsAll (w : World) : Act → Bool
  | .openConfigSheet => true
  | .endConfigSheet => true
  | .reloadDataWatchers => true
  | .mainThread => decide (w.main = .opening)
  | _ => false

-- No poll operation is between its last cancellation test and its rescheduled successor.
def settled (w : World) : Bool :=
  w.ops.all (fun op => !op.isPosting) && w.mainQueue.all (fun b => !b.isReschedule)

def cancelsSettled (w : World) (a : Act) : Bool := !w.cancelsAll a || w.settled

structure OneChain (w : World) : Prop where
  cancelled : ∀ op ∈ w.ops, op.isCancelled = true → op.isPosting = false
  configuring : w.sheetOpen = true ∨ w.main = .opening → ∀ h, w.chains h = 0
  reloading : ∀ todo, w.main = .reloading todo → w.sheetOpen = false
  bounded : ∀ h, w.chains h + w.visits h ≤ 1
  active : ∀ h, 0 < w.chains h → w.doc.conf.isActive h = true

section Chains
variable {w : World} {h : HostRef}

theorem countP_cancelAll (ops : List Operation) :
    (cancelAllOperations ops).countP (Operation.continues h) = 0 := by
  refine List.countP_eq_zero.mpr (fun op hop => ?_)
  obtain ⟨op', _, rfl⟩ := List.mem_map.mp hop
  simp [Operation.continues]

theorem cancelAll_posting (hs : w.settled = true) :
    ∀ op ∈ cancelAllOperations w.ops, op.isPosting = false := by
  intro op hop
  obtain ⟨op', hop', rfl⟩ := List.mem_map.mp hop
  simp only [settled, Bool.and_eq_true, List.all_eq_true] at hs
  simpa [Operation.isPosting] using hs.1 op' hop'

theorem settled_queue (hs : w.settled = true) : w.mainQueue.count (.reschedule h) = 0 := by
  simp only [settled, Bool.and_eq_true, List.all_eq_true] at hs
  refine List.count_eq_zero.mpr (fun hm => ?_)
  simpa [Block.isReschedule] using hs.2 _ hm

theorem advance_continues (c : Configuration) (x : Input) {op : Operation}
    (hop : op.isCancelled = true → op.isPosting = false) :
    (((op.advance c x).body.map (fun b => { op with body := b })).toList).countP
          (Operation.continues h) +
        ((op.advance c x).enqueues.toList).countP (Operation.continues h) +
        ((op.advance c x).posts.toList).count (.reschedule h) ≤
      if op.continues h then 1 else 0 := by
  obtain ⟨body, isCancelled⟩ := op
  cases body with
  | refresh state =>
    obtain ⟨hposts, ⟨_, hbody, henq⟩ | ⟨_, henq, ⟨_, _, hbody⟩ | ⟨next, hbody, _⟩⟩⟩ :=
      RefreshState.advance_cases isCancelled x state <;>
      simp [Operation.advance, hposts, hbody, henq, Operation.continues, Operation.isPollOf,
        generateRefreshOperation]
  | poll g state =>
    obtain ⟨henq, ⟨rfl, hbody, hposts⟩ | ⟨_, hposts, ⟨_, hbody⟩ | ⟨next, hbody, _⟩⟩⟩ :=
      PollState.advance_cases c g isCancelled x state
    · have hlive : isCancelled = false := by
        by_contra hc
        exact absurd (hop (by simpa using hc)) (by simp [Operation.isPosting])
      subst hlive
      simp [Operation.advance, PollState.advance, Operation.continues, Operation.isPollOf,
        List.count_singleton]
    · simp [Operation.advance, hposts, hbody, henq]
    · simp [Operation.advance, hposts, hbody, henq, Operation.continues, Operation.isPollOf,
        List.countP_singleton]

theorem advance_posting (c : Configuration) (x : Input) {op op' : Operation}
    (hm : op' ∈ ((op.advance c x).body.map (fun b => { op with body := b })).toList ++
      (op.advance c x).enqueues.toList) (hc : op'.isCancelled = true) : op'.isPosting = false := by
  obtain ⟨body, isCancelled⟩ := op
  cases body with
  | refresh state =>
    obtain ⟨_, ⟨_, hbody, henq⟩ | ⟨_, henq, ⟨_, _, hbody⟩ | ⟨next, hbody, _⟩⟩⟩ :=
      RefreshState.advance_cases isCancelled x state <;>
      simp [Operation.advance, hbody, henq] at hm <;> subst hm <;> rfl
  | poll g state =>
    obtain ⟨henq, ⟨rfl, hbody, _⟩ | ⟨_, _, ⟨_, hbody⟩ | ⟨next, hbody, hnext⟩⟩⟩ :=
      PollState.advance_cases c g isCancelled x state <;>
      simp [Operation.advance, hbody, henq] at hm
    subst hm
    cases next with
    | posting =>
      rw [hnext rfl] at hc
      exact absurd hc (by simp)
    | _ => rfl

variable {v : World} {a : Act} {s : Option Section}

theorem OneChain.operation (hi : w.OneChain) {l r : List Operation} {op : Operation} (x : Input)
    (hops : w.ops = l ++ op :: r) :
    (∀ h, (w.advanced l r op (op.advance w.doc.conf x)).chains h ≤ w.chains h) ∧
      ∀ op' ∈ (w.advanced l r op (op.advance w.doc.conf x)).ops,
        op'.isCancelled = true → op'.isPosting = false := by
  have hop : op.isCancelled = true → op.isPosting = false :=
    hi.cancelled op (by rw [hops]; simp)
  constructor
  · intro h
    have hc := advance_continues (h := h) w.doc.conf x hop
    simp only [chains, advanced, hops, List.countP_append, List.countP_cons, List.count_append]
    omega
  · intro op' hop' hcancelled
    simp only [advanced, List.append_assoc, List.mem_append] at hop'
    rcases hop' with hm | hm | hm | hm
    · exact hi.cancelled op' (by rw [hops]; simp [hm]) hcancelled
    · exact advance_posting w.doc.conf x (List.mem_append.mpr (Or.inl hm)) hcancelled
    · exact hi.cancelled op' (by rw [hops]; simp [hm]) hcancelled
    · exact advance_posting w.doc.conf x (List.mem_append.mpr (Or.inr hm)) hcancelled

theorem chains_cancelAll (hs : w.settled = true) (v : World)
    (hops : v.ops = cancelAllOperations w.ops) (hqueue : v.mainQueue = w.mainQueue) :
    v.chains h = 0 := by
  rw [chains, hops, hqueue, countP_cancelAll, settled_queue hs]

theorem count_visit (c : Configuration) :
    (ReloadItem.seedRefresh :: c.hosts.map .visit).count (.visit h) ≤ 1 := by
  have hinj : Function.Injective ReloadItem.visit := fun _ _ heq => ReloadItem.visit.inj heq
  rw [List.count_cons, List.count_map_of_injective _ _ hinj]
  simpa using List.nodup_iff_count_le_one.mp c.hosts_nodup h

theorem OneChain.cancelAll (hs : w.settled = true) (hops : v.ops = cancelAllOperations w.ops)
    (hqueue : v.mainQueue = w.mainQueue)
    (hmain : ∀ todo, v.main = .reloading todo → v.sheetOpen = false)
    (hvisits : ∀ h, v.visits h ≤ 1) : v.OneChain := by
  have hzero : ∀ h, v.chains h = 0 := fun h => chains_cancelAll hs v hops hqueue
  refine ⟨fun op hop _ => cancelAll_posting hs op (hops ▸ hop), fun _ h => hzero h, hmain, ?_, ?_⟩
  · intro h
    rw [hzero, Nat.zero_add]
    exact hvisits h
  · intro h hpos
    rw [hzero] at hpos
    exact absurd hpos (Nat.lt_irrefl 0)

theorem OneChain.beginReload (hs : w.settled = true) : w.beginReload.OneChain :=
  OneChain.cancelAll hs rfl rfl (fun _ _ => rfl) (fun _ => count_visit w.doc.conf)

theorem OneChain.execute (hi : v.OneChain)
    (hs : (∀ conf, s ≠ some (.edit conf)) ∨ v.sheetOpen = true) : (v.execute s).OneChain where
  cancelled := hi.cancelled
  configuring := hi.configuring
  reloading := hi.reloading
  bounded := hi.bounded
  active h hpos := by
    rcases hs with hs | hs
    · have hconf : (v.execute s).doc.conf = v.doc.conf := by
        cases s with
        | none => rfl
        | some s => exact Document.exec_conf (fun conf heq => hs conf (congrArg some heq))
      rw [hconf]
      exact hi.active h hpos
    · have hzero : (v.execute s).chains h = 0 := hi.configuring (Or.inl hs) h
      omega

section Reload
variable (w) (item : ReloadItem) (todo : List ReloadItem)

theorem runReload_ops : ∀ op ∈ (w.runReload item todo).2.ops, op ∈ w.ops ∨ op.isPosting = false := by
  intro op hop
  cases item with
  | seedRefresh =>
    refine (List.mem_append.mp hop).imp_right (fun hm => ?_)
    rw [List.mem_singleton.mp hm]
    rfl
  | sweep g => exact Or.inl hop
  | visit g =>
    simp only [runReload] at hop
    split at hop
    · refine (List.mem_append.mp hop).imp_right (fun hm => ?_)
      rw [List.mem_singleton.mp hm]
      rfl
    · exact Or.inl hop

theorem runReload_chains (h : HostRef) :
    (w.runReload item todo).2.chains h = w.chains h ∨
      (item = .visit h ∧ w.doc.conf.isActive h = true ∧
        (w.runReload item todo).2.chains h = w.chains h + 1) := by
  cases item with
  | seedRefresh =>
    simp [chains, runReload, generateRefreshOperation, Operation.continues, Operation.isPollOf]
  | sweep g => exact Or.inl rfl
  | visit g =>
    simp only [runReload]
    split
    next hactive =>
      by_cases hg : g = h
      · subst hg
        refine Or.inr ⟨rfl, hactive, ?_⟩
        simp [chains, generateMySQLOperation, Operation.continues, Operation.isPollOf]
        omega
      · refine Or.inl ?_
        simp [chains, generateMySQLOperation, Operation.continues, Operation.isPollOf, hg]
    next => exact Or.inl rfl

theorem runReload_visits (h : HostRef) :
    (w.runReload item todo).2.visits h = todo.count (.visit h) := by
  cases item with
  | visit g =>
    simp only [runReload]
    split <;> simp [visits]
  | _ => simp [visits, runReload]

end Reload

theorem OneChain.reload (hi : w.OneChain) {item : ReloadItem} {todo : List ReloadItem}
    (hmain : w.main = .reloading (item :: todo)) : (w.runReload item todo).2.OneChain := by
  have hsheet : (w.runReload item todo).2.sheetOpen = false := by
    rw [(w.runReload_reloads item todo).sheetOpen]
    exact hi.reloading _ hmain
  refine ⟨?_, ?_, fun _ _ => hsheet, ?_, ?_⟩
  · intro op hop hc
    rcases runReload_ops w item todo op hop with hold | hnew
    · exact hi.cancelled op hold hc
    · exact hnew
  · obtain ⟨todo', hmain'⟩ := (w.runReload_reloads item todo).main
    rintro (hs | hs)
    · simp [hsheet] at hs
    · simp [hmain'] at hs
  · intro h
    have hb := hi.bounded h
    simp only [visits, hmain, List.count_cons] at hb
    rw [runReload_visits]
    rcases runReload_chains w item todo h with hc | ⟨rfl, _, hc⟩
    · omega
    · simp only [beq_self_eq_true, if_true] at hb
      omega
  · intro h hpos
    rw [(w.runReload_reloads item todo).doc]
    rcases runReload_chains w item todo h with hc | ⟨_, hactive, _⟩
    · exact hi.active h (hc ▸ hpos)
    · exact hactive

theorem OneChain.requeue (hi : w.OneChain) {b : Block} {rest : List Block}
    (hmain : w.main = .idle) (hqueue : w.mainQueue = b :: rest) : (w.runBlock b rest).OneChain := by
  have hbounded := hi.bounded
  simp only [visits, hmain] at hbounded
  have hchains : ∀ h, (w.runBlock b rest).chains h = w.chains h := by
    intro h
    cases b with
    | reschedule g =>
      simp only [chains, runBlock, hqueue, List.countP_append, List.count_cons]
      simp [generateMySQLOperation, Operation.continues, Operation.isPollOf, List.countP_singleton]
      omega
    | killDialog e => simp [chains, runBlock, hqueue]
  have hdoc : (w.runBlock b rest).doc = w.doc := by cases b <;> rfl
  have hsheet : (w.runBlock b rest).sheetOpen = w.sheetOpen := by cases b <;> rfl
  have hvisits : ∀ h, (w.runBlock b rest).visits h = 0 := by
    intro h
    cases b <;> simp [visits, runBlock, hmain]
  refine ⟨?_, ?_, ?_, ?_, ?_⟩
  · intro op hop hc
    cases b with
    | reschedule g =>
      rcases List.mem_append.mp hop with hop | hop
      · exact hi.cancelled op hop hc
      · rw [List.mem_singleton.mp hop]
        rfl
    | killDialog e => exact hi.cancelled op hop hc
  · rintro (hs | hs) h
    · rw [hchains]
      exact hi.configuring (Or.inl (hsheet ▸ hs)) h
    · cases b <;> simp [runBlock, hmain] at hs
  · intro todo hs
    cases b <;> simp [runBlock, hmain] at hs
  · intro h
    rw [hchains, hvisits]
    exact hbounded h
  · intro h hpos
    rw [hchains] at hpos
    rw [hdoc]
    exact hi.active h hpos

theorem OneChain.still (hi : w.OneChain) (hops : v.ops = w.ops)
    (hqueue : ∀ h, v.mainQueue.count (.reschedule h) = w.mainQueue.count (.reschedule h))
    (hdoc : v.doc = w.doc) (hsheet : v.sheetOpen = w.sheetOpen)
    (hmain : v.main = .idle) : v.OneChain := by
  have hchains : ∀ h, v.chains h = w.chains h := fun h => by rw [chains, chains, hops, hqueue]
  refine ⟨hops ▸ hi.cancelled, ?_, ?_, ?_, ?_⟩
  · rintro (hs | hs) h
    · rw [hchains]
      exact hi.configuring (Or.inl (hsheet ▸ hs)) h
    · simp [hmain] at hs
  · intro todo hs
    simp [hmain] at hs
  · intro h
    have hb := hi.bounded h
    simp only [hchains, visits, hmain]
    omega
  · intro h hpos
    rw [hchains] at hpos
    rw [hdoc]
    exact hi.active h hpos

theorem OneChain.moves (hi : w.OneChain) (hg : w.cancelsSettled a = true) (h : Moves w a s v) :
    v.OneChain := by
  have hsettled : w.cancelsAll a = true → w.settled = true := by
    intro hc
    simpa [cancelsSettled, hc] using hg
  cases h with
  | @operation l r op x hops =>
    obtain ⟨hchains, hposting⟩ := hi.operation x hops
    refine ⟨hposting, ?_, hi.reloading, ?_, ?_⟩
    · intro hs h
      have hzero := hi.configuring hs h
      have hle := hchains h
      omega
    · intro h
      have hb : w.chains h + w.visits h ≤ 1 := hi.bounded h
      have hle := hchains h
      have hvisits : (w.advanced l r op (op.advance w.doc.conf x)).visits h = w.visits h := rfl
      omega
    · exact fun h hpos => hi.active h (Nat.lt_of_lt_of_le hpos (hchains h))
  | block hmain hqueue => exact hi.requeue hmain hqueue
  | opened hmain =>
    exact OneChain.cancelAll (hsettled (by simp [cancelsAll, hmain])) rfl rfl (by simp)
      (by simp [visits])
  | reloaded hmain => exact hi.still rfl (fun _ => rfl) rfl rfl rfl
  | reload hmain => exact hi.reload hmain
  | alert hmain => exact hi.still rfl (fun _ => rfl) rfl rfl rfl
  | openConfigSheet hmain =>
    exact OneChain.cancelAll (hsettled rfl) rfl rfl (by simp) (by simp [visits])
  | endConfigSheet hmain hsheet => exact OneChain.beginReload (hsettled rfl)
  | reloadDataWatchers hmain hsheet => exact OneChain.beginReload (hsettled rfl)
  | edit hmain hsheet => exact hi
  | quiet hmain hq =>
    cases hq with
    | killProcess =>
      refine hi.still rfl (fun h => ?_) rfl rfl hmain
      cases w.doc.killTarget <;> simp
    | killEnded accept connected junk hd => exact hi.still rfl (fun _ => rfl) rfl rfl hmain
    | _ => exact hi

theorem OneChain.step {w' : World} (hi : w.OneChain) (hg : w.cancelsSettled a = true)
    (h : w.step a = some w') : w'.OneChain := by
  obtain ⟨v, hm, rfl⟩ := step_moves h
  refine (hi.moves hg hm).execute ?_
  by_cases ha : ∃ conf, a = .edit conf
  · obtain ⟨conf, rfl⟩ := ha
    exact Or.inr hm.edit_sheet
  · exact Or.inl (hm.no_edit (fun conf heq => ha ⟨conf, heq⟩))

end Chains

theorem initial_oneChain (conf : Configuration) (sliderValue trackQuery : Int) :
    (initial conf sliderValue trackQuery).OneChain where
  cancelled := by simp [initial]
  configuring := by simp [initial, chains]
  reloading := by simp [initial]
  bounded := by simp [initial, chains, visits]
  active := by simp [initial, chains]

theorem one_poll_chain {conf : Configuration} {sliderValue trackQuery : Int} {acts : List Act}
    {w : World}
    (h : Transition.run step cancelsSettled (initial conf sliderValue trackQuery) acts = some w)
    (aHost : HostRef) :
    w.chains aHost ≤ 1 ∧ (w.doc.conf.isActive aHost = false → w.chains aHost = 0) := by
  have hi := Transition.run_invariant (I := OneChain) (fun _ _ _ hi hg hs => hi.step hg hs)
    (initial_oneChain conf sliderValue trackQuery) h
  have hb := hi.bounded aHost
  refine ⟨by omega, fun hinactive => ?_⟩
  by_contra hpos
  have hactive := hi.active aHost (Nat.pos_of_ne_zero hpos)
  rw [hinactive] at hactive
  exact absurd hactive (by decide)

theorem one_poll_chain_reloaded :
    let c := Configuration.onePool { active := some 1 } [3] (by decide) (fun _ => 1) (fun _ => 0)
    let acts : List Act := [.reloadDataWatchers, .mainThread, .mainThread, .mainThread,
      .operation 1 {}, .openConfigSheet, .mainThread, .endConfigSheet, .mainThread, .mainThread]
    let w := (Transition.run step cancelsSettled (initial c 30 1) acts).get (by decide +kernel)
    w.chains 3 ≤ 1 ∧ (w.doc.conf.isActive 3 = false → w.chains 3 = 0) := by
  intro c acts w
  have hrun : Transition.run step cancelsSettled (initial c 30 1) acts = some w :=
    (Option.some_get _).symm
  exact one_poll_chain hrun 3

theorem reload_duplicates_chain :
    let c := Configuration.onePool { active := some 1 } [3] (by decide) (fun _ => 1) (fun _ => 0)
    let acts : List Act := [.reloadDataWatchers, .mainThread, .mainThread, .mainThread] ++
      List.replicate 8 (.operation 1 {}) ++ [.openConfigSheet, .mainThread, .operation 1 {},
      .endConfigSheet, .mainThread, .mainThread, .mainThread, .mainThread]
    ∃ w, Transition.run step Transition.anyStep (initial c 30 1) acts = some w ∧
      w.main = .idle ∧ w.chains 3 = 2 := by
  intro c acts
  exact ⟨(Transition.run step Transition.anyStep (initial c 30 1) acts).get (by decide +kernel),
    (Option.some_get _).symm, by decide +kernel, by decide +kernel⟩

end World

end DBMonitor
