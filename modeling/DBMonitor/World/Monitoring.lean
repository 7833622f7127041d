import DBMonitor.World.PollChains
import DBMonitor.World.RefreshChains

namespace DBMonitor

namespace World

-- The sheet is open or about to be; what is polled meanwhile is left to the reload at its end.
def configuring (w : World) : Bool := w.sheetOpen || decide (w.main = .opening)

def monitoring (w : World) : Bool :=
  !w.configuring &&
    match w.main with
    | .reloading _ => false
    | _ => true

structure Attended (w : World) : Prop where
  polled : ∀ h, w.doc.conf.isActive h = true → 1 ≤ w.chains h + w.visits h
  refreshed : 1 ≤ w.loops + w.seeds

section Attended
variable {w v : World} {a : Act} {s : Option Section} {h : HostRef}

theorem isActive_mem_hosts {c : Configuration} (hactive : c.isActive h = true) : h ∈ c.hosts := by
  rw [Configuration.mem_hosts]
  simp only [Configuration.isActive, Bool.and_eq_true, decide_eq_true_eq] at hactive
  cases hpool : (c.host h).pool with
  | some p => rfl
  | none =>
    have hnone := hactive.2
    simp [Configuration.poolOf, hpool, integerValue] at hnone

theorem continues_kept (c : Configuration) (x : Input) {op : Operation}
    (hop : op.continues h = true) :
    1 ≤ (((op.advance c x).body.map (fun b => { op with body := b })).toList).countP
          (Operation.continues h) +
        ((op.advance c x).posts.toList).count (.reschedule h) := by
  obtain ⟨body, isCancelled⟩ := op
  cases body with
  | refresh state => simp [Operation.continues, Operation.isPollOf] at hop
  | poll g state =>
    obtain ⟨rfl, rfl⟩ : isCancelled = false ∧ g = h := by
      simpa [Operation.continues, Operation.isPollOf] using hop
    obtain ⟨_, ⟨rfl, _, hposts⟩ | ⟨_, _, ⟨hc, _⟩ | ⟨next, hbody, _⟩⟩⟩ :=
      PollState.advance_cases c g false x state
    · simp [Operation.advance, PollState.advance]
    · exact absurd hc (by decide)
    · simp [Operation.advance, hbody, Operation.continues, Operation.isPollOf]

theorem refreshes_kept (c : Configuration) (x : Input) {op : Operation}
    (hop : op.refreshes = true) :
    1 ≤ (((op.advance c x).body.map (fun b => { op with body := b })).toList).countP
          Operation.refreshes +
        ((op.advance c x).enqueues.toList).countP Operation.refreshes := by
  obtain ⟨body, isCancelled⟩ := op
  cases body with
  | poll g state => simp [Operation.refreshes, Operation.isRefresh] at hop
  | refresh state =>
    obtain ⟨_, ⟨rfl, _, henq⟩ | ⟨_, _, ⟨rfl, rfl, _⟩ | ⟨next, hbody, hnext, _⟩⟩⟩ :=
      RefreshState.advance_cases isCancelled x state
    · simp [Operation.advance, RefreshState.advance, generateRefreshOperation,
        Operation.refreshes, Operation.isRefresh]
    · simp [Operation.refreshes, Operation.isRefreshing] at hop
    · have hcounted : ({ body := .refresh next, isCancelled := isCancelled } : Operation).refreshes =
          true := by
        cases next with
        | queued => exact absurd rfl hnext
        | _ => simp [Operation.refreshes, Operation.isRefresh, Operation.isRefreshing]
      simp [Operation.advance, hbody, hcounted]

theorem advanced_chains (x : Input) {l r : List Operation} {op : Operation}
    (hops : w.ops = l ++ op :: r) (h : HostRef) :
    w.chains h ≤ (w.advanced l r op (op.advance w.doc.conf x)).chains h := by
  simp only [chains, advanced, hops, List.countP_append, List.countP_cons, List.count_append]
  cases hop : op.continues h with
  | false => simp; omega
  | true =>
    have hkept := continues_kept w.doc.conf x hop
    simp only [if_true]
    omega

theorem advanced_loops (x : Input) {l r : List Operation} {op : Operation}
    (hops : w.ops = l ++ op :: r) :
    w.loops ≤ (w.advanced l r op (op.advance w.doc.conf x)).loops := by
  simp only [loops, advanced, hops, List.countP_append, List.countP_cons]
  cases hop : op.refreshes with
  | false => simp; omega
  | true =>
    have hkept := refreshes_kept w.doc.conf x hop
    simp only [if_true]
    omega

theorem runBlock_chains {b : Block} {rest : List Block} (hqueue : w.mainQueue = b :: rest)
    (h : HostRef) : (w.runBlock b rest).chains h = w.chains h := by
  cases b with
  | killDialog e => simp [chains, runBlock, hqueue]
  | reschedule g =>
    simp only [chains, runBlock, hqueue, List.countP_append, List.count_cons]
    simp [generateMySQLOperation, Operation.continues, Operation.isPollOf, List.countP_singleton]
    omega

theorem runBlock_loops (b : Block) (rest : List Block) : (w.runBlock b rest).loops = w.loops := by
  cases b with
  | killDialog e => rfl
  | reschedule g =>
    simp [loops, runBlock, generateMySQLOperation, Operation.refreshes, Operation.isRefresh]

theorem runReload_visited (todo : List ReloadItem) (hactive : w.doc.conf.isActive h = true) :
    1 ≤ (w.runReload (.visit h) todo).2.chains h := by
  simp only [runReload, hactive, if_true, chains, List.countP_append]
  simp [generateMySQLOperation, Operation.continues, Operation.isPollOf]
  omega

theorem runReload_seeds (item : ReloadItem) (todo : List ReloadItem) :
    (w.runReload item todo).2.loops + (w.runReload item todo).2.seeds =
      w.loops + (item :: todo).count .seedRefresh := by
  cases item with
  | seedRefresh =>
    simp [loops, seeds, runReload, generateRefreshOperation, Operation.refreshes,
      Operation.isRefresh]
    omega
  | sweep g => simp [loops, seeds, runReload]
  | visit g =>
    cases hactive : w.doc.conf.isActive g <;>
      simp [loops, seeds, runReload, hactive, generateMySQLOperation, Operation.refreshes,
        Operation.isRefresh]

theorem Attended.still (hi : w.Attended) (hdoc : v.doc.conf = w.doc.conf)
    (hpolled : ∀ h, w.chains h + w.visits h ≤ v.chains h + v.visits h)
    (hrefreshed : w.loops + w.seeds ≤ v.loops + v.seeds) : v.Attended where
  polled h hactive := (hi.polled h (hdoc ▸ hactive)).trans (hpolled h)
  refreshed := hi.refreshed.trans hrefreshed

theorem Attended.reload (hi : w.Attended) {item : ReloadItem} {todo : List ReloadItem}
    (hmain : w.main = .reloading (item :: todo)) : (w.runReload item todo).2.Attended where
  polled h hactive := by
    rw [(w.runReload_reloads item todo).doc] at hactive
    have hb := hi.polled h hactive
    simp only [visits, hmain, List.count_cons] at hb
    rw [runReload_visits]
    rcases runReload_chains w item todo h with hc | ⟨rfl, _, hc⟩
    · rw [hc]
      split at hb
      next heq =>
        obtain rfl : item = .visit h := by simpa using heq
        have hvisited := runReload_visited todo hactive
        omega
      next => omega
    · omega
  refreshed := by
    rw [runReload_seeds]
    have hb := hi.refreshed
    simpa [seeds, hmain] using hb

theorem beginReload_attended : w.beginReload.Attended where
  polled h hactive := by
    have hm : (ReloadItem.visit h) ∈ w.doc.conf.hosts.map ReloadItem.visit :=
      List.mem_map_of_mem (isActive_mem_hosts hactive)
    have hcount := List.count_pos_iff.mpr hm
    simp only [visits, beginReload, List.count_cons]
    omega
  refreshed := by
    simp only [seeds, beginReload, List.count_cons]
    simp
    omega

def Cared (w : World) : Prop := w.configuring = true ∨ w.Attended

theorem Cared.moves (hi : w.Cared) (h : Moves w a s v) : v.Cared := by
  cases h with
  | @operation l r op x hops =>
    refine hi.imp_right (fun hi => hi.still rfl (fun h => ?_) ?_)
    · exact Nat.add_le_add_right (advanced_chains x hops h) _
    · exact Nat.add_le_add_right (advanced_loops x hops) _
  | @block b rest hmain hqueue =>
    rcases hi with hc | hi
    · left
      cases b with
      | reschedule g => exact hc
      | killDialog e => simpa [configuring, hmain, runBlock] using hc
    · refine Or.inr (hi.still ?_ (fun h => ?_) ?_)
      · cases b <;> rfl
      · rw [runBlock_chains hqueue]
        simp [visits, hmain]
      · rw [runBlock_loops]
        simp [seeds, hmain]
  | opened hmain => exact Or.inl (by simp [configuring])
  | reloaded hmain =>
    refine hi.imp (fun hc => by simpa [configuring, hmain] using hc) (fun hi => ?_)
    refine hi.still rfl (fun h => ?_) ?_
    · simp [visits, hmain, chains]
    · simp [seeds, hmain, loops]
  | @reload item todo hmain =>
    refine hi.imp (fun hc => ?_) (fun hi => hi.reload hmain)
    simp only [configuring, hmain, Bool.or_eq_true, decide_eq_true_eq] at hc
    rw [configuring, (w.runReload_reloads item todo).sheetOpen]
    simp [hc.resolve_right (by simp)]
  | alert hmain =>
    refine hi.imp (fun hc => by simpa [configuring, hmain, beginSheet] using hc) (fun hi => ?_)
    refine hi.still rfl (fun h => ?_) ?_
    · simp [visits, hmain, chains, beginSheet]
    · simp [seeds, hmain, loops, beginSheet]
  | openConfigSheet hmain => exact Or.inl (by simp [configuring])
  | endConfigSheet hmain hsheet => exact Or.inr beginReload_attended
  | reloadDataWatchers hmain hsheet => exact Or.inr beginReload_attended
  | edit hmain hsheet => exact hi
  | quiet hmain hq =>
    cases hq with
    | killProcess =>
      refine hi.imp_right (fun hi => hi.still rfl (fun h => ?_) (Nat.le_refl _))
      cases w.doc.killTarget <;> simp [chains, visits]
    | killEnded accept connected junk hd =>
      exact hi.imp_right (fun hi => hi.still rfl (fun _ => Nat.le_refl _) (Nat.le_refl _))
    | _ => exact hi

theorem Cared.step {w' : World} (hi : w.Cared) (h : w.step a = some w') : w'.Cared := by
  obtain ⟨v, hm, rfl⟩ := step_moves h
  rcases hi.moves hm with hc | ha
  · exact Or.inl hc
  · by_cases hedit : ∃ conf, a = .edit conf
    · obtain ⟨conf, rfl⟩ := hedit
      exact Or.inl (by simp [configuring, execute, hm.edit_sheet])
    · refine Or.inr (ha.still ?_ (fun _ => Nat.le_refl _) (Nat.le_refl _))
      have hconf := step_conf h (fun conf heq => hedit ⟨conf, heq⟩)
      rw [hconf, hm.doc]

theorem Attended.monitored (hi : w.Attended) (hw : w.monitoring = true) :
    (∀ h, w.doc.conf.isActive h = true → 1 ≤ w.chains h) ∧ 1 ≤ w.loops := by
  have hpolled := hi.polled
  have hrefreshed := hi.refreshed
  simp only [monitoring, Bool.and_eq_true] at hw
  unfold visits at hpolled
  unfold seeds at hrefreshed
  split at hpolled
  next hmain => simp [hmain] at hw
  next hmain =>
    refine ⟨hpolled, ?_⟩
    split at hrefreshed
    next todo heq => exact absurd heq (hmain todo)
    next => exact hrefreshed

end Attended

theorem started_cared {conf : Configuration} {sliderValue trackQuery : Int} {acts : List Act}
    {w : World} (h : Transition.run step Transition.anyStep (initial conf sliderValue trackQuery)
      (.reloadDataWatchers :: acts) = some w) : w.Cared := by
  obtain ⟨_, u, hu, hrun⟩ := Transition.run_cons.mp h
  refine Transition.run_invariant (I := Cared) (fun _ _ _ hi _ hs => hi.step hs) ?_ hrun
  obtain rfl := Option.some.inj hu
  exact Or.inr beginReload_attended

theorem active_hosts_monitored {conf : Configuration} {sliderValue trackQuery : Int}
    {acts : List Act} {w : World}
    (h : Transition.run step Transition.anyStep (initial conf sliderValue trackQuery)
      (.reloadDataWatchers :: acts) = some w) (hw : w.monitoring = true) :
    (∀ aHost, w.doc.conf.isActive aHost = true → 1 ≤ w.chains aHost) ∧ 1 ≤ w.loops := by
  refine Attended.monitored ((started_cared h).resolve_left ?_) hw
  simp only [monitoring, Bool.and_eq_true, Bool.not_eq_true'] at hw
  simp [hw.1]

theorem active_hosts_monitored_reactivated :
    let c := fun active : HostRef → Int =>
      Configuration.onePool { active := some 1 } [3, 4] (by decide) active (fun _ => 0)
    let acts : List Act := [.mainThread, .mainThread, .mainThread, .mainThread, .mainThread,
      .operation 1 {}, .operation 1 {}, .openConfigSheet, .mainThread, .edit (c fun _ => 1),
      .endConfigSheet, .operation 1 {}, .mainThread, .mainThread, .mainThread, .mainThread]
    let w := (Transition.run step Transition.anyStep (initial (c fun h => h - 3) 30 1)
      (.reloadDataWatchers :: acts)).get (by decide +kernel)
    w.chains 3 = 1 ∧ (∀ aHost, w.doc.conf.isActive aHost = true → 1 ≤ w.chains aHost) ∧
      1 ≤ w.loops := by
  intro c acts w
  have hrun : Transition.run step Transition.anyStep (initial (c fun h => h - 3) 30 1)
      (.reloadDataWatchers :: acts) = some w := (Option.some_get _).symm
  exact ⟨by decide +kernel, active_hosts_monitored hrun (by decide +kernel)⟩

end World

end DBMonitor
