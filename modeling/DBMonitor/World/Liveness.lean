import DBMonitor.Library.Fairness
import DBMonitor.World.Monitoring
import Mathlib.Data.Prod.Lex

namespace DBMonitor

namespace PollState

def fetched : PollState → Bool
  | .filing _ _ => true
  | .replicating _ => true
  | .failing => true
  | .sweeping _ => true
  | _ => false

-- The steps to the next sweep, as far as they are known before the process list is.
def distance : PollState → Nat
  | .checking => 11
  | .posting => 10
  | .queued => 8
  | .clearing => 7
  | .connecting => 6
  | .fetching => 5
  | .filing _ rest => rest.length + 3
  | .replicating _ => 2
  | .failing => 2
  | .sweeping _ => 1

end PollState

def Body.unfetched (h : HostRef) : Body → Nat
  | .poll g state => if g = h ∧ state.fetched = false then 1 else 0
  | .refresh _ => 0

def Body.distance (h : HostRef) : Body → Nat
  | .poll g state => if g = h then state.distance else 0
  | .refresh _ => 0

def Body.refreshDistance : Body → Nat
  | .refresh .detail => 4
  | .refresh .enqueue => 3
  | .refresh .queued => 2
  | .refresh .log => 1
  | .poll _ _ => 0

def ReloadItem.steps : ReloadItem → Nat
  | .visit _ => 2
  | _ => 1

namespace World

inductive Worker where
  | queue
  | mainThread
  deriving DecidableEq

def serves (p : Operation → Bool) : Worker → World → Act → Prop
  | .queue => fun w a => ∃ i x op, a = .operation i x ∧ w.ops[i]? = some op ∧ p op = true
  | .mainThread => fun _ a => a = .mainThread

def keepsWatchers : Act → Bool
  | .openConfigSheet => false
  | .reloadDataWatchers => false
  | _ => true

def Sweeps (h : HostRef) (w : World) (a : Act) : Prop :=
  ∃ i x op qualified, a = .operation i x ∧ w.ops[i]? = some op ∧
    op.body = .poll h (.sweeping qualified)

def Refreshes (w : World) (a : Act) : Prop :=
  ∃ i x op, a = .operation i x ∧ w.ops[i]? = some op ∧ op.body = .refresh .log

section Rank
variable (h : HostRef)

def unfetched (w : World) : Nat :=
  (w.ops.map (fun op => op.body.unfetched h)).sum + w.mainQueue.count (.reschedule h)

def distance (w : World) : Nat :=
  (w.ops.map (fun op => op.body.distance h)).sum + 9 * w.mainQueue.count (.reschedule h)

-- The steps of the main thread to the first block that reschedules the host.
def waiting (w : World) : Nat :=
  if .reschedule h ∈ w.mainQueue then
    2 * w.mainQueue.idxOf (.reschedule h) +
      match w.main with
      | .alerting _ _ _ => 1
      | _ => 0
  else 0

def rank (w : World) : Nat ×ₗ Nat ×ₗ Nat := toLex (w.unfetched h, toLex (w.distance h, w.waiting h))

def refreshDistance (w : World) : Nat := (w.ops.map (fun op => op.body.refreshDistance)).sum

def helper (p : Operation → Bool) (w : World) : Worker :=
  if w.ops.any p then .queue else .mainThread

end Rank

section Steps
variable {w v : World} {a : Act} {s : Option Section} {h : HostRef}

theorem rank_lt_iff : v.rank h < w.rank h ↔
    v.unfetched h < w.unfetched h ∨ v.unfetched h = w.unfetched h ∧
      (v.distance h < w.distance h ∨ v.distance h = w.distance h ∧ v.waiting h < w.waiting h) := by
  simp only [rank, Prod.Lex.toLex_lt_toLex]

theorem rank_congr (hops : v.ops = w.ops)
    (hcount : v.mainQueue.count (.reschedule h) = w.mainQueue.count (.reschedule h))
    (hwaiting : v.waiting h = w.waiting h) : v.rank h = w.rank h := by
  simp only [rank, unfetched, distance, hops, hcount, hwaiting]

theorem advance_rank (c : Configuration) (isCancelled : Bool) (x : Input) {state : PollState}
    (hstate : ∀ qualified, state ≠ .sweeping qualified) :
    let a := state.advance c h isCancelled x
    let left := a.body.elim 0 (Body.unfetched h) + a.posts.toList.count (.reschedule h)
    left < Body.unfetched h (.poll h state) ∨ left = Body.unfetched h (.poll h state) ∧
      a.body.elim 0 (Body.distance h) + 9 * a.posts.toList.count (.reschedule h) <
        Body.distance h (.poll h state) := by
  cases state with
  | sweeping qualified => exact absurd rfl (hstate qualified)
  | queued =>
    cases isCancelled <;>
      simp [PollState.advance, Body.unfetched, Body.distance, PollState.fetched, PollState.distance]
  | checking =>
    cases isCancelled <;>
      simp [PollState.advance, Body.unfetched, Body.distance, PollState.fetched, PollState.distance]
  | connecting =>
    cases hc : x.connects <;>
      simp [PollState.advance, hc, Body.unfetched, Body.distance, PollState.fetched,
        PollState.distance]
  | fetching =>
    cases hr : x.results <;>
      simp [PollState.advance, hr, Body.unfetched, Body.distance, PollState.fetched,
        PollState.distance]
  | filing qualified rest =>
    cases rest with
    | nil =>
      simp [PollState.advance, Body.unfetched, Body.distance, PollState.fetched,
        PollState.distance]
    | cons row rest =>
      cases hq : Document.qualifies c h row <;>
        simp [PollState.advance, hq, Body.unfetched, Body.distance, PollState.fetched,
          PollState.distance]
  | _ =>
    simp [PollState.advance, Body.unfetched, Body.distance, PollState.fetched, PollState.distance]

theorem waiting_append (w : World) {bs : List Block} (hbs : .reschedule h ∉ bs) :
    ({ w with mainQueue := w.mainQueue ++ bs } : World).waiting h = w.waiting h := by
  unfold waiting
  by_cases hm : Block.reschedule h ∈ w.mainQueue
  · simp only [List.mem_append, hm, true_or, if_true, List.idxOf_append_of_mem hm]
  · simp only [List.mem_append, hm, hbs, or_self, if_false]

theorem advanced_unpolled (c : Configuration) (x : Input) {op : Operation}
    (hop : op.isPollOf h = false) :
    (op.advance c x).body.elim 0 (Body.unfetched h) = 0 ∧
      (op.advance c x).body.elim 0 (Body.distance h) = 0 ∧
      .reschedule h ∉ (op.advance c x).posts.toList ∧
      ∀ b, (op.advance c x).body = some b →
        ({ op with body := b } : Operation).isPollOf h = false := by
  obtain ⟨body, isCancelled⟩ := op
  cases body with
  | refresh state =>
    obtain ⟨hposts, ⟨_, hbody, _⟩ | ⟨_, _, ⟨_, _, hbody⟩ | ⟨next, hbody, _⟩⟩⟩ :=
      RefreshState.advance_cases isCancelled x state <;>
      simp [Operation.advance, hposts, hbody, Body.unfetched, Body.distance, Operation.isPollOf]
  | poll g state =>
    have hg : g ≠ h := by simpa [Operation.isPollOf] using hop
    obtain ⟨_, ⟨_, hbody, hposts⟩ | ⟨_, hposts, ⟨_, hbody⟩ | ⟨next, hbody, _⟩⟩⟩ :=
      PollState.advance_cases c g isCancelled x state <;>
      simp [Operation.advance, hposts, hbody, Body.unfetched, Body.distance, Operation.isPollOf,
        hg, hg.symm]

theorem advanced_enqueues (c : Configuration) (x : Input) (op : Operation) :
    ∀ op' ∈ (op.advance c x).enqueues.toList, op' = generateRefreshOperation := by
  obtain ⟨body, isCancelled⟩ := op
  cases body with
  | refresh state =>
    obtain ⟨_, ⟨_, _, henq⟩ | ⟨_, henq, _⟩⟩ := RefreshState.advance_cases isCancelled x state <;>
      simp [Operation.advance, henq]
  | poll g state => simp [Operation.advance, (PollState.advance_cases c g isCancelled x state).1]

theorem advanced_sum (x : Input) {l r : List Operation} {op : Operation} (f : Body → Nat)
    (hf : f generateRefreshOperation.body = 0) :
    ((w.advanced l r op (op.advance w.doc.conf x)).ops.map (fun op => f op.body)).sum =
      (l.map (fun op => f op.body)).sum + (op.advance w.doc.conf x).body.elim 0 f +
        (r.map (fun op => f op.body)).sum := by
  have henq := advanced_enqueues w.doc.conf x op
  cases hb : (op.advance w.doc.conf x).body <;>
    cases he : (op.advance w.doc.conf x).enqueues with
    | none => simp [advanced, hb, he, Nat.add_assoc]
    | some op' =>
      rw [he] at henq
      simp [advanced, hb, he, henq op' (by simp), hf, Nat.add_assoc]

theorem rank_operation (x : Input) {l r : List Operation} {op : Operation}
    (hops : w.ops = l ++ op :: r) (hop : op.isPollOf h = true)
    (hsweep : ∀ qualified, op.body ≠ .poll h (.sweeping qualified)) :
    (w.advanced l r op (op.advance w.doc.conf x)).rank h < w.rank h := by
  obtain ⟨body, isCancelled⟩ := op
  cases body with
  | refresh state => simp [Operation.isPollOf] at hop
  | poll g state =>
    obtain rfl : g = h := by simpa [Operation.isPollOf] using hop
    have hstate : ∀ qualified, state ≠ .sweeping qualified := by
      rintro qualified rfl
      exact hsweep qualified rfl
    have hadvance := advance_rank w.doc.conf isCancelled x hstate (h := g)
    simp only at hadvance
    rw [rank_lt_iff]
    simp only [unfetched, distance]
    rw [advanced_sum x (Body.unfetched g) rfl, advanced_sum x (Body.distance g) rfl]
    simp only [Operation.advance, advanced, hops, List.map_append, List.map_cons, List.sum_append,
      List.sum_cons, List.count_append]
    omega

theorem rank_idle (x : Input) {l r : List Operation} {op : Operation}
    (hops : w.ops = l ++ op :: r) (hop : op.isPollOf h = false) :
    (w.advanced l r op (op.advance w.doc.conf x)).rank h = w.rank h := by
  obtain ⟨hunfetched, hdistance, hposts, _⟩ := advanced_unpolled w.doc.conf x hop
  have hold : op.body.unfetched h = 0 ∧ op.body.distance h = 0 := by
    obtain ⟨body, isCancelled⟩ := op
    cases body with
    | refresh state => exact ⟨rfl, rfl⟩
    | poll g state =>
      have hg : g ≠ h := by simpa [Operation.isPollOf] using hop
      simp [Body.unfetched, Body.distance, hg]
  have hcount : (w.advanced l r op (op.advance w.doc.conf x)).mainQueue.count (.reschedule h) =
      w.mainQueue.count (.reschedule h) := by
    simp only [advanced, List.count_append, List.count_eq_zero.mpr hposts, Nat.add_zero]
  have hwaiting : (w.advanced l r op (op.advance w.doc.conf x)).waiting h = w.waiting h :=
    waiting_append w hposts
  simp only [rank, unfetched, distance, hcount, hwaiting]
  rw [advanced_sum x (Body.unfetched h) rfl, advanced_sum x (Body.distance h) rfl]
  simp [hops, hunfetched, hdistance, hold]

theorem helper_operation (x : Input) {l r : List Operation} {op : Operation}
    (hops : w.ops = l ++ op :: r) (hop : op.isPollOf h = false) :
    (w.advanced l r op (op.advance w.doc.conf x)).helper (Operation.isPollOf h) =
      w.helper (Operation.isPollOf h) := by
  obtain ⟨_, _, _, hbody⟩ := advanced_unpolled w.doc.conf x hop
  have henq := advanced_enqueues w.doc.conf x op
  have hmoved : ((op.advance w.doc.conf x).body.map
      (fun b => ({ op with body := b } : Operation))).toList.any (Operation.isPollOf h) = false := by
    cases hb : (op.advance w.doc.conf x).body with
    | none => rfl
    | some b => simp [hbody b hb]
  have hspawned : (op.advance w.doc.conf x).enqueues.toList.any (Operation.isPollOf h) = false :=
    List.any_eq_false.mpr (fun op' hop' => by rw [henq op' hop']; simp [generateRefreshOperation,
      Operation.isPollOf])
  simp only [helper, advanced, hops, List.any_append, List.any_cons, hmoved, hspawned, hop,
    Bool.or_false, Bool.false_or]

theorem helper_queue (hchain : 1 ≤ w.chains h) (hqueue : Block.reschedule h ∉ w.mainQueue) :
    w.helper (Operation.isPollOf h) = .queue := by
  rw [chains, List.count_eq_zero.mpr hqueue, Nat.add_zero] at hchain
  obtain ⟨op, hop, hcontinues⟩ := List.countP_pos_iff.mp hchain
  simp only [Operation.continues, Bool.and_eq_true] at hcontinues
  exact if_pos (List.any_eq_true.mpr ⟨op, hop, hcontinues.2⟩)

theorem rank_block {b : Block} {rest : List Block} (hmain : w.main = .idle)
    (hqueue : w.mainQueue = b :: rest) (hchain : 1 ≤ w.chains h) :
    (w.runBlock b rest).rank h < w.rank h ∨ ((w.runBlock b rest).rank h = w.rank h ∧
      (w.runBlock b rest).helper (Operation.isPollOf h) = w.helper (Operation.isPollOf h) ∧
      w.helper (Operation.isPollOf h) = .queue) := by
  by_cases hb : b = .reschedule h
  · subst hb
    left
    rw [rank_lt_iff]
    simp [unfetched, distance, runBlock, hqueue, generateMySQLOperation, Body.unfetched,
      Body.distance, PollState.fetched, PollState.distance]
    omega
  · have hunfetched : (w.runBlock b rest).unfetched h = w.unfetched h := by
      cases b with
      | killDialog e => simp [unfetched, runBlock, hqueue]
      | reschedule g =>
        have hg : g ≠ h := fun heq => hb (heq ▸ rfl)
        simp [unfetched, runBlock, hqueue, generateMySQLOperation, Body.unfetched, hg]
    have hdistance : (w.runBlock b rest).distance h = w.distance h := by
      cases b with
      | killDialog e => simp [distance, runBlock, hqueue]
      | reschedule g =>
        have hg : g ≠ h := fun heq => hb (heq ▸ rfl)
        simp [distance, runBlock, hqueue, generateMySQLOperation, Body.distance, hg]
    have hrest : (w.runBlock b rest).mainQueue = rest := by cases b <;> rfl
    by_cases hm : Block.reschedule h ∈ rest
    · left
      have hwaiting : (w.runBlock b rest).waiting h < w.waiting h := by
        simp only [waiting, hrest, hqueue, List.mem_cons, hm, or_true, if_true,
          List.idxOf_cons_ne _ hb, hmain]
        cases b with
        | reschedule g => simp [runBlock, hmain]
        | killDialog e =>
          simp only [runBlock]
          omega
      rw [rank_lt_iff]
      omega
    · have hnot : Block.reschedule h ∉ w.mainQueue := by
        rw [hqueue, List.mem_cons]
        rintro (heq | hmem)
        · exact hb heq.symm
        · exact hm hmem
      have hbusy := helper_queue hchain hnot
      refine Or.inr ⟨?_, ?_, hbusy⟩
      · simp only [rank, hunfetched, hdistance, waiting, hrest, hm, hnot, if_false]
      · rw [hbusy]
        refine helper_queue ?_ (by rwa [hrest])
        rw [runBlock_chains hqueue]
        exact hchain

theorem rank_alert {e : EntryRef} {host : HostRef} {processID : String}
    (hmain : w.main = .alerting e host processID) (hchain : 1 ≤ w.chains h) :
    (w.beginSheet e host processID).rank h < w.rank h ∨
      ((w.beginSheet e host processID).rank h = w.rank h ∧
        w.helper (Operation.isPollOf h) = .queue) := by
  by_cases hm : Block.reschedule h ∈ w.mainQueue
  · left
    rw [rank_lt_iff]
    simp [unfetched, distance, waiting, beginSheet, hm, hmain]
  · refine Or.inr ⟨?_, helper_queue hchain hm⟩
    simp [rank, unfetched, distance, waiting, beginSheet, hm]

theorem monitoring_idle (hm : w.monitoring = true) :
    w.sheetOpen = false ∧ w.main ≠ .opening ∧ ∀ todo, w.main ≠ .reloading todo := by
  simp only [monitoring, configuring, Bool.and_eq_true, Bool.not_eq_true', Bool.or_eq_false_iff,
    decide_eq_false_iff_not] at hm
  exact ⟨hm.1.1, hm.1.2, fun todo heq => by simp [heq] at hm⟩

theorem monitoring_of (hsheet : w.sheetOpen = false)
    (hmain : w.main = .idle ∨ ∃ e host processID, w.main = .alerting e host processID) :
    w.monitoring = true := by
  rcases hmain with heq | ⟨e, host, processID, heq⟩ <;>
    simp [monitoring, configuring, hsheet, heq]

theorem keeps_monitoring (hi : w.monitoring = true) (hok : keepsWatchers a = true)
    (h : Moves w a s v) : v.monitoring = true ∧ ∀ g, w.chains g ≤ v.chains g := by
  obtain ⟨hsheet, hopening, hreloading⟩ := monitoring_idle hi
  cases h with
  | operation x hops => exact ⟨hi, fun g => advanced_chains x hops g⟩
  | @block b rest hmain hqueue =>
    refine ⟨?_, fun g => Nat.le_of_eq (runBlock_chains hqueue g).symm⟩
    cases b with
    | reschedule g => exact monitoring_of hsheet (Or.inl hmain)
    | killDialog e => exact monitoring_of hsheet (Or.inr ⟨_, _, _, rfl⟩)
  | opened hmain => exact absurd hmain hopening
  | reloaded hmain => exact absurd hmain (hreloading [])
  | reload hmain => exact absurd hmain (hreloading _)
  | alert hmain => exact ⟨monitoring_of hsheet (Or.inl rfl), fun _ => Nat.le_refl _⟩
  | openConfigSheet hmain => exact absurd hok (by decide)
  | endConfigSheet hmain hopen => exact absurd (hsheet.symm.trans hopen) (by decide)
  | reloadDataWatchers hmain hclosed => exact absurd hok (by decide)
  | edit hmain hopen => exact absurd (hsheet.symm.trans hopen) (by decide)
  | quiet hmain hq =>
    cases hq with
    | killProcess =>
      refine ⟨monitoring_of hsheet (Or.inl hmain), fun g => ?_⟩
      cases w.doc.killTarget <;> simp [chains]
    | killEnded accept connected junk hd =>
      exact ⟨monitoring_of hsheet (Or.inl hmain), fun _ => Nat.le_refl _⟩
    | _ => exact ⟨hi, fun _ => Nat.le_refl _⟩

def Polled (h : HostRef) (w : World) : Prop := w.monitoring = true ∧ 1 ≤ w.chains h

theorem keeps_polled (hi : w.Polled h) (hok : keepsWatchers a = true) {t : World}
    (hstep : w.step a = some t) : t.Polled h := by
  obtain ⟨v, hm, rfl⟩ := step_moves hstep
  obtain ⟨hmonitoring, hchains⟩ := keeps_monitoring hi.1 hok hm
  exact ⟨hmonitoring, hi.2.trans (hchains h)⟩

theorem Polled.enabled (hi : w.Polled h) :
    Transition.Enabled step (serves (Operation.isPollOf h) (w.helper (Operation.isPollOf h))) w := by
  obtain ⟨hmonitoring, hchain⟩ := hi
  unfold helper
  split
  next hany =>
    obtain ⟨op, hop, hpoll⟩ := List.any_eq_true.mp hany
    obtain ⟨i, hi, hget⟩ := List.mem_iff_getElem.mp hop
    have hop' : w.ops[i]? = some op := List.getElem?_eq_some_iff.mpr ⟨hi, hget⟩
    have hstep : ∃ t, w.step (.operation i {}) = some t := by
      simp [World.step, control, runOperation, hop']
    exact ⟨.operation i {}, hstep.choose, ⟨i, {}, op, rfl, hop', hpoll⟩, hstep.choose_spec⟩
  next hany =>
    have hstep : ∃ t, w.step .mainThread = some t := by
      obtain ⟨_, hopening, hreloading⟩ := monitoring_idle hmonitoring
      have hqueue : w.mainQueue ≠ [] := by
        intro hempty
        have hbusy := helper_queue hchain (by rw [hempty]; exact List.not_mem_nil)
        exact absurd hbusy (by simp [helper, hany])
      cases hmain : w.main with
      | idle =>
        cases hq : w.mainQueue with
        | nil => exact absurd hq hqueue
        | cons b rest => simp [World.step, control, runMain, hmain, hq]
      | opening => exact absurd hmain hopening
      | reloading todo => exact absurd hmain (hreloading todo)
      | alerting e host processID => simp [World.step, control, runMain, hmain]
    exact ⟨.mainThread, hstep.choose, rfl, hstep.choose_spec⟩

theorem rank_execute (s : Option Section) : (v.execute s).rank h = v.rank h := rfl

theorem helper_execute (s : Option Section) (p : Operation → Bool) :
    (v.execute s).helper p = v.helper p := rfl

theorem serves_index {p : Operation → Bool} {l r : List Operation} {op : Operation} {x : Input}
    {k : Worker} (hops : w.ops = l ++ op :: r)
    (h : serves p k w (.operation l.length x)) : p op = true := by
  cases k with
  | mainThread => exact absurd h (by simp [serves])
  | queue =>
    obtain ⟨i, y, op', heq, hop', hp⟩ := h
    obtain ⟨rfl, rfl⟩ := Act.operation.inj heq
    have hget : w.ops[l.length]? = some op := by simp [hops]
    rw [hget] at hop'
    exact (Option.some.inj hop') ▸ hp

theorem Polled.progress (hi : w.Polled h) (hok : keepsWatchers a = true) {t : World}
    (hstep : w.step a = some t) (hgoal : ¬Sweeps h w a) :
    t.rank h < w.rank h ∨ (t.rank h = w.rank h ∧
      t.helper (Operation.isPollOf h) = w.helper (Operation.isPollOf h) ∧
      ¬serves (Operation.isPollOf h) (w.helper (Operation.isPollOf h)) w a) := by
  obtain ⟨v, hm, rfl⟩ := step_moves hstep
  rw [rank_execute, helper_execute]
  obtain ⟨hsheet, hopening, hreloading⟩ := monitoring_idle hi.1
  generalize w.locked a = s at hm
  cases hm with
  | @operation l r op x hops =>
    cases hop : op.isPollOf h with
    | true =>
      refine Or.inl (rank_operation x hops hop (fun qualified hbody => hgoal ?_))
      exact ⟨l.length, x, op, qualified, rfl, by simp [hops], hbody⟩
    | false =>
      refine Or.inr ⟨rank_idle x hops hop, helper_operation x hops hop, fun hserves => ?_⟩
      rw [serves_index hops hserves] at hop
      exact absurd hop (by decide)
  | @block b rest hmain hqueue =>
    refine (rank_block hmain hqueue hi.2).imp_right (fun ⟨hrank, hhelper, hbusy⟩ => ?_)
    exact ⟨hrank, hhelper, by simp [hbusy, serves]⟩
  | opened hmain => exact absurd hmain hopening
  | reloaded hmain => exact absurd hmain (hreloading [])
  | reload hmain => exact absurd hmain (hreloading _)
  | alert hmain =>
    refine (rank_alert hmain hi.2).imp_right (fun ⟨hrank, hbusy⟩ => ⟨hrank, rfl, ?_⟩)
    simp [hbusy, serves]
  | openConfigSheet hmain => exact absurd hok (by decide)
  | endConfigSheet hmain hopen => exact absurd (hsheet.symm.trans hopen) (by decide)
  | reloadDataWatchers hmain hclosed => exact absurd hok (by decide)
  | edit hmain hopen => exact absurd (hsheet.symm.trans hopen) (by decide)
  | quiet hmain hq =>
    right
    have hnot : ∀ k, ¬serves (Operation.isPollOf h) k w a := by
      intro k
      cases k <;> cases hq <;> simp [serves]
    cases hq with
    | killProcess =>
      have hblocks : Block.reschedule h ∉ w.doc.killTarget.toList.map Block.killDialog := by
        simp
      refine ⟨rank_congr rfl ?_ (waiting_append w hblocks), rfl, hnot _⟩
      rw [List.count_append, List.count_eq_zero.mpr hblocks, Nat.add_zero]
    | _ => exact ⟨rfl, rfl, hnot _⟩

theorem polled_helps (h : HostRef) :
    Transition.Helps step (serves (Operation.isPollOf h)) (fun _ a => keepsWatchers a = true)
      (Polled h) (Sweeps h) (rank h) (helper (Operation.isPollOf h)) where
  enabled _ hi := hi.enabled
  keeps _ _ _ hi hok hstep _ := keeps_polled hi hok hstep
  progress _ _ _ hi hok hstep hgoal := hi.progress hok hstep hgoal

section Refreshing

theorem advance_refreshDistance (c : Configuration) (x : Input) {op : Operation}
    (hop : op.isRefresh = true) (hlog : op.body ≠ .refresh .log) :
    (op.advance c x).body.elim 0 Body.refreshDistance +
        ((op.advance c x).enqueues.toList.map (fun op => op.body.refreshDistance)).sum <
      op.body.refreshDistance := by
  obtain ⟨body, isCancelled⟩ := op
  cases body with
  | poll g state => simp [Operation.isRefresh] at hop
  | refresh state =>
    cases state with
    | log => exact absurd rfl hlog
    | queued =>
      cases isCancelled <;> simp [Operation.advance, RefreshState.advance, Body.refreshDistance]
    | _ =>
      simp [Operation.advance, RefreshState.advance, Body.refreshDistance,
        generateRefreshOperation]

theorem advance_unrefreshed (c : Configuration) (x : Input) {op : Operation}
    (hop : op.isRefresh = false) :
    (op.advance c x).body.elim 0 Body.refreshDistance = 0 ∧ op.body.refreshDistance = 0 ∧
      (op.advance c x).enqueues = none := by
  obtain ⟨body, isCancelled⟩ := op
  cases body with
  | refresh state => simp [Operation.isRefresh] at hop
  | poll g state =>
    obtain ⟨henq, ⟨_, hbody, _⟩ | ⟨_, _, ⟨_, hbody⟩ | ⟨next, hbody, _⟩⟩⟩ :=
      PollState.advance_cases c g isCancelled x state <;>
      simp [Operation.advance, henq, hbody, Body.refreshDistance]

theorem advanced_refreshDistance (x : Input) {l r : List Operation} {op : Operation}
    (hops : w.ops = l ++ op :: r) :
    (w.advanced l r op (op.advance w.doc.conf x)).refreshDistance + op.body.refreshDistance =
      w.refreshDistance + ((op.advance w.doc.conf x).body.elim 0 Body.refreshDistance +
        ((op.advance w.doc.conf x).enqueues.toList.map (fun op => op.body.refreshDistance)).sum) := by
  cases hb : (op.advance w.doc.conf x).body <;>
    simp [refreshDistance, advanced, hops, hb] <;> omega

def Refreshed (w : World) : Prop := w.monitoring = true ∧ 1 ≤ w.loops

theorem keeps_refreshing (hi : w.Refreshed) (hok : keepsWatchers a = true) (h : Moves w a s v) :
    v.Refreshed := by
  refine ⟨(keeps_monitoring hi.1 hok h).1, ?_⟩
  obtain ⟨hsheet, hopening, hreloading⟩ := monitoring_idle hi.1
  cases h with
  | operation x hops => exact hi.2.trans (advanced_loops x hops)
  | block hmain hqueue => exact hi.2.trans (Nat.le_of_eq (runBlock_loops _ _).symm)
  | opened hmain => exact absurd hmain hopening
  | reload hmain => exact absurd hmain (hreloading _)
  | openConfigSheet hmain => exact absurd hok (by decide)
  | endConfigSheet hmain hopen => exact absurd (hsheet.symm.trans hopen) (by decide)
  | reloadDataWatchers hmain hclosed => exact absurd hok (by decide)
  | quiet hmain hq => cases hq <;> exact hi.2
  | _ => exact hi.2

theorem Refreshed.enabled (hi : w.Refreshed) :
    Transition.Enabled step (serves Operation.isRefresh .queue) w := by
  obtain ⟨op, hop, hrefreshes⟩ := List.countP_pos_iff.mp hi.2
  simp only [Operation.refreshes, Bool.and_eq_true] at hrefreshes
  obtain ⟨i, hi, hget⟩ := List.mem_iff_getElem.mp hop
  have hop' : w.ops[i]? = some op := List.getElem?_eq_some_iff.mpr ⟨hi, hget⟩
  have hstep : ∃ t, w.step (.operation i {}) = some t := by
    simp [World.step, control, runOperation, hop']
  exact ⟨.operation i {}, hstep.choose, ⟨i, {}, op, rfl, hop', hrefreshes.1⟩, hstep.choose_spec⟩

theorem Refreshed.progress (hi : w.Refreshed) (hok : keepsWatchers a = true) {t : World}
    (hstep : w.step a = some t) (hgoal : ¬Refreshes w a) :
    t.refreshDistance < w.refreshDistance ∨ (t.refreshDistance = w.refreshDistance ∧
      ¬serves Operation.isRefresh .queue w a) := by
  obtain ⟨v, hm, rfl⟩ := step_moves hstep
  change v.refreshDistance < _ ∨ v.refreshDistance = _ ∧ _
  obtain ⟨hsheet, hopening, hreloading⟩ := monitoring_idle hi.1
  generalize w.locked a = s at hm
  cases hm with
  | @operation l r op x hops =>
    have hsum := advanced_refreshDistance x hops
    cases hop : op.isRefresh with
    | true =>
      have hlt := advance_refreshDistance w.doc.conf x hop
        (fun hbody => hgoal ⟨l.length, x, op, rfl, by simp [hops], hbody⟩)
      exact Or.inl (by omega)
    | false =>
      obtain ⟨hbody, hold, henq⟩ := advance_unrefreshed w.doc.conf x hop
      rw [hbody, hold, henq] at hsum
      refine Or.inr ⟨by simpa using hsum, fun hserves => ?_⟩
      rw [serves_index hops hserves] at hop
      exact absurd hop (by decide)
  | @block b rest hmain hqueue =>
    refine Or.inr ⟨?_, by simp [serves]⟩
    cases b <;> simp [refreshDistance, runBlock, generateMySQLOperation, Body.refreshDistance]
  | opened hmain => exact absurd hmain hopening
  | reload hmain => exact absurd hmain (hreloading _)
  | openConfigSheet hmain => exact absurd hok (by decide)
  | endConfigSheet hmain hopen => exact absurd (hsheet.symm.trans hopen) (by decide)
  | reloadDataWatchers hmain hclosed => exact absurd hok (by decide)
  | quiet hmain hq => exact Or.inr ⟨by cases hq <;> rfl, by cases hq <;> simp [serves]⟩
  | _ => exact Or.inr ⟨rfl, by simp [serves]⟩

theorem refreshed_helps :
    Transition.Helps step (fun _ : Unit => serves Operation.isRefresh .queue)
      (fun _ a => keepsWatchers a = true) Refreshed Refreshes refreshDistance (fun _ => ()) where
  enabled _ hi := hi.enabled
  keeps w a t hi hok hstep _ := by
    obtain ⟨v, hm, rfl⟩ := step_moves hstep
    have hv : v.Refreshed := keeps_refreshing hi hok hm
    exact hv
  progress _ _ _ hi hok hstep hgoal :=
    (hi.progress hok hstep hgoal).imp_right (fun ⟨hrank, hnot⟩ => ⟨hrank, rfl, hnot⟩)

end Refreshing

section Reloading

def reloadSteps (w : World) : Nat :=
  match w.main with
  | .reloading todo => (todo.map ReloadItem.steps).sum + 1
  | _ => 0

-- The sheet is closed and what the last reload set up is under way.
structure Loaded (c : Configuration) (w : World) : Prop where
  closed : w.configuring = false
  attended : w.Attended
  conf : w.doc.conf = c

theorem Loaded.step {c : Configuration} {t : World} (hi : w.Loaded c)
    (hok : keepsWatchers a = true) (hstep : w.step a = some t) : t.Loaded c := by
  have hclosed := hi.closed
  simp only [configuring, Bool.or_eq_false_iff, decide_eq_false_iff_not] at hclosed
  have hedit : ∀ conf, a ≠ .edit conf := by
    rintro conf rfl
    obtain ⟨v, hm, _⟩ := step_moves hstep
    generalize w.locked (.edit conf) = s at hm
    cases hm with
    | edit hmain hopen => exact absurd (hclosed.1.symm.trans hopen) (by decide)
    | quiet hmain hq => cases hq
  have hcared : t.Cared := Cared.step (Or.inr hi.attended) hstep
  have hstill : t.configuring = false := by
    obtain ⟨v, hm, rfl⟩ := step_moves hstep
    change v.configuring = false
    generalize w.locked a = s at hm
    cases hm with
    | @block b rest hmain hqueue => cases b <;> simp [configuring, runBlock, hclosed.1, hmain]
    | opened hmain => exact absurd hmain hclosed.2
    | @reload item todo hmain =>
      obtain ⟨todo', hmain'⟩ := (w.runReload_reloads item todo).main
      simp [configuring, (w.runReload_reloads item todo).sheetOpen, hclosed.1, hmain']
    | openConfigSheet hmain => exact absurd hok (by decide)
    | endConfigSheet hmain hopen => exact absurd (hclosed.1.symm.trans hopen) (by decide)
    | reloadDataWatchers hmain hsheet => exact absurd hok (by decide)
    | quiet hmain hq => cases hq <;> exact hi.closed
    | operation x hops => exact hi.closed
    | edit hmain hopen => exact absurd (hclosed.1.symm.trans hopen) (by decide)
    | _ => simp [configuring, hclosed.1, beginSheet]
  exact ⟨hstill, hcared.resolve_left (by simp [hstill]), (step_conf hstep hedit).trans hi.conf⟩

theorem runReload_steps (item : ReloadItem) (todo : List ReloadItem) :
    (w.runReload item todo).2.reloadSteps < ((item :: todo).map ReloadItem.steps).sum + 1 := by
  cases item with
  | visit g =>
    cases hactive : w.doc.conf.isActive g <;>
      simp [reloadSteps, runReload, hactive, ReloadItem.steps]
  | _ => simp [reloadSteps, runReload, ReloadItem.steps]

theorem Loaded.reloading {c : Configuration} (hi : w.Loaded c) (hm : w.monitoring = false) :
    ∃ todo, w.main = .reloading todo := by
  simp only [monitoring, hi.closed, Bool.not_false, Bool.true_and] at hm
  split at hm
  next todo heq => exact ⟨todo, heq⟩
  next => exact absurd hm (by decide)

theorem loaded_helps (c : Configuration) :
    Transition.Helps step (fun _ : Unit => serves Operation.isRefresh .mainThread)
      (fun _ a => keepsWatchers a = true) (fun w => w.Loaded c ∧ w.monitoring = false)
      (fun w a => ∃ t, w.step a = some t ∧ t.monitoring = true) reloadSteps (fun _ => ()) where
  enabled w hi := by
    obtain ⟨todo, hmain⟩ := hi.1.reloading hi.2
    have hstep : ∃ t, w.step .mainThread = some t := by
      cases todo <;> simp [World.step, control, runMain, hmain]
    exact ⟨.mainThread, hstep.choose, rfl, hstep.choose_spec⟩
  keeps w a t hi hok hstep hgoal := by
    refine ⟨hi.1.step hok hstep, ?_⟩
    by_contra hm
    exact hgoal ⟨t, hstep, by simpa using hm⟩
  progress w a t hi hok hstep hgoal := by
    obtain ⟨todo, hmain⟩ := hi.1.reloading hi.2
    obtain ⟨v, hm, rfl⟩ := step_moves hstep
    change v.reloadSteps < _ ∨ v.reloadSteps = _ ∧ _
    have hclosed := hi.1.closed
    simp only [configuring, Bool.or_eq_false_iff] at hclosed
    generalize w.locked a = s at hm
    cases hm with
    | operation x hops => exact Or.inr ⟨rfl, rfl, by simp [serves]⟩
    | block hidle hqueue => simp [hmain] at hidle
    | opened hopening => simp [hmain] at hopening
    | reloaded hlast => exact Or.inl (by simp [reloadSteps, hlast])
    | @reload item todo hnext =>
      refine Or.inl ((runReload_steps item todo).trans_le ?_)
      simp [reloadSteps, hnext]
    | alert halert => simp [hmain] at halert
    | openConfigSheet hidle => simp [hmain] at hidle
    | endConfigSheet hidle hsheet => simp [hmain] at hidle
    | reloadDataWatchers hidle hsheet => simp [hmain] at hidle
    | edit hidle hsheet => simp [hmain] at hidle
    | quiet hidle hq => simp [hmain] at hidle

end Reloading

end Steps

theorem loaded_run {r : Transition.InfiniteRun step} {c : Configuration} {n : Nat}
    (hi : (r.state n).Loaded c) (hok : ∀ n, keepsWatchers (r.act n) = true) :
    ∀ m, n ≤ m → (r.state m).Loaded c :=
  r.invariant (K := fun _ a => keepsWatchers a = true) (fun m _ => hok m) hi
    (fun _ _ _ hi ha hstep => hi.step ha hstep)

theorem eventually_monitoring {r : Transition.InfiniteRun step} {c : Configuration}
    (hloaded : (r.state 0).Loaded c) (hok : ∀ n, keepsWatchers (r.act n) = true)
    (hfair : Transition.WeaklyFair r (serves Operation.isRefresh .mainThread)) :
    ∃ n, (r.state n).Loaded c ∧ (r.state n).monitoring = true := by
  cases hm : (r.state 0).monitoring with
  | true => exact ⟨0, hloaded, hm⟩
  | false =>
    obtain ⟨m, _, t, hstep, hmonitoring⟩ :=
      (loaded_helps c).reaches (fun _ => hfair) hok ⟨hloaded, hm⟩
    obtain rfl := Option.some.inj ((r.steps m).symm.trans hstep)
    exact ⟨m + 1, loaded_run hloaded hok (m + 1) (Nat.zero_le _), hmonitoring⟩

section Recurrence
variable {conf : Configuration} {sliderValue trackQuery : Int} {acts : List Act}
  {r : Transition.InfiniteRun step}

theorem started_loaded
    (hstart : Transition.run step Transition.anyStep (initial conf sliderValue trackQuery)
      (.reloadDataWatchers :: acts) = some (r.state 0))
    (hclosed : (r.state 0).configuring = false) :
    (r.state 0).Loaded (r.state 0).doc.conf :=
  ⟨hclosed, (started_cared hstart).resolve_left (by simp [hclosed]), rfl⟩

theorem eventually_polled
    (hstart : Transition.run step Transition.anyStep (initial conf sliderValue trackQuery)
      (.reloadDataWatchers :: acts) = some (r.state 0))
    (hclosed : (r.state 0).configuring = false) (hok : ∀ n, keepsWatchers (r.act n) = true)
    {aHost : HostRef} (hactive : (r.state 0).doc.conf.isActive aHost = true)
    (hfair : Transition.WeaklyFair r (serves (Operation.isPollOf aHost) .mainThread)) :
    ∃ k, (r.state k).Loaded (r.state 0).doc.conf ∧ (r.state k).Polled aHost := by
  obtain ⟨k, hloaded, hmonitoring⟩ :=
    eventually_monitoring (started_loaded hstart hclosed) hok hfair
  exact ⟨k, hloaded, hmonitoring,
    (hloaded.attended.monitored hmonitoring).1 aHost (hloaded.conf ▸ hactive)⟩

theorem Polled.sweeps {aHost : HostRef} {k : Nat} (hpolled : (r.state k).Polled aHost)
    (hok : ∀ n, keepsWatchers (r.act n) = true)
    (hfair : ∀ k, Transition.WeaklyFair r (serves (Operation.isPollOf aHost) k)) (n : Nat) :
    ∃ m, n ≤ m ∧ Sweeps aHost (r.state m) (r.act m) := by
  have hkept := r.invariant (K := fun _ a => keepsWatchers a = true) (fun m _ => hok m) hpolled
    (fun _ _ _ hi hsa hstep => keeps_polled hi hsa hstep) (max n k) (Nat.le_max_right n k)
  obtain ⟨m, hm, hsweeps⟩ := (polled_helps aHost).reaches hfair hok hkept
  exact ⟨m, (Nat.le_max_left n k).trans hm, hsweeps⟩

theorem polls_recur
    (hstart : Transition.run step Transition.anyStep (initial conf sliderValue trackQuery)
      (.reloadDataWatchers :: acts) = some (r.state 0))
    (hclosed : (r.state 0).configuring = false) (hok : ∀ n, keepsWatchers (r.act n) = true)
    {aHost : HostRef} (hactive : (r.state 0).doc.conf.isActive aHost = true)
    (hfair : ∀ k, Transition.WeaklyFair r (serves (Operation.isPollOf aHost) k)) (n : Nat) :
    ∃ m, n ≤ m ∧ Sweeps aHost (r.state m) (r.act m) := by
  obtain ⟨k, _, hpolled⟩ := eventually_polled hstart hclosed hok hactive (hfair .mainThread)
  exact hpolled.sweeps hok hfair n

theorem Refreshed.refreshes {k : Nat} (hrefreshed : (r.state k).Refreshed)
    (hok : ∀ n, keepsWatchers (r.act n) = true)
    (hfair : Transition.WeaklyFair r (serves Operation.isRefresh .queue)) (n : Nat) :
    ∃ m, n ≤ m ∧ Refreshes (r.state m) (r.act m) := by
  have hkept := r.invariant (K := fun _ a => keepsWatchers a = true) (fun m _ => hok m) hrefreshed
    (fun w a t hi hsa hstep => ?_) (max n k) (Nat.le_max_right n k)
  · obtain ⟨m, hm, hrefreshes⟩ := refreshed_helps.reaches (fun _ => hfair) hok hkept
    exact ⟨m, (Nat.le_max_left n k).trans hm, hrefreshes⟩
  · obtain ⟨v, hm, rfl⟩ := step_moves hstep
    have hv : v.Refreshed := keeps_refreshing hi hsa hm
    exact hv

theorem refreshes_recur
    (hstart : Transition.run step Transition.anyStep (initial conf sliderValue trackQuery)
      (.reloadDataWatchers :: acts) = some (r.state 0))
    (hclosed : (r.state 0).configuring = false) (hok : ∀ n, keepsWatchers (r.act n) = true)
    (hfair : ∀ k, Transition.WeaklyFair r (serves Operation.isRefresh k)) (n : Nat) :
    ∃ m, n ≤ m ∧ Refreshes (r.state m) (r.act m) := by
  obtain ⟨k, hloaded, hmonitoring⟩ :=
    eventually_monitoring (started_loaded hstart hclosed) hok (hfair .mainThread)
  have hrefreshed : (r.state k).Refreshed :=
    ⟨hmonitoring, (hloaded.attended.monitored hmonitoring).2⟩
  exact hrefreshed.refreshes hok (hfair .queue) n

end Recurrence

section Cycle

def cycleConf : Configuration :=
  Configuration.onePool { active := some 1 } [3] (by decide) (fun _ => 1) (fun _ => 0)

def cycleStart : World where
  doc := Document.initial cycleConf 30 1
  ops := [generateRefreshOperation, generateMySQLOperation 3]

-- One round of the refresh loop, then one poll of an idle server and its successor.
def cycleActs : List Act :=
  List.replicate 4 (.operation 0 {}) ++ (List.replicate 5 (.operation 0 {}) ++
    (List.replicate 4 (.operation 0 {}) ++ [.mainThread]))

theorem cycle_start : Transition.run step Transition.anyStep (initial cycleConf 30 1)
    [.reloadDataWatchers, .mainThread, .mainThread, .mainThread] = some cycleStart := rfl

theorem cycle_loop :
    Transition.run step Transition.anyStep cycleStart cycleActs = some cycleStart := by
  refine Transition.run_append.mpr ⟨{ cycleStart with
    ops := [generateMySQLOperation 3, generateRefreshOperation] }, rfl, ?_⟩
  refine Transition.run_append.mpr ⟨{ cycleStart with
    ops := [{ body := .poll 3 (.replicating (some [])) }, generateRefreshOperation] }, rfl, ?_⟩
  exact Transition.run_append.mpr ⟨{ cycleStart with
    ops := [generateRefreshOperation], mainQueue := [.reschedule 3] }, rfl, rfl⟩

def cycle : Transition.InfiniteRun step := .cycle cycle_loop (by decide)

theorem cycle_keepsWatchers (n : Nat) : keepsWatchers (cycle.act n) = true := by
  have hall : ∀ a ∈ cycleActs, keepsWatchers a = true := by decide
  exact hall _ (List.get_mem _ _)

theorem cycle_mainThread (p : Operation → Bool) :
    Transition.WeaklyFair cycle (serves p .mainThread) :=
  Transition.InfiniteRun.cycle_fair cycle_loop (by decide) (k := 13) (by decide) rfl

end Cycle

theorem polls_recur_cycle : ∃ m, 100 ≤ m ∧ Sweeps 3 (cycle.state m) (cycle.act m) := by
  have hqueue : Transition.WeaklyFair cycle (serves (Operation.isPollOf 3) .queue) :=
    Transition.InfiniteRun.cycle_fair cycle_loop (by decide) (k := 4) (by decide)
      ⟨0, {}, _, rfl, rfl, rfl⟩
  refine polls_recur cycle_start rfl cycle_keepsWatchers rfl (fun k => ?_) 100
  cases k with
  | queue => exact hqueue
  | mainThread => exact cycle_mainThread _

theorem refreshes_recur_cycle : ∃ m, 100 ≤ m ∧ Refreshes (cycle.state m) (cycle.act m) := by
  have hqueue : Transition.WeaklyFair cycle (serves Operation.isRefresh .queue) :=
    Transition.InfiniteRun.cycle_fair cycle_loop (by decide) (k := 0) (by decide)
      ⟨0, {}, _, rfl, rfl, rfl⟩
  refine refreshes_recur cycle_start rfl cycle_keepsWatchers (fun k => ?_) 100
  cases k with
  | queue => exact hqueue
  | mainThread => exact cycle_mainThread _

end World

end DBMonitor
