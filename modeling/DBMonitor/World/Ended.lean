import DBMonitor.Log.Keys
import DBMonitor.World.Liveness

namespace DBMonitor

namespace Document

-- A section that makes or renews the entry that find aHost pid would give.
def filesKey (aHost : HostRef) (pid : String) (d : Document) (s : Section) : Prop :=
  ∃ g f, d.filing s = some (g, f) ∧ d.conf.sameHostname g aHost = true ∧ f.pid = pid

def Unrenewed (aHost : HostRef) (pid : String) (d : Document) : Prop :=
  ∀ r ∈ d.items, d.conf.sameHostname (d.entry r).eventHost aHost = true →
    (d.entry r).processID = pid → (d.entry r).updated = false

section Key
variable {d : Document} {s : Section} {aHost : HostRef} {pid : String} {r : EntryRef}

-- An entry with the key had it before, unless the section files under the key.
theorem exec_key (hconf : (d.exec s).conf = d.conf) (hlive : pid ≠ deadProcess)
    (hfiles : ¬d.filesKey aHost pid s) (hr : r ∈ (d.exec s).items)
    (hhost : (d.exec s).conf.sameHostname ((d.exec s).entry r).eventHost aHost = true)
    (hpid : ((d.exec s).entry r).processID = pid) :
    r ∈ d.items ∧ d.conf.sameHostname (d.entry r).eventHost aHost = true ∧
      (d.entry r).processID = pid := by
  rw [hconf] at hhost
  rcases exec_mem hr with hold | ⟨g, f, hf, hnone, rfl⟩
  · obtain ⟨hh, hp⟩ := exec_old_key hold (fun hdead => hlive (hpid.symm.trans hdead))
    exact ⟨hold, hh ▸ hhost, hp.symm.trans hpid⟩
  · rw [← d.target_of_find_none g hnone] at hhost hpid
    refine absurd ⟨g, f, hf, ?_, (exec_filed hf).2.2.1.symm.trans hpid⟩ hfiles
    rw [exec_filing hf, d.file_fresh g f hnone] at hhost
    exact hhost

theorem find_none_step (hconf : (d.exec s).conf = d.conf) (hlive : pid ≠ deadProcess)
    (hfiles : ¬d.filesKey aHost pid s) (h : d.find aHost pid = none) :
    (d.exec s).find aHost pid = none := by
  refine (find_none_iff _ aHost).mpr (fun r hr hhost hpid => ?_)
  obtain ⟨hold, hhost', hpid'⟩ := exec_key hconf hlive hfiles hr hhost hpid
  exact (d.find_none_iff aHost).mp h r hold hhost' hpid'

theorem Unrenewed.step (hconf : (d.exec s).conf = d.conf) (hlive : pid ≠ deadProcess)
    (hfiles : ¬d.filesKey aHost pid s) (h : d.Unrenewed aHost pid) :
    (d.exec s).Unrenewed aHost pid := by
  intro r hr hhost hpid
  obtain ⟨hold, hhost', hpid'⟩ := exec_key hconf hlive hfiles hr hhost hpid
  by_contra hmark
  rcases exec_updated_true hr (by simpa using hmark) with ⟨_, hrenewed⟩ | ⟨g, f, hf, rfl⟩
  · rw [h r hold hhost' hpid'] at hrenewed
    exact absurd hrenewed (by decide)
  · obtain ⟨_, _, hp, hh⟩ := exec_filed hf
    rw [hconf] at hhost
    refine hfiles ⟨g, f, hf, ?_, hp.symm.trans hpid⟩
    simp only [Configuration.sameHostname, decide_eq_true_eq] at hh hhost ⊢
    exact hh.symm.trans hhost

theorem filesKey_cases (h : d.filesKey aHost pid s) :
    (∃ now g row, s = .updateRow now g row ∧ qualifies d.conf g row = true ∧
      d.conf.sameHostname g aHost = true ∧ printID row.id = pid) ∨
    (∃ now g status, s = .updateMySQLSlaveStatus now g status ∧ status.unhealthy = true ∧
      d.conf.sameHostname g aHost = true ∧ pid = replicationID) ∨
    ∃ now g, s = .updateMySQLFail now g ∧ d.conf.sameHostname g aHost = true ∧
      pid = connectFailID := by
  obtain ⟨g, f, hf, hhost, hpid⟩ := h
  rcases filing_cases hf with
    ⟨now, row, rfl, rfl, hq⟩ | ⟨now, status, rfl, rfl, hu⟩ | ⟨now, rfl, rfl⟩
  · exact Or.inl ⟨now, g, row, rfl, hq, hhost, hpid⟩
  · exact Or.inr (Or.inl ⟨now, g, status, rfl, hu, hhost, hpid.symm⟩)
  · exact Or.inr (Or.inr ⟨now, g, rfl, hhost, hpid.symm⟩)

theorem clearUpdates_unrenewed (aHost : HostRef) (pid : String) (d : Document) :
    (d.exec (.clearUpdates aHost)).Unrenewed aHost pid := by
  intro r hr hhost hpid
  have hold : r ∈ d.items := by simpa [exec] using hr
  have hconf : (d.exec (.clearUpdates aHost)).conf = d.conf := rfl
  rw [hconf, (exec_evolves (d.dataList.allocated r hold)).1] at hhost
  rw [exec, clearUpdates_entry, if_pos hold, clearMark, if_pos hhost]

theorem discardMySQLDead_none (hlive : pid ≠ deadProcess) (h : d.Unrenewed aHost pid) :
    (d.exec (.discardMySQLDead aHost)).find aHost pid = none := by
  refine (find_none_iff _ aHost).mpr (fun r hr hhost hpid => ?_)
  have hfiles : ¬d.filesKey aHost pid (.discardMySQLDead aHost) := by simp [filesKey, filing]
  obtain ⟨hold, hhost', hpid'⟩ := exec_key rfl hlive hfiles hr hhost hpid
  have hsweeps : sweeps d.conf [aHost] (d.entry r) = true := by
    simp [sweeps, h r hold hhost' hpid', hhost']
  rw [exec, discardMySQLDead_entry, if_pos hold] at hpid
  rw [exec, discardMySQLDead_items, List.mem_filter] at hr
  cases htracks : d.tracks (d.entry r) with
  | false => simp [hsweeps, htracks] at hr
  | true =>
    rw [sweepEntry, hsweeps, htracks] at hpid
    exact hlive hpid.symm

end Key

end Document

namespace PollState

-- Between the clearing of the marks and the sweep.
def cleared : PollState → Bool
  | .connecting => true
  | .fetching => true
  | .filing _ _ => true
  | .replicating _ => true
  | .failing => true
  | .sweeping _ => true
  | _ => false

-- The step reads something that is to be filed under the process id.
def reports (c : Configuration) (g : HostRef) (pid : String) (x : Input) : PollState → Bool
  | .connecting => !x.connects && decide (pid = connectFailID)
  | .fetching => x.results.any (fun rows =>
      rows.any (fun row => Document.qualifies c g row && decide (printID row.id = pid)))
  | .replicating _ =>
      c.isSlave g && x.slaveStatus.any MysqlSlaveStatus.unhealthy && decide (pid = replicationID)
  | _ => false

-- What has been read for the process id and not been filed yet.
def pending (c : Configuration) (g : HostRef) (pid : String) : PollState → Nat
  | .filing _ rest =>
      rest.countP (fun row => Document.qualifies c g row && decide (printID row.id = pid))
  | .failing => if pid = connectFailID then 1 else 0
  | _ => 0

end PollState

namespace Body

def cleared (h : HostRef) : Body → Nat
  | .poll g state => if g = h ∧ state.cleared = true then 1 else 0
  | .refresh _ => 0

def pending (c : Configuration) (aHost : HostRef) (pid : String) : Body → Nat
  | .poll g state => if c.sameHostname g aHost then state.pending c g pid else 0
  | .refresh _ => 0

end Body

namespace World

def load (f : Operation → Nat) (w : World) : Nat := (w.ops.map f).sum

def Clears (h : HostRef) (w : World) (a : Act) : Prop := w.locked a = some (.clearUpdates h)

def FilesKey (aHost : HostRef) (pid : String) (w : World) (a : Act) : Prop :=
  ∃ s, w.locked a = some s ∧ w.doc.filesKey aHost pid s

def Reports (aHost : HostRef) (pid : String) (w : World) (a : Act) : Prop :=
  ∃ i x op g state, a = .operation i x ∧ w.ops[i]? = some op ∧ op.body = .poll g state ∧
    w.doc.conf.sameHostname g aHost = true ∧ state.reports w.doc.conf g pid x = true

section Load
variable {w v : World} {a : Act} {s : Option Section} {f : Operation → Nat}

theorem advanced_load (x : Input) {l r : List Operation} {op : Operation}
    (hops : w.ops = l ++ op :: r) (hrefresh : f generateRefreshOperation = 0) :
    (w.advanced l r op (op.advance w.doc.conf x)).load f + f op =
      w.load f + (op.advance w.doc.conf x).body.elim 0 (fun b => f { op with body := b }) := by
  have henq := advanced_enqueues w.doc.conf x op
  have hspawned : ((op.advance w.doc.conf x).enqueues.toList.map f).sum = 0 := by
    cases he : (op.advance w.doc.conf x).enqueues with
    | none => rfl
    | some op' => simp [henq op' (by simp [he]), hrefresh]
  cases hb : (op.advance w.doc.conf x).body <;> simp [load, advanced, hops, hb, hspawned] <;> omega

theorem load_fresh {gs : List HostRef} (hfresh : ∀ g, f (generateMySQLOperation g) = 0)
    (hops : v.ops = w.ops ++ gs.map generateMySQLOperation) : v.load f = w.load f := by
  simp [load, hops, Function.comp_def, hfresh]

-- A monitoring world advances an operation, or at most adds a fresh poll.
theorem monitoring_moves (hi : w.monitoring = true) (hok : keepsWatchers a = true)
    (hm : Moves w a s v) :
    (∃ l op r x, w.ops = l ++ op :: r ∧ a = .operation l.length x ∧
      v = w.advanced l r op (op.advance w.doc.conf x) ∧ s = (op.advance w.doc.conf x).locked) ∨
    (∃ gs : List HostRef, v.ops = w.ops ++ gs.map generateMySQLOperation) ∧
      (∀ i x, a ≠ .operation i x) ∧ ∀ s', s = some s' → s'.queued = false := by
  obtain ⟨hsheet, hopening, hreloading⟩ := monitoring_idle hi
  cases hm with
  | @operation l r op x hops => exact Or.inl ⟨l, op, r, x, hops, rfl, rfl, rfl⟩
  | @block b rest hmain hqueue =>
    refine Or.inr ⟨?_, by simp, by simp⟩
    cases b with
    | reschedule g => exact ⟨[g], rfl⟩
    | killDialog e => exact ⟨[], (List.append_nil _).symm⟩
  | opened hmain => exact absurd hmain hopening
  | reloaded hmain => exact absurd hmain (hreloading [])
  | reload hmain => exact absurd hmain (hreloading _)
  | openConfigSheet hmain => exact absurd hok (by decide)
  | endConfigSheet hmain hopen => exact absurd (hsheet.symm.trans hopen) (by decide)
  | reloadDataWatchers hmain hclosed => exact absurd hok (by decide)
  | edit hmain hopen => exact absurd (hsheet.symm.trans hopen) (by decide)
  | alert hmain => exact Or.inr ⟨⟨[], (List.append_nil _).symm⟩, by simp, by simp⟩
  | quiet hmain hq =>
    refine Or.inr ⟨⟨[], ?_⟩, by cases hq <;> simp, ?_⟩
    · cases hq <;> exact (List.append_nil _).symm
    · cases hq <;> simp [Section.queued]

theorem advance_cleared (c : Configuration) (x : Input) {op : Operation} {h : HostRef}
    (hclear : (op.advance c x).locked ≠ some (.clearUpdates h)) :
    (op.advance c x).body.elim 0 (Body.cleared h) < op.body.cleared h ∨
      (op.advance c x).body.elim 0 (Body.cleared h) = op.body.cleared h ∧
        ∀ qualified, op.body ≠ .poll h (.sweeping qualified) := by
  obtain ⟨body, isCancelled⟩ := op
  cases body with
  | refresh state =>
    cases state with
    | queued => cases isCancelled <;> simp [Operation.advance, RefreshState.advance, Body.cleared]
    | _ => simp [Operation.advance, RefreshState.advance, Body.cleared]
  | poll g state =>
    rcases eq_or_ne g h with rfl | hg
    · cases state with
      | queued =>
        cases isCancelled <;>
          simp [Operation.advance, PollState.advance, Body.cleared, PollState.cleared]
      | checking =>
        cases isCancelled <;>
          simp [Operation.advance, PollState.advance, Body.cleared, PollState.cleared]
      | clearing => exact absurd rfl hclear
      | connecting =>
        cases hc : x.connects <;>
          simp [Operation.advance, PollState.advance, hc, Body.cleared, PollState.cleared]
      | fetching =>
        cases hr : x.results <;>
          simp [Operation.advance, PollState.advance, hr, Body.cleared, PollState.cleared]
      | filing qualified rest =>
        cases rest with
        | nil => simp [Operation.advance, PollState.advance, Body.cleared, PollState.cleared]
        | cons row rest =>
          cases hq : Document.qualifies c g row <;>
            simp [Operation.advance, PollState.advance, hq, Body.cleared, PollState.cleared]
      | _ => simp [Operation.advance, PollState.advance, Body.cleared, PollState.cleared]
    · obtain ⟨_, ⟨_, hbody, _⟩ | ⟨_, _, ⟨_, hbody⟩ | ⟨next, hbody, _⟩⟩⟩ :=
        PollState.advance_cases c g isCancelled x state <;>
        simp [Operation.advance, hbody, Body.cleared, hg]

theorem advance_files {c : Configuration} {x : Input} {g aHost : HostRef} {isCancelled : Bool}
    {state : PollState} {pid : String} {d : Document} {s : Section} (hconf : d.conf = c)
    (hlocked : (state.advance c g isCancelled x).locked = some s) (h : d.filesKey aHost pid s) :
    c.sameHostname g aHost = true := by
  subst hconf
  rcases Document.filesKey_cases h with
    ⟨_, g', _, rfl, _, hhost, _⟩ | ⟨_, g', _, rfl, _, hhost, _⟩ | ⟨_, g', rfl, hhost, _⟩ <;>
    rcases PollState.advance_locked hlocked with heq | ⟨_, heq⟩ | ⟨_, heq⟩ | heq | ⟨_, _, heq⟩ <;>
    cases heq <;> exact hhost

theorem advance_pending (c : Configuration) (x : Input) {g aHost : HostRef} (isCancelled : Bool)
    {state : PollState} {pid : String} (hhost : c.sameHostname g aHost = true)
    (hreports : state.reports c g pid x = false) :
    (state.advance c g isCancelled x).body.elim 0 (Body.pending c aHost pid) <
      state.pending c g pid ∨
    (state.advance c g isCancelled x).body.elim 0 (Body.pending c aHost pid) =
        state.pending c g pid ∧
      ∀ d : Document, d.conf = c → ∀ s, (state.advance c g isCancelled x).locked = some s →
        ¬d.filesKey aHost pid s := by
  cases state with
  | connecting =>
    cases hc : x.connects with
    | true => simp [PollState.advance, hc, Body.pending, PollState.pending]
    | false =>
      have hpid : pid ≠ connectFailID := by simpa [PollState.reports, hc] using hreports
      simp [PollState.advance, hc, Body.pending, PollState.pending, hpid]
  | failing =>
    by_cases hpid : pid = connectFailID
    · simp [PollState.advance, Body.pending, PollState.pending, hpid]
    · refine Or.inr ⟨by simp [PollState.advance, Body.pending, PollState.pending, hpid], ?_⟩
      rintro d rfl s hlocked ⟨_, _, hf, _, rfl⟩
      obtain rfl := Option.some.inj hlocked
      obtain ⟨rfl, rfl⟩ := Prod.mk.inj (Option.some.inj hf)
      exact hpid rfl
  | fetching =>
    cases hr : x.results with
    | none => simp [PollState.advance, hr, Body.pending, PollState.pending]
    | some rows =>
      have hnone : ∀ row ∈ rows, Document.qualifies c g row = true → printID row.id ≠ pid := by
        simpa [PollState.reports, hr] using hreports
      simpa [PollState.advance, hr, Body.pending, PollState.pending, hhost] using hnone
  | filing qualified rest =>
    cases rest with
    | nil => simp [PollState.advance, Body.pending, PollState.pending]
    | cons row rest =>
      cases hq : Document.qualifies c g row with
      | false => simp [PollState.advance, hq, Body.pending, PollState.pending, hhost]
      | true =>
        by_cases hpid : printID row.id = pid
        · simp [PollState.advance, hq, Body.pending, PollState.pending, hhost, hpid]
        · refine Or.inr ⟨?_, ?_⟩
          · simp [PollState.advance, hq, Body.pending, PollState.pending, hhost, hpid]
          · rintro d rfl s hlocked hfiles
            simp only [PollState.advance, hq, if_true, Option.some.injEq] at hlocked
            subst hlocked
            rcases Document.filesKey_cases hfiles with ⟨_, _, _, heq, _, _, hkey⟩ |
              ⟨_, _, _, heq, _⟩ | ⟨_, _, heq, _⟩ <;> cases heq
            exact hpid hkey
  | replicating qualified =>
    refine Or.inr ⟨by simp [PollState.advance, Body.pending, PollState.pending], ?_⟩
    rintro d rfl s hlocked hfiles
    cases hslave : d.conf.isSlave g with
    | false => simp [PollState.advance, hslave] at hlocked
    | true =>
      simp only [PollState.advance, hslave, if_true, Option.map_eq_some_iff] at hlocked
      obtain ⟨status, hstatus, rfl⟩ := hlocked
      rcases Document.filesKey_cases hfiles with ⟨_, _, _, heq, _⟩ |
        ⟨_, _, _, heq, hu, _, hkey⟩ | ⟨_, _, heq, _⟩ <;> cases heq
      simp [PollState.reports, hslave, hstatus, hu, hkey] at hreports
  | queued =>
    cases isCancelled <;> simp [PollState.advance, Body.pending, PollState.pending]
  | checking =>
    cases isCancelled <;> simp [PollState.advance, Body.pending, PollState.pending]
  | clearing =>
    simp [PollState.advance, Body.pending, PollState.pending, Document.filesKey, Document.filing]
  | sweeping qualified =>
    simp [PollState.advance, Body.pending, PollState.pending, Document.filesKey, Document.filing]
  | posting => simp [PollState.advance, PollState.pending]

theorem advanced_pending (c : Configuration) (x : Input) {op : Operation} {aHost : HostRef}
    {pid : String} (hreports : ∀ g state, op.body = .poll g state →
      c.sameHostname g aHost = true → state.reports c g pid x = false) :
    (op.advance c x).body.elim 0 (Body.pending c aHost pid) < op.body.pending c aHost pid ∨
    (op.advance c x).body.elim 0 (Body.pending c aHost pid) = op.body.pending c aHost pid ∧
      ∀ d : Document, d.conf = c → ∀ s, (op.advance c x).locked = some s →
        ¬d.filesKey aHost pid s := by
  obtain ⟨body, isCancelled⟩ := op
  cases body with
  | refresh state =>
    refine Or.inr ⟨?_, fun d _ s hlocked hfiles => ?_⟩
    · cases state with
      | queued => cases isCancelled <;> simp [Operation.advance, RefreshState.advance, Body.pending]
      | _ => simp [Operation.advance, RefreshState.advance, Body.pending]
    · obtain rfl := RefreshState.advance_locked hlocked
      simp [Document.filesKey, Document.filing] at hfiles
  | poll g state =>
    cases hhost : c.sameHostname g aHost with
    | true =>
      simp only [Operation.advance, Body.pending, hhost, if_true]
      exact advance_pending c x isCancelled hhost (hreports g state rfl hhost)
    | false =>
      refine Or.inr ⟨?_, fun d hconf s hlocked hfiles => ?_⟩
      · obtain ⟨_, ⟨_, hbody, _⟩ | ⟨_, _, ⟨_, hbody⟩ | ⟨next, hbody, _⟩⟩⟩ :=
          PollState.advance_cases c g isCancelled x state <;>
          simp [Operation.advance, hbody, Body.pending, hhost]
      · rw [advance_files hconf hlocked hfiles] at hhost
        cases hhost

theorem cleared_step {h : HostRef} {t : World} (hi : w.Polled h) (hok : keepsWatchers a = true)
    (hclear : ¬Clears h w a) (hstep : w.step a = some t) :
    t.load (fun op => op.body.cleared h) < w.load (fun op => op.body.cleared h) ∨
      t.load (fun op => op.body.cleared h) = w.load (fun op => op.body.cleared h) ∧
        ¬Sweeps h w a := by
  obtain ⟨v, hm, rfl⟩ := step_moves hstep
  change v.load _ < _ ∨ v.load _ = _ ∧ _
  rcases monitoring_moves hi.1 hok hm with
    ⟨l, op, r, x, hops, rfl, rfl, hlocked⟩ | ⟨⟨gs, hops⟩, hact, _⟩
  · have hload := advanced_load (f := fun op => op.body.cleared h) x hops rfl
    change _ = _ + (op.advance w.doc.conf x).body.elim 0 (Body.cleared h) at hload
    rcases advance_cleared w.doc.conf x (h := h) (fun heq => hclear (hlocked.trans heq)) with
      hlt | ⟨heq, hnot⟩
    · exact Or.inl (by omega)
    · refine Or.inr ⟨by omega, ?_⟩
      rintro ⟨i, y, op', qualified, hact, hop', hbody⟩
      obtain ⟨rfl, rfl⟩ := Act.operation.inj hact
      obtain rfl : op = op' := by simpa [hops] using hop'
      exact hnot qualified hbody
  · have hfresh : ∀ g, (generateMySQLOperation g).body.cleared h = 0 := by
      simp [generateMySQLOperation, Body.cleared, PollState.cleared]
    refine Or.inr ⟨load_fresh hfresh hops, ?_⟩
    rintro ⟨i, x, _, _, rfl, _, _⟩
    exact hact i x rfl

theorem pending_step {aHost : HostRef} {pid : String} {t : World} (hi : w.monitoring = true)
    (hok : keepsWatchers a = true) (hreports : ¬Reports aHost pid w a) (hstep : w.step a = some t) :
    t.load (fun op => op.body.pending w.doc.conf aHost pid) <
      w.load (fun op => op.body.pending w.doc.conf aHost pid) ∨
    t.load (fun op => op.body.pending w.doc.conf aHost pid) =
        w.load (fun op => op.body.pending w.doc.conf aHost pid) ∧ ¬FilesKey aHost pid w a := by
  obtain ⟨v, hm, rfl⟩ := step_moves hstep
  change v.load _ < _ ∨ v.load _ = _ ∧ _
  rcases monitoring_moves hi hok hm with
    ⟨l, op, r, x, hops, rfl, rfl, hlocked⟩ | ⟨⟨gs, hops⟩, _, hissued⟩
  · have hload := advanced_load (f := fun op => op.body.pending w.doc.conf aHost pid) x hops rfl
    change _ = _ + (op.advance w.doc.conf x).body.elim 0
      (Body.pending w.doc.conf aHost pid) at hload
    have hread : ∀ g state, op.body = .poll g state → w.doc.conf.sameHostname g aHost = true →
        state.reports w.doc.conf g pid x = false := by
      intro g state hbody hhost
      by_contra hread
      refine hreports ⟨l.length, x, op, g, state, rfl, by simp [hops], hbody, hhost, ?_⟩
      simpa using hread
    rcases advanced_pending w.doc.conf x hread with hlt | ⟨heq, hnot⟩
    · exact Or.inl (by omega)
    · refine Or.inr ⟨by omega, ?_⟩
      rintro ⟨s, hs, hfiles⟩
      exact hnot w.doc rfl s (hlocked.symm.trans hs) hfiles
  · have hfresh : ∀ g, (generateMySQLOperation g).body.pending w.doc.conf aHost pid = 0 := by
      simp [generateMySQLOperation, Body.pending, PollState.pending]
    refine Or.inr ⟨load_fresh hfresh hops, ?_⟩
    rintro ⟨s, hs, hfiles⟩
    have hqueued := hissued s hs
    rcases Document.filesKey_cases hfiles with
      ⟨_, _, _, rfl, _⟩ | ⟨_, _, _, rfl, _⟩ | ⟨_, _, rfl, _⟩ <;> simp [Section.queued] at hqueued

theorem Sweeps.locked {h : HostRef} (hsweeps : Sweeps h w a) :
    w.locked a = some (.discardMySQLDead h) := by
  obtain ⟨i, x, ⟨body, isCancelled⟩, qualified, rfl, hop, rfl⟩ := hsweeps
  simp [World.locked, control, runOperation, hop, Operation.advance, PollState.advance]

end Load

structure Followed (c : Configuration) (h : HostRef) (w : World) : Prop where
  loaded : w.Loaded c
  polled : w.Polled h

theorem Followed.keeps {c : Configuration} {h : HostRef} {w t : World} {a : Act}
    (hi : w.Followed c h) (hok : keepsWatchers a = true) (hstep : w.step a = some t) :
    t.Followed c h :=
  ⟨hi.loaded.step hok hstep, keeps_polled hi.polled hok hstep⟩

section Runs
variable {r : Transition.InfiniteRun step} {c : Configuration} {aHost : HostRef} {n : Nat}

theorem Followed.run (hi : (r.state n).Followed c aHost)
    (hok : ∀ n, keepsWatchers (r.act n) = true) : ∀ m, n ≤ m → (r.state m).Followed c aHost :=
  r.invariant (K := fun _ a => keepsWatchers a = true) (fun m _ => hok m) hi
    (fun _ _ _ hi ha hstep => hi.keeps ha hstep)

-- Each sweep ends a poll that cleared the marks before, so finitely many clearings leave only
-- finitely many sweeps.
theorem Followed.clears (hi : (r.state n).Followed c aHost)
    (hok : ∀ n, keepsWatchers (r.act n) = true)
    (hfair : ∀ k, Transition.WeaklyFair r (serves (Operation.isPollOf aHost) k)) :
    ∃ m, n ≤ m ∧ Clears aHost (r.state m) (r.act m) := by
  by_contra hnever
  push Not at hnever
  obtain ⟨m, hm, hstill⟩ := r.eventually_still (I := Followed c aHost)
    (K := fun w a => keepsWatchers a = true ∧ ¬Clears aHost w a)
    (Sweeps aHost) (load (fun op => op.body.cleared aHost)) (fun m hm => ⟨hok m, hnever m hm⟩)
    (fun _ _ _ hi ha hstep => hi.keeps ha.1 hstep)
    (fun _ _ _ hi ha hstep => cleared_step hi.polled ha.1 ha.2 hstep) hi
  obtain ⟨k, hk, hsweeps⟩ := hi.polled.sweeps hok hfair m
  exact hstill k hk hsweeps

theorem Followed.eventually_unfiled {pid : String} (hi : (r.state n).Followed c aHost)
    (hok : ∀ n, keepsWatchers (r.act n) = true)
    (hended : ∀ m, n ≤ m → ¬Reports aHost pid (r.state m) (r.act m)) :
    ∃ m, n ≤ m ∧ ∀ k, m ≤ k → ¬FilesKey aHost pid (r.state k) (r.act k) := by
  refine r.eventually_still (I := Followed c aHost)
    (K := fun w a => keepsWatchers a = true ∧ ¬Reports aHost pid w a)
    (FilesKey aHost pid) (load (fun op => op.body.pending c aHost pid))
    (fun m hm => ⟨hok m, hended m hm⟩) (fun _ _ _ hi ha hstep => hi.keeps ha.1 hstep) ?_ hi
  intro w a t hi ha hstep
  obtain rfl := hi.loaded.conf
  exact pending_step hi.polled.1 ha.1 ha.2 hstep

-- What every section that does not file under the key keeps, a run that files nothing there keeps.
theorem Followed.unfiled_run {P : Document → Prop} {pid : String}
    (hP : ∀ (d : Document) (s : Section), (d.exec s).conf = d.conf →
      ¬d.filesKey aHost pid s → P d → P (d.exec s))
    (hi : (r.state n).Followed c aHost) (hok : ∀ n, keepsWatchers (r.act n) = true)
    (hquiet : ∀ k, n ≤ k → ¬FilesKey aHost pid (r.state k) (r.act k))
    (h : P (r.state n).doc) : ∀ m, n ≤ m → P (r.state m).doc := by
  intro m hm
  refine (r.invariant (I := fun w => w.Followed c aHost ∧ P w.doc)
    (K := fun w a => keepsWatchers a = true ∧ ¬FilesKey aHost pid w a)
    (fun k hk => ⟨hok k, hquiet k hk⟩) ⟨hi, h⟩ (fun w a t hi ha hstep => ?_) m hm).2
  refine ⟨hi.1.keeps ha.1 hstep, ?_⟩
  have hconf : t.doc.conf = w.doc.conf :=
    (hi.1.keeps ha.1 hstep).loaded.conf.trans hi.1.loaded.conf.symm
  rw [step_doc hstep] at hconf ⊢
  cases hs : w.locked a with
  | none => exact hi.2
  | some s =>
    rw [hs] at hconf
    exact hP w.doc s hconf (fun hf => ha.2 ⟨s, hs, hf⟩) hi.2

theorem Followed.eventually_absent {pid : String} (hi : (r.state n).Followed c aHost)
    (hok : ∀ n, keepsWatchers (r.act n) = true)
    (hfair : ∀ k, Transition.WeaklyFair r (serves (Operation.isPollOf aHost) k))
    (hlive : pid ≠ deadProcess)
    (hended : ∀ m, n ≤ m → ¬Reports aHost pid (r.state m) (r.act m)) :
    ∃ m, n ≤ m ∧ ∀ k, m ≤ k → (r.state k).doc.find aHost pid = none := by
  have hfollowed := hi.run hok
  obtain ⟨n₁, hn₁, hquiet⟩ := hi.eventually_unfiled hok hended
  -- A poll clears the mark of the entry, which nothing sets again, and the next sweep drops it.
  obtain ⟨n₂, hn₂, hclears⟩ := (hfollowed n₁ hn₁).clears hok hfair
  have hcleared : (r.state (n₂ + 1)).doc.Unrenewed aHost pid := by
    rw [step_doc (r.steps n₂), show (r.state n₂).locked (r.act n₂) = _ from hclears]
    exact Document.clearUpdates_unrenewed aHost _ _
  have hunrenewed := Followed.unfiled_run (fun _ _ hconf hf h => h.step hconf hlive hf)
    (hfollowed (n₂ + 1) (by omega)) hok (fun j hj => hquiet j (by omega)) hcleared
  obtain ⟨n₃, hn₃, hsweeps⟩ := hi.polled.sweeps hok hfair (n₂ + 1)
  have hswept : (r.state (n₃ + 1)).doc.find aHost pid = none := by
    rw [step_doc (r.steps n₃), hsweeps.locked]
    exact Document.discardMySQLDead_none hlive (hunrenewed n₃ hn₃)
  exact ⟨n₃ + 1, by omega, Followed.unfiled_run
    (fun _ _ hconf hf h => Document.find_none_step hconf hlive hf h)
    (hfollowed (n₃ + 1) (by omega)) hok (fun j hj => hquiet j (by omega)) hswept⟩

end Runs

theorem ended_leaves {conf : Configuration} {sliderValue trackQuery : Int} {acts : List Act}
    {r : Transition.InfiniteRun step}
    (hstart : Transition.run step Transition.anyStep (initial conf sliderValue trackQuery)
      (.reloadDataWatchers :: acts) = some (r.state 0))
    (hclosed : (r.state 0).configuring = false) (hok : ∀ n, keepsWatchers (r.act n) = true)
    {aHost : HostRef} (hactive : (r.state 0).doc.conf.isActive aHost = true)
    (hfair : ∀ k, Transition.WeaklyFair r (serves (Operation.isPollOf aHost) k))
    {pid : String} (hlive : pid ≠ deadProcess) {n : Nat}
    (hended : ∀ m, n ≤ m → ¬Reports aHost pid (r.state m) (r.act m)) :
    ∃ m, n ≤ m ∧ ∀ k, m ≤ k → (r.state k).doc.find aHost pid = none := by
  obtain ⟨k, hloaded, hpolled⟩ := eventually_polled hstart hclosed hok hactive (hfair .mainThread)
  have hfollowed : (r.state (max n k)).Followed _ aHost :=
    Followed.run ⟨hloaded, hpolled⟩ hok _ (Nat.le_max_right n k)
  obtain ⟨m, hm, habsent⟩ := hfollowed.eventually_absent hok hfair hlive
    (fun m hm => hended m (by omega))
  exact ⟨m, by omega, habsent⟩

section EndedRun

def endedRow : QueryRow := { id := 7, host := "web", info := some [97], time := 3 }

-- The entry is filed once, and the second sweep after that drops it.
def endedDoc : Document :=
  (Document.initial cycleConf 30 1).runSections [.clearUpdates 3, .updateRow 0 3 endedRow,
    .discardMySQLDead 3, .clearUpdates 3, .discardMySQLDead 3]

def endedFiled : World where
  doc := (Document.initial cycleConf 30 1).runSections
    [.clearUpdates 3, .updateRow 0 3 endedRow]
  ops := [generateRefreshOperation, { body := .poll 3 (.filing [endedRow] []) }]

def endedIdle : World := { cycleStart with doc := endedDoc }

def endedActs : List Act :=
  List.replicate 5 (.operation 1 {}) ++ (.mainThread :: List.replicate 9 (.operation 1 {})) ++
    [.mainThread]

theorem ended_start : Transition.run step Transition.anyStep (initial cycleConf 30 1)
    (.reloadDataWatchers :: (List.replicate 3 .mainThread ++
      List.replicate 5 (.operation 1 { results := some [endedRow] }))) = some endedFiled := rfl

theorem ended_drops :
    Transition.run step Transition.anyStep endedFiled endedActs = some endedIdle := rfl

theorem ended_loop :
    Transition.run step Transition.anyStep endedIdle cycleActs = some endedIdle := by
  refine Transition.run_append.mpr ⟨{ endedIdle with
    ops := [generateMySQLOperation 3, generateRefreshOperation] }, rfl, ?_⟩
  refine Transition.run_append.mpr ⟨{ endedIdle with
    ops := [{ body := .poll 3 (.replicating (some [])) }, generateRefreshOperation] }, rfl, ?_⟩
  exact Transition.run_append.mpr ⟨{ endedIdle with
    ops := [generateRefreshOperation], mainQueue := [.reschedule 3] }, rfl, rfl⟩

theorem cycleActs_pos : 0 < cycleActs.length := by decide

def ended : Transition.InfiniteRun step :=
  (Transition.InfiniteRun.cycle ended_loop cycleActs_pos).prepend ended_drops

theorem ended_acts {P : Act → Prop} (hdrops : ∀ a ∈ endedActs, P a) (hcycle : ∀ a ∈ cycleActs, P a)
    (n : Nat) : P (ended.act n) :=
  Transition.InfiniteRun.prepend_acts _ ended_drops hdrops
    (fun _ => hcycle _ (List.get_mem _ _)) n

theorem ended_fair (k : Worker) :
    Transition.WeaklyFair ended (serves (Operation.isPollOf 3) k) := by
  refine Transition.InfiniteRun.prepend_fair _ ended_drops ?_
  cases k with
  | queue =>
    exact Transition.InfiniteRun.cycle_fair ended_loop cycleActs_pos (k := 4) (by decide)
      ⟨0, {}, _, rfl, rfl, rfl⟩
  | mainThread =>
    exact Transition.InfiniteRun.cycle_fair ended_loop cycleActs_pos (k := 13) (by decide) rfl

def readsNothing : Act → Bool
  | .operation _ x => decide (x.results = some [])
  | _ => true

theorem readsNothing_unreported {aHost : HostRef} {pid : String} {w : World} {a : Act}
    (h : readsNothing a = true) (hfail : pid ≠ connectFailID) (hrep : pid ≠ replicationID) :
    ¬Reports aHost pid w a := by
  rintro ⟨i, x, op, g, state, rfl, _, _, _, hreports⟩
  simp only [readsNothing, decide_eq_true_eq] at h
  cases state <;> simp [PollState.reports, h, hfail, hrep] at hreports

end EndedRun

theorem ended_leaves_filed : endedFiled.doc.find 3 (printID 7) = some 0 ∧
    ∃ m, 0 ≤ m ∧ ∀ k, m ≤ k → (ended.state k).doc.find 3 (printID 7) = none := by
  refine ⟨by decide +kernel, ended_leaves ended_start rfl
    (ended_acts (P := fun a => keepsWatchers a = true) (by decide) (by decide)) rfl ended_fair
    (printID_ne_dead 7) (fun m _ => ?_)⟩
  exact readsNothing_unreported (ended_acts (P := fun a => readsNothing a = true)
    (by decide) (by decide) m) (printID_ne_connectFail (by decide))
    (printID_ne_replication (by decide))

end World

end DBMonitor
