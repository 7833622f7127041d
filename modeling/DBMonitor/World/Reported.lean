import DBMonitor.World.Ended
import DBMonitor.World.Overlap
import DBMonitor.World.Sheet

namespace DBMonitor

namespace Document

def Listed (aHost : HostRef) (pid : String) (d : Document) : Prop :=
  ∃ r ∈ d.items, d.conf.sameHostname (d.entry r).eventHost aHost = true ∧
    (d.entry r).processID = pid

def Renewed (aHost : HostRef) (pid : String) (d : Document) : Prop :=
  ∃ r ∈ d.items, d.conf.sameHostname (d.entry r).eventHost aHost = true ∧
    (d.entry r).processID = pid ∧ (d.entry r).updated = true

-- A press of the kill button would dismiss the entry of the host's failed connection.
def SelectsFailed (aHost : HostRef) (d : Document) : Prop :=
  ∃ r, d.objectAtRow d.selectedRow = some r ∧
    d.conf.sameHostname (d.entry r).eventHost aHost = true ∧ (d.entry r).processID = connectFailID

section Key
variable {d : Document} {s : Section} {aHost : HostRef} {pid : String} {r : EntryRef}

theorem listed_iff : (d.find aHost pid).isSome = true ↔ d.Listed aHost pid := by
  cases hfind : d.find aHost pid with
  | none =>
    refine iff_of_false (by simp) ?_
    rintro ⟨r, hr, hhost, hpid⟩
    exact (d.find_none_iff aHost).mp hfind r hr hhost hpid
  | some r =>
    obtain ⟨hr, hhost, hpid⟩ := d.find_mem aHost hfind
    exact iff_of_true rfl ⟨r, hr, hhost, hpid⟩

theorem Renewed.listed (h : d.Renewed aHost pid) : d.Listed aHost pid := by
  obtain ⟨r, hr, hhost, hpid, _⟩ := h
  exact ⟨r, hr, hhost, hpid⟩

-- The user can dismiss only the entry of a failed connection, or of a dead process.
theorem exec_stays (hlive : pid ≠ deadProcess)
    (hkept : pid = connectFailID → s = .killProcess → ¬d.SelectsFailed aHost) (hr : r ∈ d.items)
    (hsame : d.conf.sameHostname (d.entry r).eventHost aHost = true)
    (hpid : (d.entry r).processID = pid)
    (hswept : sweeps d.conf (d.sweeping s) (d.entry r) = false) :
    r ∈ (d.exec s).items ∧ ((d.exec s).entry r).eventHost = (d.entry r).eventHost ∧
      ((d.exec s).entry r).processID = pid := by
  obtain ⟨hhost, _, hkeeps⟩ := exec_evolves (s := s) (d.dataList.allocated r hr)
  have hnot : sweeps d.conf (d.sweeping s) (d.entry r) ≠ true := by simp [hswept]
  refine ⟨?_, hhost, (hkeeps.resolve_right (fun h => hnot h.2)).trans hpid⟩
  by_contra hgone
  rcases (exec_removed hr hgone).resolve_left hnot with ⟨hkill, hrow, hp | hp⟩
  · exact hkept (hpid.symm.trans hp) hkill ⟨r, hrow, hsame, hp⟩
  · exact hlive (hpid.symm.trans hp)

theorem Listed.step (hconf : (d.exec s).conf = d.conf) (hlive : pid ≠ deadProcess)
    (hkept : pid = connectFailID → s = .killProcess → ¬d.SelectsFailed aHost)
    (hsweeps : ∀ g ∈ d.sweeping s, d.conf.sameHostname g aHost = false)
    (h : d.Listed aHost pid) : (d.exec s).Listed aHost pid := by
  obtain ⟨r, hr, hhost, hpid⟩ := h
  have hswept : sweeps d.conf (d.sweeping s) (d.entry r) = false := by
    rw [sweeps, Bool.and_eq_false_iff, List.any_eq_false]
    refine Or.inr (fun g hg hsame => ?_)
    have hother := hsweeps g hg
    simp only [Configuration.sameHostname, decide_eq_true_eq, decide_eq_false_iff_not] at *
    exact hother (hsame.symm.trans hhost)
  obtain ⟨hr', hhost', hpid'⟩ := exec_stays hlive hkept hr hhost hpid hswept
  exact ⟨r, hr', by rw [hconf, hhost', hhost], hpid'⟩

theorem Renewed.step (hconf : (d.exec s).conf = d.conf) (hlive : pid ≠ deadProcess)
    (hkept : pid = connectFailID → s = .killProcess → ¬d.SelectsFailed aHost)
    (hclear : ∀ g, s = .clearUpdates g → d.conf.sameHostname g aHost = false)
    (h : d.Renewed aHost pid) : (d.exec s).Renewed aHost pid := by
  obtain ⟨r, hr, hhost, hpid, hmark⟩ := h
  obtain ⟨hr', hhost', hpid'⟩ := exec_stays (s := s) hlive hkept hr hhost hpid
    (by simp [sweeps, hmark])
  refine ⟨r, hr', by rw [hconf, hhost', hhost], hpid', ?_⟩
  by_contra hunmarked
  rcases exec_updated_false (by simpa using hunmarked) with hold | ⟨g, rfl, hsame⟩
  · exact absurd (hold.symm.trans hmark) (by decide)
  · have hother := hclear g rfl
    simp only [Configuration.sameHostname, decide_eq_true_eq, decide_eq_false_iff_not] at *
    exact hother (hsame.symm.trans hhost)

theorem filesKey_renewed (hconf : (d.exec s).conf = d.conf) (h : d.filesKey aHost pid s) :
    (d.exec s).Renewed aHost pid := by
  obtain ⟨g, f, hf, hhost, hpid⟩ := h
  obtain ⟨hr, hmark, hp, hh⟩ := exec_filed hf
  refine ⟨_, hr, ?_, hp.trans hpid, hmark⟩
  rw [hconf]
  simp only [Configuration.sameHostname, decide_eq_true_eq] at *
  exact hh.trans hhost

end Key

end Document

namespace PollState

-- The poll has cleared the marks and will yet file under the process id, if the server answers
-- as it did.
def willFile (c : Configuration) (g : HostRef) (pid : String) : PollState → Bool
  | .connecting => true
  | .failing => decide (pid = connectFailID)
  | .fetching => decide (pid ≠ connectFailID)
  | .filing _ rest => decide (pid ≠ connectFailID) && (decide (pid = replicationID) ||
      rest.any (fun row => Document.qualifies c g row && decide (printID row.id = pid)))
  | .replicating _ => decide (pid = replicationID)
  | _ => false

-- The server answers the step as it does while what is filed under the process id goes on.
def confirms (c : Configuration) (g : HostRef) (pid : String) (x : Input) : PollState → Bool
  | .connecting => decide (x.connects = decide (pid ≠ connectFailID))
  | .fetching => decide (pid = connectFailID) || decide (pid = replicationID) ||
      PollState.fetching.reports c g pid x
  | .replicating qualified => decide (pid ≠ replicationID) ||
      (PollState.replicating qualified).reports c g pid x
  | _ => true

end PollState

-- A poll that the last reload cancelled.
def Operation.leftover (h : HostRef) (op : Operation) : Bool := op.isPollOf h && op.isCancelled

namespace World

def Leftover (h : HostRef) (w : World) (a : Act) : Prop :=
  ∃ i x op, a = .operation i x ∧ w.ops[i]? = some op ∧ op.leftover h = true

def leftoverLoad (h : HostRef) (f : Body → Nat) (w : World) : Nat :=
  w.load (fun op => if op.leftover h then f op.body else 0)

def leftoverWork (h : HostRef) (w : World) : Nat ×ₗ Nat :=
  toLex (w.leftoverLoad h Body.awaits, w.leftoverLoad h Body.remaining)

def Confirms (aHost : HostRef) (pid : String) (w : World) (a : Act) : Prop :=
  ∀ i x op state, a = .operation i x → w.ops[i]? = some op → op.body = .poll aHost state →
    state.confirms w.doc.conf aHost pid x = true

def Awaits (aHost : HostRef) (pid : String) (w : World) : Prop :=
  ∃ op ∈ w.ops, op.isCancelled = false ∧ ∃ state, op.body = .poll aHost state ∧
    state.willFile w.doc.conf aHost pid = true

structure Steady (c : Configuration) (h : HostRef) (w : World) : Prop where
  followed : w.Followed c h
  chain : w.OneChain

section Leftover
variable {w t : World} {a : Act} {h : HostRef}

theorem advance_leftover (c : Configuration) (x : Input) {op : Operation}
    (hnot : op.leftover h = false) : ∀ b, (op.advance c x).body = some b →
    ({ op with body := b } : Operation).leftover h = false := by
  intro b hb
  rcases Bool.and_eq_false_iff.mp hnot with hpoll | hcancelled
  · simp [Operation.leftover, (advanced_unpolled c x hpoll).2.2.2 b hb]
  · simp [Operation.leftover, hcancelled]

theorem leftover_advanced (x : Input) {l r : List Operation} {op : Operation} (f : Body → Nat)
    (hops : w.ops = l ++ op :: r) :
    (w.advanced l r op (op.advance w.doc.conf x)).leftoverLoad h f +
        (if op.leftover h then f op.body else 0) =
      w.leftoverLoad h f + (op.advance w.doc.conf x).body.elim 0
        (fun b => if ({ op with body := b } : Operation).leftover h then f b else 0) :=
  advanced_load x hops rfl

theorem leftover_step (hi : w.monitoring = true) (hok : keepsWatchers a = true)
    (hchain : w.OneChain) (hstep : w.step a = some t) :
    t.leftoverWork h < w.leftoverWork h ∨
      t.leftoverWork h = w.leftoverWork h ∧ ¬Leftover h w a := by
  obtain ⟨v, hm, rfl⟩ := step_moves hstep
  change v.leftoverWork h < _ ∨ v.leftoverWork h = _ ∧ _
  rcases monitoring_moves hi hok hm with
    ⟨l, op, r, x, hops, rfl, rfl, _⟩ | ⟨⟨gs, hops⟩, hact, _⟩
  · have hawaits := leftover_advanced (h := h) x Body.awaits hops
    have hremaining := leftover_advanced (h := h) x Body.remaining hops
    cases hleft : op.leftover h with
    | true =>
      left
      rw [leftoverWork, leftoverWork, Prod.Lex.toLex_lt_toLex]
      have hpolled := Bool.and_eq_true_iff.mp hleft
      have hrefreshing : op.isRefreshing = false := by
        obtain ⟨body, isCancelled⟩ := op
        cases body with
        | poll g state => rfl
        | refresh state => simp [Operation.isPollOf] at hpolled
      have hposting := hchain.cancelled op (by simp [hops]) hpolled.2
      obtain ⟨_, _, hbody⟩ := stopped_advance w.doc.conf x hpolled.2 hposting hrefreshing
      have hpos := remaining_pos op.body
      cases hb : (op.advance w.doc.conf x).body with
      | none =>
        simp only [hleft, hb, if_true, Option.elim_none] at hawaits hremaining
        omega
      | some b =>
        have hless := (hbody b hb).2.2
        simp only [hleft, hb, if_true, Option.elim_some] at hawaits hremaining
        cases hnext : ({ op with body := b } : Operation).leftover h <;>
          simp only [hnext, Bool.false_eq_true, if_true, if_false] at hawaits hremaining <;>
          omega
    | false =>
      have hnext : ∀ f : Body → Nat, (op.advance w.doc.conf x).body.elim 0
          (fun b => if ({ op with body := b } : Operation).leftover h then f b else 0) = 0 := by
        intro f
        cases hb : (op.advance w.doc.conf x).body with
        | none => rfl
        | some b => simp [advance_leftover w.doc.conf x hleft b hb]
      rw [hnext, hleft] at hawaits hremaining
      refine Or.inr ⟨?_, ?_⟩
      · rw [leftoverWork, leftoverWork]
        simp only [Bool.false_eq_true, if_false, Nat.add_zero] at hawaits hremaining
        rw [hawaits, hremaining]
      · rintro ⟨i, y, op', heq, hop', hleft'⟩
        obtain ⟨rfl, rfl⟩ := Act.operation.inj heq
        obtain rfl : op = op' := by simpa [hops] using hop'
        exact absurd (hleft.symm.trans hleft') (by decide)
  · have hsame : ∀ f, v.leftoverLoad h f = w.leftoverLoad h f := fun f =>
      load_fresh (fun g => by simp [Operation.leftover, generateMySQLOperation]) hops
    refine Or.inr ⟨by rw [leftoverWork, leftoverWork, hsame, hsame], ?_⟩
    rintro ⟨i, x, _, rfl, _, _⟩
    exact hact i x rfl

end Leftover

section Tracked
variable {w t : World} {a : Act} {c : Configuration} {aHost : HostRef} {pid : String}

theorem Loaded.settled (hi : w.Loaded c) (hok : keepsWatchers a = true)
    (hstep : w.step a = some t) : w.cancelsSettled a = true := by
  have hclosed := hi.closed
  simp only [configuring, Bool.or_eq_false_iff, decide_eq_false_iff_not] at hclosed
  cases a with
  | mainThread => simp [cancelsSettled, cancelsAll, hclosed.2]
  | openConfigSheet => cases hok
  | reloadDataWatchers => cases hok
  | endConfigSheet => simp [World.step, control, event, hclosed.1] at hstep
  | _ => rfl

theorem Steady.keeps (hi : w.Steady c aHost) (hok : keepsWatchers a = true)
    (hstep : w.step a = some t) : t.Steady c aHost :=
  ⟨hi.followed.keeps hok hstep, hi.chain.step (hi.followed.loaded.settled hok hstep) hstep⟩

theorem OneChain.lone (hi : w.OneChain) {l r : List Operation} {op op' : Operation}
    (hops : w.ops = l ++ op :: r) (hop : op.continues aHost = true) (hop' : op' ∈ w.ops)
    (hcontinues : op'.continues aHost = true) : op' = op := by
  have hbounded := hi.bounded aHost
  simp only [chains, hops, List.countP_append, List.countP_cons, hop, if_true] at hbounded
  have hl : ¬0 < l.countP (Operation.continues aHost) := by omega
  have hr : ¬0 < r.countP (Operation.continues aHost) := by omega
  rw [hops, List.mem_append, List.mem_cons] at hop'
  rcases hop' with hm | rfl | hm
  · exact absurd (List.countP_pos_iff.mpr ⟨op', hm, hcontinues⟩) hl
  · rfl
  · exact absurd (List.countP_pos_iff.mpr ⟨op', hm, hcontinues⟩) hr

theorem advance_awaits (c : Configuration) (isCancelled : Bool) (x : Input) {state : PollState}
    (hstate : state.willFile c aHost pid = true) (hconfirms : state.confirms c aHost pid x = true) :
    (∃ next, (state.advance c aHost isCancelled x).body = some (.poll aHost next) ∧
      next.willFile c aHost pid = true) ∨
    ∃ s, (state.advance c aHost isCancelled x).locked = some s ∧
      ∀ d : Document, d.conf = c → d.filesKey aHost pid s := by
  cases state with
  | connecting =>
    have hconnects : x.connects = decide (pid ≠ connectFailID) := by
      simpa [PollState.confirms] using hconfirms
    by_cases hpid : pid = connectFailID <;>
      simp [PollState.advance, hconnects, hpid, PollState.willFile]
  | failing =>
    have hpid : pid = connectFailID := by simpa [PollState.willFile] using hstate
    exact Or.inr ⟨_, rfl, fun d _ => ⟨aHost, _, rfl, d.conf.sameHostname_self aHost, hpid.symm⟩⟩
  | fetching =>
    have hpid : pid ≠ connectFailID := by simpa [PollState.willFile] using hstate
    simp only [PollState.confirms, PollState.reports, hpid, decide_false, Bool.false_or,
      Bool.or_eq_true, decide_eq_true_eq] at hconfirms
    left
    cases hr : x.results with
    | none =>
      refine ⟨.replicating none, by simp [PollState.advance, hr], ?_⟩
      simpa [PollState.willFile, hr] using hconfirms
    | some rows =>
      refine ⟨.filing [] rows, by simp [PollState.advance, hr], ?_⟩
      simpa [PollState.willFile, hr, hpid] using hconfirms
  | filing qualified rest =>
    simp only [PollState.willFile, Bool.and_eq_true, decide_eq_true_eq, Bool.or_eq_true] at hstate
    obtain ⟨hpid, hstate⟩ := hstate
    cases rest with
    | nil =>
      refine Or.inl ⟨.replicating (some qualified), rfl, ?_⟩
      simpa [PollState.willFile] using hstate
    | cons row rest =>
      cases hq : Document.qualifies c aHost row with
      | true =>
        by_cases hrow : printID row.id = pid
        · refine Or.inr ⟨.updateRow x.now aHost row, by simp [PollState.advance, hq], ?_⟩
          rintro d rfl
          exact ⟨aHost, d.rowFiling aHost x.now row, by simp [Document.filing, hq],
            d.conf.sameHostname_self aHost, hrow⟩
        · refine Or.inl ⟨.filing (qualified ++ [row]) rest, by simp [PollState.advance, hq], ?_⟩
          simpa [PollState.willFile, hpid, hrow] using hstate
      | false =>
        refine Or.inl ⟨.filing qualified rest, by simp [PollState.advance, hq], ?_⟩
        simpa [PollState.willFile, hpid, hq] using hstate
  | replicating qualified =>
    have hpid : pid = replicationID := by simpa [PollState.willFile] using hstate
    simp only [PollState.confirms, PollState.reports, hpid, ne_eq, not_true_eq_false, decide_false,
      Bool.false_or, decide_true, Bool.and_true, Bool.and_eq_true, Option.any_eq_true] at hconfirms
    obtain ⟨hslave, status, hstatus, hu⟩ := hconfirms
    refine Or.inr ⟨.updateMySQLSlaveStatus x.now aHost status, ?_, ?_⟩
    · simp [PollState.advance, hslave, hstatus]
    · rintro d rfl
      exact ⟨aHost, d.statusFiling aHost x.now status, by simp [Document.filing, hu],
        d.conf.sameHostname_self aHost, hpid.symm⟩
  | _ => simp [PollState.willFile] at hstate

theorem clearing_of_locked {op : Operation} {x : Input}
    (h : (op.advance c x).locked = some (.clearUpdates aHost)) :
    op.body = .poll aHost .clearing := by
  obtain ⟨body, isCancelled⟩ := op
  cases body with
  | refresh state => cases RefreshState.advance_locked h
  | poll g state =>
    rcases PollState.advance_locked h with heq | ⟨_, heq⟩ | ⟨_, heq⟩ | heq | ⟨_, _, heq⟩ <;>
      cases heq
    cases state with
    | clearing => rfl
    | fetching => cases hr : x.results <;> simp [Operation.advance, PollState.advance, hr] at h
    | filing qualified rest =>
      cases rest with
      | nil => simp [Operation.advance, PollState.advance] at h
      | cons row rest =>
        cases hq : Document.qualifies c aHost row <;>
          simp [Operation.advance, PollState.advance, hq] at h
    | _ => simp [Operation.advance, PollState.advance] at h

theorem sweeping_of_locked {op : Operation} {x : Input}
    (h : (op.advance c x).locked = some (.discardMySQLDead aHost)) :
    ∃ qualified, op.body = .poll aHost (.sweeping qualified) := by
  obtain ⟨body, isCancelled⟩ := op
  cases body with
  | refresh state => cases RefreshState.advance_locked h
  | poll g state =>
    rcases PollState.advance_locked h with heq | ⟨_, heq⟩ | ⟨_, heq⟩ | heq | ⟨q, rfl, heq⟩ <;>
      cases heq
    exact ⟨q, rfl⟩

theorem live_of_not_leftover {l r : List Operation} {op : Operation} {x : Input}
    {state : PollState} (hops : w.ops = l ++ op :: r) (hbody : op.body = .poll aHost state)
    (hleft : ¬Leftover aHost w (.operation l.length x)) : op.isCancelled = false := by
  by_contra hcancelled
  refine hleft ⟨l.length, x, op, rfl, by simp [hops], ?_⟩
  simpa [Operation.leftover, Operation.isPollOf, hbody] using hcancelled

-- The poll that awaits the row is the only one that could sweep the host.
theorem Steady.swept (hi : w.Steady c aHost) (hok : keepsWatchers a = true)
    (hleft : ¬Leftover aHost w a) (hstep : w.step a = some t)
    (hsweeps : w.locked a = some (.discardMySQLDead aHost))
    (h : w.Awaits aHost pid ∨ w.doc.Renewed aHost pid) :
    w.doc.Renewed aHost pid := by
  obtain ⟨v, hm, _⟩ := step_moves hstep
  refine h.resolve_left ?_
  rintro ⟨op, hop, hlive, state, hbody, hstate⟩
  rcases monitoring_moves hi.followed.polled.1 hok hm with
    ⟨l, op', r, x, hops, rfl, _, hlocked⟩ | ⟨_, _, hissued⟩
  · obtain ⟨qualified, hbody'⟩ := sweeping_of_locked (hlocked.symm.trans hsweeps)
    have hlive' := live_of_not_leftover hops hbody' hleft
    have hcontinues' : op'.continues aHost = true := by
      simp [Operation.continues, Operation.isPollOf, hlive', hbody']
    obtain rfl := hi.chain.lone hops hcontinues' hop
      (by simp [Operation.continues, Operation.isPollOf, hlive, hbody])
    obtain ⟨_, rfl⟩ := Body.poll.inj (hbody.symm.trans hbody')
    simp [PollState.willFile] at hstate
  · exact absurd (hissued _ hsweeps) (by simp [Section.queued])

theorem Steady.awaits (hi : w.Steady c aHost) (hok : keepsWatchers a = true)
    (hconfirms : Confirms aHost pid w a) (hstep : w.step a = some t) (h : w.Awaits aHost pid) :
    t.Awaits aHost pid ∨ t.doc.Renewed aHost pid := by
  have hconf : t.doc.conf = w.doc.conf :=
    (hi.keeps hok hstep).followed.loaded.conf.trans hi.followed.loaded.conf.symm
  have hdoc := step_doc hstep
  obtain ⟨v, hm, ht⟩ := step_moves hstep
  have htops : t.ops = v.ops := by rw [ht]; rfl
  obtain ⟨op, hop, hlive, state, hbody, hstate⟩ := h
  have hkeeps : op ∈ v.ops → t.Awaits aHost pid := fun hmem =>
    ⟨op, htops ▸ hmem, hlive, state, hbody, hconf.symm ▸ hstate⟩
  rcases monitoring_moves hi.followed.polled.1 hok hm with
    ⟨l, op', r, x, hops, rfl, rfl, hlocked⟩ | ⟨⟨gs, hops⟩, _, _⟩
  · cases hcontinues : op'.continues aHost with
    | true =>
      obtain rfl := hi.chain.lone hops hcontinues hop
        (by simp [Operation.continues, Operation.isPollOf, hlive, hbody])
      rcases advance_awaits w.doc.conf op.isCancelled x hstate
        (hconfirms l.length x op state rfl (by simp [hops]) hbody) with
        ⟨next, hnext, hawaits⟩ | ⟨s, hlocks, hfiles⟩
      · left
        have hadvance : (op.advance w.doc.conf x).body = some (.poll aHost next) := by
          rw [Operation.advance, hbody, hnext]
        refine ⟨{ op with body := .poll aHost next }, ?_, hlive, next, rfl, hconf.symm ▸ hawaits⟩
        simp [htops, advanced, hadvance]
      · right
        have hs : w.locked (.operation l.length x) = some s := by
          rw [hlocked, Operation.advance, hbody, hlocks]
        rw [hs, Option.elim_some] at hdoc
        rw [hdoc] at hconf ⊢
        exact Document.filesKey_renewed hconf (hfiles w.doc rfl)
    | false =>
      refine Or.inl (hkeeps ?_)
      have hne : op ≠ op' := by
        rintro rfl
        simp [Operation.continues, Operation.isPollOf, hlive, hbody] at hcontinues
      rw [hops, List.mem_append, List.mem_cons] at hop
      rcases hop with hmem | rfl | hmem
      · simp [advanced, hmem]
      · exact absurd rfl hne
      · simp [advanced, hmem]
  · exact Or.inl (hkeeps (hops ▸ List.mem_append_left _ hop))

theorem Steady.cleared (hi : w.Steady c aHost) (hok : keepsWatchers a = true)
    (hleft : ¬Leftover aHost w a) (hstep : w.step a = some t) (hclears : Clears aHost w a) :
    t.Awaits aHost pid := by
  obtain ⟨v, hm, ht⟩ := step_moves hstep
  have htops : t.ops = v.ops := by rw [ht]; rfl
  rcases monitoring_moves hi.followed.polled.1 hok hm with
    ⟨l, op, r, x, hops, rfl, rfl, hlocked⟩ | ⟨_, _, hissued⟩
  · have hbody := clearing_of_locked (hlocked.symm.trans hclears)
    have hlive := live_of_not_leftover hops hbody hleft
    refine ⟨{ op with body := .poll aHost .connecting }, ?_, hlive, .connecting, rfl, rfl⟩
    simp [htops, advanced, Operation.advance, hbody, PollState.advance]
  · exact absurd (hissued _ hclears) (by simp [Section.queued])

theorem locked_killProcess (hstep : w.step a = some t) (h : w.locked a = some .killProcess) :
    a = .killProcess := by
  obtain ⟨v, hm, _⟩ := step_moves hstep
  rw [h] at hm
  rcases hm.issued with hqueued | hissues
  · simp [Section.queued] at hqueued
  · cases a <;> simp [Act.issues] at hissues
    rfl

theorem Steady.renewed (hi : w.Steady c aHost) (howns : c.OwnsHostname aHost)
    (hpid : pid ≠ deadProcess)
    (hkept : pid = connectFailID → a = .killProcess → ¬w.doc.SelectsFailed aHost)
    (hok : keepsWatchers a = true) (hleft : ¬Leftover aHost w a) (hstep : w.step a = some t)
    (h : w.doc.Renewed aHost pid) :
    t.Awaits aHost pid ∨ t.doc.Renewed aHost pid := by
  have hconf : t.doc.conf = w.doc.conf :=
    (hi.keeps hok hstep).followed.loaded.conf.trans hi.followed.loaded.conf.symm
  obtain rfl := hi.followed.loaded.conf
  by_cases hclear : w.locked a = some (.clearUpdates aHost)
  · exact Or.inl (hi.cleared hok hleft hstep hclear)
  · right
    rw [step_doc hstep] at hconf ⊢
    cases hs : w.locked a with
    | none => exact h
    | some s =>
      rw [hs] at hconf
      refine h.step hconf hpid
        (fun hfail hkill => hkept hfail (locked_killProcess hstep (hkill ▸ hs))) ?_
      rintro g rfl
      rw [Bool.eq_false_iff]
      intro hsame
      exact hclear (howns g hsame ▸ hs)

theorem Steady.listed (hi : w.Steady c aHost) (howns : c.OwnsHostname aHost)
    (hactive : c.isActive aHost = true) (hpid : pid ≠ deadProcess)
    (hkept : pid = connectFailID → a = .killProcess → ¬w.doc.SelectsFailed aHost)
    (hok : keepsWatchers a = true) (hleft : ¬Leftover aHost w a) (hstep : w.step a = some t)
    (hmarked : w.Awaits aHost pid ∨ w.doc.Renewed aHost pid)
    (h : w.doc.Listed aHost pid) : t.doc.Listed aHost pid := by
  have hconf : t.doc.conf = w.doc.conf :=
    (hi.keeps hok hstep).followed.loaded.conf.trans hi.followed.loaded.conf.symm
  rw [step_doc hstep] at hconf ⊢
  cases hs : w.locked a with
  | none => exact h
  | some s =>
    rw [hs, Option.elim_some] at hconf
    have hdismiss : pid = connectFailID → s = .killProcess → ¬w.doc.SelectsFailed aHost :=
      fun hfail hkill => hkept hfail (locked_killProcess hstep (hkill ▸ hs))
    by_cases hsweeps : s = .discardMySQLDead aHost
    · subst hsweeps
      have hrenewed := hi.swept hok hleft hstep hs hmarked
      exact (hrenewed.step hconf hpid hdismiss (by simp)).listed
    · refine h.step hconf hpid hdismiss (fun g hg => ?_)
      rw [Bool.eq_false_iff]
      intro hsame
      obtain rfl := howns g (hi.followed.loaded.conf ▸ hsame)
      cases s with
      | discardMySQLDead g' =>
        rw [Document.sweeping, List.mem_singleton] at hg
        exact hsweeps (hg ▸ rfl)
      | refresh now order =>
        obtain ⟨_, _, _, hinactive⟩ := w.doc.mem_deadHosts.mp hg
        rw [hi.followed.loaded.conf, hactive] at hinactive
        cases hinactive
      | _ => simp [Document.sweeping] at hg

end Tracked

structure Tracks (c : Configuration) (aHost : HostRef) (pid : String) (w : World) : Prop where
  steady : w.Steady c aHost
  marked : w.Awaits aHost pid ∨ w.doc.Renewed aHost pid

-- A step that no poll of the host makes but the live one.
structure Answered (aHost : HostRef) (pid : String) (w : World) (a : Act) : Prop where
  keepsWatchers : keepsWatchers a = true
  confirms : Confirms aHost pid w a
  kept : pid = connectFailID → a = .killProcess → ¬w.doc.SelectsFailed aHost
  live : ¬Leftover aHost w a

theorem Tracks.keeps {c : Configuration} {aHost : HostRef} {pid : String} {w t : World} {a : Act}
    (hi : w.Tracks c aHost pid) (howns : c.OwnsHostname aHost) (hpid : pid ≠ deadProcess)
    (ha : Answered aHost pid w a) (hstep : w.step a = some t) : t.Tracks c aHost pid :=
  ⟨hi.steady.keeps ha.keepsWatchers hstep, hi.marked.elim
    (hi.steady.awaits ha.keepsWatchers ha.confirms hstep)
    (hi.steady.renewed howns hpid ha.kept ha.keepsWatchers ha.live hstep)⟩

section Runs
variable {r : Transition.InfiniteRun step} {c : Configuration} {aHost : HostRef} {n : Nat}

theorem Steady.run (hi : (r.state n).Steady c aHost) (hok : ∀ n, keepsWatchers (r.act n) = true) :
    ∀ m, n ≤ m → (r.state m).Steady c aHost :=
  r.invariant (K := fun _ a => World.keepsWatchers a = true) (fun m _ => hok m) hi
    (fun _ _ _ hi ha hstep => hi.keeps ha hstep)

theorem started_oneChain {conf : Configuration} {sliderValue trackQuery : Int} {acts : List Act}
    (hstart : Transition.run step cancelsSettled (initial conf sliderValue trackQuery)
      (.reloadDataWatchers :: acts) = some (r.state 0))
    (hclosed : (r.state 0).configuring = false) (hok : ∀ n, keepsWatchers (r.act n) = true)
    (k : Nat) : (r.state k).OneChain := by
  have hchain := Transition.run_invariant (I := OneChain) (fun _ _ _ hi hg hs => hi.step hg hs)
    (initial_oneChain conf sliderValue trackQuery) hstart
  have hloaded := started_loaded (Transition.run_anyStep hstart) hclosed
  exact (r.invariant (I := fun w => w.Loaded (r.state 0).doc.conf ∧ w.OneChain)
    (K := fun _ a => World.keepsWatchers a = true) (fun m _ => hok m) ⟨hloaded, hchain⟩
    (fun _ _ _ hi ha hstep => ⟨hi.1.step ha hstep, hi.2.step (hi.1.settled ha hstep) hstep⟩)
    k (Nat.zero_le k)).2

theorem Steady.eventually_live (hi : (r.state n).Steady c aHost)
    (hok : ∀ n, keepsWatchers (r.act n) = true) :
    ∃ m, n ≤ m ∧ ∀ k, m ≤ k → ¬Leftover aHost (r.state k) (r.act k) :=
  r.eventually_still (I := Steady c aHost) (K := fun _ a => World.keepsWatchers a = true)
    (Leftover aHost) (leftoverWork aHost) (fun m _ => hok m)
    (fun _ _ _ hi ha hstep => hi.keeps ha hstep)
    (fun _ _ _ hi ha hstep => leftover_step hi.followed.polled.1 ha hi.chain hstep) hi

end Runs

theorem reported_stays {conf : Configuration} {sliderValue trackQuery : Int} {acts : List Act}
    {r : Transition.InfiniteRun step}
    (hstart : Transition.run step cancelsSettled (initial conf sliderValue trackQuery)
      (.reloadDataWatchers :: acts) = some (r.state 0))
    (hclosed : (r.state 0).configuring = false) (hok : ∀ n, keepsWatchers (r.act n) = true)
    {aHost : HostRef} (hactive : (r.state 0).doc.conf.isActive aHost = true)
    (howns : (r.state 0).doc.conf.OwnsHostname aHost)
    (hfair : ∀ k, Transition.WeaklyFair r (serves (Operation.isPollOf aHost) k))
    {pid : String} (hpid : pid ≠ deadProcess) {n : Nat}
    (hconfirms : ∀ m, n ≤ m → Confirms aHost pid (r.state m) (r.act m))
    (hkept : pid = connectFailID → ∀ m, n ≤ m → r.act m = .killProcess →
      ¬(r.state m).doc.SelectsFailed aHost) :
    ∃ m, n ≤ m ∧ ∀ k, m ≤ k → ((r.state k).doc.find aHost pid).isSome = true := by
  obtain ⟨k, hloaded, hpolled⟩ := eventually_polled (Transition.run_anyStep hstart) hclosed hok
    hactive (hfair .mainThread)
  generalize (r.state 0).doc.conf = c at hactive howns hloaded
  have hchain := started_oneChain hstart hclosed hok k
  have hsteady := Steady.run ⟨⟨hloaded, hpolled⟩, hchain⟩ hok
  obtain ⟨n₁, hn₁, hlive⟩ := (hsteady (max n k) (by omega)).eventually_live hok
  have hanswered : ∀ m, n₁ ≤ m → Answered aHost pid (r.state m) (r.act m) := fun m hm =>
    ⟨hok m, hconfirms m (by omega), fun hfail => hkept hfail m (by omega), hlive m hm⟩
  -- The live poll clears the marks, and from then on brings the row before each of its sweeps.
  obtain ⟨n₂, hn₂, hclears⟩ := (hsteady n₁ (by omega)).followed.clears hok hfair
  have htracks : ∀ m, n₂ + 1 ≤ m → (r.state m).Tracks c aHost pid := by
    refine r.invariant (fun m hm => hanswered m (by omega)) ⟨hsteady _ (by omega), Or.inl ?_⟩
      (fun w a t hi ha hstep => hi.keeps howns hpid ha hstep)
    exact (hsteady n₂ (by omega)).cleared (hok n₂) (hlive n₂ hn₂) (r.steps n₂) hclears
  obtain ⟨n₃, hn₃, hsweeps⟩ := hpolled.sweeps hok hfair (n₂ + 1)
  have hlisted : (r.state n₃).doc.Listed aHost pid :=
    ((hsteady n₃ (by omega)).swept (hok n₃) (hlive n₃ (by omega)) (r.steps n₃) hsweeps.locked
      (htracks n₃ hn₃).marked).listed
  have hstays := r.invariant (n := n₃)
    (I := fun w => w.Tracks c aHost pid ∧ w.doc.Listed aHost pid)
    (fun m hm => hanswered m (by omega)) ⟨htracks n₃ hn₃, hlisted⟩
    (fun w a t hi ha hstep => ⟨hi.1.keeps howns hpid ha hstep,
      hi.1.steady.listed howns hactive hpid ha.kept ha.keepsWatchers ha.live hstep hi.1.marked hi.2⟩)
  exact ⟨n₃, by omega, fun j hj => Document.listed_iff.mpr (hstays j hj).2⟩

section ListedRun

def listedDoc : Document :=
  (Document.initial cycleConf 30 1).runSections
    [.clearUpdates 3, .updateRow 0 3 endedRow, .discardMySQLDead 3]

def listedAgain : Document :=
  listedDoc.runSections
    [.refresh 0 [], .clearUpdates 3, .updateRow 0 3 endedRow, .discardMySQLDead 3]

theorem listed_again : listedAgain = listedDoc := by
  have hheap : listedAgain.dataList.heap = listedDoc.dataList.heap := by
    funext r
    cases r with
    | zero => rfl
    | succ r => rfl
  exact congrArg (fun heap => ({ listedDoc with
    dataList := { listedDoc.dataList with heap := heap } } : Document)) hheap

def listedStart : World := { cycleStart with doc := listedDoc }

def listedActs : List Act :=
  List.replicate 14 (.operation 0 { results := some [endedRow] }) ++ [.mainThread]

theorem listed_start : Transition.run step cancelsSettled (initial cycleConf 30 1)
    (.reloadDataWatchers :: (List.replicate 3 .mainThread ++
      (List.replicate 10 (.operation 1 { results := some [endedRow] }) ++ [.mainThread]))) =
    some listedStart := rfl

theorem listed_loop :
    Transition.run step Transition.anyStep listedStart listedActs = some listedStart := by
  have hloop : Transition.run step Transition.anyStep listedStart listedActs =
      some { listedStart with doc := listedAgain } := rfl
  rwa [listed_again] at hloop

def listed : Transition.InfiniteRun step := .cycle listed_loop (by decide)

def answers : Act → Bool
  | .operation _ x => x.connects && decide (x.results = some [endedRow])
  | .mainThread => true
  | _ => false

theorem listed_answers (n : Nat) : answers (listed.act n) = true := by
  have hall : ∀ a ∈ listedActs, answers a = true := by decide
  exact hall _ (List.get_mem _ _)

theorem listed_conf (n : Nat) : (listed.state n).doc.conf = cycleConf := by
  refine listed.invariant (I := fun w => w.doc.conf = cycleConf) (K := fun _ a => answers a = true)
    (fun m _ => listed_answers m) rfl (fun w a t hi ha hstep => ?_) n (Nat.zero_le n)
  refine (step_conf hstep ?_).trans hi
  rintro conf rfl
  exact absurd ha (by simp [answers])

theorem listed_fair (k : Worker) :
    Transition.WeaklyFair listed (serves (Operation.isPollOf 3) k) := by
  cases k with
  | queue =>
    exact Transition.InfiniteRun.cycle_fair listed_loop (by decide) (k := 4) (by decide)
      ⟨0, { results := some [endedRow] }, _, rfl, rfl, rfl⟩
  | mainThread =>
    exact Transition.InfiniteRun.cycle_fair listed_loop (by decide) (k := 14) (by decide) rfl

end ListedRun

theorem reported_stays_query :
    ∃ m, 0 ≤ m ∧ ∀ k, m ≤ k → ((listed.state k).doc.find 3 (printID 7)).isSome = true := by
  refine reported_stays listed_start rfl (fun n => ?_) rfl
    (Configuration.onePool_ownsHostname _ _ (by decide) _ _ 3) listed_fair (printID_ne_dead 7)
    (fun m _ => ?_) (fun hfail => absurd hfail (printID_ne_connectFail (by decide)))
  · have ha := listed_answers n
    cases hact : listed.act n <;> simp_all [answers, keepsWatchers]
  · intro i x op state hact _ _
    have ha := listed_answers m
    simp only [hact, answers, Bool.and_eq_true, decide_eq_true_eq] at ha
    have hquery : printID 7 ≠ connectFailID := printID_ne_connectFail (by decide)
    have hqualifies : Document.qualifies (listed.state m).doc.conf 3 endedRow = true := by
      rw [listed_conf]
      rfl
    cases state <;> simp [PollState.confirms, PollState.reports, ha, hquery, hqualifies,
      printID_ne_replication, show printID endedRow.id = printID 7 from rfl]

end World

end DBMonitor
