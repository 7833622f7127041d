import DBMonitor.Client.Failures
import DBMonitor.World.Refinement

namespace DBMonitor

open Program

namespace DetailList

-- What a poll that connected leaves in the status table.
def generateMySQLOperation (c : Configuration) (aHost : HostRef) (server : Server)
    (sampledAt : Time) (detailList : DetailList) : DetailList :=
  let counted := detailList.updateMySQLQueries c aHost (server.results.map (List.map Prod.snd))
  let replicated :=
    if c.isSlave aHost then counted.updateMySQLSlaveStatus c aHost server.slaveStatus else counted
  replicated.updateMySQLStatistics c aHost sampledAt server.serverStatus

end DetailList

namespace Session

def statements (aHost : HostRef) (slave due : Bool) : List (Option HostRef × String) :=
  (some aHost, MysqlFetch.processList) ::
    ((if slave then [(some aHost, "show slave status")] else []) ++
      if due then [(some aHost, MysqlStatus.showStatus)] else [])

structure Simulated (server : Server) (run : PollRun) (aHost : HostRef) (s : Session)
    (r : Except Failure PUnit) (t : Session) : Prop where
  completes : r = .ok ⟨⟩ ↔ (server.connect.isSome ||
    server.answers (s.doc.conf.isSlave aHost) (s.due aHost)) = true
  log : r = .ok ⟨⟩ → ∀ i isCancelled, World.Reaches i aHost isCancelled .clearing s.doc
    (World.pollInputs (server.polled run)) .checking t.doc
  table : r = .ok ⟨⟩ → t.detailList = if server.connect.isSome then s.detailList
    else s.detailList.generateMySQLOperation s.doc.conf aHost server run.sampledAt
  issued : r = .ok ⟨⟩ → t.issued = s.issued ++ if server.connect.isSome then []
    else statements aHost (s.doc.conf.isSlave aHost) (s.due aHost)

section Answered
variable {s : Session} {server : Server} {run : PollRun} {aHost : HostRef}

def slaveUpdated (s : Session) (server : Server) (run : PollRun) (aHost : HostRef) : Session :=
  if s.doc.conf.isSlave aHost then
    (s.issuing aHost "show slave status").replicated server run.replicatedAt aHost
  else s

def statisticsUpdated (s : Session) (server : Server) (run : PollRun) (aHost : HostRef) : Session :=
  (if s.due aHost then s.issuing aHost MysqlStatus.showStatus else s).sampled server run.sampledAt
    aHost

def hostUpdated (s : Session) (server : Server) (run : PollRun) (aHost : HostRef) : Session :=
  (((s.issuing aHost MysqlFetch.processList).queried server aHost).slaveUpdated server run
    aHost).statisticsUpdated server run aHost

theorem slaveUpdated_conf : (s.slaveUpdated server run aHost).doc.conf = s.doc.conf := by
  unfold slaveUpdated
  split
  · exact replicated_conf run.replicatedAt
  · rfl

theorem slaveUpdated_due : (s.slaveUpdated server run aHost).due aHost = s.due aHost := by
  unfold slaveUpdated
  split
  · exact replicated_due run.replicatedAt
  · rfl

theorem wp_updateHost
    (h : server.answers (s.doc.conf.isSlave aHost) (s.due aHost) = true)
    (Q : Except Failure PUnit → Session → Prop) :
    wp (updateHost server run aHost (some aHost)) Q s ↔
      Q (.ok ⟨⟩) (s.hostUpdated server run aHost) := by
  have hconf : ((s.issuing aHost MysqlFetch.processList).queried server aHost).doc.conf =
      s.doc.conf := queried_conf
  have hdue : ((s.issuing aHost MysqlFetch.processList).queried server aHost).due aHost =
      s.due aHost := queried_due
  simp only [Server.answers, Bool.and_eq_true, Bool.or_eq_true, Bool.not_eq_true'] at h
  have hslave : ∀ R, wp (updateSlave server run.replicatedAt (some aHost) aHost) R
      ((s.issuing aHost MysqlFetch.processList).queried server aHost) ↔
      R (.ok ⟨⟩) (((s.issuing aHost MysqlFetch.processList).queried server aHost).slaveUpdated
        server run aHost) := by
    intro R
    rw [wp_updateSlave, slaveUpdated, hconf]
    cases hs : s.doc.conf.isSlave aHost with
    | false => rfl
    | true =>
      have hreadable : (server.slaveQuery.isSome || server.slaveReadable) = true := by
        simpa [hs] using h.1
      simp only [hreadable, if_true]
  rw [updateHost, wp_bind, wp_updateMySQLQueries]
  simp only
  rw [wp_bind, hslave]
  simp only
  rw [wp_forceDisconnect, wp_updateMySQLStatistics, hostUpdated, statisticsUpdated,
    slaveUpdated_due, hdue]
  cases hd : s.due aHost with
  | false => rfl
  | true =>
    have hreadable : (server.statusQuery.isSome || server.statusReadable) = true := by
      simpa [hd] using h.2
    simp only [hreadable, if_true]

theorem hostUpdated_table : (s.hostUpdated server run aHost).detailList =
    s.detailList.generateMySQLOperation s.doc.conf aHost server run.sampledAt := by
  have hconf : ((s.issuing aHost MysqlFetch.processList).queried server aHost).doc.conf =
      s.doc.conf := queried_conf
  have hsampled : ∀ t : Session, (t.statisticsUpdated server run aHost).detailList =
      t.detailList.updateMySQLStatistics t.doc.conf aHost run.sampledAt server.serverStatus := by
    intro t
    unfold statisticsUpdated sampled
    split <;> rfl
  have hslave : ∀ t : Session, (t.slaveUpdated server run aHost).detailList =
      if t.doc.conf.isSlave aHost then
        t.detailList.updateMySQLSlaveStatus t.doc.conf aHost server.slaveStatus
      else t.detailList := by
    intro t
    unfold slaveUpdated
    split <;> rfl
  rw [hostUpdated, hsampled, slaveUpdated_conf, hslave, hconf]
  rfl

theorem hostUpdated_issued : (s.hostUpdated server run aHost).issued =
    s.issued ++ statements aHost (s.doc.conf.isSlave aHost) (s.due aHost) := by
  have hconf : ((s.issuing aHost MysqlFetch.processList).queried server aHost).doc.conf =
      s.doc.conf := queried_conf
  have hdue : ((s.issuing aHost MysqlFetch.processList).queried server aHost).due aHost =
      s.due aHost := queried_due
  rw [hostUpdated, statisticsUpdated, slaveUpdated_due, hdue, slaveUpdated, hconf]
  cases s.doc.conf.isSlave aHost <;> cases s.due aHost <;>
    simp [statements, issuing, queried, replicated, sampled]

end Answered

section Simulated
variable {s : Session} {server : Server} {run : PollRun} {aHost : HostRef}

theorem poll_refused {error : MysqlError} (h : server.connect = some error)
    (Q : Except Failure PUnit → Session → Prop) :
    wp (poll server run aHost) Q s ↔ Q (.ok ⟨⟩)
      { s with doc := s.doc.generateMySQLOperation aHost (.refused run.failedAt) } := by
  rw [poll, wp_bind, wp_modify]
  simp only
  rw [wp_bind, wp_connectToHost, h]
  rfl

theorem poll_answered (hconnect : server.connect = none)
    (h : server.answers (s.doc.conf.isSlave aHost) (s.due aHost) = true) :
    wp (poll server run aHost) (fun r t => r = .ok ⟨⟩ ∧
      t.detailList = s.detailList.generateMySQLOperation s.doc.conf aHost server run.sampledAt ∧
      t.issued = s.issued ++ statements aHost (s.doc.conf.isSlave aHost) (s.due aHost)) s := by
  rw [poll, wp_bind, wp_modify]
  simp only
  rw [wp_bind, wp_connectToHost, hconnect]
  simp only [Option.isSome_none, Bool.false_eq_true, if_false]
  rw [wp_bind]
  refine (wp_updateHost (s := { s with doc := s.doc.clearUpdates aHost }) h _).mpr ?_
  exact ⟨rfl, hostUpdated_table, hostUpdated_issued⟩

-- The model of the client calls, the sequential poll and the World's operation agree.
theorem poll_simulated (server : Server) (run : PollRun) (aHost : HostRef) (s : Session) :
    wp (poll server run aHost) (Simulated server run aHost s) s := by
  have hpolled : wp (poll server run aHost) (Polled server run aHost s) s := poll_polled
  have hlog : ∀ r t, Polled server run aHost s r t → r = .ok ⟨⟩ → ∀ i isCancelled,
      World.Reaches i aHost isCancelled .clearing s.doc
        (World.pollInputs (server.polled run)) .checking t.doc := by
    intro r t h hok i isCancelled
    rw [h.doc hok]
    exact World.generateMySQLOperation_reaches _
  have hresult : ∀ r t, Polled server run aHost s r t → (r = .ok ⟨⟩ ↔ (server.connect.isSome ||
      server.answers (s.doc.conf.isSlave aHost) (s.due aHost)) = true) := by
    intro r t h
    rw [h.result]
    split
    next hanswers => simp [hanswers]
    next hsilent => simp [hsilent]
  have hrest : wp (poll server run aHost) (fun r t => r = .ok ⟨⟩ →
      t.detailList = (if server.connect.isSome then s.detailList
        else s.detailList.generateMySQLOperation s.doc.conf aHost server run.sampledAt) ∧
      t.issued = s.issued ++ if server.connect.isSome then []
        else statements aHost (s.doc.conf.isSlave aHost) (s.due aHost)) s := by
    cases hconnect : server.connect with
    | some error =>
      rw [poll_refused hconnect]
      exact fun _ => ⟨rfl, (List.append_nil _).symm⟩
    | none =>
      cases hanswers : server.answers (s.doc.conf.isSlave aHost) (s.due aHost) with
      | true =>
        refine wp_mono (fun r t h _ => ?_) (poll_answered hconnect hanswers)
        exact h.2
      | false =>
        refine wp_mono (fun r t h hok => ?_) hpolled
        have hdone := (hresult r t h).mp hok
        rw [hconnect, hanswers] at hdone
        exact absurd hdone (by decide)
  exact ⟨hresult _ _ hpolled, hlog _ _ hpolled, fun hok => (hrest hok).1, fun hok => (hrest hok).2⟩

end Simulated

end Session

end DBMonitor
