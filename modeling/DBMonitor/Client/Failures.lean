import DBMonitor.Log.Effects
import DBMonitor.Model.Client

namespace DBMonitor

open Program

namespace Server

def fetched {α : Type} : List (Except MysqlError α) → Option (List α)
  | [] => some []
  | .error _ :: _ => none
  | .ok row :: replies => (fetched replies).map (row :: ·)

def results (server : Server) : Option (List (Time × QueryRow)) :=
  if server.prepare.isSome || server.unbound.isSome || server.bind.isSome || server.execute.isSome
  then none else fetched server.fetch

def slaveReadable (server : Server) : Bool :=
  match server.slaveResult with
  | none => false
  | some (.empty fields) => !fields.any MysqlSlaveStatus.knownFields.contains
  | some (.row _) => true

def slaveColumns (server : Server) : List (String × Option String) :=
  match server.slaveResult with
  | some (.row columns) => columns
  | _ => []

def slaveStatus (server : Server) : Option MysqlSlaveStatus :=
  if server.slaveQuery.isSome then none
  else some (server.slaveColumns.foldl MysqlSlaveStatus.storeColumn {})

def statusReadable (server : Server) : Bool := server.statusResult.isSome || server.fetchesNull

def serverStatus (server : Server) : Option MysqlStatus :=
  if server.statusQuery.isSome then none
  else some (MysqlStatus.fetchStatus (server.statusResult.getD []))

end Server

section Catching
variable {α : Type} {s : Session}

def caught (Q : Except Failure (Option α) → Session → Prop) : Except Failure α → Session → Prop
  | .ok a => Q (.ok (some a))
  | .error (.mysqlException _) => Q (.ok none)
  | .error .nullDereference => Q (.error .nullDereference)

theorem wp_caught (body : Action α) (Q : Except Failure (Option α) → Session → Prop) :
    wp (catching (some <$> body) (fun _ => pure none)) Q s ↔ wp body (caught Q) s := by
  rw [catching, wp_tryCatch, wp_map]
  refine iff_of_eq (congrArg (fun R => wp body R s) ?_)
  funext r t
  cases r with
  | ok a => rfl
  | error e => cases e <;> rfl

theorem wp_raiseFailed (connection : Option HostRef) (what : String) (outcome : Option MysqlError)
    (rest : Action α) (Q : Except Failure (Option α) → Session → Prop) :
    wp (raiseFailed connection what outcome >>= fun _ => rest) (caught Q) s ↔
      if outcome.isSome then Q (.ok none) s else wp rest (caught Q) s := by
  rw [wp_bind]
  cases outcome with
  | none => rfl
  | some error => rfl

theorem wp_bindFields (unbound : Option Nat) (rest : Action α)
    (Q : Except Failure (Option α) → Session → Prop) :
    wp (MysqlFetch.bindFields unbound >>= fun _ => rest) (caught Q) s ↔
      if unbound.isSome then Q (.ok none) s else wp rest (caught Q) s := by
  rw [wp_bind]
  cases unbound with
  | none => rfl
  | some fieldType => rfl

theorem wp_fetchRows (connection : Option HostRef)
    (replies : List (Except MysqlError (Time × QueryRow)))
    (Q : Except Failure (Option (List (Time × QueryRow))) → Session → Prop) :
    wp (MysqlFetch.fetchRows connection replies) (caught Q) s ↔
      Q (.ok (Server.fetched replies)) s := by
  induction replies generalizing Q with
  | nil => rfl
  | cons reply replies ih =>
    cases reply with
    | error error => exact wp_raiseFailed _ _ _ _ _
    | ok row =>
      rw [MysqlFetch.fetchRows, wp_bind]
      have hcons := ih (fun r => Q (r.map (Option.map (row :: ·))))
      refine Iff.trans (iff_of_eq (congrArg (fun R => wp _ R s) ?_)) hcons
      funext r t
      cases r with
      | ok rows => rfl
      | error e => cases e <;> rfl

end Catching

namespace Session

def issuing (s : Session) (connection : HostRef) (statement : String) : Session :=
  { s with issued := s.issued ++ [(some connection, statement)] }

def queried (s : Session) (server : Server) (aHost : HostRef) : Session :=
  { s with
    detailList := s.detailList.updateMySQLQueries s.doc.conf aHost
      (server.results.map (List.map Prod.snd))
    doc := s.doc.updateMySQLQueries aHost server.results }

def replicated (s : Session) (server : Server) (now : Time) (aHost : HostRef) : Session :=
  { s with
    doc := s.doc.updateMySQLSlaveStatus now aHost server.slaveStatus
    detailList := s.detailList.updateMySQLSlaveStatus s.doc.conf aHost server.slaveStatus }

def sampled (s : Session) (server : Server) (now : Time) (aHost : HostRef) : Session :=
  { s with
    detailList := s.detailList.updateMySQLStatistics s.doc.conf aHost now server.serverStatus }

section Calls
variable {s : Session} {server : Server} {connection aHost : HostRef}

theorem wp_connectToHost (Q : Except Failure (Option HostRef) → Session → Prop) :
    wp (connectToHost server aHost) Q s ↔
      Q (.ok (if server.connect.isSome then none else some aHost)) s := by
  rw [connectToHost, catching, wp_tryCatch, MysqlConnection.connectToServer]
  cases server.connect with
  | none => rfl
  | some error => rfl

theorem wp_mysqlQuery {α : Type} (statement : String) (outcome : Option MysqlError)
    (rest : Option MysqlError → Action α) (Q : Except Failure α → Session → Prop) :
    wp (mysqlQuery (some connection) statement outcome >>= rest) Q s ↔
      wp (rest outcome) Q (s.issuing connection statement) := by
  rw [mysqlQuery, wp_bind, wp_bind]
  rfl

theorem wp_fetchWithCommand (command : String)
    (Q : Except Failure (Option (List (Time × QueryRow))) → Session → Prop) :
    wp (MysqlFetch.fetchWithCommand server command (some connection)) (caught Q) s ↔
      Q (.ok server.results) (s.issuing connection command) := by
  have hissue : ∀ (rest : Action (List (Time × QueryRow))) R,
      wp (issue (some connection) command >>= fun _ => rest) R s ↔
        wp rest R (s.issuing connection command) := by
    intro rest R
    rw [wp_bind]
    rfl
  rw [MysqlFetch.fetchWithCommand, hissue, wp_raiseFailed, wp_bindFields, wp_raiseFailed,
    wp_raiseFailed, wp_fetchRows, Server.results]
  cases server.prepare <;> cases server.unbound <;> cases server.bind <;>
    cases server.execute <;> simp

theorem wp_slaveStatus (Q : Except Failure (Option MysqlSlaveStatus) → Session → Prop) :
    wp (MysqlSlaveStatus.statusForConnection server (some connection)) (caught Q) s ↔
      Q (if server.slaveQuery.isSome || server.slaveReadable then .ok server.slaveStatus
        else .error .nullDereference) (s.issuing connection "show slave status") := by
  rw [MysqlSlaveStatus.statusForConnection, wp_mysqlQuery, wp_raiseFailed, Server.slaveStatus,
    Server.slaveReadable, Server.slaveColumns]
  cases server.slaveQuery with
  | some error => simp
  | none =>
    cases server.slaveResult with
    | none => rfl
    | some result =>
      cases result with
      | row columns => rfl
      | empty fields =>
        cases h : fields.any MysqlSlaveStatus.knownFields.contains <;>
          simp [MysqlSlaveStatus.fetchStatus, h, caught]

theorem wp_serverStatus (Q : Except Failure (Option MysqlStatus) → Session → Prop) :
    wp (MysqlStatus.statusForConnection server (some connection)) (caught Q) s ↔
      Q (if server.statusQuery.isSome || server.statusReadable then .ok server.serverStatus
        else .error .nullDereference) (s.issuing connection MysqlStatus.showStatus) := by
  rw [MysqlStatus.statusForConnection, wp_mysqlQuery, wp_raiseFailed, Server.serverStatus,
    Server.statusReadable, MysqlStatus.fetchResult]
  cases server.statusQuery with
  | some error => simp
  | none =>
    cases server.statusResult with
    | some rows => rfl
    | none => cases server.fetchesNull <;> rfl

theorem wp_updateMySQLQueries (Q : Except Failure PUnit → Session → Prop) :
    wp (updateMySQLQueries server (some connection) aHost) Q s ↔
      Q (.ok ⟨⟩) ((s.issuing connection MysqlFetch.processList).queried server aHost) := by
  rw [updateMySQLQueries, wp_bind, wp_caught, wp_fetchWithCommand]
  rfl

theorem wp_updateMySQLSlaveStatus (now : Time) (Q : Except Failure PUnit → Session → Prop) :
    wp (updateMySQLSlaveStatus server now (some connection) aHost) Q s ↔
      if server.slaveQuery.isSome || server.slaveReadable then
        Q (.ok ⟨⟩) ((s.issuing connection "show slave status").replicated server now aHost)
      else Q (.error .nullDereference) (s.issuing connection "show slave status") := by
  rw [updateMySQLSlaveStatus, wp_bind, wp_caught, wp_slaveStatus]
  cases server.slaveQuery.isSome || server.slaveReadable <;> rfl

def due (s : Session) (aHost : HostRef) : Bool :=
  s.detailList.isDue (s.detailList.myEntry s.doc.conf aHost)

theorem wp_updateMySQLStatistics (now : Time) (Q : Except Failure PUnit → Session → Prop) :
    wp (updateMySQLStatistics server now (some connection) aHost) Q s ↔
      if s.due aHost then
        if server.statusQuery.isSome || server.statusReadable then
          Q (.ok ⟨⟩) ((s.issuing connection MysqlStatus.showStatus).sampled server now aHost)
        else Q (.error .nullDereference) (s.issuing connection MysqlStatus.showStatus)
      else Q (.ok ⟨⟩) (s.sampled server now aHost) := by
  rw [updateMySQLStatistics, wp_bind, wp_get]
  unfold sampled DetailList.updateMySQLStatistics
  cases hdue : s.due aHost with
  | false =>
    simp only [due] at hdue
    simp only [hdue]
    rfl
  | true =>
    simp only [due] at hdue
    simp only [issuing, hdue, if_true]
    rw [wp_bind, wp_caught, wp_serverStatus]
    cases server.statusQuery.isSome || server.statusReadable with
    | false => rfl
    | true => cases server.serverStatus <;> rfl

theorem wp_updateSlave (now : Time) (Q : Except Failure PUnit → Session → Prop) :
    wp (updateSlave server now (some connection) aHost) Q s ↔
      if s.doc.conf.isSlave aHost then
        if server.slaveQuery.isSome || server.slaveReadable then
          Q (.ok ⟨⟩) ((s.issuing connection "show slave status").replicated server now aHost)
        else Q (.error .nullDereference) (s.issuing connection "show slave status")
      else Q (.ok ⟨⟩) s := by
  rw [updateSlave, wp_bind, wp_get]
  cases h : s.doc.conf.isSlave aHost with
  | false =>
    simp only [h]
    rfl
  | true =>
    simp only [h, if_true]
    exact wp_updateMySQLSlaveStatus now Q

end Calls

section Frames
variable {s : Session} {server : Server} {aHost : HostRef}

theorem queried_conf : (s.queried server aHost).doc.conf = s.doc.conf := by
  unfold queried
  cases server.results with
  | none => rfl
  | some rows => exact Document.updateMySQLQueries_conf s.doc aHost rows

theorem replicated_conf (now : Time) :
    (s.replicated server now aHost).doc.conf = s.doc.conf := by
  unfold replicated Document.updateMySQLSlaveStatus
  cases server.slaveStatus with
  | none => rfl
  | some status =>
    simp only
    split <;> rfl

theorem due_mapObjects {t : Session} {f : DBMDetailEntry → DBMDetailEntry}
    (hc : t.doc.conf = s.doc.conf) (hd : t.detailList = s.detailList.mapObjects f)
    (hf : ∀ e, ((f e).host, (f e).pollsLeftBeforeStatus) = (e.host, e.pollsLeftBeforeStatus)) :
    t.due aHost = s.due aHost := by
  have hkeep := ObjectArray.mapObjects_keeps
    (g := fun e : DBMDetailEntry => (e.host, e.pollsLeftBeforeStatus)) hf s.detailList
  have hentry : t.detailList.myEntry t.doc.conf aHost =
      s.detailList.myEntry s.doc.conf aHost := by
    refine ObjectArray.lastMatch_congr (by rw [hd, ObjectArray.mapObjects_items]) (fun r _ => ?_)
    rw [hc, hd, (Prod.mk.inj (hkeep r)).1]
  rw [due, due, hentry, DetailList.isDue, DetailList.isDue]
  congr 1
  funext r
  rw [DBMDetailEntry.isDue, DBMDetailEntry.isDue, hd, (Prod.mk.inj (hkeep r)).2]

theorem queried_due : (s.queried server aHost).due aHost = s.due aHost := by
  cases h : server.results with
  | none => simp [queried, h, due, DetailList.updateMySQLQueries, Document.updateMySQLQueries]
  | some rows =>
    refine due_mapObjects queried_conf (by rw [queried, h]; rfl) (fun e => ?_)
    split <;> rfl

theorem replicated_due (now : Time) :
    (s.replicated server now aHost).due aHost = s.due aHost := by
  cases h : server.slaveStatus with
  | none =>
    simp [replicated, h, due, DetailList.updateMySQLSlaveStatus, Document.updateMySQLSlaveStatus]
  | some status =>
    refine due_mapObjects (replicated_conf now) (by rw [replicated, h]; rfl) (fun e => ?_)
    split <;> rfl

end Frames

end Session

def Server.answers (server : Server) (slave due : Bool) : Bool :=
  (!slave || server.slaveQuery.isSome || server.slaveReadable) &&
    (!due || server.statusQuery.isSome || server.statusReadable)

def Server.polled (server : Server) (run : Session.PollRun) : Document.Poll :=
  if server.connect.isSome then .refused run.failedAt
  else .connected server.results run.replicatedAt server.slaveStatus

namespace Session

structure Updated (server : Server) (run : PollRun) (aHost : HostRef) (s : Session)
    (r : Except Failure PUnit) (t : Session) : Prop where
  result : r = if server.answers (s.doc.conf.isSlave aHost) (s.due aHost) then .ok ⟨⟩
    else .error .nullDereference
  issued : ∀ statement ∈ t.issued, statement ∈ s.issued ∨ statement.1 = some aHost
  mainQueue : t.mainQueue = s.mainQueue
  doc : r = .ok ⟨⟩ → t.doc =
    if s.doc.conf.isSlave aHost then
      (s.doc.updateMySQLQueries aHost server.results).updateMySQLSlaveStatus run.replicatedAt aHost
        server.slaveStatus
    else s.doc.updateMySQLQueries aHost server.results

structure Polled (server : Server) (run : PollRun) (aHost : HostRef) (s : Session)
    (r : Except Failure PUnit) (t : Session) : Prop where
  result : r = if server.connect.isSome ||
      server.answers (s.doc.conf.isSlave aHost) (s.due aHost) then .ok ⟨⟩
    else .error .nullDereference
  issued : ∀ statement ∈ t.issued, statement ∈ s.issued ∨ statement.1 = some aHost
  mainQueue : t.mainQueue = s.mainQueue
  doc : r = .ok ⟨⟩ → t.doc = s.doc.generateMySQLOperation aHost (server.polled run)

section Poll
variable {s t : Session} {server : Server} {run : PollRun} {aHost : HostRef}

theorem wp_forceDisconnect (m : Action PUnit) (connection : Option HostRef)
    (Q : Except Failure PUnit → Session → Prop) :
    wp (m >>= fun _ => MysqlConnection.forceDisconnect connection) Q s ↔ wp m Q s := by
  rw [wp_bind]
  refine iff_of_eq (congrArg (fun R => wp m R s) ?_)
  funext r t
  cases r with
  | ok a => rfl
  | error e => rfl

theorem issued_connected (command : String)
    (h : ∀ statement ∈ t.issued, statement ∈ s.issued ∨ statement.1 = some aHost) :
    ∀ statement ∈ (t.issuing aHost command).issued,
      statement ∈ s.issued ∨ statement.1 = some aHost := by
  intro statement hm
  rcases List.mem_append.mp hm with hold | hnew
  · exact h statement hold
  · exact Or.inr (by rw [List.mem_singleton.mp hnew])

theorem statistics_updated (slave : Bool)
    (hslave : slave = true → server.slaveQuery.isSome || server.slaveReadable)
    (hs : s.doc.conf.isSlave aHost = slave) (hdue : t.due aHost = s.due aHost)
    (hissued : ∀ statement ∈ t.issued, statement ∈ s.issued ∨ statement.1 = some aHost)
    (hqueue : t.mainQueue = s.mainQueue)
    (hdoc : t.doc = if slave then
        (s.doc.updateMySQLQueries aHost server.results).updateMySQLSlaveStatus run.replicatedAt
          aHost server.slaveStatus
      else s.doc.updateMySQLQueries aHost server.results) :
    wp (updateMySQLStatistics server run.sampledAt (some aHost) aHost)
      (Updated server run aHost s) t := by
  have hmore := issued_connected MysqlStatus.showStatus hissued
  have hanswers : server.answers slave (t.due aHost) =
      (!t.due aHost || server.statusQuery.isSome || server.statusReadable) := by
    cases slave with
    | false => rfl
    | true =>
      have hslave := hslave rfl
      simp only [Server.answers, Bool.not_true, Bool.false_or, hslave, Bool.true_and]
  rw [hdue] at hanswers
  rw [wp_updateMySQLStatistics, hdue]
  cases hd : s.due aHost with
  | false =>
    simp only [Bool.false_eq_true, if_false]
    exact ⟨by rw [hs, hanswers, hd]; rfl, hissued, hqueue, fun _ => by rw [hs]; exact hdoc⟩
  | true =>
    rw [hd] at hanswers
    simp only [if_true]
    cases hr : (server.statusQuery.isSome || server.statusReadable) with
    | true =>
      have hanswered : server.answers slave true = true := by rw [hanswers]; simpa using hr
      simp only [if_true]
      exact ⟨by rw [hs, hd, hanswered]; rfl, hmore, hqueue, fun _ => by rw [hs]; exact hdoc⟩
    | false =>
      have hsilent : server.answers slave true = false := by rw [hanswers]; simpa using hr
      simp only [Bool.false_eq_true, if_false]
      exact ⟨by rw [hs, hd, hsilent]; rfl, hmore, hqueue, fun h => by simp at h⟩

theorem updateHost_updated :
    wp (updateHost server run aHost (some aHost)) (Updated server run aHost s) s := by
  have hqueried : ∀ statement ∈ (s.issuing aHost MysqlFetch.processList).issued,
      statement ∈ s.issued ∨ statement.1 = some aHost :=
    issued_connected MysqlFetch.processList (fun _ hm => Or.inl hm)
  have hshown := issued_connected "show slave status" hqueried
  rw [updateHost, wp_bind, wp_updateMySQLQueries]
  simp only
  rw [wp_bind, wp_updateSlave, queried_conf]
  change if s.doc.conf.isSlave aHost = true then _ else _
  cases hs : s.doc.conf.isSlave aHost with
  | false =>
    simp only [Bool.false_eq_true, if_false]
    rw [wp_forceDisconnect]
    exact statistics_updated false (by simp) hs queried_due hqueried rfl rfl
  | true =>
    simp only [if_true]
    cases hr : (server.slaveQuery.isSome || server.slaveReadable) with
    | true =>
      simp only [if_true]
      rw [wp_forceDisconnect]
      have hdue : ((((s.issuing aHost MysqlFetch.processList).queried server aHost).issuing aHost
          "show slave status").replicated server run.replicatedAt aHost).due aHost = s.due aHost :=
        (replicated_due run.replicatedAt).trans queried_due
      exact statistics_updated true (fun _ => hr) hs hdue hshown rfl rfl
    | false =>
      have hsilent : server.answers true (s.due aHost) = false := by
        rw [Server.answers, Bool.not_true, Bool.false_or, hr, Bool.false_and]
      simp only [Bool.false_eq_true, if_false]
      exact ⟨by rw [hs, hsilent]; rfl, hshown, rfl, fun h => by simp at h⟩

theorem poll_polled : wp (poll server run aHost) (Polled server run aHost s) s := by
  rw [poll, wp_bind, wp_modify]
  simp only
  rw [wp_bind, wp_connectToHost]
  simp only
  cases hconnect : server.connect with
  | some error =>
    simp only [Option.isSome_some, if_true]
    refine ⟨by rw [hconnect]; rfl, fun _ hm => Or.inl hm, rfl, fun _ => ?_⟩
    rw [Server.polled, hconnect]
    rfl
  | none =>
    simp only [Option.isSome_none, Bool.false_eq_true, if_false]
    rw [wp_bind]
    refine wp_mono (fun r t h => ?_) updateHost_updated
    have hresult : r = if server.answers (s.doc.conf.isSlave aHost) (s.due aHost) then .ok ⟨⟩
        else .error .nullDereference := h.result
    cases r with
    | ok a =>
      refine ⟨?_, h.issued, h.mainQueue, fun _ => ?_⟩
      · rw [hconnect]
        exact hresult
      · have hdoc := h.doc rfl
        rw [Server.polled, hconnect]
        exact congrArg (Document.discardMySQLDead aHost) hdoc
    | error e =>
      refine ⟨?_, h.issued, h.mainQueue, fun hok => by simp at hok⟩
      rw [hconnect]
      exact hresult

end Poll

end Session

inductive EntryPoint where
  | generateMySQLOperation (run : Session.PollRun) (aHost : HostRef)
  | killEnded (accept : Bool) (entry : DBMLogEntry)

namespace EntryPoint

def action (server : Server) : EntryPoint → Action PUnit
  | .generateMySQLOperation run aHost => Session.generateMySQLOperation server run aHost
  | .killEnded accept entry => Session.killEnded server accept entry

def uncancelled : EntryPoint → Option HostRef
  | .generateMySQLOperation run aHost =>
    if run.cancelledAtStart || run.cancelledAtEnd then none else some aHost
  | .killEnded _ _ => none

structure Contained (entry : EntryPoint) (result : Except Failure PUnit) (t : Session) : Prop where
  caught : ∀ e, result ≠ .error (.mysqlException e)
  connected : ∀ statement ∈ t.issued, statement.1.isSome = true
  rescheduled : ∀ aHost ∈ entry.uncancelled, .reschedule aHost ∈ t.mainQueue

def withstands (entry : EntryPoint) (server : Server) (s : Session) : Bool :=
  match entry with
  | .generateMySQLOperation run aHost => run.cancelledAtStart || run.cancelledAtEnd ||
      server.connect.isSome || server.answers (s.doc.conf.isSlave aHost) (s.due aHost)
  | .killEnded accept _ => !accept || (server.connect.isNone && server.kill.isNone)

section Exact
variable {server : Server} {doc : Document} {detailList : DetailList}

theorem contained_ok {entry : EntryPoint} {t : Session}
    (hissued : ∀ statement ∈ t.issued, statement.1.isSome = true)
    (hqueue : ∀ aHost ∈ entry.uncancelled, .reschedule aHost ∈ t.mainQueue) :
    Contained entry (.ok ⟨⟩) t := ⟨fun _ h => by simp at h, hissued, hqueue⟩

theorem killEnded_contained (accept : Bool) (entry : DBMLogEntry) :
    wp (Session.killEnded server accept entry) (Contained (.killEnded accept entry))
        (Session.begin doc detailList) ↔
      (!accept || (server.connect.isNone && server.kill.isNone)) = true := by
  cases accept with
  | false =>
    exact iff_of_true (contained_ok (fun _ hm => absurd hm List.not_mem_nil)
      (fun _ hm => by simp [uncancelled] at hm)) rfl
  | true =>
    rw [Session.killEnded, if_pos rfl, wp_bind, Session.wp_connectToHost]
    cases server.connect with
    | some error =>
      refine iff_of_false (fun h => ?_) (by simp)
      have hnil := h.connected (none, "kill " ++ entry.processID)
        (List.mem_append_right _ (List.mem_singleton_self _))
      simp at hnil
    | none =>
      simp only [Option.isSome_none, Bool.false_eq_true, if_false]
      rw [MysqlKill.killProcess, Session.wp_mysqlQuery]
      cases server.kill with
      | some error =>
        refine iff_of_false (fun h => ?_) (by simp)
        exact h.caught _ rfl
      | none =>
        refine iff_of_true (contained_ok (fun statement hm => ?_)
          (fun _ hm => by simp [uncancelled] at hm)) rfl
        obtain rfl := List.mem_singleton.mp hm
        rfl

theorem begin_connected {aHost : HostRef} {t : Session}
    (h : ∀ statement ∈ t.issued, statement ∈ (Session.begin doc detailList).issued ∨
      statement.1 = some aHost) :
    ∀ statement ∈ t.issued, statement.1.isSome = true := by
  intro statement hm
  rcases h statement hm with hold | hnew
  · exact absurd hold List.not_mem_nil
  · rw [hnew]
    rfl

theorem silent_contained {run : Session.PollRun} {aHost : HostRef} {t : Session}
    (hissued : ∀ statement ∈ t.issued, statement.1.isSome = true)
    (hstart : run.cancelledAtStart = false) (hqueue : t.mainQueue = []) :
    Contained (.generateMySQLOperation run aHost) (.error .nullDereference) t ↔
      run.cancelledAtEnd = true := by
  cases hend : run.cancelledAtEnd with
  | true =>
    refine iff_of_true ⟨fun e he => by simp at he, hissued, fun _ hm => ?_⟩ rfl
    simp [uncancelled, hend] at hm
  | false =>
    refine iff_of_false (fun hc => ?_) (by simp)
    have hposted := hc.rescheduled aHost (by simp [uncancelled, hstart, hend])
    rw [hqueue] at hposted
    exact List.not_mem_nil hposted

theorem answered_contained {run : Session.PollRun} {aHost : HostRef} {t : Session}
    (hissued : ∀ statement ∈ t.issued, statement.1.isSome = true)
    (hstart : run.cancelledAtStart = false) :
    wp (if run.cancelledAtEnd = true then pure ⟨⟩
      else modify fun s => { s with mainQueue := s.mainQueue ++ [.reschedule aHost] })
      (Contained (.generateMySQLOperation run aHost)) t := by
  cases hend : run.cancelledAtEnd with
  | true => exact contained_ok hissued (fun _ hm => by simp [uncancelled, hend] at hm)
  | false =>
    refine contained_ok hissued (fun other hm => ?_)
    obtain rfl : aHost = other := by simpa [uncancelled, hstart, hend] using hm
    exact List.mem_append_right _ (List.mem_singleton_self _)

theorem poll_contained (run : Session.PollRun) (aHost : HostRef) :
    wp (Session.generateMySQLOperation server run aHost)
        (Contained (.generateMySQLOperation run aHost)) (Session.begin doc detailList) ↔
      withstands (.generateMySQLOperation run aHost) server (Session.begin doc detailList) =
        true := by
  rw [Session.generateMySQLOperation]
  cases hstart : run.cancelledAtStart with
  | true =>
    rw [if_pos rfl]
    exact iff_of_true (contained_ok (fun _ hm => absurd hm List.not_mem_nil)
      (fun _ hm => by simp [uncancelled, hstart] at hm)) (by simp [withstands, hstart])
  | false =>
    simp only [Bool.false_eq_true, if_false]
    rw [wp_bind]
    refine wp_iff Session.poll_polled (fun r t h => ?_)
    have hissued := begin_connected h.issued
    have hresult := h.result
    rw [withstands, hstart, Bool.false_or, Bool.or_assoc]
    cases hanswers : server.connect.isSome ||
        server.answers ((Session.begin doc detailList).doc.conf.isSlave aHost)
          ((Session.begin doc detailList).due aHost) with
    | false =>
      rw [hanswers] at hresult
      subst hresult
      rw [Bool.or_false]
      exact silent_contained hissued hstart h.mainQueue
    | true =>
      rw [hanswers] at hresult
      subst hresult
      rw [Bool.or_true]
      exact iff_of_true (answered_contained hissued hstart) rfl

theorem contained_iff (server : Server) (entry : EntryPoint) (doc : Document)
    (detailList : DetailList) :
    wp (entry.action server) (Contained entry) (Session.begin doc detailList) ↔
      entry.withstands server (Session.begin doc detailList) = true := by
  cases entry with
  | generateMySQLOperation run aHost => exact poll_contained run aHost
  | killEnded accept entry => exact killEnded_contained accept entry

end Exact

theorem kill_and_slave_failures_escape :
    let conf := Configuration.onePool { active := some 1 } [3] (by decide) (fun _ => 1) (fun _ => 1)
    let doc := Document.initial conf 60 1
    let kill := killEnded true (DBMLogEntry.initWithHost 3 "8" 0)
    let poll := generateMySQLOperation {} 3
    let final := fun (server : Server) (entry : EntryPoint) =>
      (entry.action server).run.run (Session.begin doc DetailList.empty)
    (final { kill := some ⟨1094, "Unknown thread id: 8"⟩ } kill).1 = .error (.mysqlException
        { reason := "Could not show slave status Error #1094:Unknown thread id: 8"
          connection := some 3
          errorNumber := 1094 }) ∧
      (final { connect := some ⟨2003, "Can't connect"⟩ } kill).2.issued = [(none, "kill 8")] ∧
      (final { slaveResult := some (.empty ["Slave_IO_Running"]) } poll).1 =
        .error .nullDereference ∧
      (final { slaveResult := some (.empty ["Slave_IO_Running"]) } poll).2.mainQueue = [] ∧
      ¬∀ server entry, wp (entry.action server) (Contained entry)
        (Session.begin doc DetailList.empty) := by
  intro conf doc kill poll final
  refine ⟨by decide +kernel, by decide +kernel, by decide +kernel, by decide +kernel, fun h => ?_⟩
  have hnil := (h { connect := some ⟨2003, "Can't connect"⟩ } kill).connected (none, "kill 8")
    (by decide +kernel)
  simp at hnil

end EntryPoint

end DBMonitor
