import DBMonitor.Library.Locks

namespace DBMonitor.Locking

inductive Lock where
  | checkQueue
  | detailList
  | dataList
  | connection (n : Nat)
deriving DecidableEq

inductive Shared where
  | checkQueue
  | detailList
  | dataList
  | currentLogEntry
  | logSortDescriptors
  | statusSortDescriptors
  | sliderValue
  | logEntry
  | detailEntry
deriving DecidableEq

inductive Access where
  | reads (x : Shared)
  | writes (x : Shared)
deriving DecidableEq

abbrev Method := Code Lock Access

def reads (x : Shared) : Method := .access (.reads x)

def writes (x : Shared) : Method := .access (.writes x)

section TableView

-- Selecting rows from code posts the notification that tableViewSelectionDidChange handles.
def tableViewSelectionDidChange : Method :=
  .sync .dataList (.block [reads .dataList, writes .currentLogEntry])

def tableViewSelectionIsChanging : Method :=
  .sync .dataList (.block [reads .dataList, writes .currentLogEntry])

def selectRowIndexes : Method := .maybe tableViewSelectionDidChange

def numberOfRowsInTableView : Method :=
  .choose (.sync .dataList (reads .dataList)) (.sync .detailList (reads .detailList))

def sortUsingDescriptors (list entry : Shared) : Method := .block [reads entry, writes list]

def sortDescriptorsDidChange : Method :=
  .choose
    (.sync .dataList (.block [reads .dataList, sortUsingDescriptors .dataList .logEntry,
      writes .logSortDescriptors,
      .maybe (.block [.loop (.block [reads .dataList, .maybe selectRowIndexes]),
        .maybe selectRowIndexes])]))
    (.sync .detailList (.block [reads .detailList, sortUsingDescriptors .detailList .detailEntry,
      writes .statusSortDescriptors,
      .maybe (.block [.loop (.block [reads .detailList, .maybe selectRowIndexes]),
        .maybe selectRowIndexes])]))

def objectValueForTableColumn : Method :=
  .choose
    (.sync .dataList (.block [reads .dataList, .maybe (reads .logEntry)]))
    (.sync .detailList (.block [reads .detailList, .maybe (reads .detailEntry)]))

def willDisplayCell : Method :=
  .maybe (.sync .dataList (.block [reads .dataList, .maybe (reads .logEntry)]))

end TableView

section Panels

def refreshSlavePanel : Method := .sync .dataList .skip

def refreshMySQLQueryPanel : Method := .sync .dataList (reads .logEntry)

-- The blocks that the refresh operation sends to the main queue.
def logSlaveBlock : Method := .block [reads .logEntry, refreshSlavePanel]

def logQueryBlock : Method := refreshMySQLQueryPanel

def hostSlaveBlock : Method := .block [reads .detailEntry, refreshSlavePanel]

def detectChangedSlider : Method :=
  .block [writes .sliderValue, reads .sliderValue, .maybe (writes .sliderValue)]

end Panels

section Updates

def clearUpdates : Method :=
  .sync .dataList (.loop (.block [reads .dataList, reads .logEntry, .maybe (writes .logEntry)]))

def findLogEntry : Method := .loop (.block [reads .dataList, reads .logEntry])

def updateMySQLQueries (connection : Nat) : Method :=
  .block [.sync (.connection connection) .skip,
    .maybe (.block [
      .sync .detailList (.loop (.block [reads .detailList, reads .detailEntry,
        .maybe (writes .detailEntry)])),
      .loop (.sync .dataList (.block [findLogEntry, .maybe (writes .dataList), writes .logEntry,
        reads .logEntry, .maybe (reads .sliderValue)]))])]

def updateMySQLSlaveStatus (connection : Nat) : Method :=
  .block [.sync (.connection connection) .skip,
    .maybe (.block [
      .maybe (.sync .dataList (.block [findLogEntry, .maybe (writes .dataList), writes .logEntry,
        reads .logEntry, .maybe (reads .sliderValue)])),
      .sync .detailList (.loop (.block [reads .detailList, reads .detailEntry,
        .maybe (writes .detailEntry)]))])]

-- pollsLeftBeforeStatus is compared after the lock is released.
def updateMySQLStatistics (connection : Nat) : Method :=
  .block [.sync .detailList (.loop (.block [reads .detailList, reads .detailEntry])),
    reads .detailEntry,
    .choose
      (.block [.sync (.connection connection) .skip,
        .maybe (.sync .detailList (.block [reads .detailEntry, writes .detailEntry]))])
      (.sync .detailList (.block [reads .detailEntry, writes .detailEntry]))]

def updateMySQLFail : Method :=
  .sync .dataList (.block [findLogEntry, .maybe (writes .dataList), writes .logEntry,
    reads .logEntry])

def discardMySQLDead : Method :=
  .sync .dataList (.block [
    .loop (.block [reads .dataList, reads .logEntry, .maybe (writes .logEntry)]),
    .loop (writes .dataList)])

end Updates

section Operations

def addOperation : Method := .sync .checkQueue (writes .checkQueue)

def mySQLOperation (connection : Nat) : Method :=
  .block [clearUpdates,
    .choose
      (.block [updateMySQLQueries connection, .maybe (updateMySQLSlaveStatus connection),
        updateMySQLStatistics connection])
      updateMySQLFail,
    discardMySQLDead]

def refreshOperation : Method :=
  .block [
    .sync .dataList (.block [reads .dataList, reads .currentLogEntry,
      .maybe (.block [reads .dataList, selectRowIndexes]),
      .loop (.block [reads .dataList, reads .logEntry, .maybe (writes .logEntry),
        .maybe (reads .sliderValue), .maybe (writes .logEntry)]),
      .loop discardMySQLDead,
      .maybe (reads .logEntry),
      reads .logSortDescriptors, .maybe (sortUsingDescriptors .dataList .logEntry),
      .maybe (.block [.loop (.block [reads .dataList, .maybe selectRowIndexes]),
        .maybe selectRowIndexes])]),
    .sync .detailList (.block [reads .detailList,
      .maybe (.block [.maybe (reads .detailEntry),
        reads .statusSortDescriptors, .maybe (sortUsingDescriptors .detailList .detailEntry),
        .maybe (.block [.loop (.block [reads .detailList, .maybe selectRowIndexes]),
          .maybe selectRowIndexes])])]),
    addOperation]

def reloadDataWatchers : Method :=
  .block [writes .checkQueue, addOperation,
    .sync .detailList (.block [writes .detailList, .loop (writes .detailList)]),
    .loop (.choose addOperation (.block [clearUpdates, discardMySQLDead]))]

-- The end of the method sets sliderValue as detectChangedSlider does.
def windowControllerDidLoadNib : Method := .block [reloadDataWatchers, detectChangedSlider]

def openConfigSheet : Method := .block [writes .checkQueue, writes .checkQueue]

def endConfigSheet : Method := reloadDataWatchers

end Operations

section Kill

def killEnded (connection : Nat) : Method :=
  .maybe (.sync .dataList (.block [reads .logEntry, .sync (.connection connection) .skip]))

def killProcess : Method :=
  .sync .dataList (.maybe (.block [reads .dataList, reads .logEntry, .maybe (writes .dataList)]))

def killDialogBlock : Method := .block [reads .logEntry, reads .dataList]

end Kill

inductive Task where
  | mySQLOperation (connection : Nat)
  | refreshOperation
  | addOperationBlock
  | logSlaveBlock
  | logQueryBlock
  | hostSlaveBlock
  | windowControllerDidLoadNib
  | detectChangedSlider
  | openConfigSheet
  | endConfigSheet
  | killProcess
  | killDialogBlock
  | killEnded (connection : Nat)
  | numberOfRowsInTableView
  | tableViewSelectionIsChanging
  | tableViewSelectionDidChange
  | sortDescriptorsDidChange
  | objectValueForTableColumn
  | willDisplayCell

def program : Task → Method
  | .mySQLOperation connection => mySQLOperation connection
  | .refreshOperation => refreshOperation
  | .addOperationBlock => addOperation
  | .logSlaveBlock => logSlaveBlock
  | .logQueryBlock => logQueryBlock
  | .hostSlaveBlock => hostSlaveBlock
  | .windowControllerDidLoadNib => windowControllerDidLoadNib
  | .detectChangedSlider => detectChangedSlider
  | .openConfigSheet => openConfigSheet
  | .endConfigSheet => endConfigSheet
  | .killProcess => killProcess
  | .killDialogBlock => killDialogBlock
  | .killEnded connection => killEnded connection
  | .numberOfRowsInTableView => numberOfRowsInTableView
  | .tableViewSelectionIsChanging => tableViewSelectionIsChanging
  | .tableViewSelectionDidChange => tableViewSelectionDidChange
  | .sortDescriptorsDidChange => sortDescriptorsDidChange
  | .objectValueForTableColumn => objectValueForTableColumn
  | .willDisplayCell => willDisplayCell

def onMain : Task → Bool
  | .mySQLOperation _ | .refreshOperation => false
  | _ => true

end DBMonitor.Locking
