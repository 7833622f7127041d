import DBMonitor.Library.Transition
import DBMonitor.World.Operation

namespace DBMonitor

inductive ReloadItem where
  | seedRefresh
  | visit (aHost : HostRef)
  | sweep (aHost : HostRef)
  deriving DecidableEq, Repr

-- What the main thread is in the middle of. It runs queued blocks and events only when idle.
inductive MainThread where
  | idle
  | opening
  | reloading (todo : List ReloadItem)
  | alerting (entry : EntryRef) (host : HostRef) (processID : String)
  deriving DecidableEq, Repr

structure Dialog where
  entry : EntryRef
  host : HostRef
  processID : String
  context : EntryRef
  deriving DecidableEq, Repr

structure Kill where
  host : HostRef
  processID : String
  dialog : Dialog
  deriving DecidableEq, Repr

structure World where
  doc : Document
  ops : List Operation := []
  mainQueue : List Block := []
  main : MainThread := .idle
  sheetOpen : Bool := false
  dialogs : List Dialog := []
  sent : List Kill := []

inductive Act where
  | operation (i : Nat) (x : Input)
  | mainThread
  | openConfigSheet
  | endConfigSheet
  | reloadDataWatchers
  | edit (conf : Configuration)
  | select (row : Int)
  | sort (order : List EntryRef)
  | detectChangedSlider (value : Int)
  | trackQuery (value : Int)
  | killProcess
  | killEnded (i : Nat) (accept connected : Bool) (junk : HostRef × String)

namespace World

def initial (conf : Configuration) (sliderValue trackQuery : Int) : World where
  doc := Document.initial conf sliderValue trackQuery

def runOperation (i : Nat) (x : Input) (w : World) : Option (Option Section × World) :=
  w.ops[i]?.map fun op =>
    let a := op.advance w.doc.conf x
    (a.locked,
      { w with
        ops := w.ops.take i ++ (a.body.map (fun b => { op with body := b })).toList ++
          w.ops.drop (i + 1) ++ a.enqueues.toList
        mainQueue := w.mainQueue ++ a.posts.toList })

def runBlock (b : Block) (rest : List Block) (w : World) : World :=
  match b with
  | .reschedule aHost =>
    { w with mainQueue := rest, ops := w.ops ++ [generateMySQLOperation aHost] }
  | .killDialog e =>
    { w with
      mainQueue := rest
      main := .alerting e (w.doc.entry e).eventHost (w.doc.entry e).processID }

def beginReload (w : World) : World :=
  { w with
    ops := cancelAllOperations w.ops
    sheetOpen := false
    main := .reloading (.seedRefresh :: w.doc.conf.hosts.map .visit) }

def runReload (item : ReloadItem) (todo : List ReloadItem) (w : World) : Option Section × World :=
  match item with
  | .seedRefresh =>
    (none, { w with main := .reloading todo, ops := w.ops ++ [generateRefreshOperation] })
  | .visit aHost =>
    if w.doc.conf.isActive aHost then
      (none, { w with main := .reloading todo, ops := w.ops ++ [generateMySQLOperation aHost] })
    else (some (.clearUpdates aHost), { w with main := .reloading (.sweep aHost :: todo) })
  | .sweep aHost => (some (.discardMySQLDead aHost), { w with main := .reloading todo })

-- The context pointer is read from the selected row; with no such row the block raises.
def beginSheet (e : EntryRef) (host : HostRef) (processID : String) (w : World) : World :=
  { w with
    main := .idle
    dialogs := w.dialogs ++ (w.doc.objectAtRow w.doc.selectedRow).toList.map
      (fun r => { entry := e, host := host, processID := processID, context := r }) }

def runMain (w : World) : Option (Option Section × World) :=
  match w.main with
  | .idle =>
    match w.mainQueue with
    | [] => none
    | b :: rest => some (none, w.runBlock b rest)
  | .opening =>
    some (none, { w with ops := cancelAllOperations w.ops, sheetOpen := true, main := .idle })
  | .reloading [] => some (none, { w with main := .idle })
  | .reloading (item :: todo) => some (w.runReload item todo)
  | .alerting e host processID => some (none, w.beginSheet e host processID)

def owns (w : World) (r : EntryRef) : Bool :=
  decide (r ∈ w.doc.items) || decide (w.doc.currentLogEntry = some r)

-- The context is a bare pointer: once nothing owns the entry, what is read there is junk.
def killed (w : World) (junk : HostRef × String) (dialog : Dialog) : Kill :=
  if w.owns dialog.context then
    { host := (w.doc.entry dialog.context).eventHost
      processID := (w.doc.entry dialog.context).processID
      dialog := dialog }
  else { host := junk.1, processID := junk.2, dialog := dialog }

def killEnded (i : Nat) (accept connected : Bool) (junk : HostRef × String) (w : World) :
    Option World :=
  w.dialogs[i]?.map fun dialog =>
    { w with
      dialogs := w.dialogs.eraseIdx i
      sent := if accept && connected then w.sent ++ [w.killed junk dialog] else w.sent }

def event (w : World) : Act → Option (Option Section × World)
  | .openConfigSheet => some (none, { w with ops := cancelAllOperations w.ops, main := .opening })
  | .endConfigSheet => if w.sheetOpen then some (none, w.beginReload) else none
  | .reloadDataWatchers => if w.sheetOpen then none else some (none, w.beginReload)
  | .edit conf => if w.sheetOpen then some (some (.edit conf), w) else none
  | .select row => some (some (.select row), w)
  | .sort order => some (some (.sortDescriptorsDidChange order), w)
  | .detectChangedSlider value => some (some (.detectChangedSlider value), w)
  | .trackQuery value => some (some (.trackQuery value), w)
  | .killProcess =>
    some (some .killProcess,
      { w with mainQueue := w.mainQueue ++ w.doc.killTarget.toList.map .killDialog })
  | .killEnded i accept connected junk =>
    (w.killEnded i accept connected junk).map (fun v => (none, v))
  | .operation _ _ => none
  | .mainThread => none

def control (w : World) : Act → Option (Option Section × World)
  | .operation i x => w.runOperation i x
  | .mainThread => w.runMain
  | a => if w.main = .idle then w.event a else none

def execute (w : World) (s : Option Section) : World :=
  { w with doc := s.elim w.doc w.doc.exec }

def step (w : World) (a : Act) : Option World := (w.control a).map (fun p => p.2.execute p.1)

def locked (w : World) (a : Act) : Option Section := (w.control a).bind Prod.fst

end World

end DBMonitor
