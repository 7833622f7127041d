import Mathlib.Data.List.TakeWhile
import DBMonitor.Client.Fetch
import DBMonitor.Model.FetchHeap

namespace DBMonitor

def BindPointers.cells (p : BindPointers) (b : MysqlBind) : List (Nat × FetchBlock) :=
  [(p.buffer, .buffer b.buffer), (p.length, .length b.length), (p.error, .flag b.error),
    (p.isNull, .flag b.isNull)]

structure BindPointers.Points (p : BindPointers) (b : MysqlBind) : Prop where
  bufferType : p.bufferType = b.bufferType
  bufferLength : p.bufferLength = b.buffer.length

namespace FetchHeap

open Heap Program

def columnCells : List BindPointers → List MysqlBind → List (Nat × FetchBlock)
  | p :: ps, b :: bs => p.cells b ++ columnCells ps bs
  | _, _ => []

-- The columns' blocks are still allocated and pointed to.
def Kept (ps : List BindPointers) (frame : List (Nat × FetchBlock))
    (rest : Nat → Option FetchBlock) (h : Heap FetchBlock) : Prop :=
  ∃ bs, List.Forall₂ BindPointers.Points ps bs ∧ Holds (columnCells ps bs ++ frame) rest h

section Column
variable {library : MysqlLibrary} {heapLibrary : HeapLibrary} {p : BindPointers} {b b' : MysqlBind}
  {cell : Cell} {frame : List (Nat × FetchBlock)} {rest : Nat → Option FetchBlock}
  {h : Heap FetchBlock}

end Column

section Rows
variable {Decimal Date : Type} (F : Foundation Decimal Date)
variable {library : MysqlLibrary} {heapLibrary : HeapLibrary}
variable {ps : List BindPointers} {bs bs' : List MysqlBind} {cells : List Cell}
  {frame : List (Nat × FetchBlock)} {rest : Nat → Option FetchBlock} {h : Heap FetchBlock}

end Rows

-- The same over memory.
section Copying
variable {p : BindPointers} {b : MysqlBind} {ps : List BindPointers} {bs : List MysqlBind}
  {cell : Cell} {cells : List Cell} {frame : List (Nat × FetchBlock)}
  {rest : Nat → Option FetchBlock} {h : Heap FetchBlock}

-- Answers whether the column was truncated.
def copyColumn (cell : Cell) (binding : BindPointers) : Allocating Bool :=
  match cell with
  | none => do
    store .invalidPointer binding.error (.flag false)
    store .invalidPointer binding.isNull (.flag true)
    pure false
  | some bytes => do
    let buffer ← loadBuffer binding.buffer
    let copied := if Fetch.variableLength binding.bufferType then bytes.take binding.bufferLength
      else bytes
    match Memory.write copied buffer with
    | none => raise (.error .outOfBounds)
    | some buffer => do
      store .invalidPointer binding.buffer (.buffer buffer)
      store .invalidPointer binding.length (.length bytes.length)
      store .invalidPointer binding.error (.flag (decide (copied.length < bytes.length)))
      store .invalidPointer binding.isNull (.flag false)
      pure (decide (copied.length < bytes.length))

def copyColumns : List Cell → List BindPointers → Allocating Bool
  | cell :: cells, binding :: bindings => do
    let error ← copyColumn cell binding
    let errors ← copyColumns cells bindings
    pure (error || errors)
  | _, _ => pure false

def copying : HeapLibrary where
  mysqlStmtInit := alloc .statement
  mysqlStmtFetch := copyColumns
  mysqlStmtFetchColumn cell binding := do
    let _ ← copyColumn cell binding
    pure ⟨⟩
  mysqlStmtClose := free .invalidPointer

end Copying

section Binding
variable {ps : List BindPointers} {bs : List MysqlBind} {p : BindPointers} {b : MysqlBind}
  {field : MysqlField} {fields : List MysqlField} {useExtendedNames : Bool}
  {frame : List (Nat × FetchBlock)} {rest : Nat → Option FetchBlock} {h : Heap FetchBlock}

end Binding

section Fetches
variable {Decimal Date : Type} (F : Foundation Decimal Date) (library : MysqlLibrary)
  {heapLibrary : HeapLibrary} {call : FetchCall} {h : Heap FetchBlock}

variable {library}

theorem fetchWithCommand_bound {s : Fetch.Statement} (hprepare : call.prepare = none)
    (hbind : Fetch.bindFields call.useExtendedNames call.fields = .ok s) :
    Fetch.fetchWithCommand F library call = (do
      Fetch.raiseFailed call.connection "perform mysql_stmt_bind_result()" call.bind
      Fetch.raiseFailed call.connection "perform mysql_stmt_execute()" call.execute
      Fetch.fetchRows F library call.connection
        (s.fieldNames.zip (call.fields.map MysqlField.type)) s.bindings call.replies) := by
  rw [Fetch.fetchWithCommand, hprepare, hbind]
  rfl

end Fetches

end FetchHeap

end DBMonitor
