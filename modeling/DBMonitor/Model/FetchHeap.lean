import DBMonitor.Library.Heap
import DBMonitor.Model.Fetch

namespace DBMonitor

-- What one allocation of a fetch holds.
inductive FetchBlock where
  | statement
  | bindings
  | buffer (bytes : List UInt8)
  | length (n : Nat)
  | flag (b : Bool)
  deriving DecidableEq, Repr

-- A MYSQL_BIND with its pointers.
structure BindPointers where
  bufferType : FieldType
  bufferLength : Nat
  buffer : Nat
  length : Nat
  error : Nat
  isNull : Nat
  deriving DecidableEq, Repr

inductive HeapFailure where
  | failure (e : FetchFailure)
  | invalidPointer
  deriving DecidableEq, Repr

abbrev Allocating (α : Type) : Type := Program HeapFailure (Heap FetchBlock) α

-- The calls of the client library over memory, a parameter as MysqlLibrary is.
structure HeapLibrary where
  mysqlStmtInit : Allocating Nat
  mysqlStmtFetch : List Cell → List BindPointers → Allocating Bool
  mysqlStmtFetchColumn : Cell → BindPointers → Allocating PUnit
  mysqlStmtClose : Nat → Allocating PUnit

namespace FetchHeap

open Heap

section Blocks

def loadFlag (p : Nat) : Allocating Bool := do
  match ← load .invalidPointer p with
  | .flag b => pure b
  | _ => throw .invalidPointer

def loadLength (p : Nat) : Allocating Nat := do
  match ← load .invalidPointer p with
  | .length n => pure n
  | _ => throw .invalidPointer

def loadBuffer (p : Nat) : Allocating (List UInt8) := do
  match ← load .invalidPointer p with
  | .buffer bytes => pure bytes
  | _ => throw .invalidPointer

def raise {α : Type} : Except FetchFailure α → Allocating α
  | .ok a => pure a
  | .error e => throw (.failure e)

end Blocks

section Binding

def bindColumn (field : MysqlField) : Allocating BindPointers :=
  match Fetch.bindField field with
  | .error e => raise (.error (.raised e))
  | .ok binding => do
    let buffer ← alloc (.buffer binding.buffer)
    let length ← alloc (.length binding.length)
    let error ← alloc (.flag binding.error)
    let isNull ← alloc (.flag binding.isNull)
    pure
      { bufferType := binding.bufferType
        bufferLength := binding.buffer.length
        buffer := buffer
        length := length
        error := error
        isNull := isNull }

structure BoundStatement where
  fieldNames : List String := []
  sourceTables : List String := []
  bindings : List BindPointers := []

def addColumn (useExtendedNames : Bool) (statement : BoundStatement) (field : MysqlField) :
    Allocating BoundStatement := do
  let sourceTables := statement.sourceTables.insert field.table
  let name := Fetch.fieldName useExtendedNames sourceTables field
  let binding ← bindColumn field
  pure
    { fieldNames := statement.fieldNames ++ [name]
      sourceTables := sourceTables
      bindings := statement.bindings ++ [binding] }

def release : List BindPointers → Allocating PUnit
  | [] => pure ⟨⟩
  | binding :: bindings => do
    free .invalidPointer binding.buffer
    free .invalidPointer binding.length
    free .invalidPointer binding.error
    free .invalidPointer binding.isNull
    release bindings

end Binding

section Reading
variable {Decimal Date : Type} (F : Foundation Decimal Date) (library : HeapLibrary)

def readBytes (n p : Nat) : Allocating (List UInt8) := do
  let buffer ← loadBuffer p
  match Memory.read n buffer with
  | some bytes => pure bytes
  | none => raise (.error .outOfBounds)

-- The buffer of a blob that did not fit gives way to one of its own length and is put back.
def readBlob (truncated : Bool) (binding : BindPointers) (cell : Cell) :
    Allocating (List UInt8) := do
  let error ← loadFlag binding.error
  let bufferLength ← loadLength binding.length
  if truncated && error then do
    let buffer ← alloc (.buffer (List.replicate bufferLength 0))
    library.mysqlStmtFetchColumn cell
      { binding with buffer := buffer, bufferLength := bufferLength }
    let length ← loadLength binding.length
    let bytes ← readBytes length buffer
    free .invalidPointer buffer
    pure bytes
  else readBytes bufferLength binding.buffer

def readText (binding : BindPointers) : Allocating (List UInt8) := do
  let length ← loadLength binding.length
  readBytes length binding.buffer

def readCell (truncated : Bool) (key : String) (fieldType : FieldType) (binding : BindPointers)
    (cell : Cell) : Allocating (Assignment Decimal Date) := do
  let isNull ← loadFlag binding.isNull
  if isNull then pure (.value .null)
  else
    match fieldType with
    | .tinyBlob | .mediumBlob | .longBlob | .blob =>
      Fetch.objectOf F fieldType <$> readBlob library truncated binding cell
    | .string | .varString | .newdecimal | .timestamp =>
      Fetch.objectOf F fieldType <$> readText binding
    | .longlong | .double => Fetch.objectOf F fieldType <$> readBytes 8 binding.buffer
    | .long | .float => Fetch.objectOf F fieldType <$> readBytes 4 binding.buffer
    | .tiny => Fetch.objectOf F fieldType <$> readBytes 1 binding.buffer
    | .datetime | .date =>
      Fetch.objectOf F fieldType <$> readBytes Fetch.sizeofMysqlTime binding.buffer
    | _ => raise (.error (.raised
        { name := "No Binding"
          reason := "fetch does not support mysql type " ++ toString binding.bufferType.code ++
            " for key " ++ key }))

def readRow (truncated : Bool) :
    List (String × FieldType) → List BindPointers → List Cell → Dictionary Decimal Date →
      Allocating (Dictionary Decimal Date)
  | (key, fieldType) :: columns, binding :: bindings, cell :: cells, dict => do
    let object ← readCell F library truncated key fieldType binding cell
    let dict ← raise (Fetch.assign F key dict object)
    readRow truncated columns bindings cells dict
  | _, _, _, dict => pure dict

def fetchRows (connection : HostRef) (columns : List (String × FieldType))
    (bindings : List BindPointers) :
    List (Except MysqlError (List Cell)) → Allocating (List (Dictionary Decimal Date))
  | [] => pure []
  | .error error :: _ =>
    raise (.error (.raised (Fetch.fetchError connection "perform mysql_stmt_fetch()" error)))
  | .ok cells :: replies => do
    let truncated ← library.mysqlStmtFetch cells bindings
    let dict ← readRow F library truncated columns bindings cells (fun _ => none)
    let dicts ← fetchRows connection columns bindings replies
    pure (dict :: dicts)

end Reading

section Statement
variable {Decimal Date : Type} (F : Foundation Decimal Date) (library : HeapLibrary)

def fetchBound (call : FetchCall) (statement : BoundStatement) :
    Allocating (List (Dictionary Decimal Date)) := do
  raise (Fetch.raiseFailed call.connection "perform mysql_stmt_bind_result()" call.bind)
  raise (Fetch.raiseFailed call.connection "perform mysql_stmt_execute()" call.execute)
  fetchRows F library call.connection (statement.fieldNames.zip (call.fields.map MysqlField.type))
    statement.bindings call.replies

-- Only a fetch that returns comes to the frees. mysql_stmt_init is taken to succeed: its answer
-- is not looked at.
def fetchWithCommand (call : FetchCall) : Allocating (List (Dictionary Decimal Date)) := do
  let myStatement ← library.mysqlStmtInit
  raise (Fetch.raiseFailed call.connection "perform mysql_stmt_bind_result()" call.prepare)
  let bindings ← alloc .bindings
  let statement ← call.fields.foldlM (addColumn call.useExtendedNames) {}
  let results ← fetchBound F library call statement
  release statement.bindings
  free .invalidPointer bindings
  library.mysqlStmtClose myStatement
  pure results

end Statement

end FetchHeap

end DBMonitor
