import DBMonitor.Library.Memory
import DBMonitor.Model.Client

namespace DBMonitor

-- enum enum_field_types
inductive FieldType where
  | decimal | tiny | short | long | float | double | null | timestamp | longlong | int24 | date
  | time | datetime | year | newdate | varchar | bit | newdecimal | enum | set | tinyBlob
  | mediumBlob | longBlob | blob | varString | string | geometry
  deriving DecidableEq, Repr

def FieldType.code : FieldType → Nat
  | .decimal => 0
  | .tiny => 1
  | .short => 2
  | .long => 3
  | .float => 4
  | .double => 5
  | .null => 6
  | .timestamp => 7
  | .longlong => 8
  | .int24 => 9
  | .date => 10
  | .time => 11
  | .datetime => 12
  | .year => 13
  | .newdate => 14
  | .varchar => 15
  | .bit => 16
  | .newdecimal => 246
  | .enum => 247
  | .set => 248
  | .tinyBlob => 249
  | .mediumBlob => 250
  | .longBlob => 251
  | .blob => 252
  | .varString => 253
  | .string => 254
  | .geometry => 255

structure MysqlField where
  table : String
  name : String
  length : Nat
  decimals : Nat := 0
  primaryKey : Bool := false
  type : FieldType
  deriving DecidableEq, Repr

structure MysqlFetchField where
  name : String
  width : Nat
  decimals : Nat
  fieldType : FieldType
  primaryKey : Bool
  deriving DecidableEq, Repr

-- buffer_length is the length of buffer.
structure MysqlBind where
  bufferType : FieldType
  buffer : List UInt8
  length : Nat := 0
  error : Bool := false
  isNull : Bool := false
  deriving DecidableEq, Repr

structure MysqlTime where
  year : Nat
  month : Nat
  day : Nat
  hour : Nat
  minute : Nat
  second : Nat
  deriving DecidableEq, Repr

structure DateComponents where
  year : Nat
  month : Nat
  day : Nat
  deriving DecidableEq, Repr

-- The classes that decide what a text or a time stands for, and whether a dictionary
-- takes nil for a key as its removal or raises.
structure Foundation (Decimal Date : Type) where
  decimalNumberWithString : Option String → Option Decimal
  dateFromString : Option String → Option Date
  dateFromComponents : MysqlTime → Option Date
  nilRemoves : Bool

inductive FetchedValue (Decimal Date : Type) where
  | null
  | data (bytes : List UInt8)
  | string (text : String)
  | number (value : Int)
  | decimal (value : Decimal)
  | date (value : Date)
  | components (value : DateComponents)
  | float (bits : Nat)
  | double (bits : Nat)
  deriving DecidableEq, Repr

-- What one cell does to its row's dictionary.
inductive Assignment (Decimal Date : Type) where
  | value (v : FetchedValue Decimal Date)
  | nil
  | skip
  deriving DecidableEq, Repr

-- outOfBounds is a write or a read past the end of a buffer.
inductive FetchFailure where
  | raised (e : MysqlException)
  | invalidArgument
  | outOfBounds
  deriving DecidableEq, Repr

-- A column's bytes in one row, as the library hands them to the bound buffer type.
abbrev Cell := Option (List UInt8)

abbrev Dictionary (Decimal Date : Type) := String → Option (FetchedValue Decimal Date)

-- The client library is no part of the program. What it does with a row's cells and the buffers
-- bound to the columns is a parameter: a fetch answers whether it was MYSQL_DATA_TRUNCATED.
structure MysqlLibrary where
  mysqlStmtFetch : List Cell → List MysqlBind → Except FetchFailure (Bool × List MysqlBind)
  mysqlStmtFetchColumn : Cell → MysqlBind → Except FetchFailure MysqlBind

-- One fetch, with what the client library answers to its calls.
structure FetchCall where
  connection : HostRef
  useExtendedNames : Bool := false
  prepare : Option MysqlError := none
  bind : Option MysqlError := none
  execute : Option MysqlError := none
  fields : List MysqlField
  replies : List (Except MysqlError (List Cell))

namespace Fetch

section Binding

def blobDefaultSize : Nat := 10000

def sizeofMysqlTime : Nat := 40

def calloc (bufferType : FieldType) (size : Nat) : MysqlBind where
  bufferType := bufferType
  buffer := List.replicate size 0

def bindField (field : MysqlField) : Except MysqlException MysqlBind :=
  match field.type with
  | .longlong => .ok (calloc .longlong 8)
  | .long => .ok (calloc .long 8)
  | .string => .ok (calloc .string field.length)
  | .varString => .ok (calloc .varString field.length)
  | .blob => .ok (calloc .blob blobDefaultSize)
  | .tiny => .ok (calloc .tiny 1)
  | .newdecimal => .ok (calloc .string field.length)
  | .timestamp => .ok (calloc .string field.length)
  | .float => .ok (calloc .float field.length)
  | .double => .ok (calloc .double field.length)
  | .datetime => .ok (calloc .datetime sizeofMysqlTime)
  | .date => .ok (calloc .datetime sizeofMysqlTime)
  | unsupported => .error
      { name := "No Binding"
        reason := "No binding support for field type " ++ toString unsupported.code }

structure Statement where
  fieldNames : List String := []
  fields : List MysqlFetchField := []
  bindings : List MysqlBind := []
  sourceTables : List String := []

def fieldName (useExtendedNames : Bool) (sourceTables : List String) (field : MysqlField) : String :=
  if useExtendedNames || decide (1 < sourceTables.length) then field.table ++ "." ++ field.name
  else field.name

def addField (useExtendedNames : Bool) (statement : Statement) (field : MysqlField) :
    Except MysqlException Statement := do
  let sourceTables := statement.sourceTables.insert field.table
  let name := fieldName useExtendedNames sourceTables field
  let binding ← bindField field
  pure
    { fieldNames := statement.fieldNames ++ [name]
      fields := statement.fields ++
        [{ name := name
           width := field.length
           decimals := field.decimals
           fieldType := field.type
           primaryKey := field.primaryKey }]
      bindings := statement.bindings ++ [binding]
      sourceTables := sourceTables }

def bindFields (useExtendedNames : Bool) (fields : List MysqlField) :
    Except MysqlException Statement :=
  fields.foldlM (addField useExtendedNames) {}

end Binding

section Reading
variable {Decimal Date : Type} (F : Foundation Decimal Date) (library : MysqlLibrary)

def readBytes (n : Nat) (binding : MysqlBind) : Except FetchFailure (List UInt8) :=
  match Memory.read n binding.buffer with
  | some bytes => .ok bytes
  | none => .error .outOfBounds

def stringWithBytes (bytes : List UInt8) : Option String :=
  String.fromUTF8? (ByteArray.mk bytes.toArray)

def MysqlTime.ofBytes (bytes : List UInt8) : MysqlTime where
  year := Memory.load (bytes.take 4)
  month := Memory.load ((bytes.drop 4).take 4)
  day := Memory.load ((bytes.drop 8).take 4)
  hour := Memory.load ((bytes.drop 12).take 4)
  minute := Memory.load ((bytes.drop 16).take 4)
  second := Memory.load ((bytes.drop 20).take 4)

def assigned (value : Option (FetchedValue Decimal Date)) : Assignment Decimal Date :=
  match value with
  | some v => .value v
  | none => .nil

-- The bytes of a supported cell as the object filed under its key.
def objectOf (fieldType : FieldType) (bytes : List UInt8) : Assignment Decimal Date :=
  match fieldType with
  | .string | .varString => assigned ((stringWithBytes bytes).map .string)
  | .longlong | .long | .tiny => .value (.number (Memory.loadSigned bytes))
  | .newdecimal => assigned ((F.decimalNumberWithString (stringWithBytes bytes)).map .decimal)
  | .timestamp => assigned ((F.dateFromString (stringWithBytes bytes)).map .date)
  | .float => .value (.float (Memory.load bytes))
  | .double => .value (.double (Memory.load bytes))
  | .datetime =>
    match F.dateFromComponents (MysqlTime.ofBytes bytes) with
    | some date => .value (.date date)
    | none => .skip
  | .date =>
    let time := MysqlTime.ofBytes bytes
    .value (.components { year := time.year, month := time.month, day := time.day })
  | _ => .value (.data bytes)

-- A blob that did not fit is fetched again into a buffer of its own length; then the column's
-- own buffer is put back.
def readBlob (truncated : Bool) (binding : MysqlBind) (cell : Cell) :
    Except FetchFailure (List UInt8 × MysqlBind) :=
  if truncated && binding.error then do
    let refetched ← library.mysqlStmtFetchColumn cell
      { binding with buffer := List.replicate binding.length 0 }
    let bytes ← readBytes refetched.length refetched
    pure (bytes, { refetched with buffer := binding.buffer })
  else do
    let bytes ← readBytes binding.length binding
    pure (bytes, binding)

def readObject (fieldType : FieldType) (n : Nat) (binding : MysqlBind) :
    Except FetchFailure (Assignment Decimal Date × MysqlBind) := do
  let bytes ← readBytes n binding
  pure (objectOf F fieldType bytes, binding)

def readCell (truncated : Bool) (key : String) (fieldType : FieldType) (binding : MysqlBind)
    (cell : Cell) : Except FetchFailure (Assignment Decimal Date × MysqlBind) :=
  if binding.isNull then .ok (.value .null, binding)
  else
    match fieldType with
    | .tinyBlob | .mediumBlob | .longBlob | .blob => do
      let blob ← readBlob library truncated binding cell
      pure (objectOf F fieldType blob.1, blob.2)
    | .string | .varString | .newdecimal | .timestamp => readObject F fieldType binding.length binding
    | .longlong | .double => readObject F fieldType 8 binding
    | .long | .float => readObject F fieldType 4 binding
    | .tiny => readObject F fieldType 1 binding
    | .datetime | .date => readObject F fieldType sizeofMysqlTime binding
    | _ => .error (.raised
        { name := "No Binding"
          reason := "fetch does not support mysql type " ++ toString binding.bufferType.code ++
            " for key " ++ key })

def assign (key : String) (dict : Dictionary Decimal Date) :
    Assignment Decimal Date → Except FetchFailure (Dictionary Decimal Date)
  | .value v => .ok (Function.update dict key (some v))
  | .nil => if F.nilRemoves then .ok (Function.update dict key none) else .error .invalidArgument
  | .skip => .ok dict

def readRow (truncated : Bool) :
    List (String × FieldType) → List MysqlBind → List Cell → Dictionary Decimal Date →
      Except FetchFailure (Dictionary Decimal Date × List MysqlBind)
  | (key, fieldType) :: columns, binding :: bindings, cell :: cells, dict => do
    let (object, binding) ← readCell F library truncated key fieldType binding cell
    let dict ← assign F key dict object
    let (dict, bindings) ← readRow truncated columns bindings cells dict
    pure (dict, binding :: bindings)
  | _, bindings, _, dict => pure (dict, bindings)

def fetchError (connection : HostRef) (what : String) (error : MysqlError) : MysqlException where
  reason := "Could not " ++ what ++ " Error #" ++ toString error.number ++ ":" ++ error.text
  connection := some connection
  errorNumber := error.number

def raiseFailed (connection : HostRef) (what : String) :
    Option MysqlError → Except FetchFailure PUnit
  | none => .ok ⟨⟩
  | some error => .error (.raised (fetchError connection what error))

-- Every row is fetched into the buffers that the rows before it have used.
def fetchRows (connection : HostRef) (columns : List (String × FieldType)) :
    List MysqlBind → List (Except MysqlError (List Cell)) →
      Except FetchFailure (List (Dictionary Decimal Date))
  | _, [] => pure []
  | _, .error error :: _ =>
    throw (.raised (fetchError connection "perform mysql_stmt_fetch()" error))
  | bindings, .ok cells :: replies => do
    let (truncated, bindings) ← library.mysqlStmtFetch cells bindings
    let (dict, bindings) ← readRow F library truncated columns bindings cells (fun _ => none)
    let dicts ← fetchRows connection columns bindings replies
    pure (dict :: dicts)

def fetchWithCommand (call : FetchCall) : Except FetchFailure (List (Dictionary Decimal Date)) := do
  raiseFailed call.connection "perform mysql_stmt_bind_result()" call.prepare
  match bindFields call.useExtendedNames call.fields with
  | .error e => throw (.raised e)
  | .ok statement => do
    raiseFailed call.connection "perform mysql_stmt_bind_result()" call.bind
    raiseFailed call.connection "perform mysql_stmt_execute()" call.execute
    fetchRows F library call.connection
      (statement.fieldNames.zip (call.fields.map MysqlField.type)) statement.bindings call.replies

end Reading

end Fetch

-- The keys that updateMySQLQueries asks a fetched row for.
def QueryRow.ofDictionary {Decimal Date : Type} (queryRow : Dictionary Decimal Date) :
    Option QueryRow :=
  match queryRow "ID", queryRow "HOST", queryRow "TIME", queryRow "INFO" with
  | some (.number id), some (.string host), some (.number time), some (.data info) =>
    some { id := id, host := host, info := some info, time := time }
  | some (.number id), some (.string host), some (.number time), some .null =>
    some { id := id, host := host, info := none, time := time }
  | _, _, _, _ => none

end DBMonitor
