import DBMonitor.Model.Configuration
import Std.Data.String.ToInt

namespace DBMonitor

abbrev EntryRef := Nat

abbrev Time := Int

def second : Time := 1000000

def intValue (n : Int) : Int := Int.bmod n 4294967296

structure QueryRow where
  id : Int
  host : String
  info : Option (List UInt8)
  time : Int
  deriving DecidableEq, Repr

structure MysqlSlaveStatus where
  secondsBehindMaster : Int := 0
  slaveSQLRunning : Bool := false
  slaveIORunning : Bool := false
  masterHost : Option String := none
  masterLogFile : Option String := none
  masterLogPosition : UInt64 := 0
  relayLogFile : Option String := none
  relayLogPosition : UInt64 := 0
  slaveIOState : Option String := none
  slaveSQLError : Option String := none
  slaveIOError : Option String := none
  deriving DecidableEq, Repr

structure DBMLogEntry where
  eventHost : HostRef
  eventString : Option String
  eventTime : Time
  processID : String
  updated : Bool
  dead : Bool
  duration : Int
  displayTimeout : Option Time
  query : Option QueryRow
  slaveStatus : Option MysqlSlaveStatus
  deriving DecidableEq, Repr

def DBMLogEntry.initWithHost (host : HostRef) (pid : String) (now : Time) : DBMLogEntry where
  eventHost := host
  eventString := none
  eventTime := now
  processID := pid
  updated := false
  dead := false
  duration := 0
  displayTimeout := none
  query := none
  slaveStatus := none

def replicationID : String := "-1"

def connectFailID : String := "-2"

def deadProcess : String := "Dead Process"

-- [NSString stringWithFormat:@"%@", ID]
def printID (n : Int) : String := toString n

def asciiString (data : List UInt8) : Option String :=
  if data.all (fun b => b < 128) then some (String.ofList (data.map (fun b => Char.ofNat b.toNat)))
  else none

def replaceLineBreaks : List Char → List Char
  | '\r' :: '\n' :: cs => ' ' :: replaceLineBreaks cs
  | c :: cs => c :: replaceLineBreaks cs
  | [] => []

-- A nil string, from data that is not ASCII, prints as (null).
def queryString (data : List UInt8) : String :=
  match asciiString data with
  | some s => String.ofList (replaceLineBreaks s.toList)
  | none => "(null)"

def QueryRow.logString (row : QueryRow) : String :=
  row.host ++ " - " ++ queryString (row.info.getD [])

-- The MariaDB artefact value is recorded as 1.
def QueryRow.recordedDuration (row : QueryRow) : Int :=
  if intValue row.time = 2147483647 then 1 else intValue row.time

def MysqlSlaveStatus.unhealthy (status : MysqlSlaveStatus) : Bool :=
  decide (status.secondsBehindMaster > 1) || !status.slaveSQLRunning || !status.slaveIORunning

theorem printID_injective {m n : Int} (h : printID m = printID n) : m = n := Int.repr_injective h

theorem printID_ne_dead (n : Int) : printID n ≠ deadProcess := by
  intro h
  have hl := congrArg String.toList h
  cases n with
  | ofNat m =>
    have hdigits : (printID (Int.ofNat m)).toList = Nat.toDigits 10 m := by
      change (Nat.repr m).toList = _
      simp [Nat.repr]
    have hd : 'D' ∈ Nat.toDigits 10 m := by
      rw [← hdigits, hl]
      decide
    exact absurd (Nat.isDigit_of_mem_toDigits (by decide) (by decide) hd) (by decide)
  | negSucc m =>
    have hsign : (printID (Int.negSucc m)).toList = '-' :: (Nat.repr (m + 1)).toList := by
      change ("-" ++ Nat.repr (m + 1)).toList = _
      simp
    rw [hsign] at hl
    simp [deadProcess] at hl

theorem printID_eq_replication {n : Int} : printID n = replicationID ↔ n = -1 :=
  ⟨fun h => printID_injective (n := -1) h, fun h => h ▸ rfl⟩

theorem printID_eq_connectFail {n : Int} : printID n = connectFailID ↔ n = -2 :=
  ⟨fun h => printID_injective (n := -2) h, fun h => h ▸ rfl⟩

theorem printID_ne_replication {n : Int} (h : 0 ≤ n) : printID n ≠ replicationID := by
  rw [Ne, printID_eq_replication]
  omega

theorem printID_ne_connectFail {n : Int} (h : 0 ≤ n) : printID n ≠ connectFailID := by
  rw [Ne, printID_eq_connectFail]
  omega

end DBMonitor
