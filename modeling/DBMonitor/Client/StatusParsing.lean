import Mathlib.Data.List.TakeWhile
import DBMonitor.Model.MysqlStatus

namespace DBMonitor

namespace MysqlStatus

def isDecimal (text : String) : Bool := text.toList.all Char.isDigit

def decimal (text : String) : Nat := digitsValue text.toList

def statusVariables : List String :=
  ["Threads_connected", "Innodb_data_reads", "Innodb_data_writes",
    "Innodb_buffer_pool_pages_total", "Innodb_buffer_pool_pages_free", "Slow_queries"]

def carried (rows : List StatusRow) (name : String) : Nat :=
  ((rows.find? (fun row => decide (row.name = name))).bind StatusRow.value).elim 0 decimal

def Exact (rows : List StatusRow) (status : MysqlStatus) : Prop :=
  ∀ p ∈ status.fields, p.2.toNat = carried rows p.1

structure ResultSet (rows : List StatusRow) : Prop where
  distinct : (rows.map StatusRow.name).Nodup
  known : ∀ row ∈ rows, row.name ∈ statusVariables
  numeric : ∀ row ∈ rows,
    row.value.all (fun text => isDecimal text && decide (decimal text < 2 ^ 64)) = true

section Number
variable {text : String}

theorem dropWhile_digits {cs : List Char} (h : ∀ c ∈ cs, c.isDigit = true) :
    cs.dropWhile isSpace = cs := by
  cases cs with
  | nil => rfl
  | cons c cs =>
    have hc : isSpace c = false := by
      have hd := h c (by simp)
      simp only [Char.isDigit, Bool.and_eq_true, decide_eq_true_eq, ge_iff_le,
        UInt32.le_iff_toNat_le] at hd
      simp only [isSpace, Bool.or_eq_false_iff, decide_eq_false_iff_not, Bool.and_eq_false_iff,
        Char.le_def, UInt32.le_iff_toNat_le]
      refine ⟨?_, Or.inr ?_⟩
      · rintro rfl
        exact absurd hd.1 (by decide)
      · intro hle
        exact absurd (hd.1.trans hle) (by decide)
    rw [List.dropWhile_cons, hc]
    rfl

theorem strtol_decimal (h : isDecimal text = true) : strtol text = min (decimal text : Int) longMax := by
  have htake : text.toList.takeWhile Char.isDigit = text.toList := by
    rw [List.takeWhile_eq_self_iff]
    exact List.all_eq_true.mp h
  have hdigit := List.all_eq_true.mp h
  unfold strtol
  rw [dropWhile_digits hdigit]
  split
  next cs hcs => exact absurd (hdigit '-' (by simp [hcs])) (by decide)
  next cs hcs => exact absurd (hdigit '+' (by simp [hcs])) (by decide)
  next cs => rw [htake]; rfl

def stored (n : Nat) : Nat := (nsUInteger (intValue (min (n : Int) longMax))).toNat

theorem atoi_stored (h : isDecimal text = true) :
    (nsUInteger (atoi text)).toNat = stored (decimal text) := by
  rw [atoi, strtol_decimal h]
  rfl

theorem nsUInteger_toNat (n : Int) : (nsUInteger n).toNat = (n % 2 ^ 64).toNat := by
  have hlt : (n % 2 ^ 64).toNat < 2 ^ 64 := by omega
  rw [nsUInteger, UInt64.ofInt, UInt64.toNat_ofNat', Nat.mod_eq_of_lt hlt]

theorem stored_eq_iff {n : Nat} (hn : n < 2 ^ 64) :
    stored n = n ↔ n < 2 ^ 31 ∨ n = 2 ^ 64 - 1 := by
  rw [stored, nsUInteger_toNat, intValue, longMax, Int.bmod]
  omega

end Number

section Rows
variable {rows : List StatusRow}

def storedValue (row : StatusRow) : UInt64 :=
  row.value.elim 0 (fun text => nsUInteger (atoi text))

theorem storeRow_fields (status : MysqlStatus) (row : StatusRow) :
    (storeRow status row).fields =
      status.fields.map (fun p => if p.1 = row.name then (p.1, storedValue row) else p) := by
  unfold storeRow
  by_cases h₁ : row.name = "Threads_connected"
  · simp [fields, storedValue, h₁]
  by_cases h₂ : row.name = "Innodb_data_reads"
  · simp [fields, storedValue, h₂]
  by_cases h₃ : row.name = "Innodb_data_writes"
  · simp [fields, storedValue, h₃]
  by_cases h₄ : row.name = "Innodb_buffer_pool_pages_total"
  · simp [fields, storedValue, h₄]
  by_cases h₅ : row.name = "Innodb_buffer_pool_pages_free"
  · simp [fields, storedValue, h₅]
  by_cases h₆ : row.name = "Slow_queries"
  · simp [fields, storedValue, h₆]
  simp [fields, h₁, h₂, h₃, h₄, h₅, h₆, eq_comm]

def lastStored (rows : List StatusRow) (name : String) (value : UInt64) : UInt64 :=
  rows.foldl (fun x row => if name = row.name then storedValue row else x) value

theorem foldl_storeRow_fields (status : MysqlStatus) :
    (rows.foldl storeRow status).fields =
      status.fields.map (fun p => (p.1, lastStored rows p.1 p.2)) := by
  induction rows generalizing status with
  | nil => simp [lastStored]
  | cons row rows ih =>
    rw [List.foldl_cons, ih, storeRow_fields, List.map_map]
    refine List.map_congr_left (fun p _ => ?_)
    by_cases h : p.1 = row.name <;> simp [lastStored, h]

theorem lastStored_absent {name : String} {value : UInt64}
    (h : ∀ row ∈ rows, row.name ≠ name) : lastStored rows name value = value := by
  induction rows with
  | nil => rfl
  | cons row rows ih =>
    have hrow : name ≠ row.name := fun heq => h row (by simp) heq.symm
    rw [lastStored, List.foldl_cons, if_neg hrow]
    exact ih (fun row hm => h row (List.mem_cons_of_mem _ hm))

theorem lastStored_eq (hd : (rows.map StatusRow.name).Nodup) (name : String) (value : UInt64) :
    lastStored rows name value =
      ((rows.find? (fun row => decide (row.name = name))).map storedValue).getD value := by
  induction rows generalizing value with
  | nil => rfl
  | cons row rows ih =>
    rw [List.map_cons, List.nodup_cons] at hd
    by_cases h : row.name = name
    · have habsent : ∀ other ∈ rows, other.name ≠ name := by
        intro other hm heq
        exact hd.1 (List.mem_map.mpr ⟨other, hm, heq.trans h.symm⟩)
      rw [List.find?_cons_of_pos (by simpa using h), lastStored, List.foldl_cons, if_pos h.symm]
      exact lastStored_absent habsent
    · rw [List.find?_cons_of_neg (by simpa using h), lastStored, List.foldl_cons,
        if_neg (fun heq => h heq.symm)]
      exact ih hd.2 value

theorem find_name (hd : (rows.map StatusRow.name).Nodup) {row : StatusRow} (hr : row ∈ rows) :
    rows.find? (fun other => decide (other.name = row.name)) = some row := by
  induction rows with
  | nil => exact absurd hr List.not_mem_nil
  | cons first rows ih =>
    rw [List.map_cons, List.nodup_cons] at hd
    rcases List.mem_cons.mp hr with rfl | hm
    · exact List.find?_cons_of_pos (by simp)
    · have hne : first.name ≠ row.name := fun heq =>
        hd.1 (List.mem_map.mpr ⟨row, hm, heq.symm⟩)
      rw [List.find?_cons_of_neg (by simpa using hne)]
      exact ih hd.2 hm

def fits (n : Nat) : Bool := decide (n < 2 ^ 31) || decide (n = 2 ^ 64 - 1)

theorem fetchStatus_fields (h : ResultSet rows) :
    (fetchStatus rows).fields = statusVariables.map (fun name => (name,
      ((rows.find? (fun row => decide (row.name = name))).map storedValue).getD 0)) := by
  rw [fetchStatus, foldl_storeRow_fields]
  simp only [lastStored_eq h.distinct]
  rfl

theorem stored_exact_iff {row : StatusRow} (h : ResultSet rows) (hr : row ∈ rows) :
    (storedValue row).toNat = carried rows row.name ↔
      row.value.all (fun text => fits (decimal text)) = true := by
  rw [carried, find_name h.distinct hr, Option.bind_some, storedValue]
  cases hv : row.value with
  | none => simp
  | some text =>
    have hnumeric := h.numeric row hr
    rw [hv, Option.all_some, Bool.and_eq_true, decide_eq_true_eq] at hnumeric
    simp only [Option.elim_some, atoi_stored hnumeric.1, stored_eq_iff hnumeric.2]
    simp [fits]

end Rows

theorem fetchStatus_exact_iff {rows : List StatusRow} (h : ResultSet rows) :
    Exact rows (fetchStatus rows) ↔
      ∀ row ∈ rows, row.value.all (fun text => fits (decimal text)) = true := by
  have hexact : Exact rows (fetchStatus rows) ↔ ∀ name ∈ statusVariables,
      (((rows.find? (fun row => decide (row.name = name))).map storedValue).getD 0).toNat =
        carried rows name := by
    rw [Exact, fetchStatus_fields h]
    exact List.forall_mem_map
  rw [hexact]
  constructor
  · intro hall row hr
    have hrow := hall row.name (h.known row hr)
    rw [find_name h.distinct hr] at hrow
    exact (stored_exact_iff h hr).mp hrow
  · intro hall name _
    cases hfind : rows.find? (fun row => decide (row.name = name)) with
    | none => simp [carried, hfind]
    | some row =>
      have hr := List.mem_of_find?_eq_some hfind
      have hname : row.name = name := by simpa using List.find?_some hfind
      rw [← hname]
      exact (stored_exact_iff h hr).mpr (hall row hr)

theorem fetchStatus_exact_small :
    let rows : List StatusRow := [⟨"Slow_queries", some "2147483647"⟩, ⟨"Threads_connected", none⟩,
      ⟨"Innodb_data_reads", some "18446744073709551615"⟩]
    ResultSet rows ∧ Exact rows (fetchStatus rows) := by
  intro rows
  have h : ResultSet rows := ⟨by decide +kernel, by decide +kernel, by decide +kernel⟩
  exact ⟨h, (fetchStatus_exact_iff h).mpr (by decide +kernel)⟩

theorem large_counter_misread :
    let rows : List StatusRow := [⟨"Innodb_data_reads", some "3000000000"⟩]
    ResultSet rows ∧ (fetchStatus rows).innodbDataReads = 18446744072414584320 ∧
      carried rows "Innodb_data_reads" = 3000000000 ∧ ¬Exact rows (fetchStatus rows) := by
  intro rows
  refine ⟨⟨by decide +kernel, by decide +kernel, by decide +kernel⟩, by decide +kernel,
    by decide +kernel, fun h => ?_⟩
  have hreads := h ("Innodb_data_reads", (fetchStatus rows).innodbDataReads)
    (by simp [fields])
  revert hreads
  decide +kernel

end MysqlStatus

end DBMonitor
