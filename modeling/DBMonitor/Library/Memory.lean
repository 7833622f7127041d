import Mathlib.Data.Nat.Digits.Defs
import Mathlib.Data.List.Basic

namespace DBMonitor.Memory

-- Little-endian numbers.
section Words

def load : List UInt8 → Nat
  | [] => 0
  | b :: bytes => b.toNat + 256 * load bytes

def store : Nat → Nat → List UInt8
  | 0, _ => []
  | w + 1, n => UInt8.ofNat n :: store w (n / 256)

def loadSigned (bytes : List UInt8) : Int := Int.bmod (load bytes) (256 ^ bytes.length)

def storeSigned (w : Nat) (z : Int) : List UInt8 := store w (z % (256 ^ w : Nat)).toNat

@[simp] theorem store_length (w n : Nat) : (store w n).length = w := by
  induction w generalizing n with
  | zero => rfl
  | succ w ih => simp [store, ih]

@[simp] theorem storeSigned_length (w : Nat) (z : Int) : (storeSigned w z).length = w :=
  store_length w _

theorem load_store (w n : Nat) : load (store w n) = n % 256 ^ w := by
  induction w generalizing n with
  | zero => simp [store, load, Nat.mod_one]
  | succ w ih =>
    have hsplit : n % 256 ^ (w + 1) = n % 256 + 256 * (n / 256 % 256 ^ w) := by
      rw [pow_succ', Nat.mod_mul]
    rw [store, load, ih, hsplit, UInt8.toNat_ofNat']

theorem loadSigned_storeSigned (w : Nat) (z : Int) :
    loadSigned (storeSigned w z) = z.bmod (256 ^ w) := by
  have hpos : 0 ≤ z % (256 ^ w : Nat) := Int.emod_nonneg z (by positivity)
  rw [loadSigned, storeSigned_length, storeSigned, load_store, Int.natCast_mod,
    Int.toNat_of_nonneg hpos, Int.emod_emod_of_dvd _ (Int.dvd_refl _), Int.emod_bmod]

theorem loadSigned_storeSigned_of_bounds {w : Nat} {z : Int} (hlow : -(256 ^ w : Nat) ≤ z * 2)
    (hhigh : z * 2 < (256 ^ w : Nat)) : loadSigned (storeSigned w z) = z := by
  rw [loadSigned_storeSigned]
  exact Int.bmod_eq_of_le_mul_two hlow hhigh

end Words

-- A block of memory of a fixed size, written and read from its start.
section Block
variable {bytes block block' : List UInt8} {n : Nat}

def write (bytes block : List UInt8) : Option (List UInt8) :=
  if bytes.length ≤ block.length then some (bytes ++ block.drop bytes.length) else none

def read (n : Nat) (block : List UInt8) : Option (List UInt8) :=
  if n ≤ block.length then some (block.take n) else none

theorem write_eq_none : write bytes block = none ↔ block.length < bytes.length := by
  simp [write]

theorem read_of_le (h : n ≤ block.length) : read n block = some (block.take n) := if_pos h

theorem write_length (h : write bytes block = some block') : block'.length = block.length := by
  obtain ⟨hle, heq⟩ := Option.ite_none_right_eq_some.mp h
  obtain rfl := Option.some.inj heq
  simp only [List.length_append, List.length_drop]
  omega

-- What the block held before is not read back.
theorem read_write (h : write bytes block = some block') : read bytes.length block' = some bytes := by
  have hlen := write_length h
  obtain ⟨hle, heq⟩ := Option.ite_none_right_eq_some.mp h
  obtain rfl := Option.some.inj heq
  rw [read, if_pos (hlen ▸ hle), List.take_left]

end Block

end DBMonitor.Memory
