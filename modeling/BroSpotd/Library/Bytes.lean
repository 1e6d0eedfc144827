import Mathlib.Data.Nat.Notation
import Mathlib.Tactic.Ring

/-! Little-endian memory: what a load of some width finds at the address of a value that was
stored with a width of its own. -/
namespace LittleEndian

abbrev Byte := BitVec 8

/-- The bytes of a value, low byte first. -/
def bytes : ℕ → ℕ → List Byte
  | 0, _ => []
  | width+1, value => .ofNat 8 value :: bytes width (value / 256)

def load : List Byte → ℕ
  | [] => 0
  | byte :: rest => byte.toNat + 256 * load rest

@[simp] theorem length_bytes (width value : ℕ) : (bytes width value).length = width := by
  induction width generalizing value with
  | zero => rfl
  | succ width ih => simp [bytes,ih]

theorem load_bytes (width value : ℕ) : load (bytes width value) = value % 256^width := by
  induction width generalizing value with
  | zero => simp [bytes,load,Nat.mod_one]
  | succ width ih =>
    simp only [bytes, load, ih, BitVec.toNat_ofNat]
    rw [pow_succ 256 width, Nat.mul_comm (256^width) 256, Nat.mod_mul]

theorem load_append (low high : List Byte) : load (low ++ high) = load low + 256^low.length * load high := by
  induction low with
  | nil => simp [load]
  | cons byte rest ih =>
    rw [List.cons_append, load, load, ih, List.length_cons, pow_succ]
    ring

/-- A load at least as wide as the store finds the value and, above it, its neighbours. -/
theorem load_stored {stored width : ℕ} (fits : stored ≤ width) (value : ℕ) (after : List Byte) :
    load ((bytes stored value ++ after).take width) =
      value % 256^stored + 256^stored * load (after.take (width - stored)) := by
  rw [List.take_append, length_bytes, List.take_of_length_le (by rw [length_bytes]; exact fits),
    load_append, length_bytes, load_bytes]

/-- A load of the stored width finds the value, whatever stands behind it. -/
theorem load_exact {width value : ℕ} (bound : value < 256^width) (after : List Byte) :
    load ((bytes width value ++ after).take width) = value := by
  rw [load_stored le_rfl, Nat.sub_self, List.take_zero, load, Nat.mul_zero, Nat.add_zero,
    Nat.mod_eq_of_lt bound]

end LittleEndian
