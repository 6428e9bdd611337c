/-!
# Little-endian numbers

A number on the wire is a fixed count of bytes, the least significant first.
-/

namespace TlSchema.Wire.LittleEndian

/-- The number that a list of bytes spells. -/
def value : List UInt8 → Nat
  | [] => 0
  | b :: bs => b.toNat + 0x100 * value bs

/-- The lowest `width` bytes of a number. -/
def bytes : (width : Nat) → Nat → List UInt8
  | 0, _ => []
  | width + 1, n => UInt8.ofNat n :: bytes width (n / 0x100)

/-- Taking a number apart keeps its bytes. -/
@[simp] theorem length_bytes (width n : Nat) : (bytes width n).length = width := by
  induction width generalizing n with
  | zero => rfl
  | succ width ih => simp [bytes, ih]

end TlSchema.Wire.LittleEndian
