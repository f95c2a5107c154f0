import BuildDrift.Text.Hex

/-!
# Offsets

Operations are addressed by the offset of their first byte within the body, a word of 32 bits.
Laying out a body adds sizes to an offset; the sum either has to fit (`advance?`) or stays at the
greatest offset (`advance`).

## Main definitions

* `Offset.advance?`, `Offset.advance`: an offset moved by a number of bytes.
* `Offset.label`: how an offset is written.
-/

namespace BuildDrift

/-- The position of a byte within a body. -/
abbrev Offset := UInt32

namespace Offset

/-- The greatest offset. -/
def greatest : Offset := 0xFFFFFFFF

/-- The offset `bytes` further on, if there is one. -/
def advance? (offset : Offset) (bytes : Nat) : Option Offset :=
  if offset.toNat + bytes < UInt32.size then some (UInt32.ofNat (offset.toNat + bytes)) else none

/-- The offset `bytes` further on, or the greatest offset if there is none. -/
def advance (offset : Offset) (bytes : Nat) : Offset :=
  (advance? offset bytes).getD greatest

/-- How an offset is written. -/
def label (offset : Offset) : String :=
  "IL_" ++ Hex.padded 4 offset.toNat

end Offset

end BuildDrift
