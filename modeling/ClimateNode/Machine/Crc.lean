import Mathlib.Logic.Function.Iterate

/-!
# Bitwise CRC with reflected bit order

The loop both checksums of the repository run: exclusive or of the next byte into the low bits of
the remainder, then eight shifts to the right, each followed by an exclusive or with the polynomial
when the bit that fell out was set. Width, polynomial and initial remainder are parameters.
-/

set_option autoImplicit false

namespace ClimateNode.Machine

variable {w : Nat}

/-- One shift of the remainder. -/
def crcShift (poly crc : BitVec w) : BitVec w :=
  if crc &&& 1 ≠ 0 then (crc >>> 1) ^^^ poly else crc >>> 1

/-- One byte: exclusive or, then eight shifts. -/
def crcByte (poly crc : BitVec w) (byte : UInt8) : BitVec w :=
  Nat.iterate (crcShift poly) 8 (crc ^^^ byte.toBitVec.setWidth w)

/-- The remainder after `bytes`, from the initial remainder `crc`. -/
def crcBytes (poly crc : BitVec w) (bytes : List UInt8) : BitVec w :=
  bytes.foldl (crcByte poly) crc

end ClimateNode.Machine
