import FrameTap.Header.Basic

set_option autoImplicit false

namespace FrameTap

namespace Hexadecimal

def lowerDigit (value : Nat) : Char :=
  if value < 10 then Char.ofNat (48 + value) else Char.ofNat (87 + value)

def upperDigit (value : Nat) : Char :=
  if value < 10 then Char.ofNat (48 + value) else Char.ofNat (55 + value)

def digits (digit : Nat → Char) : Nat → Nat → List Char
  | 0, _ => []
  | width + 1, n => digits digit width (n / 16) ++ [digit (n % 16)]

def width (n : Nat) : Nat := Nat.log2 n / 4 + 1

def upper (places n : Nat) : String := String.ofList (digits upperDigit places n)

def lower (n : Nat) : String := String.ofList (digits lowerDigit (width n) n)

end Hexadecimal

inductive LayoutFault
  | ringSize (found : UInt32)
  | overlapsHeader (offset : UInt32)
  | payloadOutside (endByte regionLength : Nat)
  | payloadOverflow
  deriving DecidableEq, Repr

def LayoutFault.message : LayoutFault → String
  | .ringSize found => s!"ring buffer size {found} (expected {Slots.count})"
  | .overlapsHeader offset => s!"slot area offset {offset} overlaps the header"
  | .payloadOutside endByte regionLength =>
    s!"declared payload ends at byte {endByte}, region is {regionLength} bytes"
  | .payloadOverflow => "declared payload size overflows"

inductive Mismatch
  | badMagic (found : UInt32)
  | unsupportedVersion (found : UInt32)
  | truncated (needed available : Nat)
  | layout (fault : LayoutFault)
  | versionChanged (negotiated found : UInt32)
  deriving DecidableEq, Repr

def Mismatch.message : Mismatch → String
  | .badMagic found =>
    let hex := fun (n : UInt32) => Hexadecimal.upper 8 n.toNat
    s!"invalid magic number 0x{hex found}, expected 0x{hex Header.magicNumber}"
  | .unsupportedVersion found => s!"unsupported protocol version {found}"
  | .truncated needed available =>
    s!"header truncated: need {needed} bytes, region has {available}"
  | .layout fault => s!"invalid layout: {fault.message}"
  | .versionChanged negotiated found =>
    s!"protocol version changed from {negotiated} to {found} while connected"

end FrameTap
