import FrameTap.Bytes

set_option autoImplicit false

namespace FrameTap

inductive Protocol
  | single
  | ring
  deriving DecidableEq, Repr

namespace Protocol

def version : Protocol → UInt32
  | .single => 1
  | .ring => 2

def name : Protocol → String
  | .single => "V1"
  | .ring => "V2RingBuffer"

def headerLength : Protocol → Nat
  | .single => 48
  | .ring => 120

end Protocol

inductive PixelFormat
  | bgra32
  | other (tag : UInt32)
  deriving DecidableEq, Repr

namespace PixelFormat

def ofTag (tag : UInt32) : PixelFormat :=
  if tag = 0 then .bgra32 else .other tag

def bytesPerPixel : PixelFormat → Option Nat
  | .bgra32 => some 4
  | .other _ => none

end PixelFormat

structure Picture where
  width : UInt32
  height : UInt32
  stride : UInt32
  format : UInt32
  deriving DecidableEq, Repr

structure SlotState where
  ready : UInt32
  timestampMs : UInt64
  frameNumber : UInt64
  deriving DecidableEq, Repr

structure Slots (α : Type) where
  first : α
  second : α
  third : α
  deriving DecidableEq, Repr

namespace Slots

variable {α : Type}

def count : Nat := 3

def toList (slots : Slots α) : List α := [slots.first, slots.second, slots.third]

def get? (slots : Slots α) : Nat → Option α
  | 0 => some slots.first
  | 1 => some slots.second
  | 2 => some slots.third
  | _ => none

end Slots

structure SingleHeader where
  magic : UInt32
  version : UInt32
  picture : Picture
  timestampMs : UInt64
  frameNumber : UInt64
  dataSize : UInt32
  ready : UInt32
  deriving DecidableEq, Repr

structure RingHeader where
  magic : UInt32
  version : UInt32
  picture : Picture
  frameDataSize : UInt32
  ringSize : UInt32
  frameOffset : UInt32
  writeIndex : UInt32
  readIndex : UInt32
  totalFrames : UInt64
  timestampMs : UInt64
  slots : Slots SlotState
  deriving DecidableEq, Repr

inductive Header
  | single (header : SingleHeader)
  | ring (header : RingHeader)
  deriving DecidableEq, Repr

namespace Header

/-- The bytes "CHAK", the first one lowest. -/
def magicNumber : UInt32 := 0x4B414843

def protocol : Header → Protocol
  | .single _ => .single
  | .ring _ => .ring

def version : Header → UInt32
  | .single h => h.version
  | .ring h => h.version

def picture : Header → Picture
  | .single h => h.picture
  | .ring h => h.picture

def pixelFormat (header : Header) : PixelFormat :=
  PixelFormat.ofTag header.picture.format

end Header

structure Frame where
  data : Bytes
  frameNumber : UInt64
  width : UInt32
  height : UInt32
  stride : UInt32
  format : PixelFormat
  timestampMs : UInt64
  slot : Option Nat
  deriving DecidableEq, Repr

end FrameTap
