import FrameTap.Mismatch

set_option autoImplicit false

namespace FrameTap

abbrev FieldReader := StateM Bytes

namespace FieldReader

def word32 : FieldReader UInt32 := fun bytes =>
  (UInt32.ofNat (Bytes.toNat (bytes.take 4)), bytes.drop 4)

def word64 : FieldReader UInt64 := fun bytes =>
  (UInt64.ofNat (Bytes.toNat (bytes.take 8)), bytes.drop 8)

def perSlot {α : Type} (item : FieldReader α) : FieldReader (Slots α) := do
  let first ← item
  let second ← item
  let third ← item
  return { first, second, third }

def picture : FieldReader Picture := do
  let width ← word32
  let height ← word32
  let stride ← word32
  let format ← word32
  return { width, height, stride, format }

end FieldReader

def Picture.encode (picture : Picture) : Bytes :=
  Bytes.ofUInt32 picture.width ++ Bytes.ofUInt32 picture.height ++
    Bytes.ofUInt32 picture.stride ++ Bytes.ofUInt32 picture.format

def Slots.encode {α : Type} (field : α → Bytes) (slots : Slots α) : Bytes :=
  field slots.first ++ field slots.second ++ field slots.third

namespace SingleHeader

def read : FieldReader SingleHeader := do
  let magic ← FieldReader.word32
  let version ← FieldReader.word32
  let picture ← FieldReader.picture
  let timestampMs ← FieldReader.word64
  let frameNumber ← FieldReader.word64
  let dataSize ← FieldReader.word32
  let ready ← FieldReader.word32
  return { magic, version, picture, timestampMs, frameNumber, dataSize, ready }

def encode (header : SingleHeader) : Bytes :=
  Bytes.ofUInt32 header.magic ++ Bytes.ofUInt32 header.version ++ header.picture.encode ++
    Bytes.ofUInt64 header.timestampMs ++ Bytes.ofUInt64 header.frameNumber ++
    Bytes.ofUInt32 header.dataSize ++ Bytes.ofUInt32 header.ready

end SingleHeader

namespace RingHeader

-- The slots are laid out as three parallel arrays.
def read : FieldReader RingHeader := do
  let magic ← FieldReader.word32
  let version ← FieldReader.word32
  let picture ← FieldReader.picture
  let frameDataSize ← FieldReader.word32
  let ringSize ← FieldReader.word32
  let frameOffset ← FieldReader.word32
  let writeIndex ← FieldReader.word32
  let readIndex ← FieldReader.word32
  let totalFrames ← FieldReader.word64
  let timestampMs ← FieldReader.word64
  let ready ← FieldReader.perSlot FieldReader.word32
  let stamps ← FieldReader.perSlot FieldReader.word64
  let numbers ← FieldReader.perSlot FieldReader.word64
  let slots : Slots SlotState :=
    { first := ⟨ready.first, stamps.first, numbers.first⟩
      second := ⟨ready.second, stamps.second, numbers.second⟩
      third := ⟨ready.third, stamps.third, numbers.third⟩ }
  return { magic, version, picture, frameDataSize, ringSize, frameOffset, writeIndex, readIndex,
           totalFrames, timestampMs, slots }

def encode (header : RingHeader) : Bytes :=
  Bytes.ofUInt32 header.magic ++ Bytes.ofUInt32 header.version ++ header.picture.encode ++
    Bytes.ofUInt32 header.frameDataSize ++ Bytes.ofUInt32 header.ringSize ++
    Bytes.ofUInt32 header.frameOffset ++ Bytes.ofUInt32 header.writeIndex ++
    Bytes.ofUInt32 header.readIndex ++ Bytes.ofUInt64 header.totalFrames ++
    Bytes.ofUInt64 header.timestampMs ++
    header.slots.encode (fun slot => Bytes.ofUInt32 slot.ready) ++
    header.slots.encode (fun slot => Bytes.ofUInt64 slot.timestampMs) ++
    header.slots.encode (fun slot => Bytes.ofUInt64 slot.frameNumber)

end RingHeader

namespace Header

def preambleLength : Nat := 8

def requireLength (needed : Nat) (bytes : Bytes) : Except Mismatch Unit :=
  if bytes.length < needed then .error (.truncated needed bytes.length) else .ok ()

/-- The header at the start of `bytes`. A foreign region is told by its magic number whatever
follows it. -/
def decode (bytes : Bytes) : Except Mismatch Header := do
  requireLength preambleLength bytes
  let (magic, afterMagic) := FieldReader.word32 bytes
  if magic ≠ magicNumber then
    throw (.badMagic magic)
  let (version, _) := FieldReader.word32 afterMagic
  if version = Protocol.single.version then
    requireLength Protocol.single.headerLength bytes
    return .single (SingleHeader.read bytes).1
  else if version = Protocol.ring.version then
    requireLength Protocol.ring.headerLength bytes
    let header := (RingHeader.read bytes).1
    if header.ringSize.toNat ≠ Slots.count then
      throw (.layout (.ringSize header.ringSize))
    return .ring header
  else
    throw (.unsupportedVersion version)

def encode : Header → Bytes
  | .single h => h.encode
  | .ring h => h.encode

def encodedLength (header : Header) : Nat := header.protocol.headerLength

theorem length_encode (header : Header) : header.encode.length = header.encodedLength := by
  cases header <;>
    simp [encode, encodedLength, protocol, Protocol.headerLength, SingleHeader.encode,
      RingHeader.encode, Picture.encode, Slots.encode, Bytes.ofUInt32, Bytes.ofUInt64]

end Header

def addressSpace : Nat := UInt64.size

def RingHeader.slotOffset (header : RingHeader) (index : Nat) : Nat :=
  (header.frameOffset.toNat + index * header.frameDataSize.toNat) % addressSpace

namespace Header

/-- The first byte after every declared payload, if it is a 64-bit number. -/
def payloadEnd (header : Header) : Option Nat :=
  let last := match header with
    | .single h => Protocol.single.headerLength + h.dataSize.toNat
    | .ring h => h.frameDataSize.toNat * Slots.count + h.frameOffset.toNat
  if last < addressSpace then some last else none

def validateLayout (header : Header) (regionLength : Nat) : Except LayoutFault Unit := do
  if let .ring h := header then
    if h.frameOffset.toNat < Protocol.ring.headerLength then
      throw (.overlapsHeader h.frameOffset)
  match header.payloadEnd with
  | none => throw .payloadOverflow
  | some last =>
    if last ≤ regionLength then
      return ()
    else
      throw (.payloadOutside last regionLength)

end Header

end FrameTap
