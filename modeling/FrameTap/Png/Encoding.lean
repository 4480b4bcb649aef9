import FrameTap.Bitmap

set_option autoImplicit false

namespace FrameTap.Png

def crcPolynomial : UInt32 := 0xEDB88320

def crcBit (crc : UInt32) : UInt32 :=
  if crc &&& 1 = 0 then crc >>> 1 else (crc >>> 1) ^^^ crcPolynomial

def crcByte (crc : UInt32) (byte : UInt8) : UInt32 :=
  Nat.repeat crcBit 8 (crc ^^^ byte.toUInt32)

def crc32 (bytes : Bytes) : UInt32 := ~~~ bytes.foldl crcByte 0xFFFFFFFF

def adlerModulus : Nat := 65521

def adlerByte (sums : Nat × Nat) (byte : UInt8) : Nat × Nat :=
  let low := (sums.1 + byte.toNat) % adlerModulus
  (low, (sums.2 + low) % adlerModulus)

def adler32 (bytes : Bytes) : UInt32 :=
  let sums := bytes.foldl adlerByte (1, 0)
  UInt32.ofNat (sums.2 * 65536 + sums.1)

example : crc32 [0x49, 0x45, 0x4E, 0x44] = 0xAE426082 := by decide +kernel

example : adler32 [0x61, 0x62, 0x63] = 0x024D0127 := by decide +kernel

def bigEndian (word : UInt32) : Bytes := (Bytes.ofUInt32 word).reverse

def signature : Bytes := [0x89, 0x50, 0x4E, 0x47, 0x0D, 0x0A, 0x1A, 0x0A]

/-- The checksum covers the kind and the data, not the length. -/
def chunk (kind data : Bytes) : Bytes :=
  bigEndian (UInt32.ofNat data.length) ++ kind ++ data ++ bigEndian (crc32 (kind ++ data))

def headerKind : Bytes := [0x49, 0x48, 0x44, 0x52]

def dataKind : Bytes := [0x49, 0x44, 0x41, 0x54]

def endKind : Bytes := [0x49, 0x45, 0x4E, 0x44]

def headerChunk (bitmap : Bitmap) : Bytes :=
  chunk headerKind
    (bigEndian (UInt32.ofNat bitmap.width) ++ bigEndian (UInt32.ofNat bitmap.height) ++
      [8, 6, 0, 0, 0])

/-- Every row behind a zero, which says that it is not filtered. -/
def rows (rowLength : Nat) : Nat → Bytes → Bytes
  | 0, _ => []
  | height + 1, pixels =>
    (0 :: pixels.take rowLength) ++ rows rowLength height (pixels.drop rowLength)

def largestBlock : Nat := 65535

def storedBlock (isLast : Bool) (data : Bytes) : Bytes :=
  (if isLast then 1 else 0) :: Bytes.ofNat 2 data.length ++
    Bytes.ofNat 2 (65535 - data.length) ++ data

def storedBlocks : Nat → Bytes → Bytes
  | 0, data => storedBlock true data
  | count + 1, data =>
    storedBlock false (data.take largestBlock) ++ storedBlocks count (data.drop largestBlock)

def compressed (data : Bytes) : Bytes :=
  [0x78, 0x01] ++ storedBlocks (data.length / largestBlock) data ++ bigEndian (adler32 data)

def encode (bitmap : Bitmap) : Bytes :=
  signature ++ headerChunk bitmap ++
    chunk dataKind (compressed (rows (4 * bitmap.width) bitmap.height bitmap.pixels)) ++
    chunk endKind []

end FrameTap.Png
