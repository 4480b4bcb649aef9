import FrameTap.Error

set_option autoImplicit false

namespace FrameTap

structure Bitmap where
  width : Nat
  height : Nat
  pixels : Bytes
  deriving DecidableEq, Repr

namespace Bitmap

def ofPixels? (width height : Nat) (pixels : Bytes) : Option Bitmap :=
  if 4 * width * height ≤ pixels.length then some { width, height, pixels } else none

def swizzle : Bytes → Bytes
  | blue :: green :: red :: alpha :: rest => red :: green :: blue :: alpha :: swizzle rest
  | _ => []

def gatherRows (rowLength stride : Nat) : Nat → Bytes → Bytes
  | 0, _ => []
  | height + 1, data =>
    swizzle (data.take rowLength) ++ gatherRows rowLength stride height (data.drop stride)

/-- Whether `length` bytes hold `height` rows; the last row needs no padding. -/
def fits (rowLength stride height length : Nat) : Bool :=
  rowLength ≤ stride ∧ stride * (height - 1) + rowLength ≤ length

def ofFrame (frame : Frame) : Except Error Bitmap :=
  match frame.format.bytesPerPixel with
  | none => .error (.readFailure (.unsupportedFormat frame.format))
  | some bytesPerPixel =>
    let width := frame.width.toNat
    let height := frame.height.toNat
    let stride := frame.stride.toNat
    let rowLength := width * bytesPerPixel
    if fits rowLength stride height frame.data.length then
      -- rows without pixels leave nothing to gather, however many there are
      let pixels := if width = 0 then [] else gatherRows rowLength stride height frame.data
      match ofPixels? width height pixels with
      | some bitmap => .ok bitmap
      | none => .error (.readFailure .bitmapSize)
    else
      .error (.readFailure (.frameTooShort width height stride frame.data.length))

def checkSides (bitmap : Bitmap) : Except ImageFault Unit :=
  if bitmap.width = 0 then
    .error .zeroWidth
  else if bitmap.height = 0 then
    .error .zeroHeight
  else
    .ok ()

end Bitmap

end FrameTap
