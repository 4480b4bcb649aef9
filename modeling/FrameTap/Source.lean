import FrameTap.Error
import FrameTap.Header.Codec

set_option autoImplicit false

namespace FrameTap

structure Source (m : Type → Type) where
  length : m Nat
  copyOut : Nat → Nat → m (Except Error Bytes)

namespace Source

variable {m : Type → Type} [Monad m]

def readHeader (source : Source m) : m (Except Error Header) := do
  let length ← source.length
  match ← source.copyOut 0 (min length Protocol.ring.headerLength) with
  | .error fault => return .error fault
  | .ok bytes => return (Header.decode bytes).mapError .protocolMismatch

def ofBytes (bytes : Bytes) : Source m where
  length := pure bytes.length
  copyOut offset length :=
    pure <|
      if offset + length ≤ bytes.length then
        .ok (bytes.slice offset length)
      else
        .error (.readFailure (.outOfBounds offset length))

def ofMapping (size : Nat) (read : Nat → Nat → m Bytes) : Source m where
  length := pure size
  copyOut offset length :=
    if addressSpace ≤ offset + length then
      pure (.error (.readFailure .rangeOverflow))
    else if size < offset + length then
      pure (.error (.readFailure (.outsideRegion offset (offset + length) size)))
    else do
      let bytes ← read offset length
      return .ok bytes

def recorded (source : Source m) : Source (StateT (List (Nat × Nat)) m) where
  length := source.length
  copyOut offset length := do
    modify (· ++ [(offset, length)])
    source.copyOut offset length

end Source

end FrameTap
