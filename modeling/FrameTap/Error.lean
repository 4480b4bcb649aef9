import FrameTap.Mismatch
import FrameTap.Text.CodePoint

set_option autoImplicit false

namespace FrameTap

namespace Quoted

def escape (c : Char) : List Char :=
  match c with
  | '\x00' => ['\\', '0']
  | '\t' => ['\\', 't']
  | '\r' => ['\\', 'r']
  | '\n' => ['\\', 'n']
  | '"' => ['\\', '"']
  | '\\' => ['\\', '\\']
  | c =>
    if CodePoint.isCombining c || CodePoint.isUnprintable c then
      ['\\', 'u', '\x7b'] ++ (Hexadecimal.lower c.toNat).toList ++ ['\x7d']
    else
      [c]

def quote (text : String) : String :=
  String.ofList ('"' :: text.toList.flatMap escape ++ ['"'])

end Quoted

inductive SystemFault
  | notFound
  | permissionDenied
  | noSuchDevice
  | notADirectory
  | isADirectory
  | invalidArgument
  | nameTooLong
  | nulInName
  | other (text : String)
  deriving DecidableEq, Repr

def SystemFault.message : SystemFault → String
  | .notFound => "No such file or directory (os error 2)"
  | .permissionDenied => "Permission denied (os error 13)"
  | .noSuchDevice => "No such device (os error 19)"
  | .notADirectory => "Not a directory (os error 20)"
  | .isADirectory => "Is a directory (os error 21)"
  | .invalidArgument => "Invalid argument (os error 22)"
  | .nameTooLong => "File name too long (os error 36)"
  | .nulInName => "file name contained an unexpected NUL byte"
  | .other text => text

inductive ReadFault
  | outOfBounds (offset length : Nat)
  | rangeOverflow
  | outsideRegion (offset endByte regionLength : Nat)
  | frameOutside (frameNumber : UInt64) (length offset regionLength : Nat)
  | invalidEventName (name : String)
  | unsupportedFormat (format : PixelFormat)
  | frameTooShort (width height stride length : Nat)
  | bitmapSize
  | reported (text : String)
  deriving DecidableEq, Repr

def PixelFormat.describe : PixelFormat → String
  | .bgra32 => "Bgra32"
  | .other tag => s!"Other({tag})"

def ReadFault.message : ReadFault → String
  | .outOfBounds offset length => s!"copy at {offset}+{length} out of bounds"
  | .rangeOverflow => "copy range overflows"
  | .outsideRegion offset endByte regionLength =>
    s!"copy {offset}..{endByte} outside region of {regionLength} bytes"
  | .frameOutside frameNumber length offset regionLength =>
    s!"frame {frameNumber} declares {length} bytes at offset {offset}, region is {regionLength} bytes"
  | .invalidEventName name => s!"invalid event name {Quoted.quote name}"
  | .unsupportedFormat format => s!"unsupported pixel format {format.describe}"
  | .frameTooShort width height stride length =>
    s!"frame data too short for {width}x{height} (stride {stride}, {length} bytes)"
  | .bitmapSize => "bitmap buffer size mismatch"
  | .reported text => text

inductive ImageFault
  | zeroWidth
  | zeroHeight
  | storage (fault : SystemFault)
  deriving DecidableEq, Repr

def ImageFault.message : ImageFault → String
  | .zeroWidth => "Zero width not allowed"
  | .zeroHeight => "Zero height not allowed"
  | .storage fault => fault.message

inductive Error
  | notRunning (name : String)
  | protocolMismatch (mismatch : Mismatch)
  | readFailure (fault : ReadFault)
  | notConnected
  | io (fault : SystemFault)
  | configuration
  | image (fault : ImageFault)
  deriving DecidableEq, Repr

def Error.message : Error → String
  | .notRunning name => s!"producer is not running: shared region `{name}` not found"
  | .protocolMismatch mismatch => s!"protocol mismatch: {mismatch.message}"
  | .readFailure fault => s!"read failure: {fault.message}"
  | .notConnected => "receiver is not connected"
  | .io fault => s!"io error: {fault.message}"
  | .configuration => "configuration error"
  | .image fault => s!"image error: {fault.message}"

def Error.causes : Error → List String
  | .protocolMismatch mismatch => [mismatch.message]
  | .io fault => [fault.message]
  | .image fault => [fault.message]
  | _ => []

end FrameTap
