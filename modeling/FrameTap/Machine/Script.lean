import FrameTap.Source

set_option autoImplicit false

namespace FrameTap

structure Cue where
  call : Nat
  region : Option Bytes
  before : Patch
  failure : Option String
  after : Patch
  deriving Repr

structure ScriptedRegion where
  bytes : Bytes
  calls : Nat
  cues : List Cue
  deriving Repr

namespace ScriptedRegion

def start (bytes : Bytes) (cues : List Cue) : ScriptedRegion where
  bytes := bytes
  calls := 0
  cues := cues

def copyOut (offset length : Nat) : StateM ScriptedRegion (Except Error Bytes) := do
  let script ← get
  let cues := script.cues.filter (fun cue => cue.call = script.calls)
  let before := cues.foldl (fun bytes cue => cue.before.apply (cue.region.getD bytes)) script.bytes
  match cues.findSome? (·.failure) with
  | some text =>
    set { script with bytes := before, calls := script.calls + 1 }
    return .error (.readFailure (.reported text))
  | none =>
    let copied ← (Source.ofBytes before).copyOut offset length
    let after := cues.foldl (fun bytes cue => cue.after.apply bytes) before
    set { script with bytes := after, calls := script.calls + 1 }
    return copied

def source : Source (StateM ScriptedRegion) where
  length := do
    let script ← get
    return script.bytes.length
  copyOut := copyOut

end ScriptedRegion

end FrameTap
