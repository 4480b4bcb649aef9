import FrameTap.Receiver.Basic

set_option autoImplicit false

namespace FrameTap

namespace Connection

variable {m : Type → Type} [Monad m]

def framePending (connection : Connection m) : m (Except Error Bool) := do
  match ← connection.region.source.readHeader with
  | .error error => return .error error
  | .ok header =>
    match connection.sync.checkProtocol header with
    | .error error => return .error error
    | .ok () => return .ok (connection.sync.hasNewFrame header)

/-- Time left until the deadline: `none` when it has come, `some none` when there is none. -/
def remaining (env : Surroundings m) :
    Option Nanoseconds → m (Option (Option Nanoseconds))
  | none => return some none
  | some deadline => do
    let now ← env.now
    return if deadline ≤ now then none else some (some (deadline - now))

/-- Passes time until it is worth looking at the header again; `false` when a deadline came
first. -/
def pause (env : Surroundings m) (connection : Connection m) (pollInterval : Nanoseconds)
    (remaining : Option Nanoseconds) (patience : Nat) : m (Option (Except Error Bool)) := do
  match connection.event with
  | some event => event.wait env remaining patience
  | none =>
    match remaining with
    | none => env.sleep pollInterval
    | some left => env.sleep (min left pollInterval)
    return some (.ok true)

def waitRounds (env : Surroundings m) (connection : Connection m) (pollInterval : Nanoseconds)
    (deadline : Option Nanoseconds) : Nat → m (Option (Except Error Bool))
  | 0 => return none
  | patience + 1 => do
    match ← remaining env deadline with
    | none => return some (.ok false)
    | some left =>
      match ← connection.pause env pollInterval left (patience + 1) with
      | some (.ok true) =>
        match ← connection.framePending with
        | .error error => return some (.error error)
        | .ok true => return some (.ok true)
        | .ok false => waitRounds env connection pollInterval deadline patience
      | answer => return answer

def wait (env : Surroundings m) (connection : Connection m) (timeout : Option Nanoseconds)
    (pollInterval : Nanoseconds) (patience : Nat) : m (Option (Except Error Bool)) := do
  match ← connection.framePending with
  | .error error => return some (.error error)
  | .ok true => return some (.ok true)
  | .ok false =>
    match timeout with
    | some 0 => return some (.ok false)
    | none => connection.waitRounds env pollInterval none patience
    | some timeout =>
      let now ← env.now
      connection.waitRounds env pollInterval (some (now + timeout)) patience

end Connection

namespace Receiver

variable {m : Type → Type} [Monad m]

/-- Rounds that are enough for a wait of `timeout`, as no nap but the last is shorter than a
millisecond. -/
def patienceFor (timeout : Nanoseconds) : Nat :=
  timeout / Nanoseconds.ofMilliseconds 1 + 2

def waitForFrame (env : Surroundings m) (timeout : Option Nanoseconds) (patience : Nat) :
    ReceiverM m (Option (Except Error Bool)) := do
  let receiver ← get
  match receiver.connection with
  | none => return some (.error .notConnected)
  | some connection =>
    match ← (connection.wait env timeout receiver.settings.pollInterval patience : m _) with
    | some (.error error) =>
      report env error
      return some (.ok false)
    | answer => return answer

end Receiver

end FrameTap
