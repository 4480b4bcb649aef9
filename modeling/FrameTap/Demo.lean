import FrameTap.Receiver.Connecting
import FrameTap.Receiver.Delivery
import FrameTap.Receiver.Waiting
import FrameTap.Screenshot

set_option autoImplicit false

namespace FrameTap

structure Station (m : Type → Type) extends Surroundings m where
  images : ImageStore m
  stopRequested : m Bool

inductive RetryOutcome
  | connected
  | stopped
  | exhausted (attempts : Nat) (lastError : Error)
  deriving DecidableEq, Repr

def RetryOutcome.exhaustedMessage (attempts : Nat) (lastError : Error) : String :=
  s!"Failed to connect after {attempts} attempts ({lastError.message}). Make sure the producer is streaming."

namespace Demo

variable {m : Type → Type} [Monad m]

def attempts (settings : DemoSettings) : Nat := max settings.connectAttempts.toNat 1

def connectAgain (station : Station m) (settings : DemoSettings) :
    Nat → ReceiverM m RetryOutcome
  | 0 => do
    if ← station.stopRequested then
      return .stopped
    else
      match ← Receiver.connect station.toSurroundings with
      | .ok () => return .connected
      | .error error =>
        station.log (.waitingForProducer (attempts settings) (attempts settings) error)
        if ← station.stopRequested then
          return .stopped
        else
          return .exhausted (attempts settings) error
  | left + 1 => do
    if ← station.stopRequested then
      return .stopped
    else
      match ← Receiver.connect station.toSurroundings with
      | .ok () => return .connected
      | .error error =>
        station.log
          (.waitingForProducer (attempts settings - (left + 1)) (attempts settings) error)
        station.sleep settings.retryInterval
        connectAgain station settings left

def connectWithRetries (station : Station m) (settings : DemoSettings) :
    ReceiverM m RetryOutcome :=
  connectAgain station settings (attempts settings - 1)

def saveFrames (station : Station m) (saver : Saver) : List Frame → m Unit
  | [] => return ()
  | frame :: rest => do
    match ← saver.saveIfDue station.toSurroundings station.images frame with
    | .ok _ => saveFrames station saver rest
    | .error error =>
      station.log (.saveFailed error)
      saveFrames station saver rest

def receiveRound (station : Station m) (settings : DemoSettings) (saver : Saver)
    (patience : Nat) : ReceiverM m (Option (Except Error Unit)) := do
  let timeout := settings.waitTimeout
  match ← Receiver.waitForFrame station.toSurroundings (some timeout)
      (Receiver.patienceFor timeout + patience) with
  | none => return none
  | some (.error error) => return some (.error error)
  | some (.ok false) => return some (.ok ())
  | some (.ok true) =>
    match ← Receiver.extract station.toSurroundings settings.mode with
    | .error error => return some (.error error)
    | .ok frames =>
      (saveFrames station saver frames : m Unit)
      return some (.ok ())

/-- Repeats a round until told to stop; `none` if that took more than `patience` rounds. -/
def repeatUntilStopped (station : Station m) (round : ReceiverM m (Option (Except Error Unit))) :
    Nat → ReceiverM m (Option (Except Error Unit))
  | 0 => return none
  | patience + 1 => do
    if ← station.stopRequested then
      return some (.ok ())
    else
      match ← round with
      | some (.ok ()) => repeatUntilStopped station round patience
      | answer => return answer

def receiveLoop (station : Station m) (settings : DemoSettings) (afterRound : ReceiverM m Unit)
    (patience : Nat) : ReceiverM m (Option (Except Error Unit)) := do
  let saver : Saver := { directory := settings.screenshotDir, every := settings.screenshotEvery }
  if settings.screenshotEvery ≠ 0 then
    station.log (.savingEvery settings.screenshotEvery settings.screenshotDir)
  station.log (.receiving settings.mode)
  let round : ReceiverM m (Option (Except Error Unit)) := do
    let answer ← receiveRound station settings saver patience
    afterRound
    return answer
  let outcome ← repeatUntilStopped station round patience
  if outcome.isSome then
    Receiver.disconnect station.toSurroundings
  return outcome

end Demo

end FrameTap
