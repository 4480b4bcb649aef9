import FrameTap.Demo

set_option autoImplicit false

namespace FrameTap

inductive Exit
  | stopped
  | badSettings
  | noProducer (attempts : Nat) (lastError : Error)
  | failed (error : Error)
  | unfinished
  deriving DecidableEq, Repr

namespace Exit

def code : Exit → Nat
  | .stopped => 0
  | _ => 1

def report : Exit → List String
  | .stopped => []
  | .badSettings => [Error.configuration.message]
  | .noProducer attempts lastError => [RetryOutcome.exhaustedMessage attempts lastError]
  | .failed error => error.message :: error.causes
  | .unfinished => ["still running"]

end Exit

namespace Program

variable {m : Type → Type} [Monad m]

def speak (station : Station m) : List ReceiverEvent → m Unit
  | [] => return ()
  | .error message :: rest => do
    station.log (.receiverError message)
    speak station rest
  | .sessionReset reset :: rest => do
    station.log (.producerRestarted reset.lastConsumed)
    speak station rest
  | .disconnected :: _ => station.log .connectionClosed
  | _ :: rest => speak station rest

def watch (station : Station m) : ReceiverM m Unit := do
  let receiver ← get
  set receiver.emptyInboxes
  (speak station ((receiver.inbox? 0).getD []) : m Unit)

def receive (station : Station m) (settings : Settings) (patience : Nat) : ReceiverM m Exit := do
  let _ ← Receiver.subscribe
  match ← Demo.connectWithRetries station settings.demo with
  | .stopped =>
    station.log .stoppedBeforeProducer
    return .stopped
  | .exhausted attempts lastError => return .noProducer attempts lastError
  | .connected =>
    let outcome ← Demo.receiveLoop station settings.demo (watch station) patience
    watch station
    match outcome with
    | none => return .unfinished
    | some (.error error) => return .failed error
    | some (.ok ()) =>
      station.log .shuttingDown
      return .stopped

def run (station : Station m) (loadSettings : m (Option Settings)) (patience : Nat) :
    m Exit := do
  station.log .launching
  match ← loadSettings with
  | none => return .badSettings
  | some settings =>
    let now ← station.now
    let (exit, _) ← (receive station settings patience).run (Receiver.new settings.receiver now)
    return exit

end Program

end FrameTap
