import FrameTap.Receiver.Basic

set_option autoImplicit false

namespace FrameTap

namespace Receiver

variable {m : Type → Type} [Monad m]

def openEvent (env : Surroundings m) : Option String → m (Option (Event m))
  | none => return none
  | some name => do
    match ← Event.openNamed env name with
    | .ok (some event) =>
      env.log (.eventOpened name)
      return some event
    | .ok none =>
      env.log (.eventAbsent name)
      return none
    | .error error =>
      env.log (.eventRefused name error)
      return none

def openConnection (env : Surroundings m) (settings : ReceiverSettings) :
    m (Except Error (Connection m × Header)) := do
  match ← Region.openAt env (place settings) with
  | .error error => return .error error
  | .ok region =>
    let event ← openEvent env settings.eventName
    match ← region.source.readHeader with
    | .error error => return .error error
    | .ok header =>
      let length ← region.source.length
      match header.validateLayout length with
      | .error fault => return .error (.protocolMismatch (.layout fault))
      | .ok () =>
        return .ok ({ region, event, sync := Synchronizer.start header.protocol }, header)

def established (receiver : Receiver m) (connection : Connection m) (now : Nanoseconds) :
    Receiver m :=
  { receiver with
    connection := some connection
    statistics := receiver.statistics.reset now
    current := none }

def released (receiver : Receiver m) : Receiver m :=
  { receiver with connection := none }

def connect (env : Surroundings m) : ReceiverM m (Except Error Unit) := do
  let receiver ← get
  if receiver.isConnected then
    return .ok ()
  else
    match ← (openConnection env receiver.settings : m _) with
    | .error error =>
      report env error
      return .error error
    | .ok (connection, header) =>
      let polling := connection.event.isNone
      env.log (.connected connection.region.name header.picture header.protocol polling)
      let now ← env.now
      modify (·.established connection now)
      emit (.connected header.picture.width header.picture.height header.protocol polling)
      return .ok ()

def disconnect (env : Surroundings m) : ReceiverM m Unit := do
  let receiver ← get
  match receiver.connection with
  | none => return ()
  | some connection =>
    set receiver.released
    env.log (.disconnected connection.sync.lastConsumed receiver.statistics.received
      receiver.statistics.dropped)
    emit .disconnected

end Receiver

end FrameTap
