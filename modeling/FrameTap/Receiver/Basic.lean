import FrameTap.Event
import FrameTap.Region
import FrameTap.Settings.Basic
import FrameTap.Synchronizer.Extraction

set_option autoImplicit false

namespace FrameTap

inductive ReceiverEvent
  | connected (width height : UInt32) (protocol : Protocol) (polling : Bool)
  | disconnected
  | frameReceived (frameNumber : UInt64) (slot : Option Nat)
  | sessionReset (reset : SessionReset)
  | error (message : String)
  deriving DecidableEq, Repr

structure Subscriber where
  id : Nat
  listening : Bool
  inbox : List ReceiverEvent
  deriving DecidableEq, Repr

structure Connection (m : Type → Type) where
  region : Region m
  event : Option (Event m)
  sync : Synchronizer

structure Receiver (m : Type → Type) where
  settings : ReceiverSettings
  connection : Option (Connection m)
  statistics : Statistics
  current : Option Frame
  subscribers : List Subscriber
  subscriptions : Nat

abbrev ReceiverM (m : Type → Type) := StateT (Receiver m) m

namespace Receiver

variable {m : Type → Type}

def new (settings : ReceiverSettings) (now : Nanoseconds) : Receiver m where
  settings := settings
  connection := none
  statistics := Statistics.start now
  current := none
  subscribers := []
  subscriptions := 0

def isConnected (receiver : Receiver m) : Bool := receiver.connection.isSome

def protocol (receiver : Receiver m) : Option Protocol :=
  receiver.connection.map (·.sync.protocol)

def isPolling (receiver : Receiver m) : Bool :=
  receiver.connection.any (·.event.isNone)

def lastConsumed (receiver : Receiver m) : UInt64 :=
  match receiver.connection with
  | none => 0
  | some connection => connection.sync.lastConsumed

def place (settings : ReceiverSettings) : RegionPlace :=
  match settings.shmDir with
  | none => .sharedObject settings.regionName
  | some directory => .file (Path.join directory settings.regionName)

/-- Tells every subscriber that still listens; the others are forgotten. -/
def tell (receiver : Receiver m) (event : ReceiverEvent) : Receiver m :=
  { receiver with
    subscribers := (receiver.subscribers.filter (·.listening)).map
      (fun subscriber => { subscriber with inbox := subscriber.inbox ++ [event] }) }

def addSubscriber (receiver : Receiver m) : Receiver m :=
  { receiver with
    subscribers := receiver.subscribers ++
      [{ id := receiver.subscriptions, listening := true, inbox := [] }]
    subscriptions := receiver.subscriptions + 1 }

def closeSubscriber (receiver : Receiver m) (id : Nat) : Receiver m :=
  { receiver with
    subscribers := receiver.subscribers.map
      (fun subscriber =>
        if subscriber.id = id then { subscriber with listening := false } else subscriber) }

def inbox? (receiver : Receiver m) (id : Nat) : Option (List ReceiverEvent) :=
  (receiver.subscribers.find? (fun subscriber => subscriber.id = id ∧ subscriber.listening)).map
    (·.inbox)

def emptyInboxes (receiver : Receiver m) : Receiver m :=
  { receiver with
    subscribers := receiver.subscribers.map (fun subscriber => { subscriber with inbox := [] }) }

variable [Monad m]

def subscribe : ReceiverM m Nat := do
  let receiver ← get
  set receiver.addSubscriber
  return receiver.subscriptions

def emit (event : ReceiverEvent) : ReceiverM m Unit :=
  modify (·.tell event)

def report (env : Surroundings m) (error : Error) : ReceiverM m Unit := do
  env.log (.failed error)
  emit (.error error.message)

end Receiver

end FrameTap
