import FrameTap.Notice
import FrameTap.Statistics

set_option autoImplicit false

namespace FrameTap

structure ReceiverSettings where
  regionName : String := "ChiakiFrameShare"
  eventName : Option String := some "ChiakiFrameEvent"
  shmDir : Option String := none
  pollIntervalMs : UInt64 := 1
  deriving DecidableEq, Repr

def ReceiverSettings.pollInterval (settings : ReceiverSettings) : Nanoseconds :=
  Nanoseconds.ofMilliseconds (max settings.pollIntervalMs.toNat 1)

structure DemoSettings where
  connectAttempts : UInt32 := 30
  retryIntervalMs : UInt64 := 1000
  waitTimeoutMs : UInt64 := 100
  mode : ExtractMode := .latest
  screenshotEvery : UInt64 := 300
  screenshotDir : String := "."
  deriving DecidableEq, Repr

namespace DemoSettings

def retryInterval (settings : DemoSettings) : Nanoseconds :=
  Nanoseconds.ofMilliseconds settings.retryIntervalMs.toNat

def waitTimeout (settings : DemoSettings) : Nanoseconds :=
  Nanoseconds.ofMilliseconds settings.waitTimeoutMs.toNat

end DemoSettings

structure Settings where
  receiver : ReceiverSettings := {}
  demo : DemoSettings := {}
  deriving DecidableEq, Repr

end FrameTap
