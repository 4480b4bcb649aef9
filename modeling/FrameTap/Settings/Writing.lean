import FrameTap.Settings.Reading

set_option autoImplicit false

namespace FrameTap

namespace Value

def ofUInt64 (n : UInt64) : Value := .integer n.toNat

def ofUInt32 (n : UInt32) : Value := .integer n.toNat

def ofOption : Option String → Value
  | none => .null
  | some words => .text words

end Value

def ExtractMode.toValue (mode : ExtractMode) : Value := .text mode.name

def Protocol.toValue (protocol : Protocol) : Value := .text protocol.name

def PixelFormat.toValue : PixelFormat → Value
  | .bgra32 => .text "Bgra32"
  | .other tag => .table [("Other", .ofUInt32 tag)]

def ReceiverSettings.toValue (settings : ReceiverSettings) : Value :=
  .table
    [("region_name", .text settings.regionName),
     ("event_name", .ofOption settings.eventName),
     ("shm_dir", .ofOption settings.shmDir),
     ("poll_interval_ms", .ofUInt64 settings.pollIntervalMs)]

def DemoSettings.toValue (settings : DemoSettings) : Value :=
  .table
    [("connect_attempts", .ofUInt32 settings.connectAttempts),
     ("retry_interval_ms", .ofUInt64 settings.retryIntervalMs),
     ("wait_timeout_ms", .ofUInt64 settings.waitTimeoutMs),
     ("mode", settings.mode.toValue),
     ("screenshot_every", .ofUInt64 settings.screenshotEvery),
     ("screenshot_dir", .text settings.screenshotDir)]

def Settings.toValue (settings : Settings) : Value :=
  .table [("receiver", settings.receiver.toValue), ("demo", settings.demo.toValue)]

end FrameTap
