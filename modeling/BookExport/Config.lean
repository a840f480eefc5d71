import BookExport.Retry
import BookExport.Text.Blank
import BookExport.Text.Number
import BookExport.Text.Quoted

/-! Settings of the service, from named texts such as environment variables. A blank text counts as unset,
and every setting has a default. Numbers are checked in one fixed order and the first bad one is
reported. -/

namespace BookExport

structure WorkerSettings where
  /-- Where traces of failed jobs go; none keeps no traces. -/
  traceDir : Option String := none
  /-- Milliseconds after which a job counts as slow. Durations are compared in whole milliseconds. -/
  slowAfter : Nat := 600000
  deriving DecidableEq, Repr, Inhabited

structure Config where
  host : String
  port : Nat
  outputDir : String
  traceDir : Option String
  redisUrl : Option String
  requestRetries : Nat
  requestBackoff : Nat
  subscriberBuffer : Nat
  terminalRetention : Nat
  heartbeatSeconds : Nat
  mirrorInterval : Nat
  exportCommand : Option String
  slowJobSeconds : Nat
  logsJson : Bool
  telemetryEndpoint : Option String
  serviceName : String
  deriving DecidableEq, Repr

/-- A setting that holds no number. -/
structure ConfigFault where
  name : String
  value : String
  cause : Text.NumberFault
  deriving DecidableEq, Repr

namespace ConfigFault

def message (f : ConfigFault) : String :=
  f.name ++ " must be a valid number, got " ++ Text.quoted f.value

/-- The message with its cause. -/
def chain (f : ConfigFault) : String := f.message ++ ": " ++ f.cause.message

end ConfigFault

/-- A numeric setting: its variable, its greatest value and its default. -/
structure NumberSetting where
  name : String
  most : Nat
  standard : Nat

namespace NumberSetting

def port : NumberSetting := ⟨"PORT", 65535, 8000⟩
def requestRetries : NumberSetting := ⟨"REQUEST_RETRIES", 4294967295, 2⟩
def requestBackoff : NumberSetting := ⟨"REQUEST_RETRY_BACKOFF_MS", 18446744073709551615, 500⟩
def subscriberBuffer : NumberSetting := ⟨"SUBSCRIBER_BUFFER", 18446744073709551615, 32⟩
def terminalRetention : NumberSetting := ⟨"TERMINAL_JOB_RETENTION", 18446744073709551615, 500⟩
def heartbeatSeconds : NumberSetting := ⟨"SSE_HEARTBEAT_SECS", 18446744073709551615, 15⟩
def mirrorInterval : NumberSetting := ⟨"MIRROR_WRITE_INTERVAL_MS", 18446744073709551615, 250⟩
def slowJobSeconds : NumberSetting := ⟨"SLOW_JOB_WARN_SECS", 18446744073709551615, 600⟩

/-- The value of a setting, where `text?` looks up the texts that are not blank. -/
def read (s : NumberSetting) (text? : String → Option String) : Except ConfigFault Nat :=
  match text? s.name with
  | none => .ok s.standard
  | some value =>
    match Text.readBounded s.most value with
    | .ok number => .ok number
    | .error cause => .error ⟨s.name, value, cause⟩

end NumberSetting

namespace Config

/-- The trimmed text of a name, unless it is unset or blank. -/
def text? (lookup : String → Option String) (name : String) : Option String := (lookup name).bind Text.nonBlank?

def ofLookup (lookup : String → Option String) : Except ConfigFault Config := do
  let text? := text? lookup
  let port ← NumberSetting.port.read text?
  let requestRetries ← NumberSetting.requestRetries.read text?
  let requestBackoff ← NumberSetting.requestBackoff.read text?
  let subscriberBuffer ← NumberSetting.subscriberBuffer.read text?
  let terminalRetention ← NumberSetting.terminalRetention.read text?
  let heartbeatSeconds ← NumberSetting.heartbeatSeconds.read text?
  let mirrorInterval ← NumberSetting.mirrorInterval.read text?
  let slowJobSeconds ← NumberSetting.slowJobSeconds.read text?
  return {
    host := (text? "HOST").getD "127.0.0.1"
    port
    outputDir := (text? "OUTPUT_DIR").getD "./output"
    traceDir := text? "ERROR_LOG_DIR"
    redisUrl := text? "REDIS_URL"
    requestRetries
    requestBackoff
    subscriberBuffer
    terminalRetention
    heartbeatSeconds
    mirrorInterval
    exportCommand := text? "EXPORT_COMMAND"
    slowJobSeconds
    logsJson := (text? "LOG_FORMAT").any fun format => Text.foldCase format == "json"
    telemetryEndpoint := text? "OTEL_EXPORTER_OTLP_ENDPOINT"
    serviceName := (text? "OTEL_SERVICE_NAME").getD "export-queue" }

def bindAddress (c : Config) : String := c.host ++ ":" ++ Text.decimal c.port

/-- How requests of the exporter are retried. -/
def retryPolicy (c : Config) : RetryPolicy := .ofRetries (UInt32.ofNat c.requestRetries) c.requestBackoff

def workerSettings (c : Config) : WorkerSettings := ⟨c.traceDir, c.slowJobSeconds * 1000⟩

end Config
end BookExport
