import BookExport.Exporter.Message
import BookExport.Files
import BookExport.Text.Utf8

/-! One run of an exporter. Every line it prints is a checkpoint: a line that was read before the
cancellation counts, and the first line read after it stops the exporter. -/

namespace BookExport.Exporter

/-- How a process ended: by itself, or by a signal. -/
inductive ExitStatus where
  | code (n : Nat)
  | signal (n : Nat) (dumped : Bool)
  deriving DecidableEq, Repr

namespace ExitStatus

/-- The status of an exporter that had to be stopped. -/
abbrev killed : ExitStatus := .signal 9 false

def isSuccess (s : ExitStatus) : Bool := s == .code 0

/-- The names of the signals from 1 on. -/
def signalNames : List String :=
  ["SIGHUP", "SIGINT", "SIGQUIT", "SIGILL", "SIGTRAP", "SIGABRT", "SIGBUS", "SIGFPE", "SIGKILL", "SIGUSR1", "SIGSEGV",
    "SIGUSR2", "SIGPIPE", "SIGALRM", "SIGTERM", "SIGSTKFLT", "SIGCHLD", "SIGCONT", "SIGSTOP", "SIGTSTP", "SIGTTIN",
    "SIGTTOU", "SIGURG", "SIGXCPU", "SIGXFSZ", "SIGVTALRM", "SIGPROF", "SIGWINCH", "SIGIO", "SIGPWR", "SIGSYS"]

def signalName? : Nat → Option String
  | 0 => none
  | n + 1 => signalNames[n]?

def message : ExitStatus → String
  | .code n => "exit status: " ++ Text.decimal n
  | .signal n dumped =>
    let name := (signalName? n).elim "" fun name => " (" ++ name ++ ")"
    "signal: " ++ Text.decimal n ++ name ++ if dumped then " (core dumped)" else ""

end ExitStatus

/-- What happens while an exporter runs: it prints a line, given without its end, or its job is cancelled. -/
inductive Event where
  | printed (line : List UInt8)
  | cancelled
  deriving DecidableEq, Repr

/-- What is known of a run. `stopped` is the error that ended it before the exporter did. -/
structure Session where
  updates : List ProgressUpdate := []
  outputs : Option JobOutputs := none
  reported : Option ExportError := none
  isCancelled : Bool := false
  stopped : Option ExportError := none
  deriving Repr

/-- Asks an exporter to end its work; it is sent once, when the job is cancelled. -/
def cancelLine : String := "\x7b\"type\":\"cancel\"\x7d"

namespace Session

def hear (s : Session) : Message → Session
  | .progress u => { s with updates := s.updates ++ [u] }
  | .result o => { s with outputs := some o }
  | .error code message => { s with reported := some (Message.toError code message) }

def readLine (s : Session) (line : List UInt8) : Session :=
  match Text.Utf8.decode line with
  | .error fault => { s with stopped := some (.internal ("failed to read exporter output: " ++ fault.message)) }
  | .ok cs =>
    if s.isCancelled then { s with stopped := some .cancelled }
    else
      match Message.ofLine? (String.ofList cs) with
      | some message => s.hear message
      | none => s

def step (s : Session) (e : Event) : Session :=
  if s.stopped.isSome then s
  else
    match e with
    | .printed line => s.readLine line
    | .cancelled => { s with isCancelled := true }

def run (events : List Event) : Session := events.foldl step {}

end Session

/-- A line whose line feed was taken away, without the carriage return before it. -/
def withoutReturn (line : List UInt8) : List UInt8 := if line.getLast? = some 0x0D then line.dropLast else line

/-- The lines of a byte sequence, without their ends: a line feed, and a carriage return before it. A last
line that has no line feed keeps all it has. -/
def lines (bytes : List UInt8) : List (List UInt8) :=
  let parts := bytes.splitOn 0x0A
  let last := parts.getLast?.getD []
  parts.dropLast.map withoutReturn ++ (if last.isEmpty then [] else [last])

/-- The lines before the first that is no text. -/
def textLines (bytes : List UInt8) : List String :=
  ((lines bytes).map Text.Utf8.decode).takeWhile Except.isOk |>.filterMap fun line =>
    line.toOption.map String.ofList

/-- The last twenty lines of a diagnostic output. -/
def tail (bytes : List UInt8) : String :=
  let all := textLines bytes
  String.intercalate "\n" (all.drop (all.length - 20))

/-- How an exporter ended, and its diagnostic output. -/
structure Ending where
  status : ExitStatus
  diagnostics : List UInt8
  deriving Repr

def failureMessage (e : Ending) : String :=
  let reason :=
    if e.status.isSuccess then "exporter exited without a result"
    else "exporter exited with " ++ e.status.message
  let tail := tail e.diagnostics
  if tail.isEmpty then reason else reason ++ ": " ++ tail

/-- The result of a run. An error the exporter reported goes before everything else. -/
def Session.result (s : Session) (e : Ending) : Except ExportError JobOutputs :=
  match s.stopped, s.reported with
  | some err, _ => .error err
  | none, some err => .error err
  | none, none =>
    if s.isCancelled then .error .cancelled
    else
      match s.outputs with
      | some outputs => if e.status.isSuccess then .ok outputs else .error (.internal (failureMessage e))
      | none => .error (.internal (failureMessage e))

/-- The error of a job for which no exporter is known. -/
def notConfigured : ExportError := .internal "no exporter configured; set EXPORT_COMMAND"

/-- The error of an exporter that cannot be started. -/
def notStarted (files : Files) (program : String) : ExportError :=
  .internal ("failed to start exporter " ++ program ++ ": " ++ files.startFault program)

end BookExport.Exporter
