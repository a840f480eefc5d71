import BookExport.Exporter.Session

/-! The transcript of an exporter whose job nobody cancels: the lines it printed, and what they tell one by one. -/

namespace BookExport.Exporter

namespace Message

def update? : Message → Option ProgressUpdate
  | .progress update => some update
  | _ => none

def outputs? : Message → Option JobOutputs
  | .result outputs => some outputs
  | _ => none

def error? : Message → Option ExportError
  | .error code message => some (toError code message)
  | _ => none

end Message

def isText (line : List UInt8) : Bool := (Text.Utf8.decode line).isOk

/-- Nothing but blank characters. -/
def isBlankLine (line : List UInt8) : Bool :=
  match Text.Utf8.decode line with
  | .ok cs => cs.all Text.isBlank
  | .error _ => false

/-- The message in a line, if there is one. -/
def messageOf? (line : List UInt8) : Option Message :=
  match Text.Utf8.decode line with
  | .ok cs => Message.ofLine? (String.ofList cs)
  | .error _ => none

/-- A line that is blank or that no message can be read from. -/
def isIdle (line : List UInt8) : Bool := isBlankLine line || (messageOf? line).isNone

abbrev Transcript := List (List UInt8)

namespace Transcript

def IsText (t : Transcript) : Prop := ∀ line ∈ t, isText line = true

def messages (t : Transcript) : List Message := t.filterMap messageOf?

def updates (t : Transcript) : List ProgressUpdate := t.messages.filterMap Message.update?

def outputs (t : Transcript) : List JobOutputs := t.messages.filterMap Message.outputs?

def errors (t : Transcript) : List ExportError := t.messages.filterMap Message.error?

/-- The lines that are not idle. -/
def telling (t : Transcript) : Transcript := t.filter fun line => !isIdle line

/-- The run in which these lines are printed. -/
def session (t : Transcript) : Session := Session.run (t.map Event.printed)

end Transcript

end BookExport.Exporter
