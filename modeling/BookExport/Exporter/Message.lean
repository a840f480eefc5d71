import BookExport.Error
import BookExport.Snapshot.Codec
import BookExport.Text.Blank

/-! The lines by which an exporter tells of its work: JSON objects with a member for their type, or lists
that begin with the type. A line in any other shape says nothing. -/

namespace BookExport.Exporter
open Json Record

inductive Message where
  | progress (update : ProgressUpdate)
  | result (outputs : JobOutputs)
  | error (code message : String)
  deriving DecidableEq, Repr

namespace Message

def tag : String := "type"

/-- A status inside a message. An empty object serves as null. -/
def status : Decoder Status
  | .obj [(name, .obj [])] => Status.decode (.obj [(name, .null)])
  | d => Status.decode d

def errorRecord : Record Message := Message.error <$> required "code" Doc.text <*> required "message" Doc.text

/-- The message of a type, from the document without the type. -/
def ofType (type : String) (rest : Doc) : Except Fault Message :=
  match type with
  | "progress" => ((ProgressUpdate.recordWith status).decode rest).map .progress
  | "result" => (JobOutputs.decode rest).map .result
  | "error" => errorRecord.decode rest
  | _ => .error .mismatch

/-- The members of a message that give its type. -/
def types (members : List (Option String × Doc)) : List (Option String × Doc) :=
  members.filter fun (key, _) => key == some tag

/-- The whole document has to be sound before the message in it is looked at. -/
def decode (d : Doc) : Except Fault Message := do
  discard (d.toJson Doc.maxDepth)
  match d with
  | .obj members =>
    match types members with
    | [(_, .str (some type))] => ofType type (.obj (members.filter fun (key, _) => key != some tag))
    | _ => throw .mismatch
  | .arr (.str (some type) :: rest) => ofType type (.arr rest)
  | _ => throw .mismatch

/-- What a line says, if it says anything. -/
def ofLine? (line : String) : Option Message :=
  match Json.decode decode (Text.trim line) with
  | .ok message => some message
  | .error _ => none

/-- The error that an exporter reports by a code. -/
def toError (code message : String) : ExportError :=
  match code with
  | "auth_error" => .auth message
  | "network_error" => .network message
  | "export_cancelled" => .cancelled
  | _ => .internal message

end Message
end BookExport.Exporter
