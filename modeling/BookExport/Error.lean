import BookExport.Json.Basic
import BookExport.Text.Digits

/-! Why a request or an export fails. -/

namespace BookExport

inductive ExportError where
  | validation (code message : String) (details : Option Json)
  | notFound (message : String)
  | network (message : String)
  | auth (message : String)
  | rejected (status : Nat) (message : String)
  | cancelled
  | internal (message : String)
  deriving Repr, Inhabited, BEq

namespace ExportError

/-- The stable code of an error; a validation error brings its own. -/
def code : ExportError → String
  | .validation code _ _ => code
  | .notFound _ => "not_found"
  | .network _ => "network_error"
  | .auth _ => "auth_error"
  | .rejected .. => "request_rejected"
  | .cancelled => "export_cancelled"
  | .internal _ => "internal_error"

def message : ExportError → String
  | .validation _ message _ => message
  | .notFound message => message
  | .network message => "network error: " ++ message
  | .auth message => "authentication failed: " ++ message
  | .rejected status message => "request rejected with status " ++ Text.decimal status ++ ": " ++ message
  | .cancelled => "export cancelled by user"
  | .internal message => "internal error: " ++ message

def details : ExportError → Option Json
  | .validation _ _ details => details
  | _ => none

def isCancelled : ExportError → Bool
  | .cancelled => true
  | _ => false

end ExportError
end BookExport
