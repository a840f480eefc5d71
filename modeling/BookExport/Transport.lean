import BookExport.Text.Digits
import BookExport.Text.Utf8

/-! Single requests to a remote end: what comes back, why a request fails, and which failures may pass by
themselves. -/

namespace BookExport

inductive TransportFailure where
  | connection (reason : String)
  | timeout
  | status (code : UInt16) (message : String)
  deriving DecidableEq, Repr, Inhabited

/-- What a failure means for the next attempt. -/
inductive FailureKind where
  | timeout
  | connection
  | throttled
  | serverError (status : UInt16)
  | auth (status : UInt16)
  | client (status : UInt16)
  deriving DecidableEq, Repr

namespace FailureKind

def ofStatus (status : UInt16) : FailureKind :=
  if status = 401 ∨ status = 403 then .auth status
  else if status = 429 then .throttled
  else if 500 ≤ status ∧ status ≤ 599 then .serverError status
  else .client status

/-- A transient failure is worth another attempt. -/
def isTransient : FailureKind → Bool
  | .timeout | .connection | .throttled | .serverError _ => true
  | .auth _ | .client _ => false

/-- The status that the kind was told by, where it keeps one. -/
def status? : FailureKind → Option UInt16
  | .serverError status | .auth status | .client status => some status
  | .timeout | .connection | .throttled => none

end FailureKind

namespace TransportFailure

def kind : TransportFailure → FailureKind
  | .connection _ => .connection
  | .timeout => .timeout
  | .status code _ => .ofStatus code

def message : TransportFailure → String
  | .connection reason => "connection failed: " ++ reason
  | .timeout => "request timed out"
  | .status code message => "HTTP " ++ Text.decimal code.toNat ++ ": " ++ message

end TransportFailure

structure Response where
  status : UInt16
  body : List UInt8
  deriving DecidableEq, Repr, Inhabited

namespace Response

def isSuccess (r : Response) : Bool := 200 ≤ r.status && r.status ≤ 299

def bodyText (r : Response) : String := String.ofList (Text.Utf8.decodeLossy r.body)

/-- A response without success is a failure whose message is the body. -/
def toResult (r : Response) : Except TransportFailure Response :=
  if r.isSuccess then .ok r else .error (.status r.status r.bodyText)

end Response
end BookExport
