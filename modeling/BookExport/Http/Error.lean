import BookExport.Json.Printer
import BookExport.Snapshot.Codec

/-! Errors as clients of the HTTP interface see them: a status and a JSON object with the text, the code
and the details of the error. What went wrong inside the service is not told. -/

namespace BookExport.Http

inductive ApiError where
  | failed (error : ExportError)
  /-- The body of the request could not be read. -/
  | invalidPayload (message : String)
  /-- Nothing is known of the job yet. -/
  | noProgress (message : String)
  deriving Repr, Inhabited

/-- The text, the code and the details of an error. -/
structure ErrorBody where
  error : String
  code : String
  details : Option Json := none
  deriving Repr, Inhabited, BEq

def ErrorBody.toJson (b : ErrorBody) : Json :=
  .obj ([("error", .str b.error), ("code", .str b.code)] ++ Json.member? "details" b.details)

namespace ApiError

def message : ApiError → String
  | .failed e => e.message
  | .invalidPayload message => "Invalid request body: " ++ message
  | .noProgress message => message

def status : ApiError → Nat
  | .failed (.validation ..) | .invalidPayload _ => 400
  | .failed (.notFound _) | .noProgress _ => 404
  | .failed _ => 500

def body : ApiError → ErrorBody
  | .failed (.validation code message details) => ⟨message, code, details⟩
  | .failed (.notFound message) => ⟨message, "not_found", none⟩
  | .failed _ => ⟨"An internal error occurred", "internal_error", none⟩
  | .invalidPayload message => ⟨message, "invalid_payload", none⟩
  | .noProgress message => ⟨message, "not_found", none⟩

end ApiError
end BookExport.Http
