import BookExport.Json.Decoder
import BookExport.Request

/-! The JSON form of requests. Every field may be missing. -/

namespace BookExport
open Json Record

namespace FormatsInput

/-- One text, or a list of texts. The value is kept whole before its shape is looked at. -/
def decode (d : Doc) : Except Fault FormatsInput := do
  discard (d.toJson (Doc.maxDepth - 1))
  match d with
  | .str (some s) => return .one s
  | .arr items =>
    let texts ← items.mapM Doc.text
    return .many texts
  | _ => throw .mismatch

end FormatsInput

namespace Request

def record : Record Request :=
  Request.mk <$> optional "target_id" Doc.text <*>
    optional "formats" FormatsInput.decode <*>
    optional "chapters" (Doc.list (Doc.integer (-9223372036854775808) 9223372036854775807)) <*>
    optional "output_dir" Doc.text <*>
    withDefault "skip_images" Doc.flag false

def decode : Decoder Request := record.decode

end Request
end BookExport
