import BookExport.Json.Decoder
import BookExport.Snapshot
import BookExport.Timestamp.Text

/-! The JSON forms of snapshots and reports. An optional field is left out when it is absent. -/

namespace BookExport
open Json Record

namespace Timestamp

def toJson (t : Timestamp) : Json := .str t.write

def decode : Decoder Timestamp := fun d =>
  match d.text with
  | .ok s =>
    match read? s with
    | some t => .ok t
    | none => .error .mismatch
  | .error fault => .error fault

end Timestamp

namespace Format

def toJson (f : Format) : Json := .str f.name

def decode : Decoder Format := Doc.named ofName?

end Format

namespace Status

def toJson (s : Status) : Json := .str s.name

def decode : Decoder Status := Doc.named ofName?

end Status

namespace JobId

def toJson (id : JobId) : Json := .str id.text

def decode : Decoder JobId := fun d => d.text.map JobId.mk

end JobId

namespace Json.Doc

def byte : Decoder UInt8 := fun d => (d.natural 255).map UInt8.ofNat

def word32 : Decoder UInt32 := fun d => (d.natural 4294967295).map UInt32.ofNat

def word64 : Decoder UInt64 := fun d => (d.natural 18446744073709551615).map UInt64.ofNat

/-- A position in a queue. -/
def position : Decoder Nat := Doc.natural 18446744073709551615

end Json.Doc

def optionalText (key : String) (value : Option String) : List (String × Json) :=
  member? key (value.map .str)

def optionalNat (key : String) (value : Option Nat) : List (String × Json) :=
  member? key (value.map Json.nat)

namespace OutputFiles

def paths (value : List String) : Json := .arr (value.map .str)

def members (files : OutputFiles) : List (String × Json) :=
  Format.all.flatMap fun f => member? f.name ((files.get? f).map paths)

def toJson (files : OutputFiles) : Json := .obj files.members

/-- Of a repeated format the last files count. -/
def ofMembers : List (Option String × Doc) → OutputFiles → Except Fault OutputFiles
  | [], files => .ok files
  | (none, _) :: _, _ => .error .malformed
  | (some key, value) :: rest, files =>
    match Format.ofName? key with
    | none => .error .mismatch
    | some format => do
      let paths ← Doc.list Doc.text value
      ofMembers rest (files.set format paths)

def decode : Decoder OutputFiles
  | .obj members => ofMembers members {}
  | d => d.refuse

end OutputFiles

namespace JobOutputs

def members (o : JobOutputs) : List (String × Json) :=
  optionalText "title" o.title ++ [("files", o.files.toJson)]

def toJson (o : JobOutputs) : Json := .obj o.members

def record : Record JobOutputs :=
  JobOutputs.mk <$> optional "title" Doc.text <*>
    withDefault "files" OutputFiles.decode {}

def decode : Decoder JobOutputs := record.decode

end JobOutputs

namespace JobError

def members (e : JobError) : List (String × Json) :=
  [("code", .str e.code), ("message", .str e.message)] ++ member? "details" e.details

def toJson (e : JobError) : Json := .obj e.members

/-- `room` bounds the depth of the details. -/
def record (room : Nat) : Record JobError :=
  JobError.mk <$> required "code" Doc.text <*>
    required "message" Doc.text <*>
    optional "details" (Doc.toJson room)

def decode : Decoder JobError := (record (Doc.maxDepth - 1)).decode

/-- An error inside another record. -/
def decodeNested : Decoder JobError := (record (Doc.maxDepth - 2)).decode

end JobError

namespace ProgressUpdate

def members (u : ProgressUpdate) : List (String × Json) :=
  [("status", u.status.toJson), ("percentage", Json.nat u.percentage.toNat)] ++
  optionalText "message" u.message ++
  optionalNat "eta_seconds" (u.etaSeconds.map UInt64.toNat) ++
  optionalNat "current_chapter" (u.currentChapter.map UInt32.toNat) ++
  optionalNat "total_chapters" (u.totalChapters.map UInt32.toNat) ++
  optionalText "chapter_title" u.chapterTitle

def toJson (u : ProgressUpdate) : Json := .obj u.members

def recordWith (status : Decoder Status) : Record ProgressUpdate :=
  ProgressUpdate.mk <$> required "status" status <*>
    withDefault "percentage" Doc.byte 0 <*>
    optional "message" Doc.text <*>
    optional "eta_seconds" Doc.word64 <*>
    optional "current_chapter" Doc.word32 <*>
    optional "total_chapters" Doc.word32 <*>
    optional "chapter_title" Doc.text

def record : Record ProgressUpdate := recordWith Status.decode

def decode : Decoder ProgressUpdate := record.decode

end ProgressUpdate

namespace Snapshot

/-- The members but the time. -/
def untimedMembers (s : Snapshot) : List (String × Json) :=
  [("job_id", s.jobId.toJson), ("target_id", .str s.targetId), ("status", s.status.toJson)] ++
  optionalNat "queue_position" s.queuePosition ++
  [("percentage", Json.nat s.percentage.toNat)] ++
  optionalText "message" s.message ++
  optionalNat "eta_seconds" (s.etaSeconds.map UInt64.toNat) ++
  optionalNat "current_chapter" (s.currentChapter.map UInt32.toNat) ++
  optionalNat "total_chapters" (s.totalChapters.map UInt32.toNat) ++
  optionalText "chapter_title" s.chapterTitle ++
  optionalText "title" s.title ++
  (if s.outputs.isEmpty then [] else [("outputs", s.outputs.toJson)]) ++
  member? "error" (s.error.map JobError.toJson)

def members (s : Snapshot) : List (String × Json) :=
  s.untimedMembers ++ [("updated_at", s.updatedAt.toJson)]

def toJson (s : Snapshot) : Json := .obj s.members

def record : Record Snapshot :=
  Snapshot.mk <$> required "job_id" JobId.decode <*>
    required "target_id" Doc.text <*>
    required "status" Status.decode <*>
    optional "queue_position" Doc.position <*>
    required "percentage" Doc.byte <*>
    optional "message" Doc.text <*>
    optional "eta_seconds" Doc.word64 <*>
    optional "current_chapter" Doc.word32 <*>
    optional "total_chapters" Doc.word32 <*>
    optional "chapter_title" Doc.text <*>
    optional "title" Doc.text <*>
    withDefault "outputs" OutputFiles.decode {} <*>
    optional "error" JobError.decodeNested <*>
    required "updated_at" Timestamp.decode

def decode : Decoder Snapshot := record.decode

end Snapshot
end BookExport
