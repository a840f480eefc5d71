import BookExport.Proofs.WrittenValues

/-! What the service writes, it reads again. Only details that are null come back as none, and details nested deeper
than a reader has room for do not come back. -/

namespace BookExport.Proofs.WireRoundTrips
open Json Record RecordFields WrittenTimes WrittenValues

/-- A kind of value as it is written and read. `InRange` bounds its times and numbers, `Readable` says that a reader has
room for it, and `kept` is what comes back. -/
structure Wire (α : Type) where
  toJson : α → Json
  decode : Decoder α
  InRange : α → Prop
  Readable : α → Prop
  kept : α → α

/-- Every value in range is read as it was written, and so is whatever was read before. -/
structure RoundTrips {α : Type} (w : Wire α) : Prop where
  written : ∀ a, w.InRange a → w.Readable a → Json.decode w.decode (w.toJson a).render = .ok (w.kept a)
  reread : ∀ text a, Json.decode w.decode text = .ok a → w.InRange a →
    Json.decode w.decode (w.toJson a).render = .ok a

private theorem decoded_of_text {α : Type} {value : Decoder α} {text : String} {a : α}
    (decoded : Json.decode value text = .ok a) : ∃ d, value d = .ok a := by
  unfold Json.decode Reading.decode at decoded
  cases whole : value (Json.read text).doc with
  | error fault =>
    rw [whole] at decoded
    cases decoded
  | ok b =>
    rw [whole] at decoded
    cases trailing : (Json.read text).trailing with
    | true =>
      rw [trailing] at decoded
      cases decoded
    | false =>
      rw [trailing] at decoded
      cases decoded
      exact ⟨_, whole⟩

private theorem roundTrips_of {α : Type} {w : Wire α} (legible : ∀ a, w.InRange a → Legible (w.toJson a))
    (comesBack : ∀ a, w.InRange a → w.Readable a → w.decode (toDoc (w.toJson a)) = .ok (w.kept a))
    (readable : ∀ d a, w.decode d = .ok a → w.Readable a ∧ w.kept a = a) : RoundTrips w := by
  have written (a : α) (inRange : w.InRange a) (fits : w.Readable a) :
      Json.decode w.decode (w.toJson a).render = .ok (w.kept a) :=
    decode_render (legible a inRange) (comesBack a inRange fits)
  refine ⟨written, ?_⟩
  intro text a decoded inRange
  obtain ⟨d, found⟩ := decoded_of_text decoded
  obtain ⟨fits, same⟩ := readable d a found
  rw [written a inRange fits, same]

def outputsWire : Wire JobOutputs := ⟨JobOutputs.toJson, JobOutputs.decode, fun _ => True, fun _ => True, id⟩

theorem legible_outputs (o : JobOutputs) : MembersLegible o.members := by
  rw [JobOutputs.members, legible_append]
  exact ⟨legible_optionalText .., legible_files o.files, trivial⟩

theorem outputs_known (o : JobOutputs) : (o.members.map Prod.fst).Sublist ["title", "files"] := by
  rw [JobOutputs.members, List.map_append]
  exact (keys_member? ..).append (List.Sublist.refl _)

theorem sound_outputs : Sound JobOutputs.record := (sound_optional.map _).seq sound_withDefault

theorem outputs_built (o : JobOutputs) : JobOutputs.record.build (fieldOf o.members) = .ok o := by
  have title : (Record.optional "title" Doc.text).build (fieldOf o.members) = .ok o.title :=
    built_text (by simp [JobOutputs.members])
  have files : (withDefault "files" OutputFiles.decode {}).build (fieldOf o.members) = .ok o.files :=
    build_withDefault (d := some (toDoc o.files.toJson)) (by simp [JobOutputs.members])
      (fun _ same => Option.some.inj same ▸ files_toDoc o.files) (by simp)
  exact built_seq (built_map title _) files

private theorem outputs_roundTrips : RoundTrips outputsWire :=
  roundTrips_of (fun o _ => legible_outputs o)
    (fun o _ _ => decode_toDoc sound_outputs (outputs_known o) rfl (by decide) (outputs_built o))
    fun _ _ _ => ⟨trivial, rfl⟩

def updateWire : Wire ProgressUpdate :=
  ⟨ProgressUpdate.toJson, ProgressUpdate.decode, fun _ => True, fun _ => True, id⟩

theorem legible_update (u : ProgressUpdate) : MembersLegible u.members := by
  simp only [ProgressUpdate.members, legible_append]
  exact ⟨⟨⟨⟨⟨⟨trivial, legible_byte _, trivial⟩, legible_optionalText ..⟩, legible_optionalWord64 ..⟩,
    legible_optionalWord32 ..⟩, legible_optionalWord32 ..⟩, legible_optionalText ..⟩

theorem update_known (u : ProgressUpdate) : (u.members.map Prod.fst).Sublist (["status", "percentage"] ++ ["message"] ++
    ["eta_seconds"] ++ ["current_chapter"] ++ ["total_chapters"] ++ ["chapter_title"]) := by
  simp only [ProgressUpdate.members, List.map_append]
  exact (((((List.Sublist.refl _).append (keys_member? ..)).append (keys_member? ..)).append
    (keys_member? ..)).append (keys_member? ..)).append (keys_member? ..)

section
variable {status : Decoder Status}

theorem sound_update : Sound (ProgressUpdate.recordWith status) :=
  ((((((sound_required.map _).seq sound_withDefault).seq sound_optional).seq sound_optional).seq
    sound_optional).seq sound_optional).seq sound_optional

theorem update_built (back : ∀ s : Status, status (toDoc s.toJson) = .ok s) (u : ProgressUpdate) :
    (ProgressUpdate.recordWith status).build (fieldOf u.members) = .ok u := by
  have state : (required "status" status).build (fieldOf u.members) = .ok u.status :=
    build_required (d := toDoc u.status.toJson) (by simp [ProgressUpdate.members]) (back u.status)
  have percentage : (withDefault "percentage" Doc.byte 0).build (fieldOf u.members) = .ok u.percentage :=
    build_withDefault (d := some (toDoc (Json.nat u.percentage.toNat))) (by simp [ProgressUpdate.members])
      (fun _ same => Option.some.inj same ▸ byte_toDoc u.percentage) (by simp)
  have message : (Record.optional "message" Doc.text).build (fieldOf u.members) = .ok u.message :=
    built_text (by simp [ProgressUpdate.members])
  have eta : (Record.optional "eta_seconds" Doc.word64).build (fieldOf u.members) = .ok u.etaSeconds :=
    built_word word64_toDoc (by simp [ProgressUpdate.members])
  have current : (Record.optional "current_chapter" Doc.word32).build (fieldOf u.members) = .ok u.currentChapter :=
    built_word word32_toDoc (by simp [ProgressUpdate.members])
  have total : (Record.optional "total_chapters" Doc.word32).build (fieldOf u.members) = .ok u.totalChapters :=
    built_word word32_toDoc (by simp [ProgressUpdate.members])
  have title : (Record.optional "chapter_title" Doc.text).build (fieldOf u.members) = .ok u.chapterTitle :=
    built_text (by simp [ProgressUpdate.members])
  exact built_seq (built_seq (built_seq (built_seq (built_seq (built_seq (built_map state _) percentage) message) eta)
    current) total) title

end

private theorem update_roundTrips : RoundTrips updateWire :=
  roundTrips_of (fun u _ => legible_update u)
    (fun u _ _ => decode_toDoc sound_update (update_known u) rfl (by decide) (update_built status_toDoc u))
    fun _ _ _ => ⟨trivial, rfl⟩

def errorWire : Wire JobError :=
  ⟨JobError.toJson, JobError.decode, IntegralDetails, DetailsFit (Doc.maxDepth - 1), withoutNull⟩

private theorem error_roundTrips : RoundTrips errorWire :=
  roundTrips_of (fun _ integral => legible_error integral.legible) (fun _ integral => error_toDoc integral.legible)
    fun _ _ => error_readable

def specWire : Wire JobSpec := ⟨JobSpec.toJson, JobSpec.decode, fun _ => True, fun _ => True, id⟩

private theorem legible_spec (s : JobSpec) : Legible s.toJson := by
  have formats : ItemsLegible (s.formats.map Format.toJson) := by
    apply legible_items
    intro item inside
    obtain ⟨format, -, rfl⟩ := List.mem_map.mp inside
    trivial
  have chapters : Legible (orNull (s.chapterSelection.map fun cs => .arr (cs.map fun c => Json.nat c.toNat))) := by
    apply legible_orNull
    intro j present
    obtain ⟨chapters, -, rfl⟩ := Option.map_eq_some_iff.mp present
    apply legible_items
    intro item inside
    obtain ⟨chapter, -, rfl⟩ := List.mem_map.mp inside
    exact legible_word32 chapter
  exact ⟨trivial, formats, chapters, trivial, trivial, trivial⟩

private theorem spec_toDoc (s : JobSpec) : JobSpec.decode (toDoc s.toJson) = .ok s := by
  have target : (required "target_id" Doc.text).build (fieldOf s.members) = .ok s.targetId := build_required rfl rfl
  have formats : (required "formats" (Doc.list Format.decode)).build (fieldOf s.members) = .ok s.formats :=
    build_required rfl (list_toDoc fun f _ => format_toDoc f)
  have chapters : (nullable "chapter_selection" (Doc.list Doc.word32)).build (fieldOf s.members) =
      .ok s.chapterSelection :=
    build_nullable rfl fun _ _ => ⟨nofun, list_toDoc fun c _ => word32_toDoc c⟩
  have directory : (required "output_directory" Doc.text).build (fieldOf s.members) = .ok s.outputDirectory :=
    build_required rfl rfl
  have skip : (required "skip_images" Doc.flag).build (fieldOf s.members) = .ok s.skipImages := build_required rfl rfl
  have known : (s.members.map Prod.fst).Sublist
      ["target_id", "formats", "chapter_selection", "output_directory", "skip_images"] := List.Sublist.refl _
  exact decode_toDoc (((((sound_required.map _).seq sound_required).seq sound_nullable).seq sound_required).seq
    sound_required) known rfl (by decide)
    (built_seq (built_seq (built_seq (built_seq (built_map target _) formats) chapters) directory) skip)

private theorem spec_roundTrips : RoundTrips specWire :=
  roundTrips_of (fun s _ => legible_spec s) (fun s _ _ => spec_toDoc s) fun _ _ _ => ⟨trivial, rfl⟩

structure JobInRange (j : Job) : Prop where
  position : j.queuePosition ≤ 18446744073709551615
  created : Plain j.createdAt
  started : ∀ t, j.startedAt = some t → Plain t
  finished : ∀ t, j.finishedAt = some t → Plain t

def jobWire : Wire Job := ⟨Job.toJson, Job.decode, JobInRange, fun _ => True, id⟩

private theorem legible_times (time : Option Timestamp) : Legible (orNull (time.map Timestamp.toJson)) := by
  cases time <;> trivial

private theorem job_roundTrips : RoundTrips jobWire := by
  refine roundTrips_of ?_ ?_ fun _ _ _ => ⟨trivial, rfl⟩
  · intro j inRange
    exact ⟨trivial, legible_spec j.spec, trivial, trivial, legible_nat inRange.position, trivial,
      legible_times j.startedAt, legible_times j.finishedAt, trivial⟩
  · intro j inRange _
    have id : (required "id" JobId.decode).build (fieldOf j.members) = .ok j.id := build_required rfl rfl
    have spec : (required "spec" JobSpec.decode).build (fieldOf j.members) = .ok j.spec :=
      build_required rfl (spec_toDoc j.spec)
    have created : (required "created_at" Timestamp.decode).build (fieldOf j.members) = .ok j.createdAt :=
      build_required rfl (time_toDoc inRange.created.shown)
    have status : (required "status" Status.decode).build (fieldOf j.members) = .ok j.status :=
      build_required rfl (status_toDoc j.status)
    have position : (required "queue_position" Doc.position).build (fieldOf j.members) = .ok j.queuePosition :=
      build_required rfl (natural_toDoc inRange.position)
    have requested : (required "cancel_requested" Doc.flag).build (fieldOf j.members) = .ok j.cancelRequested :=
      build_required rfl rfl
    have started : (nullable "started_at" Timestamp.decode).build (fieldOf j.members) = .ok j.startedAt :=
      build_nullable rfl fun t present => ⟨nofun, time_toDoc (inRange.started t present).shown⟩
    have finished : (nullable "finished_at" Timestamp.decode).build (fieldOf j.members) = .ok j.finishedAt :=
      build_nullable rfl fun t present => ⟨nofun, time_toDoc (inRange.finished t present).shown⟩
    have known : (j.members.map Prod.fst).Sublist ["id", "spec", "created_at", "status", "queue_position",
        "cancel_requested", "started_at", "finished_at"] := List.Sublist.refl _
    exact decode_toDoc ((((((((sound_required.map _).seq sound_required).seq sound_required).seq sound_required).seq
      sound_required).seq sound_required).seq sound_nullable).seq sound_nullable) known rfl (by decide)
      (built_seq (built_seq (built_seq (built_seq (built_seq (built_seq (built_seq (built_map id _) spec) created)
        status) position) requested) started) finished)

structure SnapshotInRange (s : Snapshot) : Prop where
  position : ∀ n, s.queuePosition = some n → n ≤ 18446744073709551615
  updated : Plain s.updatedAt
  details : ∀ e, s.error = some e → IntegralDetails e

/-- All times and numbers of a snapshot read back. -/
structure SnapshotLegible (s : Snapshot) : Prop where
  position : ∀ n, s.queuePosition = some n → n ≤ 18446744073709551615
  updated : Shown s.updatedAt
  details : ∀ e, s.error = some e → LegibleDetails e

theorem SnapshotInRange.legible {s : Snapshot} (inRange : SnapshotInRange s) : SnapshotLegible s :=
  ⟨inRange.position, inRange.updated.shown, fun e present => (inRange.details e present).legible⟩

/-- The details of an error stand deeper in a snapshot than alone. -/
def snapshotWire : Wire Snapshot where
  toJson := Snapshot.toJson
  decode := Snapshot.decode
  InRange := SnapshotInRange
  Readable s := ∀ e, s.error = some e → DetailsFit (Doc.maxDepth - 2) e
  kept s := { s with error := s.error.map withoutNull }

theorem legible_snapshot {s : Snapshot} (legible : SnapshotLegible s) : Legible s.toJson := by
  have outputs : MembersLegible (if s.outputs.isEmpty then [] else [("outputs", s.outputs.toJson)]) := by
    split
    · trivial
    · exact ⟨legible_files s.outputs, trivial⟩
  have error : MembersLegible (member? "error" (s.error.map JobError.toJson)) := by
    rw [legible_member?]
    intro j present
    obtain ⟨e, found, rfl⟩ := Option.map_eq_some_iff.mp present
    exact legible_error (legible.details e found)
  show MembersLegible s.members
  simp only [Snapshot.members, Snapshot.untimedMembers, legible_append]
  exact ⟨⟨⟨⟨⟨⟨⟨⟨⟨⟨⟨⟨trivial, trivial, trivial, trivial⟩, legible_optionalNat legible.position⟩,
    legible_byte _, trivial⟩, legible_optionalText ..⟩, legible_optionalWord64 ..⟩, legible_optionalWord32 ..⟩,
    legible_optionalWord32 ..⟩, legible_optionalText ..⟩, legible_optionalText ..⟩, outputs⟩, error⟩, trivial, trivial⟩

private theorem keys_outputs (o : OutputFiles) :
    ((if o.isEmpty then [] else [("outputs", o.toJson)]).map Prod.fst).Sublist ["outputs"] := by
  split
  · exact List.nil_sublist _
  · exact List.Sublist.refl _

theorem isEmpty_iff (o : OutputFiles) : o.isEmpty = true ↔ o = {} := by
  obtain ⟨epub, pdf, chapters⟩ := o
  cases epub <;> cases pdf <;> cases chapters <;> simp [OutputFiles.isEmpty, OutputFiles.get?, Format.all]

private theorem snapshot_known (s : Snapshot) : (s.members.map Prod.fst).Sublist (["job_id", "target_id", "status"] ++
    ["queue_position"] ++ ["percentage"] ++ ["message"] ++ ["eta_seconds"] ++ ["current_chapter"] ++
    ["total_chapters"] ++ ["chapter_title"] ++ ["title"] ++ ["outputs"] ++ ["error"] ++ ["updated_at"]) := by
  simp only [Snapshot.members, Snapshot.untimedMembers, List.map_append]
  exact (((((((((((List.Sublist.refl _).append (keys_member? ..)).append (List.Sublist.refl _)).append
    (keys_member? ..)).append (keys_member? ..)).append (keys_member? ..)).append (keys_member? ..)).append
    (keys_member? ..)).append (keys_member? ..)).append (keys_outputs s.outputs)).append (keys_member? ..)).append
    (List.Sublist.refl _)

private theorem sound_snapshot : Sound Snapshot.record :=
  (((((((((((((sound_required.map _).seq sound_required).seq sound_required).seq sound_optional).seq
    sound_required).seq sound_optional).seq sound_optional).seq sound_optional).seq sound_optional).seq
    sound_optional).seq sound_optional).seq sound_withDefault).seq sound_optional).seq sound_required

/-- The error is the last but one of the fields. -/
private theorem snapshot_readable {d : Doc} {s : Snapshot} (decoded : Snapshot.decode d = .ok s) :
    (∀ e, s.error = some e → DetailsFit (Doc.maxDepth - 2) e) ∧ { s with error := s.error.map withoutNull } = s := by
  obtain ⟨fields, built⟩ := built_of_decode decoded
  obtain ⟨g, updated, before, -, rfl⟩ := build_seq.mp built
  obtain ⟨f, error, first, read, rfl⟩ := build_seq.mp before
  have place : (f error updated).error = error := by
    refine (?_ : Yields _ fun f => ∀ error updated, (f error updated).error = error) fields f first error updated
    exact .seq (.seq (.seq (.seq (.seq (.seq (.seq (.seq (.seq (.seq (.seq (.map
      fun _ _ _ _ _ _ _ _ _ _ _ _ _ _ => rfl)))))))))))
  have each (e : JobError) (present : error = some e) : DetailsFit (Doc.maxDepth - 2) e ∧ withoutNull e = e := by
    subst present
    obtain ⟨d, -, found⟩ := of_build_optional read
    exact error_readable found
  have same : error.map withoutNull = error := by
    cases error with
    | none => rfl
    | some e => exact congrArg some (each e rfl).2
  generalize f error updated = s at place ⊢
  subst place
  exact ⟨fun e present => (each e present).1, by rw [same]⟩

@[simp] theorem fieldOf_outputs (o : OutputFiles) (name : String) :
    fieldOf (if o.isEmpty then [] else [("outputs", o.toJson)]) name =
      if name = "outputs" then (if o.isEmpty then none else some (toDoc o.toJson)) else none := by
  split
  · exact (ite_self none).symm
  · exact fieldOf_cons "outputs" o.toJson [] name

theorem snapshot_toDoc {s : Snapshot} (legible : SnapshotLegible s)
    (fits : ∀ e, s.error = some e → DetailsFit (Doc.maxDepth - 2) e) :
    Snapshot.decode (toDoc s.toJson) = .ok { s with error := s.error.map withoutNull } := by
  have id : (required "job_id" JobId.decode).build (fieldOf s.members) = .ok s.jobId := build_required rfl rfl
  have target : (required "target_id" Doc.text).build (fieldOf s.members) = .ok s.targetId := build_required rfl rfl
  have status : (required "status" Status.decode).build (fieldOf s.members) = .ok s.status :=
    build_required rfl (status_toDoc s.status)
  have position : (Record.optional "queue_position" Doc.position).build (fieldOf s.members) = .ok s.queuePosition :=
    built_position (by simp [Snapshot.members, Snapshot.untimedMembers])
      legible.position
  have percentage : (required "percentage" Doc.byte).build (fieldOf s.members) = .ok s.percentage :=
    build_required (d := toDoc (Json.nat s.percentage.toNat))
      (by simp [Snapshot.members, Snapshot.untimedMembers])
      (byte_toDoc s.percentage)
  have message : (Record.optional "message" Doc.text).build (fieldOf s.members) = .ok s.message :=
    built_text (by simp [Snapshot.members, Snapshot.untimedMembers])
  have eta : (Record.optional "eta_seconds" Doc.word64).build (fieldOf s.members) = .ok s.etaSeconds :=
    built_word word64_toDoc (by simp [Snapshot.members, Snapshot.untimedMembers])
  have current : (Record.optional "current_chapter" Doc.word32).build (fieldOf s.members) = .ok s.currentChapter :=
    built_word word32_toDoc (by simp [Snapshot.members, Snapshot.untimedMembers])
  have total : (Record.optional "total_chapters" Doc.word32).build (fieldOf s.members) = .ok s.totalChapters :=
    built_word word32_toDoc (by simp [Snapshot.members, Snapshot.untimedMembers])
  have chapter : (Record.optional "chapter_title" Doc.text).build (fieldOf s.members) = .ok s.chapterTitle :=
    built_text (by simp [Snapshot.members, Snapshot.untimedMembers])
  have title : (Record.optional "title" Doc.text).build (fieldOf s.members) = .ok s.title :=
    built_text (by simp [Snapshot.members, Snapshot.untimedMembers])
  have outputs : (withDefault "outputs" OutputFiles.decode {}).build (fieldOf s.members) = .ok s.outputs := by
    have found : fieldOf s.members "outputs" = if s.outputs.isEmpty then none else some (toDoc s.outputs.toJson) := by
      simp [Snapshot.members, Snapshot.untimedMembers]
    refine build_withDefault found ?_ ?_
    · intro d there
      split at there
      · cases there
      · exact Option.some.inj there ▸ files_toDoc s.outputs
    · intro absent
      split at absent
      next empty => exact ((isEmpty_iff s.outputs).mp empty).symm
      next => cases absent
  have error : (Record.optional "error" JobError.decodeNested).build (fieldOf s.members) =
      .ok (s.error.map withoutNull) := by
    have found : fieldOf s.members "error" = (s.error.map JobError.toJson).map toDoc := by
      simp [Snapshot.members, Snapshot.untimedMembers]
    refine build_withDefault found ?_ ?_
    · intro d there
      obtain ⟨j, written, rfl⟩ := Option.map_eq_some_iff.mp there
      obtain ⟨e, present, rfl⟩ := Option.map_eq_some_iff.mp written
      rw [present]
      have other : toDoc e.toJson ≠ .null := by simp [JobError.toJson, toDoc]
      have whole : JobError.decodeNested (toDoc e.toJson) = .ok (withoutNull e) :=
        error_toDoc (legible.details e present) (fits e present)
      rw [optional_of_ne other, whole]
      rfl
    · intro absent
      rw [Option.map_eq_none_iff.mp (Option.map_eq_none_iff.mp absent)]
      rfl
  have updated : (required "updated_at" Timestamp.decode).build (fieldOf s.members) = .ok s.updatedAt :=
    build_required (d := toDoc s.updatedAt.toJson)
      (by simp [Snapshot.members, Snapshot.untimedMembers])
      (time_toDoc legible.updated)
  exact decode_toDoc sound_snapshot (snapshot_known s) rfl (by decide)
    (built_seq (built_seq (built_seq (built_seq (built_seq (built_seq (built_seq (built_seq (built_seq (built_seq
      (built_seq (built_seq (built_seq (built_map id _) target) status) position) percentage) message) eta) current)
      total) chapter) title) outputs) error) updated)

private theorem snapshot_roundTrips : RoundTrips snapshotWire :=
  roundTrips_of (fun _ inRange => legible_snapshot inRange.legible) (fun _ inRange => snapshot_toDoc inRange.legible)
    fun _ _ => snapshot_readable

/-- Whatever is written comes back, but for details that are null, and whatever was read comes back unchanged. -/
theorem wire_round_trips :
    RoundTrips snapshotWire ∧ RoundTrips outputsWire ∧ RoundTrips errorWire ∧ RoundTrips updateWire ∧
      RoundTrips specWire ∧ RoundTrips jobWire :=
  ⟨snapshot_roundTrips, outputs_roundTrips, error_roundTrips, update_roundTrips, spec_roundTrips, job_roundTrips⟩

/-- A failed job of the year 2000 with a chapter, files and details that are null. -/
def failedSnapshot : Snapshot where
  jobId := ⟨"job-1"⟩
  targetId := "β\n\"ook\""
  status := .failed
  percentage := 55
  etaSeconds := some 18446744073709551615
  chapterTitle := some ""
  outputs := { pdf := some ["a.pdf", "b.pdf"] }
  error := some ⟨"internal_error", "broken", some .null⟩
  updatedAt := ⟨951782400, 120000000⟩

theorem wire_round_trips_null_details :
    Json.decode Snapshot.decode failedSnapshot.toJson.render =
      .ok { failedSnapshot with error := some ⟨"internal_error", "broken", none⟩ } := by
  refine wire_round_trips.1.written failedSnapshot ⟨nofun, ⟨by decide, by decide, by decide⟩, ?_⟩ ?_
  · intro e present details there
    obtain rfl := Option.some.inj present
    obtain rfl := Option.some.inj there
    trivial
  · intro e present details there
    obtain rfl := Option.some.inj present
    obtain rfl := Option.some.inj there
    exact ⟨trivial, Nat.zero_le _⟩

def nested : Nat → Json
  | 0 => .arr []
  | level + 1 => .arr [nested level]

theorem integral_nested (level : Nat) : Integral (nested level) := by
  induction level with
  | zero => trivial
  | succ level ih => exact ⟨ih, trivial⟩

/-- A failure whose details are nested one level too deep to be read. -/
def deepError : JobError := ⟨"x", "y", some (nested 126)⟩

/-- Not everything that is written is read. -/
theorem deep_details_are_refused :
    IntegralDetails deepError ∧ (Json.decode JobError.decode deepError.toJson.render).isOk = false := by
  have integral : IntegralDetails deepError := by
    intro details present
    obtain rfl := Option.some.inj present
    exact integral_nested 126
  refine ⟨integral, ?_⟩
  rw [Json.decode, WrittenJson.read_render (legible_error integral.legible)]
  decide +kernel

end BookExport.Proofs.WireRoundTrips
