import BookExport.Job.Codec
import BookExport.Proofs.KeptValues
import BookExport.Proofs.RecordFields
import BookExport.Proofs.WrittenJson
import BookExport.Proofs.WrittenTimes

/-! The values that the service writes, read from the documents of what is written. -/

namespace BookExport.Proofs.WrittenValues
open Json Record RecordFields WrittenTimes KeptValues

/-- A value is read from its text as from its document. -/
theorem decode_render {α : Type} {value : Decoder α} {j : Json} (legible : Legible j) {a : α}
    (decoded : value (toDoc j) = .ok a) : Json.decode value j.render = .ok a := by
  rw [Json.decode, WrittenJson.read_render legible, Reading.decode, decoded]
  rfl

section
variable {α : Type}

theorem legible_append (first rest : List (String × Json)) :
    MembersLegible (first ++ rest) ↔ MembersLegible first ∧ MembersLegible rest := by
  induction first with
  | nil => simp [MembersLegible]
  | cons member first ih => simp only [List.cons_append, MembersLegible, ih, and_assoc]

theorem legible_member? (key : String) (value : Option Json) :
    MembersLegible (member? key value) ↔ ∀ j, value = some j → Legible j := by
  cases value <;> simp [member?, MembersLegible]

theorem legible_items {items : List Json} (each : ∀ item ∈ items, Legible item) : ItemsLegible items := by
  induction items with
  | nil => trivial
  | cons item rest ih =>
    exact ⟨each item List.mem_cons_self, ih fun other inside => each other (List.mem_cons_of_mem _ inside)⟩

theorem legible_nat {n : Nat} (small : n ≤ 18446744073709551615) : Legible (Json.nat n) := by
  have fits : Numeral.fits (n : Int) = true := by
    simp only [Numeral.fits, Bool.and_eq_true, decide_eq_true_eq]
    omega
  exact fits

@[simp] theorem fieldOf_optionalText (key : String) (value : Option String) (name : String) :
    fieldOf (optionalText key value) name = if name = key then (value.map Json.str).map toDoc else none :=
  fieldOf_member? ..

@[simp] theorem fieldOf_optionalNat (key : String) (value : Option Nat) (name : String) :
    fieldOf (optionalNat key value) name = if name = key then (value.map Json.nat).map toDoc else none :=
  fieldOf_member? ..

theorem legible_optionalText (key : String) (value : Option String) : MembersLegible (optionalText key value) := by
  rw [optionalText, legible_member?]
  intro j present
  obtain ⟨text, -, rfl⟩ := Option.map_eq_some_iff.mp present
  trivial

theorem legible_optionalNat {key : String} {value : Option Nat} (small : ∀ n, value = some n → n ≤ 18446744073709551615) :
    MembersLegible (optionalNat key value) := by
  rw [optionalNat, legible_member?]
  intro j present
  obtain ⟨n, some, rfl⟩ := Option.map_eq_some_iff.mp present
  exact legible_nat (small n some)

theorem legible_byte (n : UInt8) : Legible (Json.nat n.toNat) :=
  legible_nat (Nat.le_trans (Nat.le_of_lt n.toNat_lt) (by decide))

theorem legible_word32 (n : UInt32) : Legible (Json.nat n.toNat) :=
  legible_nat (Nat.le_trans (Nat.le_of_lt n.toNat_lt) (by decide))

/-- An optional number of a type whose numbers all have at most 64 bits. -/
private theorem legible_optionalWord {toNat : α → Nat} (small : ∀ a, toNat a ≤ 18446744073709551615) (key : String)
    (value : Option α) : MembersLegible (optionalNat key (value.map toNat)) := by
  apply legible_optionalNat
  intro n present
  obtain ⟨word, -, rfl⟩ := Option.map_eq_some_iff.mp present
  exact small word

theorem legible_optionalWord32 (key : String) (value : Option UInt32) :
    MembersLegible (optionalNat key (value.map UInt32.toNat)) :=
  legible_optionalWord (fun word => Nat.le_trans (Nat.le_of_lt word.toNat_lt) (by decide)) key value

theorem legible_optionalWord64 (key : String) (value : Option UInt64) :
    MembersLegible (optionalNat key (value.map UInt64.toNat)) :=
  legible_optionalWord (fun word => Nat.le_of_lt_succ word.toNat_lt) key value

theorem legible_orNull {value : Option Json} (each : ∀ j, value = some j → Legible j) : Legible (orNull value) := by
  cases value with
  | none => trivial
  | some j => exact each j rfl

theorem list_toDoc {item : Decoder α} {write : α → Json} {values : List α}
    (each : ∀ a ∈ values, item (toDoc (write a)) = .ok a) :
    Doc.list item (toDoc (.arr (values.map write))) = .ok values := by
  show (itemsToDoc (values.map write)).mapM item = .ok values
  induction values with
  | nil => rfl
  | cons a rest ih =>
    rw [List.map_cons, itemsToDoc, List.mapM_cons, each a List.mem_cons_self,
      ih fun other inside => each other (List.mem_cons_of_mem _ inside)]
    rfl

theorem natural_toDoc {high n : Nat} (small : n ≤ high) : Doc.natural high (toDoc (Json.nat n)) = .ok n := by
  have inside : (0 : Int) ≤ n ∧ (n : Int) ≤ high := by omega
  have read : Doc.integer 0 high (.int n) = .ok (n : Int) := if_pos inside
  exact congrArg (Except.map Int.toNat) read

end

theorem byte_toDoc (n : UInt8) : Doc.byte (toDoc (Json.nat n.toNat)) = .ok n := by
  have small : n.toNat ≤ 255 := Nat.le_of_lt_succ n.toNat_lt
  rw [Doc.byte, natural_toDoc small]
  exact congrArg Except.ok (UInt8.ofNat_toNat ..)

theorem word32_toDoc (n : UInt32) : Doc.word32 (toDoc (Json.nat n.toNat)) = .ok n := by
  have small : n.toNat ≤ 4294967295 := Nat.le_of_lt_succ n.toNat_lt
  rw [Doc.word32, natural_toDoc small]
  exact congrArg Except.ok (UInt32.ofNat_toNat ..)

theorem word64_toDoc (n : UInt64) : Doc.word64 (toDoc (Json.nat n.toNat)) = .ok n := by
  have small : n.toNat ≤ 18446744073709551615 := Nat.le_of_lt_succ n.toNat_lt
  rw [Doc.word64, natural_toDoc small]
  exact congrArg Except.ok (UInt64.ofNat_toNat ..)

theorem status_toDoc (s : Status) : Status.decode (toDoc s.toJson) = .ok s := by
  show Doc.named.orRefuse (Status.ofName? s.name) = .ok s
  rw [Status.ofName?_name]
  rfl

theorem format_toDoc (f : Format) : Format.decode (toDoc f.toJson) = .ok f := by
  show Doc.named.orRefuse (Format.ofName? f.name) = .ok f
  rw [Format.ofName?_name]
  rfl

theorem time_toDoc {t : Timestamp} (shown : Shown t) : Timestamp.decode (toDoc t.toJson) = .ok t := by
  simp only [Timestamp.decode, Timestamp.toJson, toDoc, Doc.text, read?_write shown]

private theorem paths_toDoc (paths : List String) : Doc.list Doc.text (toDoc (OutputFiles.paths paths)) = .ok paths :=
  list_toDoc fun _ _ => rfl

/-- The files of some formats, each put in its place. -/
private theorem ofMembers_toDoc (files : OutputFiles) (formats : List Format) (done : OutputFiles) :
    OutputFiles.ofMembers
        (membersToDoc (formats.flatMap fun f => member? f.name ((files.get? f).map OutputFiles.paths))) done =
      .ok (formats.foldl (fun done f => ((files.get? f).map (done.set f)).getD done) done) := by
  induction formats generalizing done with
  | nil => rfl
  | cons f rest ih =>
    rw [List.flatMap_cons, List.foldl_cons]
    cases files.get? f with
    | none => exact ih done
    | some paths =>
      have next := ih (done.set f paths)
      show OutputFiles.ofMembers ((some f.name, toDoc (OutputFiles.paths paths)) :: membersToDoc _) done = _
      rw [OutputFiles.ofMembers, Format.ofName?_name, paths_toDoc]
      exact next

theorem files_toDoc (files : OutputFiles) : OutputFiles.decode (toDoc files.toJson) = .ok files := by
  refine (ofMembers_toDoc files Format.all {}).trans ?_
  obtain ⟨epub, pdf, chapters⟩ := files
  cases epub <;> cases pdf <;> cases chapters <;> rfl

theorem legible_files (files : OutputFiles) : Legible files.toJson := by
  have each (f : Format) : MembersLegible (member? f.name ((files.get? f).map OutputFiles.paths)) := by
    rw [legible_member?]
    intro j present
    obtain ⟨paths, -, rfl⟩ := Option.map_eq_some_iff.mp present
    apply legible_items
    intro item inside
    obtain ⟨path, -, rfl⟩ := List.mem_map.mp inside
    trivial
  show MembersLegible (Format.all.flatMap _)
  simp only [Format.all, List.flatMap_cons, List.flatMap_nil, legible_append, each, MembersLegible, and_self]

theorem keys_member? (key : String) (value : Option Json) : ((member? key value).map Prod.fst).Sublist [key] := by
  cases value with
  | none => exact List.nil_sublist _
  | some j => exact List.Sublist.refl _

/-- All numbers in the details of an error are integers within 64 bits. -/
def IntegralDetails (e : JobError) : Prop := ∀ details, e.details = some details → Integral details

def LegibleDetails (e : JobError) : Prop := ∀ details, e.details = some details → Legible details

theorem IntegralDetails.legible {e : JobError} (integral : IntegralDetails e) : LegibleDetails e :=
  fun details present => (integral details present).legible

def DetailsFit (room : Nat) (e : JobError) : Prop := ∀ details, e.details = some details → Kept room details

def presentDetails : Option Json → Option Json
  | some .null => none
  | details => details

def withoutNull (e : JobError) : JobError := { e with details := presentDetails e.details }

theorem legible_error {e : JobError} (legible : LegibleDetails e) : Legible e.toJson := by
  show MembersLegible e.members
  rw [JobError.members, legible_append, legible_member?]
  exact ⟨⟨trivial, trivial, trivial⟩, legible⟩

private theorem details_toDoc {room : Nat} {details : Json} (legible : Legible details) (kept : Kept room details) :
    Doc.optional (Doc.toJson room) (toDoc details) = .ok (presentDetails (some details)) := by
  have decoded := toJson_toDoc details legible kept.ordered kept.fits
  cases details with
  | null => rfl
  | bool | int | real | str | arr | obj => exact (optional_of_ne (by simp [toDoc])).trans (congrArg _ decoded)

theorem error_toDoc {room : Nat} {e : JobError} (legible : LegibleDetails e) (fits : DetailsFit room e) :
    (JobError.record room).decode (toDoc e.toJson) = .ok (withoutNull e) := by
  have sound : Sound (JobError.record room) :=
    ((sound_required.map JobError.mk).seq sound_required).seq sound_optional
  have known : (e.members.map Prod.fst).Sublist ["code", "message", "details"] := by
    rw [JobError.members, List.map_append]
    exact (List.Sublist.refl ["code", "message"]).append (keys_member? "details" e.details)
  have found : fieldOf e.members "details" = e.details.map toDoc := by
    simp [JobError.members]
  have details : (Record.optional "details" (Doc.toJson room)).build (fieldOf e.members) =
      .ok (presentDetails e.details) := by
    refine build_withDefault found ?_ ?_
    · intro d same
      obtain ⟨j, present, rfl⟩ := Option.map_eq_some_iff.mp same
      rw [present]
      exact details_toDoc (legible j present) (fits j present)
    · intro none
      rw [Option.map_eq_none_iff.mp none]
      rfl
  have code : (required "code" Doc.text).build (fieldOf e.members) = .ok e.code := build_required rfl rfl
  have message : (required "message" Doc.text).build (fieldOf e.members) = .ok e.message := build_required rfl rfl
  exact decode_toDoc sound known rfl (by decide) (built_seq (built_seq (built_map code _) message) details)

/-- The details of an error that was read were kept, and are not null. -/
theorem error_readable {room : Nat} {d : Doc} {e : JobError} (decoded : (JobError.record room).decode d = .ok e) :
    DetailsFit room e ∧ withoutNull e = e := by
  obtain ⟨fields, built⟩ := built_of_decode decoded
  obtain ⟨_, details, before, read, rfl⟩ := build_seq.mp built
  obtain ⟨_, message, first, -, rfl⟩ := build_seq.mp before
  obtain ⟨_, code, make, -, rfl⟩ := build_seq.mp first
  obtain rfl := Except.ok.inj make
  refine ⟨?_, ?_⟩
  · rintro j rfl
    obtain ⟨d, -, found⟩ := of_build_optional read
    exact kept_toJson d found
  · cases details with
    | none => rfl
    | some j =>
      obtain ⟨d, other, found⟩ := of_build_optional read
      cases j with
      | null => exact absurd (eq_null_of_toJson found) other
      | bool | int | real | str | arr | obj => rfl

section
variable {fields : String → Option Doc} {name : String}

theorem built_text {v : Option String} (found : fields name = (v.map Json.str).map toDoc) :
    (Record.optional name Doc.text).build fields = .ok v :=
  build_optional found fun _ _ => ⟨by simp, rfl⟩

theorem built_position {v : Option Nat} (found : fields name = (v.map Json.nat).map toDoc)
    (small : ∀ n, v = some n → n ≤ 18446744073709551615) : (Record.optional name Doc.position).build fields = .ok v :=
  build_optional found fun n present => ⟨by simp [Json.nat], natural_toDoc (small n present)⟩

theorem built_word {α : Type} {toNat : α → Nat} {value : Decoder α}
    (back : ∀ a, value (toDoc (Json.nat (toNat a))) = .ok a) {v : Option α}
    (found : fields name = ((v.map toNat).map Json.nat).map toDoc) : (Record.optional name value).build fields = .ok v := by
  have write : (v.map toNat).map Json.nat = v.map fun a => Json.nat (toNat a) := Option.map_map ..
  rw [write] at found
  exact build_optional found fun a _ => ⟨by simp [Json.nat], back a⟩

end

end BookExport.Proofs.WrittenValues
