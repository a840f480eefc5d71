import BookExport.Exporter.Message
import BookExport.Proofs.FormatLists
import BookExport.Proofs.ScatteredFields
import BookExport.Proofs.TrimmedTexts
import BookExport.Proofs.WireRoundTrips

/-! The lines of an exporter. A report or a result comes through whatever else its line holds, wherever the type stands; a
line with a value that its field cannot have says nothing. -/

namespace BookExport.Proofs.TaggedMessages
open Exporter Json Record RecordFields ScatteredFields TrimmedTexts WrittenValues WireRoundTrips

def kinds : List String := ["progress", "result", "error"]

/-- The fields of the messages of a type, in their order. -/
def fieldsOf : String → List String
  | "progress" =>
    ["status", "percentage", "message", "eta_seconds", "current_chapter", "total_chapters", "chapter_title"]
  | "result" => ["title", "files"]
  | "error" => ["code", "message"]
  | _ => []

/-- A line that gives a type and some fields in any order, among other members and between blanks. -/
structure Line (type : String) (fields : List (String × Json)) where
  extras : List (String × Json)
  members : List (String × Json)
  before : String
  after : String
  scattered : members.Perm ((Message.tag, .str type) :: (fields ++ extras))
  unknown : ∀ extra ∈ extras, extra.1 ≠ Message.tag ∧ extra.1 ∉ fieldsOf type
  legible : ∀ extra ∈ extras, Legible extra.2
  shallow : ∀ extra ∈ extras, depth extra.2 ≤ 126
  blankBefore : Blank before.toList
  blankAfter : Blank after.toList

def Line.text {type : String} {fields : List (String × Json)} (line : Line type fields) : String :=
  line.before ++ (Json.obj line.members).render ++ line.after

def IsText (d : Doc) : Prop := ∃ s, d = .str (some s)

def IsNatural (high : Nat) (d : Doc) : Prop := ∃ n : Nat, n ≤ high ∧ d = .int n

def OrNull (allowed : Doc → Prop) (d : Doc) : Prop := d = .null ∨ allowed d

/-- The name of a status, alone or as the only key of an object in which it stands for nothing. -/
def IsStatus (d : Doc) : Prop :=
  ∃ s : Status, d = .str (some s.name) ∨ d = .obj [(some s.name, .null)] ∨ d = .obj [(some s.name, .obj [])]

def IsPaths (d : Doc) : Prop := ∃ paths : List String, d = .arr (paths.map fun path => .str (some path))

def IsFiles (d : Doc) : Prop :=
  ∃ members, d = .obj members ∧
    ∀ key value, (key, value) ∈ members → (∃ f : Format, key = some f.name) ∧ IsPaths value

/-- The values that a field of a message may have. -/
def Allows : String → String → Doc → Prop
  | "progress", "status" => IsStatus
  | "progress", "percentage" => IsNatural 255
  | "progress", "message" => OrNull IsText
  | "progress", "eta_seconds" => OrNull (IsNatural 18446744073709551615)
  | "progress", "current_chapter" => OrNull (IsNatural 4294967295)
  | "progress", "total_chapters" => OrNull (IsNatural 4294967295)
  | "progress", "chapter_title" => OrNull IsText
  | "result", "title" => OrNull IsText
  | "result", "files" => IsFiles
  | "error", "code" => IsText
  | "error", "message" => IsText
  | _, _ => fun _ => True

/-- The type of a message is a member of its object, or the first item of its list. -/
inductive Typed : Doc → String → Prop
  | object {members : List (Option String × Doc)} {type : String}
      (only : Message.types members = [(some Message.tag, .str (some type))]) : Typed (.obj members) type
  | list {items : List Doc} {type : String} : Typed (.arr (.str (some type) :: items)) type

/-- A message of some type gives this value for a field. -/
inductive Gives : Doc → String → String → Doc → Prop
  | member {members : List (Option String × Doc)} {type field : String} {value : Doc}
      (typed : (some Message.tag, .str (some type)) ∈ members) (known : field ∈ fieldsOf type)
      (inside : (some field, value) ∈ members) : Gives (.obj members) type field value
  | item {items : List Doc} {type field : String} {value : Doc} {i : Nat} (known : (fieldsOf type)[i]? = some field)
      (inside : items[i]? = some value) : Gives (.arr (.str (some type) :: items)) type field value

/-- Documents that are no messages. -/
inductive Misfit : Doc → Prop
  | untyped {d : Doc} (strange : ∀ type ∈ kinds, ¬Typed d type) : Misfit d
  | value {d value : Doc} {type field : String} (gives : Gives d type field value) (refused : ¬Allows type field value) :
      Misfit d
  | statusless {d : Doc} (typed : Typed d "progress") (missing : ∀ value, ¬Gives d "progress" "status" value) : Misfit d
  | overlong {type : String} {items : List Doc} (more : (fieldsOf type).length < items.length) :
      Misfit (.arr (.str (some type) :: items))

private theorem begins_render (members : List (String × Json)) :
    ∀ c, (Json.obj members).render.toList.head? = some c → Text.isBlank c = false := by
  intro c first
  rw [render, String.toList_ofList] at first
  cases members <;> cases first <;> decide

private theorem getLast?_printMembers (members : List (String × Json)) : (printMembers members).getLast? = some '\x7d' := by
  induction members with
  | nil => rfl
  | cons member rest ih =>
    obtain ⟨key, value⟩ := member
    have split : printMembers ((key, value) :: rest) =
        ',' :: (printText key ++ ':' :: print value) ++ printMembers rest := by simp [printMembers]
    rw [split, List.getLast?_append, ih]
    rfl

private theorem ends_render (members : List (String × Json)) :
    ∀ c, (Json.obj members).render.toList.getLast? = some c → Text.isBlank c = false := by
  have last : (Json.obj members).render.toList.getLast? = some '\x7d' := by
    rw [render, String.toList_ofList]
    cases members with
    | nil => rfl
    | cons member rest =>
      obtain ⟨key, value⟩ := member
      have split : print (.obj ((key, value) :: rest)) =
          '\x7b' :: (printText key ++ ':' :: print value) ++ printMembers rest := by simp [print]
      rw [split, List.getLast?_append, getLast?_printMembers]
      rfl
  intro c same
  rw [last] at same
  cases same
  decide

private theorem trim_surrounded {before after : List Char} (blankBefore : Blank before) (blankAfter : Blank after)
    (members : List (String × Json)) :
    Text.trim (String.ofList (before ++ (Json.obj members).render.toList ++ after)) = (Json.obj members).render := by
  have trims : Trims (before ++ (Json.obj members).render.toList ++ after) (Json.obj members).render.toList :=
    ⟨⟨before, after, rfl, blankBefore, blankAfter⟩, begins_render _, ends_render _⟩
  rw [Text.trim, String.toList_ofList, trims.eq, String.ofList_toList]

theorem trim_render (members : List (String × Json)) :
    Text.trim (Json.obj members).render = (Json.obj members).render := by
  have alone := @trim_surrounded [] [] nofun nofun members
  rwa [List.nil_append, List.append_nil, String.ofList_toList] at alone

/-- Trimming a line leaves its object. -/
theorem Line.trim_text {type : String} {fields : List (String × Json)} (line : Line type fields) :
    Text.trim line.text = (Json.obj line.members).render := by
  have text : line.text =
      String.ofList (line.before.toList ++ (Json.obj line.members).render.toList ++ line.after.toList) := by
    apply String.toList_inj.mp
    rw [Line.text, String.toList_append, String.toList_append, String.toList_ofList]
  rw [text, trim_surrounded line.blankBefore line.blankAfter]

/-- What is asked of the fields of a message for them to come through. -/
structure Plain (type : String) (fields : List (String × Json)) : Prop where
  known : (fields.map Prod.fst).Sublist (fieldsOf type)
  legible : MembersLegible fields
  shallow : ∀ field ∈ fields, depth field.2 ≤ 126

private theorem nodup_fieldsOf (type : String) : (fieldsOf type).Nodup := by
  unfold fieldsOf
  split <;> decide

private theorem tag_not_mem_fieldsOf (type : String) : Message.tag ∉ fieldsOf type := by
  unfold fieldsOf
  split <;> decide

section
variable {type : String} {fields : List (String × Json)} (line : Line type fields)

theorem Plain.untagged (plain : Plain type fields) : ∀ field ∈ fields, field.1 ≠ Message.tag := by
  intro field inside same
  exact tag_not_mem_fieldsOf type (same ▸ plain.known.subset (List.mem_map_of_mem inside))

theorem Line.each (plain : Plain type fields) : ∀ member ∈ line.members, Legible member.2 ∧ depth member.2 ≤ 126 := by
  intro member inside
  rcases List.mem_cons.mp (line.scattered.mem_iff.mp inside) with rfl | rest
  · exact ⟨trivial, Nat.zero_le _⟩
  · rcases List.mem_append.mp rest with own | extra
    · exact ⟨membersLegible_iff.mp plain.legible member own, plain.shallow member own⟩
    · exact ⟨line.legible member extra, line.shallow member extra⟩

theorem Line.legible_members (plain : Plain type fields) : Legible (.obj line.members) :=
  membersLegible_iff.mpr fun member inside => (line.each plain member inside).1

theorem Line.fits (plain : Plain type fields) : depth (.obj line.members) ≤ Doc.maxDepth :=
  Nat.succ_le_succ (membersDepth_le_iff.mpr fun member inside => (line.each plain member inside).2)

/-- The type is given once. -/
theorem Line.types_eq (plain : Plain type fields) :
    Message.types (membersToDoc line.members) = [(some Message.tag, .str (some type))] := by
  have alone : (line.members.filter fun member => some member.1 == some Message.tag) = [(Message.tag, .str type)] := by
    apply List.perm_singleton.mp
    have none : ((fields ++ line.extras).filter fun member => some member.1 == some Message.tag) = [] := by
      apply List.filter_eq_nil_iff.mpr
      intro member inside same
      have tagged : member.1 = Message.tag := Option.some.inj (beq_iff_eq.mp same)
      rcases List.mem_append.mp inside with own | extra
      · exact plain.untagged member own tagged
      · exact (line.unknown member extra).1 tagged
    apply (line.scattered.filter _).trans
    rw [List.filter_cons_of_pos (by simp), none]
  have types : Message.types (membersToDoc line.members) =
      membersToDoc (line.members.filter fun member => some member.1 == some Message.tag) :=
    filter_membersToDoc (· == some Message.tag) line.members
  rw [types, alone]
  rfl

/-- The members but the type. -/
def Line.rest : List (String × Json) := line.members.filter fun member => some member.1 != some Message.tag

theorem Line.filter_rest (plain : Plain type fields) {rules : List FieldRule}
    (named : rules.map FieldRule.name = fieldsOf type) :
    (line.rest.filter fun member => HasField rules member.1).Perm fields := by
  have rest : line.rest.Perm (fields ++ line.extras) := by
    apply (line.scattered.filter _).trans
    rw [List.filter_cons_of_neg (by simp), List.filter_eq_self.mpr]
    intro member inside
    rw [bne_iff_ne, ne_eq, Option.some_inj]
    exact (List.mem_append.mp inside).elim (plain.untagged member) fun extra => (line.unknown member extra).1
  apply (rest.filter _).trans
  have own : (fields.filter fun member => HasField rules member.1) = fields := by
    apply List.filter_eq_self.mpr
    intro member inside
    rw [decide_eq_true_iff, HasField, named]
    exact plain.known.subset (List.mem_map_of_mem inside)
  have others : (line.extras.filter fun member => HasField rules member.1) = [] := by
    apply List.filter_eq_nil_iff.mpr
    intro member inside
    rw [decide_eq_true_iff, HasField, named]
    exact (line.unknown member inside).2
  rw [List.filter_append, own, others, List.append_nil]

theorem Line.reads (plain : Plain type fields) {message : Message}
    (typed : Message.ofType type (toDoc (.obj line.rest)) = .ok message) : Message.ofLine? line.text = some message := by
  obtain ⟨kept, whole⟩ := exists_toJson _ (line.legible_members plain) (line.fits plain)
  have decoded : Message.decode (toDoc (.obj line.members)) = .ok message := by
    have rest : (membersToDoc line.members).filter (fun member => member.1 != some Message.tag) = membersToDoc line.rest :=
      filter_membersToDoc (· != some Message.tag) line.members
    rw [toDoc] at whole typed ⊢
    rw [Message.decode, whole, line.types_eq plain, rest]
    exact typed
  rw [Message.ofLine?, line.trim_text, decode_render (line.legible_members plain) decoded]

end

theorem shallow_member? {key : String} {value : Option Json} {room : Nat} (each : ∀ j, value = some j → depth j ≤ room) :
    ∀ member ∈ member? key value, depth member.2 ≤ room := by
  cases value with
  | none => nofun
  | some j => exact List.forall_mem_singleton.mpr (each j rfl)

theorem shallow_text (key : String) (value : Option String) : ∀ member ∈ optionalText key value, depth member.2 ≤ 126 := by
  apply shallow_member?
  intro j present
  obtain ⟨text, -, rfl⟩ := Option.map_eq_some_iff.mp present
  exact Nat.zero_le _

theorem shallow_nat (key : String) (value : Option Nat) : ∀ member ∈ optionalNat key value, depth member.2 ≤ 126 := by
  apply shallow_member?
  intro j present
  obtain ⟨n, -, rfl⟩ := Option.map_eq_some_iff.mp present
  exact Nat.zero_le _

private theorem plain_update (u : ProgressUpdate) : Plain "progress" u.members := by
  refine ⟨update_known u, legible_update u, ?_⟩
  simp only [ProgressUpdate.members, List.forall_mem_append]
  exact ⟨⟨⟨⟨⟨by simp [Status.toJson, Json.nat, depth], shallow_text _ _⟩, shallow_nat _ _⟩, shallow_nat _ _⟩,
    shallow_nat _ _⟩, shallow_text _ _⟩

private theorem depth_paths (paths : List String) : depth (OutputFiles.paths paths) ≤ 1 := by
  apply Nat.succ_le_succ
  induction paths with
  | nil => exact Nat.le_refl _
  | cons path rest ih => exact Nat.max_le.mpr ⟨Nat.le_refl _, ih⟩

private theorem plain_outputs (o : JobOutputs) : Plain "result" o.members := by
  refine ⟨outputs_known o, legible_outputs o, ?_⟩
  have files : depth o.files.toJson ≤ 126 := by
    apply Nat.succ_le_succ
    apply membersDepth_le_iff.mpr
    intro member inside
    obtain ⟨f, -, written⟩ := List.mem_flatMap.mp inside
    apply shallow_member? ?_ member written
    intro j present
    obtain ⟨paths, -, rfl⟩ := Option.map_eq_some_iff.mp present
    exact Nat.le_trans (depth_paths paths) (by decide)
  simp only [JobOutputs.members, List.forall_mem_append]
  exact ⟨shallow_text _ _, List.forall_mem_singleton.mpr files⟩

private theorem status_comesBack (s : Status) : Message.status (toDoc s.toJson) = .ok s := status_toDoc s

private theorem progress_comesThrough (u : ProgressUpdate) (line : Line "progress" u.members) :
    Message.ofLine? line.text = some (.progress u) := by
  have plain := plain_update u
  apply line.reads plain
  have decoded : (ProgressUpdate.recordWith Message.status).decode (toDoc (.obj line.rest)) = .ok u :=
    decode_scattered sound_update (line.filter_rest plain rfl) (plain.known.nodup (nodup_fieldsOf _))
      (update_built status_comesBack u)
  exact congrArg (Except.map Message.progress) decoded

private theorem result_comesThrough (o : JobOutputs) (line : Line "result" o.members) :
    Message.ofLine? line.text = some (.result o) := by
  have plain := plain_outputs o
  apply line.reads plain
  have decoded : JobOutputs.decode (toDoc (.obj line.rest)) = .ok o :=
    decode_scattered sound_outputs (line.filter_rest plain rfl) (plain.known.nodup (nodup_fieldsOf _)) (outputs_built o)
  exact congrArg (Except.map Message.result) decoded

section
variable {d : Doc}

theorem isText_of_text {s : String} (decoded : Doc.text d = .ok s) : IsText d := by
  unfold Doc.text at decoded
  split at decoded
  · exact ⟨_, rfl⟩
  · exact absurd decoded (refuse_ne_ok _ _)

private theorem isNatural_of_natural {high n : Nat} (decoded : Doc.natural high d = .ok n) : IsNatural high d := by
  obtain ⟨m, integer, -⟩ := map_eq_ok decoded
  unfold Doc.integer at integer
  split at integer
  next k =>
    split at integer
    next inside => exact ⟨k.toNat, by omega, by rw [Int.toNat_of_nonneg inside.1]⟩
    next => cases integer
  next => exact absurd integer (refuse_ne_ok _ _)

theorem isNatural_of_word {α : Type} {high : Nat} {ofNat : Nat → α} {a : α}
    (decoded : (Doc.natural high d).map ofNat = .ok a) : IsNatural high d := by
  obtain ⟨n, natural, -⟩ := map_eq_ok decoded
  exact isNatural_of_natural natural

theorem ofName?_eq_some {name : String} {s : Status} (found : Status.ofName? name = some s) : name = s.name := by
  have same := List.find?_some found
  exact (beq_iff_eq.mp same).symm

private theorem named_of_decode {s : Status} (decoded : Status.decode d = .ok s) :
    d = .str (some s.name) ∨ d = .obj [(some s.name, .null)] := by
  have known {name : String} (read : Doc.named.orRefuse (Status.ofName? name) = .ok s) : name = s.name := by
    cases found : Status.ofName? name with
    | none => rw [found] at read; cases read
    | some other =>
      rw [found] at read
      cases read
      exact ofName?_eq_some found
  unfold Status.decode Doc.named at decoded
  split at decoded
  next => exact Or.inl (known decoded ▸ rfl)
  next => exact Or.inr (known decoded ▸ rfl)
  next => exact absurd decoded (refuse_ne_ok _ _)

private theorem isStatus_of_status {s : Status} (decoded : Message.status d = .ok s) : IsStatus d := by
  unfold Message.status at decoded
  split at decoded
  next name =>
    refine ⟨s, Or.inr (Or.inr ?_)⟩
    rcases named_of_decode decoded with never | same
    · cases never
    · cases same
      rfl
  next => exact ⟨s, (named_of_decode decoded).imp_right Or.inl⟩

private theorem isPaths_of_list {paths : List String} (decoded : Doc.list Doc.text d = .ok paths) : IsPaths d := by
  unfold Doc.list at decoded
  split at decoded
  next items =>
    refine ⟨paths, congrArg Doc.arr ?_⟩
    induction items generalizing paths with
    | nil => cases decoded; rfl
    | cons item rest ih =>
      rw [List.mapM_cons] at decoded
      obtain ⟨path, first, step⟩ := bind_eq_ok.mp decoded
      obtain ⟨others, later, whole⟩ := bind_eq_ok.mp step
      obtain ⟨text, rfl⟩ := isText_of_text first
      cases first
      cases whole
      rw [List.map_cons, ih later]
  next => exact absurd decoded (refuse_ne_ok _ _)

private theorem isFiles_of_decode {files : OutputFiles} (decoded : OutputFiles.decode d = .ok files) : IsFiles d := by
  unfold OutputFiles.decode at decoded
  split at decoded
  next members =>
    refine ⟨members, rfl, ?_⟩
    generalize ({} : OutputFiles) = done at decoded
    induction members generalizing done with
    | nil => exact fun _ _ inside => nomatch inside
    | cons member rest ih =>
      intro key value inside
      obtain ⟨none | name, first⟩ := member
      · cases decoded
      · rw [OutputFiles.ofMembers] at decoded
        split at decoded
        next => cases decoded
        next f named =>
          obtain ⟨paths, read, others⟩ := bind_eq_ok.mp decoded
          rcases List.mem_cons.mp inside with same | behind
          · cases same
            exact ⟨⟨f, congrArg some (FormatLists.ofName?_eq_some.mp named)⟩, isPaths_of_list read⟩
          · exact ih _ others key value behind
  next => exact absurd decoded (refuse_ne_ok _ _)

end

private theorem checks_progress : Checks (ProgressUpdate.recordWith Message.status) (Allows "progress") :=
  ((((((Checks.map (checks_required fun _ _ => isStatus_of_status) _).seq
    (checks_withDefault fun _ _ => isNatural_of_word)).seq
    (checks_optional (Or.inl rfl) fun _ _ decoded => Or.inr (isText_of_text decoded))).seq
    (checks_optional (Or.inl rfl) fun _ _ decoded => Or.inr (isNatural_of_word decoded))).seq
    (checks_optional (Or.inl rfl) fun _ _ decoded => Or.inr (isNatural_of_word decoded))).seq
    (checks_optional (Or.inl rfl) fun _ _ decoded => Or.inr (isNatural_of_word decoded))).seq
    (checks_optional (Or.inl rfl) fun _ _ decoded => Or.inr (isText_of_text decoded))

private theorem checks_result : Checks JobOutputs.record (Allows "result") :=
  (Checks.map (checks_optional (Or.inl rfl) fun _ _ decoded => Or.inr (isText_of_text decoded)) _).seq
    (checks_withDefault fun _ _ => isFiles_of_decode)

private theorem checks_error : Checks Message.errorRecord (Allows "error") :=
  (Checks.map (checks_required fun _ _ => isText_of_text) _).seq (checks_required fun _ _ => isText_of_text)

private theorem demands_status : Demands (ProgressUpdate.recordWith Message.status) "status" :=
  ((((((demands_required.map _).seq).seq).seq).seq).seq).seq

/-- The record by which the messages of a type are read. -/
structure ReadBy (type : String) (rules : List FieldRule) : Prop where
  names : rules.map FieldRule.name = fieldsOf type
  allowed : ∀ rule ∈ rules, ∀ d, rule.check d = .ok () → Allows type rule.name d

private theorem mem_of_lookup {key : String} {d : Doc} {found : List (String × Doc)} (looked : found.lookup key = some d) :
    (key, d) ∈ found := by
  obtain ⟨before, after, rfl, -⟩ := List.lookup_eq_some_iff.mp looked
  exact List.mem_append_right before List.mem_cons_self

private theorem ofType_cases {type : String} {rest : Doc} {message : Message} (read : Message.ofType type rest = .ok message) :
    (type = "progress" ∧ ∃ u, (ProgressUpdate.recordWith Message.status).decode rest = .ok u) ∨
      (type = "result" ∧ ∃ o, JobOutputs.record.decode rest = .ok o) ∨
      type = "error" ∧ ∃ e, Message.errorRecord.decode rest = .ok e := by
  unfold Message.ofType at read
  split at read
  next =>
    obtain ⟨u, decoded, -⟩ := map_eq_ok read
    exact Or.inl ⟨rfl, u, decoded⟩
  next =>
    obtain ⟨o, decoded, -⟩ := map_eq_ok read
    exact Or.inr (Or.inl ⟨rfl, o, decoded⟩)
  next => exact Or.inr (Or.inr ⟨rfl, message, read⟩)
  next => cases read

/-- The fields that a message of a type was built from. -/
structure Found (type : String) (rules : List FieldRule) (found : List (String × Doc)) : Prop where
  kind : type ∈ kinds
  readBy : ReadBy type rules
  status : type = "progress" → ∃ d, ("status", d) ∈ found

theorem found_of_ofType {type : String} {rest : Doc} {message : Message}
    (read : Message.ofType type rest = .ok message) :
    ∃ rules found, Found type rules found ∧ Taken rules rest found := by
  rcases ofType_cases read with ⟨rfl, u, decoded⟩ | ⟨rfl, o, decoded⟩ | ⟨rfl, e, decoded⟩
  all_goals obtain ⟨found, taken, built⟩ := taken_of_decode decoded
  · obtain ⟨d, looked⟩ := demands_status _ u built
    exact ⟨_, found, ⟨by decide, ⟨rfl, checks_progress⟩, fun _ => ⟨d, mem_of_lookup looked⟩⟩, taken⟩
  · exact ⟨_, found, ⟨by decide, ⟨rfl, checks_result⟩, fun same => absurd same (by decide)⟩, taken⟩
  · exact ⟨_, found, ⟨by decide, ⟨rfl, checks_error⟩, fun same => absurd same (by decide)⟩, taken⟩

private theorem typed_of_types {members : List (Option String × Doc)} {key : Option String} {type : String}
    (only : Message.types members = [(key, .str (some type))]) : key = some Message.tag := by
  have inside : (key, Doc.str (some type)) ∈ Message.types members := only ▸ List.mem_cons_self
  exact beq_iff_eq.mp (List.mem_filter.mp inside).2

/-- A message is an object with one type, or a list behind its type. -/
private theorem decode_cases {d : Doc} {message : Message} (decoded : Message.decode d = .ok message) :
    (∃ members type, d = .obj members ∧ Message.types members = [(some Message.tag, .str (some type))] ∧
        Message.ofType type (.obj (members.filter fun member => member.1 != some Message.tag)) = .ok message) ∨
      ∃ items type, d = .arr (.str (some type) :: items) ∧ Message.ofType type (.arr items) = .ok message := by
  obtain ⟨_, kept, said⟩ := bind_eq_ok.mp decoded
  clear decoded kept
  split at said
  next members =>
    split at said
    next key type only => exact Or.inl ⟨members, type, rfl, typed_of_types only ▸ only, said⟩
    next => cases said
  next type items => exact Or.inr ⟨items, type, rfl, said⟩
  next => cases said

theorem not_misfit_of_members {members : List (Option String × Doc)} {type : String} {message : Message}
    (only : Message.types members = [(some Message.tag, .str (some type))])
    (read : Message.ofType type (.obj (members.filter fun member => member.1 != some Message.tag)) = .ok message) :
    ¬Misfit (.obj members) := by
  obtain ⟨rules, found, ⟨kind, readBy, status⟩, taken⟩ := found_of_ofType read
  have same {other : String} (inside : (some Message.tag, Doc.str (some other)) ∈ members) : other = type := by
    have among : (some Message.tag, Doc.str (some other)) ∈ Message.types members :=
      List.mem_filter.mpr ⟨inside, beq_self_eq_true _⟩
    rw [only] at among
    cases List.mem_singleton.mp among
    rfl
  rintro (strange | @⟨_, value, _, field, gives, refused⟩ | ⟨typed, missing⟩ | _)
  · exact strange type kind (.object only)
  · cases gives with
    | member typed known inside =>
      obtain rfl := same typed
      have kept : (some field, value) ∈ members.filter fun member => member.1 != some Message.tag := by
        refine List.mem_filter.mpr ⟨inside, bne_iff_ne.mpr fun tagged => ?_⟩
        exact tag_not_mem_fieldsOf _ (Option.some.inj tagged ▸ known)
      have hasField : HasField rules field := by rwa [HasField, readBy.names]
      obtain ⟨rule, listed, rfl, passed⟩ := checked_of_ofMembers taken.ofMembers kept hasField
      exact refused (readBy.allowed rule listed value passed)
  · cases typed with
    | object onlyProgress =>
      rw [only] at onlyProgress
      cases onlyProgress
      obtain ⟨d, inside⟩ := status rfl
      rcases mem_of_ofMembers taken.ofMembers inside with never | within
      · cases never
      · have tagged : (some Message.tag, Doc.str (some "progress")) ∈ Message.types members := only ▸ List.mem_cons_self
        exact missing d (.member (List.mem_filter.mp tagged).1 (by decide) (List.mem_filter.mp within).1)

theorem not_misfit_of_items {items : List Doc} {type : String} {message : Message}
    (read : Message.ofType type (.arr items) = .ok message) : ¬Misfit (.arr (.str (some type) :: items)) := by
  obtain ⟨rules, found, ⟨kind, readBy, status⟩, taken⟩ := found_of_ofType read
  obtain ⟨short, passed⟩ := checked_of_ofItems taken.ofItems
  have length : rules.length = (fieldsOf type).length := by rw [← readBy.names, List.length_map]
  rintro (strange | ⟨gives, refused⟩ | ⟨typed, missing⟩ | more)
  · exact strange type kind .list
  · cases gives with
    | item known inside =>
      rw [← readBy.names, List.getElem?_map] at known
      obtain ⟨rule, place, rfl⟩ := Option.map_eq_some_iff.mp known
      exact refused (readBy.allowed rule (List.mem_of_getElem? place) _ (passed _ rule _ place inside))
  · cases typed
    obtain ⟨d, inside⟩ := status rfl
    obtain ⟨i, named, item⟩ := mem_of_ofItems taken.ofItems inside
    exact missing d (.item (readBy.names ▸ named) item)
  · omega

theorem misfit_says_nothing {line : String} (misfit : Misfit (Json.read (Text.trim line)).doc) :
    Message.ofLine? line = none := by
  unfold Message.ofLine?
  split
  next message said =>
    obtain ⟨_, decoded, -⟩ := bind_eq_ok.mp said
    rcases decode_cases decoded with ⟨members, type, same, only, read⟩ | ⟨items, type, same, read⟩
    · exact absurd (same ▸ misfit) (not_misfit_of_members only read)
    · exact absurd (same ▸ misfit) (not_misfit_of_items read)
  next => rfl

/-- Reports and results come through with whatever else is in their lines, and a line with a value that its field cannot
have says nothing. -/
theorem tagged_lines_carry_the_model :
    (∀ (u : ProgressUpdate) (line : Line "progress" u.members), Message.ofLine? line.text = some (.progress u)) ∧
      (∀ (o : JobOutputs) (line : Line "result" o.members), Message.ofLine? line.text = some (.result o)) ∧
      ∀ line : String, Misfit (Json.read (Text.trim line)).doc → Message.ofLine? line = none :=
  ⟨progress_comesThrough, result_comesThrough, fun _ misfit => misfit_says_nothing misfit⟩

def starting : ProgressUpdate := { status := .starting }

/-- The same report with its status as an object in which an empty object stands for nothing. -/
def oddly : List (String × Json) := [("status", .obj [("starting", .obj [])]), ("percentage", .int 0)]

/-- A member that nobody knows hides a report when it is nested too deep, and a status that a report cannot have alone it
can have in a message. -/
theorem some_tagged_lines_drift :
    (Integral (nested 126) ∧ "x" ∉ Message.tag :: fieldsOf "progress" ∧
        Message.ofLine? (Json.obj ((Message.tag, .str "progress") :: (starting.members ++ [("x", nested 126)]))).render =
          none) ∧
      (ProgressUpdate.decode (toDoc (.obj oddly))).isOk = false ∧
        Message.ofLine? (Json.obj ((Message.tag, .str "progress") :: oddly)).render = some (.progress starting) := by
  have deep : Legible (.obj ((Message.tag, .str "progress") :: (starting.members ++ [("x", nested 126)]))) := by
    refine ⟨trivial, (legible_append ..).mpr ⟨legible_update starting, (integral_nested 126).legible, trivial⟩⟩
  have odd : Legible (.obj ((Message.tag, .str "progress") :: oddly)) := ⟨trivial, ⟨trivial, trivial⟩, rfl, trivial⟩
  refine ⟨⟨integral_nested 126, by decide, ?_⟩, by decide, ?_⟩
  · rw [Message.ofLine?, trim_render, Json.decode, WrittenJson.read_render deep]
    decide +kernel
  · rw [Message.ofLine?, trim_render, Json.decode, WrittenJson.read_render odd]
    decide +kernel

/-- A report written from the back, with one more member in front. -/
def backwards : Line "progress" starting.members where
  extras := [("x", .arr [.null])]
  members := ((Message.tag, .str "progress") :: (starting.members ++ [("x", .arr [.null])])).reverse
  before := "\t"
  after := " \r"
  scattered := List.reverse_perm _
  unknown := List.forall_mem_singleton.mpr (by decide)
  legible := List.forall_mem_singleton.mpr ⟨trivial, trivial⟩
  shallow := List.forall_mem_singleton.mpr (by decide)
  blankBefore := List.all_eq_true.mp rfl
  blankAfter := List.all_eq_true.mp rfl

/-- A percentage of one too many. -/
def excessive : List (String × Json) :=
  [(Message.tag, .str "progress"), ("status", .str "starting"), ("percentage", .int 256)]

theorem tagged_lines_carry_the_model_backwards :
    Message.ofLine? backwards.text = some (.progress starting) ∧ Message.ofLine? (Json.obj excessive).render = none := by
  have misfit : Misfit (Json.read (Text.trim (Json.obj excessive).render)).doc := by
    rw [trim_render, WrittenJson.read_render (j := .obj excessive) ⟨trivial, trivial, rfl, trivial⟩]
    have gives : Gives (toDoc (.obj excessive)) "progress" "percentage" (.int 256) :=
      .member List.mem_cons_self (by decide) (List.mem_cons_of_mem _ (List.mem_cons_of_mem _ List.mem_cons_self))
    apply Misfit.value gives
    rintro ⟨n, small, same⟩
    have value : (256 : Int) = n := Doc.int.inj same
    omega
  exact ⟨tagged_lines_carry_the_model.1 starting backwards, tagged_lines_carry_the_model.2.2 _ misfit⟩

end BookExport.Proofs.TaggedMessages
