import BookExport.Json.Decoder
import BookExport.Json.Shape
import Mathlib.Data.List.Nodup

/-! Records written as objects. What a record is built from has passed the checks of its fields, so an object whose
members are some of the fields is read as what they build. -/

namespace BookExport.Proofs.RecordFields
open Json Record

/-- What succeeds in steps succeeds in each of them. -/
theorem bind_eq_ok {ε α β : Type} {x : Except ε α} {f : α → Except ε β} {b : β} :
    x >>= f = .ok b ↔ ∃ a, x = .ok a ∧ f a = .ok b := by
  cases x with
  | error => exact ⟨nofun, fun ⟨_, impossible, _⟩ => nomatch impossible⟩
  | ok a => exact ⟨fun result => ⟨a, rfl, result⟩, fun ⟨_, same, result⟩ => by cases same; exact result⟩

/-- What a record is built from passes the checks of its fields. -/
def Sound {α : Type} (r : Record α) : Prop :=
  ∀ fields a, r.build fields = .ok a → ∀ rule ∈ r.rules, ∀ d, fields rule.name = some d → rule.check d = .ok ()

section
variable {α β : Type} {name : String} {value : Decoder α} {fields : String → Option Doc}

theorem sound_required : Sound (required name value) := by
  intro fields a built rule member d found
  obtain rfl := List.mem_singleton.mp member
  have decoded : value d = .ok a := by
    simpa only [required, show fields name = some d from found] using built
  exact congrArg (Except.map fun _ => ()) decoded

theorem sound_withDefault {absent : α} : Sound (withDefault name value absent) := by
  intro fields a built rule member d found
  obtain rfl := List.mem_singleton.mp member
  have decoded : value d = .ok a := by
    simpa only [withDefault, show fields name = some d from found] using built
  exact congrArg (Except.map fun _ => ()) decoded

theorem sound_optional : Sound (Record.optional name value) := sound_withDefault

theorem sound_nullable : Sound (nullable name value) := by
  intro fields a built rule member d found
  obtain rfl := List.mem_singleton.mp member
  have decoded : Doc.optional value d = .ok a := by
    simpa only [nullable, show fields name = some d from found] using built
  exact congrArg (Except.map fun _ => ()) decoded

theorem build_seq {f : Record (α → β)} {r : Record α} {b : β} :
    (f <*> r).build fields = .ok b ↔ ∃ g a, f.build fields = .ok g ∧ r.build fields = .ok a ∧ g a = b := by
  show (f.build fields >>= fun g => r.build fields >>= fun a => pure (g a)) = .ok b ↔ _
  cases f.build fields with
  | error fault => exact ⟨nofun, fun ⟨_, _, failed, _⟩ => nomatch failed⟩
  | ok g =>
    cases r.build fields with
    | error fault => exact ⟨nofun, fun ⟨_, _, _, failed, _⟩ => nomatch failed⟩
    | ok a =>
      refine ⟨fun same => ⟨g, a, rfl, rfl, Except.ok.inj same⟩, ?_⟩
      rintro ⟨_, _, first, second, rfl⟩
      cases first
      cases second
      rfl

theorem built_seq {f : Record (α → β)} {r : Record α} {g : α → β} {a : α} (first : f.build fields = .ok g)
    (rest : r.build fields = .ok a) : (f <*> r).build fields = .ok (g a) :=
  build_seq.mpr ⟨g, a, first, rest, rfl⟩

theorem Sound.seq {f : Record (α → β)} {r : Record α} (first : Sound f) (rest : Sound r) : Sound (f <*> r) := by
  intro fields b built rule member d found
  obtain ⟨g, a, before, after, -⟩ := build_seq.mp built
  rcases List.mem_append.mp member with inside | behind
  · exact first fields g before rule inside d found
  · exact rest fields a after rule behind d found

theorem Sound.map {r : Record α} (sound : Sound r) (f : α → β) : Sound (f <$> r) := by
  have const : Sound (Record.const f) := by
    intro fields a built rule member
    cases member
  exact const.seq sound

theorem built_map {r : Record α} {a : α} (built : r.build fields = .ok a) (f : α → β) :
    (f <$> r).build fields = .ok (f a) := built_seq rfl built

def Yields (r : Record α) (P : α → Prop) : Prop := ∀ fields a, r.build fields = .ok a → P a

theorem Yields.seq {f : Record (α → β)} {r : Record α} {P : β → Prop} (first : Yields f fun g => ∀ a, P (g a)) :
    Yields (f <*> r) P := by
  intro fields b built
  obtain ⟨g, a, before, -, rfl⟩ := build_seq.mp built
  exact first fields g before a

theorem Yields.map {f : α → β} {r : Record α} {P : β → Prop} (always : ∀ a, P (f a)) : Yields (f <$> r) P := by
  have const : Yields (Record.const f) fun g => ∀ a, P (g a) := by
    intro fields g built
    obtain rfl := Except.ok.inj built
    exact always
  exact const.seq

end

theorem lookup_eq_some_iff {β : Type} {members : List (String × β)} (distinct : (members.map Prod.fst).Nodup)
    {key : String} {d : β} : members.lookup key = some d ↔ (key, d) ∈ members := by
  induction members with
  | nil => exact ⟨nofun, nofun⟩
  | cons head rest ih =>
    obtain ⟨name, first⟩ := head
    obtain ⟨absent, others⟩ := List.nodup_cons.mp distinct
    rw [List.lookup_cons]
    by_cases same : key = name
    · subst same
      have behind : (key, d) ∉ rest := fun inside => absent (List.mem_map.mpr ⟨_, inside, rfl⟩)
      simp [behind, eq_comm]
    · have other : (key == name) = false := beq_eq_false_iff_ne.mpr same
      simp [other, same, ih others]

private theorem lookup_reverse {members : List (String × Doc)} (distinct : (members.map Prod.fst).Nodup) (key : String) :
    members.reverse.lookup key = members.lookup key := by
  have reversed : (members.reverse.map Prod.fst).Nodup := by
    rw [List.map_reverse]
    exact List.nodup_reverse.mpr distinct
  apply Option.ext
  intro d
  rw [lookup_eq_some_iff reversed, lookup_eq_some_iff distinct, List.mem_reverse]

section
variable {rules : List FieldRule} {members : List (String × Doc)}

private theorem ofMembers_known (known : ∀ member ∈ members, ∃ rule, rules.find? (·.name == member.1) = some rule ∧
      rule.check member.2 = .ok ())
    {found : List (String × Doc)} (distinct : ((members.reverse ++ found).map Prod.fst).Nodup) :
    ofMembers rules (members.map fun member => (some member.1, member.2)) found = .ok (members.reverse ++ found) := by
  induction members generalizing found with
  | nil => rfl
  | cons head rest ih =>
    obtain ⟨key, value⟩ := head
    obtain ⟨rule, named, passed⟩ := known _ List.mem_cons_self
    have moved : ((key, value) :: rest).reverse ++ found = rest.reverse ++ (key, value) :: found := by simp
    rw [moved] at distinct ⊢
    have absent : (found.lookup key).isSome = false := by
      rw [List.map_append, List.nodup_append] at distinct
      obtain ⟨missing, others⟩ := List.nodup_cons.mp distinct.2.1
      cases looked : found.lookup key with
      | none => rfl
      | some d => exact absurd (List.mem_map.mpr ⟨_, (lookup_eq_some_iff others).mp looked, rfl⟩) missing
    have later := ih (fun member inside => known member (List.mem_cons_of_mem _ inside)) distinct
    rw [List.map_cons, ofMembers, named]
    simp only [absent, Bool.false_eq_true, ↓reduceIte, passed]
    exact later

end

def docsOf (members : List (String × Json)) : List (String × Doc) := members.map fun member => (member.1, toDoc member.2)

private theorem membersToDoc_eq (members : List (String × Json)) :
    membersToDoc members = (docsOf members).map fun member => (some member.1, member.2) := by
  induction members with
  | nil => rfl
  | cons member rest ih =>
    rw [membersToDoc, ih]
    rfl

private theorem keys_docsOf (members : List (String × Json)) : (docsOf members).map Prod.fst = members.map Prod.fst :=
  List.map_map

def fieldOf (members : List (String × Json)) (name : String) : Option Doc := (members.lookup name).map toDoc

@[simp] theorem fieldOf_nil (name : String) : fieldOf [] name = none := rfl

@[simp] theorem fieldOf_cons (key : String) (value : Json) (rest : List (String × Json)) (name : String) :
    fieldOf ((key, value) :: rest) name = if name = key then some (toDoc value) else fieldOf rest name := by
  unfold fieldOf
  rw [List.lookup_cons]
  cases same : name == key with
  | true => simp [beq_iff_eq.mp same]
  | false => simp [beq_eq_false_iff_ne.mp same]

@[simp] theorem fieldOf_append (first rest : List (String × Json)) (name : String) :
    fieldOf (first ++ rest) name = (fieldOf first name).or (fieldOf rest name) := by
  unfold fieldOf
  rw [List.lookup_append]
  cases first.lookup name <;> rfl

@[simp] theorem fieldOf_member? (key : String) (value : Option Json) (name : String) :
    fieldOf (member? key value) name = if name = key then value.map toDoc else none := by
  cases value with
  | none => exact (ite_self none).symm
  | some j => exact fieldOf_cons key j [] name

private theorem toDoc_eq_null {j : Json} : toDoc j = .null ↔ j = .null := by
  cases j <;> simp [toDoc]

private theorem lookup_docsOf (members : List (String × Json)) (name : String) :
    (docsOf members).lookup name = fieldOf members name := by
  induction members with
  | nil => rfl
  | cons head rest ih =>
    unfold fieldOf docsOf at *
    rw [List.map_cons, List.lookup_cons, List.lookup_cons, ih]
    cases name == head.1 <;> rfl

/-- An object whose members are some of a record's fields is read as what its fields build. -/
theorem decode_fields {α : Type} {r : Record α} (sound : Sound r) {members : List (String × Json)}
    (known : ∀ member ∈ members, member.1 ∈ r.rules.map FieldRule.name) (once : (members.map Prod.fst).Nodup) {a : α}
    (built : r.build (fieldOf members) = .ok a) : r.decode (toDoc (.obj members)) = .ok a := by
  have distinct : ((docsOf members).map Prod.fst).Nodup := by rwa [keys_docsOf]
  have passes : ∀ member ∈ docsOf members, ∃ rule, r.rules.find? (·.name == member.1) = some rule ∧
      rule.check member.2 = .ok () := by
    intro member inside
    have listed : member.1 ∈ r.rules.map FieldRule.name := by
      obtain ⟨written, within, rfl⟩ := List.mem_map.mp inside
      exact known written within
    obtain ⟨some, listed, named⟩ := List.mem_map.mp listed
    cases found : r.rules.find? (·.name == member.1) with
    | none => exact absurd (beq_iff_eq.mpr named) (List.find?_eq_none.mp found some listed)
    | some rule =>
      have same : rule.name = member.1 := by simpa using List.find?_some found
      refine ⟨rule, rfl, sound _ a built rule (List.mem_of_find?_eq_some found) member.2 ?_⟩
      rw [← lookup_docsOf, same]
      exact (lookup_eq_some_iff distinct).mpr inside
  have fields : (fun name => (docsOf members).reverse.lookup name) = fieldOf members := by
    funext name
    rw [lookup_reverse distinct, lookup_docsOf]
  have found := @ofMembers_known r.rules (docsOf members) passes [] (by
    rw [List.append_nil, List.map_reverse]
    exact List.nodup_reverse.mpr distinct)
  rw [List.append_nil] at found
  rw [toDoc, membersToDoc_eq, Record.decode, found]
  show r.build (fun name => (docsOf members).reverse.lookup name) = _
  rw [fields, built]

/-- Fields that are written in their order come once each. -/
theorem decode_toDoc {α : Type} {r : Record α} (sound : Sound r) {members : List (String × Json)}
    {names : List String} (known : (members.map Prod.fst).Sublist names) (rules : r.rules.map FieldRule.name = names)
    (once : names.Nodup) {a : α} (built : r.build (fieldOf members) = .ok a) :
    r.decode (toDoc (.obj members)) = .ok a := by
  refine decode_fields sound ?_ (known.nodup once) built
  intro member inside
  exact rules ▸ known.subset (List.mem_map_of_mem inside)

theorem refuse_ne_ok {α : Type} (d : Doc) (a : α) : d.refuse ≠ .ok a := by
  cases d with
  | str s => cases s <;> nofun
  | _ => nofun

/-- The fields that a record takes from an object or a list. -/
inductive Taken (rules : List FieldRule) : Doc → List (String × Doc) → Prop
  | object {members : List (Option String × Doc)} {found : List (String × Doc)}
      (read : ofMembers rules members [] = .ok found) : Taken rules (.obj members) found
  | list {items : List Doc} {found : List (String × Doc)} (read : ofItems rules items = .ok found) :
      Taken rules (.arr items) found

theorem Taken.ofMembers {rules : List FieldRule} {members : List (Option String × Doc)} {found : List (String × Doc)}
    (taken : Taken rules (.obj members) found) : ofMembers rules members [] = .ok found := by
  cases taken with
  | object read => exact read

theorem Taken.ofItems {rules : List FieldRule} {items : List Doc} {found : List (String × Doc)}
    (taken : Taken rules (.arr items) found) : ofItems rules items = .ok found := by
  cases taken with
  | list read => exact read

/-- Whatever is decoded was built from the fields that were taken. -/
theorem taken_of_decode {α : Type} {r : Record α} {d : Doc} {a : α} (decoded : r.decode d = .ok a) :
    ∃ found, Taken r.rules d found ∧ r.build (List.lookup · found) = .ok a := by
  cases d with
  | obj members =>
    obtain ⟨found, read, built⟩ := bind_eq_ok.mp decoded
    exact ⟨found, .object read, built⟩
  | arr items =>
    obtain ⟨found, read, built⟩ := bind_eq_ok.mp decoded
    exact ⟨found, .list read, built⟩
  | null => exact absurd decoded (refuse_ne_ok .null a)
  | bool b => exact absurd decoded (refuse_ne_ok (.bool b) a)
  | int n => exact absurd decoded (refuse_ne_ok (.int n) a)
  | real x => exact absurd decoded (refuse_ne_ok (.real x) a)
  | str s => exact absurd decoded (refuse_ne_ok (.str s) a)
  | broken => exact absurd decoded (refuse_ne_ok .broken a)

theorem built_of_decode {α : Type} {r : Record α} {d : Doc} {a : α} (decoded : r.decode d = .ok a) :
    ∃ fields, r.build fields = .ok a := by
  obtain ⟨found, -, built⟩ := taken_of_decode decoded
  exact ⟨_, built⟩

section
variable {α : Type} {name : String} {value : Decoder α} {fields : String → Option Doc}

theorem optional_of_ne {d : Doc} (other : d ≠ .null) : Doc.optional value d = (value d).map some := by
  cases d with
  | null => exact absurd rfl other
  | _ => rfl

/-- An optional field that is there was read from a document other than null. -/
theorem of_build_optional {a : α} (built : (Record.optional name value).build fields = .ok (some a)) :
    ∃ d, d ≠ .null ∧ value d = .ok a := by
  cases found : fields name with
  | none =>
    simp only [Record.optional, withDefault, found] at built
    cases built
  | some d =>
    simp only [Record.optional, withDefault, found] at built
    have other : d ≠ .null := by
      rintro rfl
      cases built
    rw [optional_of_ne other] at built
    cases decoded : value d with
    | error fault =>
      rw [decoded] at built
      cases built
    | ok b =>
      rw [decoded] at built
      cases built
      exact ⟨d, other, decoded⟩

theorem build_required {d : Doc} {a : α} (found : fields name = some d) (decoded : value d = .ok a) :
    (required name value).build fields = .ok a := by
  simp only [required, found, decoded]

theorem build_withDefault {absent a : α} {d : Option Doc} (found : fields name = d)
    (decoded : ∀ d', d = some d' → value d' = .ok a) (left : d = none → absent = a) :
    (withDefault name value absent).build fields = .ok a := by
  cases d with
  | none => simp only [withDefault, found, left rfl]
  | some d => simp only [withDefault, found, decoded d rfl]

/-- An optional field that is left out when it is absent. -/
theorem build_optional {v : Option α} {write : α → Json} (found : fields name = (v.map write).map toDoc)
    (decoded : ∀ a, v = some a → write a ≠ .null ∧ value (toDoc (write a)) = .ok a) :
    (Record.optional name value).build fields = .ok v := by
  refine build_withDefault found ?_ ?_
  · intro d same
    obtain ⟨j, written, rfl⟩ := Option.map_eq_some_iff.mp same
    obtain ⟨a, present, rfl⟩ := Option.map_eq_some_iff.mp written
    obtain ⟨other, decoded⟩ := decoded a present
    rw [optional_of_ne (mt toDoc_eq_null.mp other), decoded, present]
    rfl
  · intro none
    exact (Option.map_eq_none_iff.mp (Option.map_eq_none_iff.mp none)).symm

/-- An optional field that is written as null when it is absent. -/
theorem build_nullable {v : Option α} {write : α → Json} (found : fields name = some (toDoc (orNull (v.map write))))
    (decoded : ∀ a, v = some a → write a ≠ .null ∧ value (toDoc (write a)) = .ok a) :
    (nullable name value).build fields = .ok v := by
  cases v with
  | none =>
    simp only [nullable, found]
    rfl
  | some a =>
    obtain ⟨other, decoded⟩ := decoded a rfl
    have read : Doc.optional value (toDoc (write a)) = .ok (some a) := by
      rw [optional_of_ne (mt toDoc_eq_null.mp other), decoded]
      rfl
    simp only [nullable, found]
    exact read

end

end BookExport.Proofs.RecordFields
