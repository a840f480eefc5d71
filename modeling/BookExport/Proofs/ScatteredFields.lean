import BookExport.Proofs.RecordFields

/-! Records in objects that hold other members too. Members that are no fields are skipped, and the fields may stand in any
order among them; whatever was read passed the checks of its fields. -/

namespace BookExport.Proofs.ScatteredFields
open Json Record RecordFields

mutual

/-- A document of a value is sound, so it can be skipped. -/
private theorem isWhole_toDoc : (j : Json) → (toDoc j).isWhole = true
  | .null | .bool _ | .int _ | .real _ | .str _ => rfl
  | .arr items => itemsWhole_toDoc items
  | .obj members => membersWhole_toDoc members

private theorem itemsWhole_toDoc : (items : List Json) → Doc.itemsWhole (itemsToDoc items) = true
  | [] => rfl
  | item :: rest => Bool.and_eq_true_iff.mpr ⟨isWhole_toDoc item, itemsWhole_toDoc rest⟩

private theorem membersWhole_toDoc : (members : List (String × Json)) → Doc.membersWhole (membersToDoc members) = true
  | [] => rfl
  | (_, value) :: rest => Bool.and_eq_true_iff.mpr ⟨isWhole_toDoc value, membersWhole_toDoc rest⟩

end

mutual

/-- A value whose numbers read back can be kept whole where there is room for it. -/
theorem exists_toJson : (j : Json) → Legible j → {room : Nat} → depth j ≤ room → ∃ kept, (toDoc j).toJson room = .ok kept
  | .null, _, _, _ => ⟨_, rfl⟩
  | .bool _, _, _, _ => ⟨_, rfl⟩
  | .int _, _, _, _ => ⟨_, rfl⟩
  | .str _, _, _, _ => ⟨_, rfl⟩
  | .real x, reads, _, _ => by
    obtain ⟨d, read, back⟩ := Option.bind_eq_some_iff.mp reads
    exact ⟨.real x, by rw [toDoc, read, Option.getD_some, Doc.toJson, back]⟩
  | .arr items, legible, room, fits => by
    cases room with
    | zero => cases fits
    | succ room =>
      obtain ⟨kept, read⟩ := exists_itemsToJson items legible (Nat.le_of_succ_le_succ fits)
      exact ⟨.arr kept, by rw [toDoc, Doc.toJson, read]; rfl⟩
  | .obj members, legible, room, fits => by
    cases room with
    | zero => cases fits
    | succ room =>
      obtain ⟨kept, read⟩ := exists_membersToJson members legible (Nat.le_of_succ_le_succ fits) []
      exact ⟨.obj kept, by rw [toDoc, Doc.toJson, read]; rfl⟩

theorem exists_itemsToJson : (items : List Json) → ItemsLegible items → {room : Nat} → itemsDepth items ≤ room →
    ∃ kept, Doc.itemsToJson room (itemsToDoc items) = .ok kept
  | [], _, _, _ => ⟨[], rfl⟩
  | item :: rest, ⟨legible, others⟩, room, fits => by
    obtain ⟨first, read⟩ := exists_toJson item legible (Nat.le_trans (Nat.le_max_left ..) fits)
    obtain ⟨kept, later⟩ := exists_itemsToJson rest others (Nat.le_trans (Nat.le_max_right ..) fits)
    exact ⟨first :: kept, by rw [itemsToDoc, Doc.itemsToJson, read, later]; rfl⟩

theorem exists_membersToJson : (members : List (String × Json)) → MembersLegible members → {room : Nat} →
    membersDepth members ≤ room → (done : List (String × Json)) →
    ∃ kept, Doc.membersToJson room (membersToDoc members) done = .ok kept
  | [], _, _, _, done => ⟨done, rfl⟩
  | (key, value) :: rest, ⟨legible, others⟩, room, fits, done => by
    obtain ⟨first, read⟩ := exists_toJson value legible (Nat.le_trans (Nat.le_max_left ..) fits)
    obtain ⟨kept, later⟩ :=
      exists_membersToJson rest others (Nat.le_trans (Nat.le_max_right ..) fits) (setMember key first done)
    exact ⟨kept, by rw [membersToDoc, Doc.membersToJson, read]; exact later⟩

end

theorem membersLegible_iff {members : List (String × Json)} :
    MembersLegible members ↔ ∀ member ∈ members, Legible member.2 := by
  induction members with
  | nil => exact ⟨nofun, fun _ => trivial⟩
  | cons member rest ih => rw [MembersLegible, ih, List.forall_mem_cons]

theorem membersDepth_le_iff {members : List (String × Json)} {room : Nat} :
    membersDepth members ≤ room ↔ ∀ member ∈ members, depth member.2 ≤ room := by
  induction members with
  | nil => exact ⟨nofun, fun _ => Nat.zero_le room⟩
  | cons member rest ih => rw [membersDepth, Nat.max_le, ih, List.forall_mem_cons]

theorem filter_membersToDoc (p : Option String → Bool) (members : List (String × Json)) :
    (membersToDoc members).filter (fun member => p member.1) =
      membersToDoc (members.filter fun member => p (some member.1)) := by
  induction members with
  | nil => rfl
  | cons member rest ih =>
    rw [membersToDoc, List.filter_cons, List.filter_cons, ih]
    cases p (some member.1) <;> rfl

/-- The order of distinct members does not matter to what is looked up. -/
private theorem fieldOf_perm {members others : List (String × Json)} (scattered : members.Perm others)
    (once : (others.map Prod.fst).Nodup) : fieldOf members = fieldOf others := by
  funext name
  unfold fieldOf
  congr 1
  apply Option.ext
  intro j
  have alsoOnce : (members.map Prod.fst).Nodup := (scattered.map Prod.fst).nodup_iff.mpr once
  rw [lookup_eq_some_iff alsoOnce, lookup_eq_some_iff once, scattered.mem_iff]

def HasField (rules : List FieldRule) (name : String) : Prop := name ∈ rules.map FieldRule.name

instance (rules : List FieldRule) : DecidablePred (HasField rules) :=
  fun name => inferInstanceAs (Decidable (name ∈ rules.map FieldRule.name))

theorem find?_eq_none_iff {rules : List FieldRule} {name : String} :
    rules.find? (·.name == name) = none ↔ ¬HasField rules name := by
  simp [HasField, List.find?_eq_none]

/-- Members that are no fields are skipped. -/
private theorem ofMembers_filter (rules : List FieldRule) (members : List (String × Json)) (found : List (String × Doc)) :
    ofMembers rules (membersToDoc members) found =
      ofMembers rules (membersToDoc (members.filter fun member => HasField rules member.1)) found := by
  induction members generalizing found with
  | nil => rfl
  | cons member rest ih =>
    obtain ⟨key, value⟩ := member
    rw [membersToDoc, ofMembers, List.filter_cons]
    cases named : rules.find? (·.name == key) with
    | none =>
      have skipped : (toDoc value).skip = .ok () := if_pos (isWhole_toDoc value)
      simp only [skipped, find?_eq_none_iff.mp named]
      exact ih found
    | some rule =>
      have hasField : HasField rules key := by
        by_contra other
        rw [find?_eq_none_iff.mpr other] at named
        cases named
      simp only [hasField, decide_true, ↓reduceIte, membersToDoc]
      rw [ofMembers, named]
      simp only [ih]

/-- An object that has the fields in some order among its members is read as what they build. -/
theorem decode_scattered {α : Type} {r : Record α} (sound : Sound r) {members fields : List (String × Json)}
    (scattered : (members.filter fun member => HasField r.rules member.1).Perm fields) (once : (fields.map Prod.fst).Nodup)
    {a : α} (built : r.build (fieldOf fields) = .ok a) : r.decode (toDoc (.obj members)) = .ok a := by
  have only : r.decode (toDoc (.obj members)) =
      r.decode (toDoc (.obj (members.filter fun member => HasField r.rules member.1))) := by
    rw [toDoc, toDoc, Record.decode, Record.decode, ofMembers_filter]
  rw [only]
  refine decode_fields sound ?_ ((scattered.map Prod.fst).nodup_iff.mpr once) ?_
  · intro member inside
    exact of_decide_eq_true (List.mem_filter.mp inside).2
  · rw [fieldOf_perm scattered once, built]

section
variable {rules : List FieldRule} {members : List (Option String × Doc)} {found fields : List (String × Doc)}

private theorem ofMembers_cons {key : String} {value : Doc}
    (read : ofMembers rules ((some key, value) :: members) found = .ok fields) :
    (rules.find? (·.name == key) = none ∧ ofMembers rules members found = .ok fields) ∨
      ∃ rule, rules.find? (·.name == key) = some rule ∧ rule.check value = .ok () ∧
        ofMembers rules members ((key, value) :: found) = .ok fields := by
  rw [ofMembers] at read
  cases named : rules.find? (·.name == key) with
  | none =>
    rw [named] at read
    obtain ⟨_, _, later⟩ := bind_eq_ok.mp read
    exact Or.inl ⟨rfl, later⟩
  | some rule =>
    rw [named] at read
    simp only at read
    split at read
    next => cases read
    next =>
      obtain ⟨⟨⟩, passed, later⟩ := bind_eq_ok.mp read
      exact Or.inr ⟨rule, rfl, passed, later⟩

/-- Every member that is a field has passed the check of that field. -/
theorem checked_of_ofMembers (read : ofMembers rules members found = .ok fields) {key : String} {d : Doc}
    (inside : (some key, d) ∈ members) (hasField : HasField rules key) :
    ∃ rule ∈ rules, rule.name = key ∧ rule.check d = .ok () := by
  induction members generalizing found with
  | nil => cases inside
  | cons member rest ih =>
    obtain ⟨none | name, value⟩ := member
    · cases read
    · rcases ofMembers_cons read with ⟨unknown, later⟩ | ⟨rule, named, passed, later⟩
      · rcases List.mem_cons.mp inside with same | behind
        · cases same
          exact absurd hasField (find?_eq_none_iff.mp unknown)
        · exact ih later behind
      · rcases List.mem_cons.mp inside with same | behind
        · cases same
          exact ⟨rule, List.mem_of_find?_eq_some named, by simpa using List.find?_some named, passed⟩
        · exact ih later behind

/-- Whatever was found stood in the object. -/
theorem mem_of_ofMembers (read : ofMembers rules members found = .ok fields) {key : String} {d : Doc}
    (inside : (key, d) ∈ fields) : (key, d) ∈ found ∨ (some key, d) ∈ members := by
  induction members generalizing found with
  | nil =>
    cases read
    exact Or.inl inside
  | cons member rest ih =>
    obtain ⟨none | name, value⟩ := member
    · cases read
    · rcases ofMembers_cons read with ⟨-, later⟩ | ⟨-, -, -, later⟩
      · exact (ih later).imp_right (List.mem_cons_of_mem _)
      · rcases ih later with earlier | behind
        · rcases List.mem_cons.mp earlier with same | before
          · cases same
            exact Or.inr List.mem_cons_self
          · exact Or.inl before
        · exact Or.inr (List.mem_cons_of_mem _ behind)

private theorem ofItems_cons {rule : FieldRule} {value : Doc} {items : List Doc}
    (read : ofItems (rule :: rules) (value :: items) = .ok fields) :
    rule.check value = .ok () ∧ ∃ later, ofItems rules items = .ok later ∧ fields = (rule.name, value) :: later := by
  have sound : value ≠ .broken := by
    rintro rfl
    cases read
  rw [ofItems] at read
  case x_2 => exact sound
  obtain ⟨⟨⟩, passed, rest⟩ := bind_eq_ok.mp read
  obtain ⟨later, further, whole⟩ := bind_eq_ok.mp rest
  exact ⟨passed, later, further, (Except.ok.inj whole).symm⟩

/-- No list is longer than the fields, and each item has passed the check of the field in its place. -/
theorem checked_of_ofItems {items : List Doc} (read : ofItems rules items = .ok fields) :
    items.length ≤ rules.length ∧
      ∀ (i : Nat) (rule : FieldRule) (d : Doc), rules[i]? = some rule → items[i]? = some d → rule.check d = .ok () := by
  induction rules generalizing items fields with
  | nil =>
    cases items with
    | nil => exact ⟨Nat.le_refl _, nofun⟩
    | cons => cases read
  | cons rule rules ih =>
    cases items with
    | nil => exact ⟨Nat.zero_le _, nofun⟩
    | cons value rest =>
      obtain ⟨passed, later, further, -⟩ := ofItems_cons read
      obtain ⟨short, others⟩ := ih further
      refine ⟨Nat.succ_le_succ short, ?_⟩
      rintro (_ | i) other d named item
      · cases named
        cases item
        exact passed
      · exact others i other d named item

/-- Whatever was found stood in the list, in the place of its field. -/
theorem mem_of_ofItems {items : List Doc} (read : ofItems rules items = .ok fields) {key : String} {d : Doc}
    (inside : (key, d) ∈ fields) : ∃ i : Nat, (rules.map FieldRule.name)[i]? = some key ∧ items[i]? = some d := by
  induction rules generalizing items fields with
  | nil =>
    cases items with
    | nil => cases read; cases inside
    | cons => cases read
  | cons rule rules ih =>
    cases items with
    | nil =>
      rw [ofItems] at read
      split at read
      next =>
        obtain ⟨i, -, never⟩ := ih read inside
        cases never
      next => cases read
    | cons value rest =>
      obtain ⟨-, later, further, rfl⟩ := ofItems_cons read
      rcases List.mem_cons.mp inside with same | behind
      · cases same
        exact ⟨0, rfl, rfl⟩
      · obtain ⟨i, named, item⟩ := ih further behind
        exact ⟨i + 1, named, item⟩

end

section
variable {α β : Type}

theorem map_eq_ok {x : Except Fault α} {f : α → β} {b : β} (mapped : x.map f = .ok b) : ∃ a, x = .ok a ∧ f a = b := by
  cases x with
  | error => cases mapped
  | ok a => exact ⟨a, rfl, Except.ok.inj mapped⟩

/-- What passes the check of a field is a value that the field may have. -/
def Checks (r : Record α) (allowed : String → Doc → Prop) : Prop :=
  ∀ rule ∈ r.rules, ∀ d, rule.check d = .ok () → allowed rule.name d

section
variable {allowed : String → Doc → Prop} {name : String} {value : Decoder α}

theorem checks_required (each : ∀ d a, value d = .ok a → allowed name d) : Checks (required name value) allowed := by
  intro rule member d passed
  obtain rfl := List.mem_singleton.mp member
  obtain ⟨a, decoded, -⟩ := map_eq_ok passed
  exact each d a decoded

theorem checks_withDefault {absent : α} (each : ∀ d a, value d = .ok a → allowed name d) :
    Checks (withDefault name value absent) allowed := by
  intro rule member d passed
  obtain rfl := List.mem_singleton.mp member
  obtain ⟨a, decoded, -⟩ := map_eq_ok passed
  exact each d a decoded

theorem checks_optional (null : allowed name .null) (each : ∀ d a, value d = .ok a → allowed name d) :
    Checks (Record.optional name value) allowed := by
  apply checks_withDefault
  intro d a decoded
  by_cases absent : d = .null
  · exact absent ▸ null
  · rw [optional_of_ne absent] at decoded
    obtain ⟨b, decoded, -⟩ := map_eq_ok decoded
    exact each d b decoded

theorem Checks.seq {f : Record (α → β)} {r : Record α} (first : Checks f allowed) (rest : Checks r allowed) :
    Checks (f <*> r) allowed := by
  intro rule member
  rcases List.mem_append.mp member with inside | behind
  · exact first rule inside
  · exact rest rule behind

theorem Checks.map {r : Record α} (checks : Checks r allowed) (f : α → β) : Checks (f <$> r) allowed := by
  have const : Checks (Record.const f) allowed := fun _ member => nomatch member
  exact const.seq checks

end

/-- Nothing is built without this field. -/
def Demands (r : Record α) (name : String) : Prop := ∀ fields a, r.build fields = .ok a → ∃ d, fields name = some d

theorem demands_required {name : String} {value : Decoder α} : Demands (required name value) name := by
  intro fields a built
  cases found : fields name with
  | none =>
    simp only [required, found] at built
    cases built
  | some d => exact ⟨d, rfl⟩

theorem Demands.map {r : Record α} {name : String} (demands : Demands r name) (f : α → β) : Demands (f <$> r) name := by
  intro fields b built
  obtain ⟨_, a, -, rest, -⟩ := (build_seq (f := Record.const f)).mp built
  exact demands fields a rest

theorem Demands.seq {f : Record (α → β)} {r : Record α} {name : String} (demands : Demands f name) :
    Demands (f <*> r) name := by
  intro fields b built
  obtain ⟨g, _, first, -, -⟩ := build_seq.mp built
  exact demands fields g first

end

end BookExport.Proofs.ScatteredFields
