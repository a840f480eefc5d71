import BookExport.Json.Decoder
import BookExport.Json.Shape

/-! Values that are kept whole. One that is read has its keys in order and is nested no deeper than there was room for,
and every such value comes back from its document. -/

namespace BookExport.Proofs.KeptValues
open Json

private theorem setMember_last {key : String} {value : Json} {done : List (String × Json)}
    (above : ∀ member ∈ done, member.1 < key) : setMember key value done = done ++ [(key, value)] := by
  induction done with
  | nil => rfl
  | cons head rest ih =>
    obtain ⟨name, other⟩ := head
    have below : name < key := above _ List.mem_cons_self
    have notAbove : ¬key < name := String.lt_asymm below
    have different : key ≠ name := fun same => String.lt_irrefl name (same ▸ below)
    rw [setMember, if_neg notAbove, if_neg different, ih fun member inside => above member (List.mem_cons_of_mem _ inside)]
    rfl

mutual

/-- A value comes back from its document where there is room for it. -/
theorem toJson_toDoc : (j : Json) → Legible j → Ordered j → {room : Nat} → depth j ≤ room →
    (toDoc j).toJson room = .ok j
  | .null, _, _, _, _ => rfl
  | .bool _, _, _, _, _ => rfl
  | .int _, _, _, _, _ => rfl
  | .real x, reads, _, _, _ => by
    obtain ⟨d, read, back⟩ := Option.bind_eq_some_iff.mp reads
    rw [toDoc, read, Option.getD_some, Doc.toJson, back]
  | .str _, _, _, _, _ => rfl
  | .arr items, legible, ordered, room, fits => by
    cases room with
    | zero => cases fits
    | succ room =>
      rw [toDoc, Doc.toJson, itemsToJson_toDoc items legible ordered (Nat.le_of_succ_le_succ fits)]
      rfl
  | .obj members, legible, ordered, room, fits => by
    cases room with
    | zero => cases fits
    | succ room =>
      have ascending : (([] ++ members).map Prod.fst).Pairwise (· < ·) := ordered.1
      rw [toDoc, Doc.toJson,
        membersToJson_toDoc members legible ordered.2 ascending (Nat.le_of_succ_le_succ fits)]
      rfl

private theorem itemsToJson_toDoc : (items : List Json) → ItemsLegible items → ItemsOrdered items → {room : Nat} →
    itemsDepth items ≤ room → Doc.itemsToJson room (itemsToDoc items) = .ok items
  | [], _, _, _, _ => rfl
  | item :: rest, ⟨legible, others⟩, ⟨ordered, othersOrdered⟩, room, fits => by
    rw [itemsToDoc, Doc.itemsToJson, toJson_toDoc item legible ordered (Nat.le_trans (Nat.le_max_left ..) fits),
      itemsToJson_toDoc rest others othersOrdered (Nat.le_trans (Nat.le_max_right ..) fits)]
    rfl

private theorem membersToJson_toDoc : (members : List (String × Json)) → MembersLegible members → MembersOrdered members →
    {done : List (String × Json)} → ((done ++ members).map Prod.fst).Pairwise (· < ·) → {room : Nat} →
    membersDepth members ≤ room → Doc.membersToJson room (membersToDoc members) done = .ok (done ++ members)
  | [], _, _, done, _, _, _ => by rw [membersToDoc, Doc.membersToJson, List.append_nil]
  | (key, value) :: rest, ⟨legible, others⟩, ⟨ordered, othersOrdered⟩, done, ascending, room, fits => by
    have above : ∀ member ∈ done, member.1 < key := by
      rw [List.map_append, List.pairwise_append] at ascending
      intro member inside
      exact ascending.2.2 member.1 (List.mem_map_of_mem inside) key List.mem_cons_self
    have next : ((done ++ [(key, value)] ++ rest).map Prod.fst).Pairwise (· < ·) := by
      rwa [List.append_assoc]
    have later := membersToJson_toDoc rest others othersOrdered next (Nat.le_trans (Nat.le_max_right ..) fits)
    rw [membersToDoc, Doc.membersToJson, toJson_toDoc value legible ordered (Nat.le_trans (Nat.le_max_left ..) fits)]
    show Doc.membersToJson room (membersToDoc rest) (setMember key value done) = _
    rw [setMember_last above, later, List.append_assoc]
    rfl

end

/-- Values that are in order and for which there is room. -/
structure Kept (room : Nat) (j : Json) : Prop where
  ordered : Ordered j
  fits : depth j ≤ room

/-- Members that ascend, with such values. -/
structure KeptMembers (room : Nat) (members : List (String × Json)) : Prop where
  ascending : (members.map Prod.fst).Pairwise (· < ·)
  values : ∀ member ∈ members, Kept room member.2

private theorem kept_arr {room : Nat} {items : List Json} (kept : ∀ item ∈ items, Kept room item) :
    Kept (room + 1) (.arr items) := by
  suffices both : ItemsOrdered items ∧ itemsDepth items ≤ room from ⟨both.1, Nat.succ_le_succ both.2⟩
  induction items with
  | nil => exact ⟨trivial, Nat.zero_le _⟩
  | cons item rest ih =>
    have first := kept item List.mem_cons_self
    have others := ih fun other inside => kept other (List.mem_cons_of_mem _ inside)
    exact ⟨⟨first.ordered, others.1⟩, Nat.max_le.mpr ⟨first.fits, others.2⟩⟩

private theorem kept_obj {room : Nat} {members : List (String × Json)} (kept : KeptMembers room members) :
    Kept (room + 1) (.obj members) := by
  suffices both : MembersOrdered members ∧ membersDepth members ≤ room from
    ⟨⟨kept.ascending, both.1⟩, Nat.succ_le_succ both.2⟩
  have values := kept.values
  clear kept
  induction members with
  | nil => exact ⟨trivial, Nat.zero_le _⟩
  | cons member rest ih =>
    have first := values member List.mem_cons_self
    have others := ih fun other inside => values other (List.mem_cons_of_mem _ inside)
    exact ⟨⟨first.ordered, others.1⟩, Nat.max_le.mpr ⟨first.fits, others.2⟩⟩

theorem mem_setMember {key : String} {value : Json} {done : List (String × Json)} {member : String × Json}
    (inside : member ∈ setMember key value done) : member = (key, value) ∨ member ∈ done := by
  induction done with
  | nil => exact Or.inl (List.mem_singleton.mp inside)
  | cons head rest ih =>
    obtain ⟨name, other⟩ := head
    unfold setMember at inside
    split at inside
    · exact List.mem_cons.mp inside
    · split at inside
      · exact (List.mem_cons.mp inside).imp_right (List.mem_cons_of_mem _)
      · rcases List.mem_cons.mp inside with rfl | behind
        · exact Or.inr List.mem_cons_self
        · exact (ih behind).imp_right (List.mem_cons_of_mem _)

theorem KeptMembers.set {room : Nat} {done : List (String × Json)} (kept : KeptMembers room done) (key : String)
    {value : Json} (new : Kept room value) : KeptMembers room (setMember key value done) := by
  refine ⟨?_, ?_⟩
  · have ascending := kept.ascending
    clear kept
    induction done with
    | nil => exact List.pairwise_singleton ..
    | cons head rest ih =>
      obtain ⟨name, other⟩ := head
      obtain ⟨below, others⟩ := List.pairwise_cons.mp ascending
      unfold setMember
      split
      next first =>
        refine List.pairwise_cons.mpr ⟨?_, ascending⟩
        intro later inside
        rcases List.mem_cons.mp inside with rfl | behind
        · exact first
        · exact String.lt_trans first (below later behind)
      next notFirst =>
        split
        next same => exact same ▸ ascending
        next different =>
          refine List.pairwise_cons.mpr ⟨?_, ih others⟩
          intro later inside
          obtain ⟨member, set, rfl⟩ := List.mem_map.mp inside
          rcases mem_setMember set with rfl | old
          · exact Decidable.byContradiction fun notBelow =>
              different (String.le_antisymm (String.not_lt.mp notBelow) (String.not_lt.mp notFirst))
          · exact below member.1 (List.mem_map_of_mem old)
  · intro member inside
    rcases mem_setMember inside with rfl | old
    · exact new
    · exact kept.values member old

mutual

/-- What is read into a room is in order and fits. -/
theorem kept_toJson : (d : Doc) → {room : Nat} → {j : Json} → d.toJson room = .ok j → Kept room j
  | .null, _, _, rfl => ⟨trivial, Nat.zero_le _⟩
  | .bool _, _, _, rfl => ⟨trivial, Nat.zero_le _⟩
  | .int _, _, _, rfl => ⟨trivial, Nat.zero_le _⟩
  | .str (some _), _, _, rfl => ⟨trivial, Nat.zero_le _⟩
  | .real d, room, j, found => by
    rw [Doc.toJson] at found
    split at found <;> cases found
    exact ⟨trivial, Nat.zero_le _⟩
  | .arr items, room, j, found => by
    cases room with
    | zero => cases found
    | succ room =>
      rw [Doc.toJson] at found
      cases inside : Doc.itemsToJson room items with
      | error fault => rw [inside] at found; cases found
      | ok values =>
        rw [inside] at found
        cases found
        exact kept_arr (kept_itemsToJson items inside)
  | .obj members, room, j, found => by
    cases room with
    | zero => cases found
    | succ room =>
      rw [Doc.toJson] at found
      cases inside : Doc.membersToJson room members [] with
      | error fault => rw [inside] at found; cases found
      | ok values =>
        rw [inside] at found
        cases found
        exact kept_obj (kept_membersToJson members ⟨List.Pairwise.nil, by simp⟩ inside)
  | .str none, _, _, found => by cases found
  | .broken, _, _, found => by cases found

private theorem kept_itemsToJson : (items : List Doc) → {room : Nat} → {values : List Json} →
    Doc.itemsToJson room items = .ok values → ∀ value ∈ values, Kept room value
  | [], _, _, rfl => by simp
  | item :: rest, room, values, found => by
    rw [Doc.itemsToJson] at found
    cases first : item.toJson room with
    | error fault => rw [first] at found; cases found
    | ok value =>
      cases later : Doc.itemsToJson room rest with
      | error fault => rw [first, later] at found; cases found
      | ok others =>
        rw [first, later] at found
        cases found
        intro other inside
        rcases List.mem_cons.mp inside with rfl | behind
        · exact kept_toJson item first
        · exact kept_itemsToJson rest later other behind

theorem kept_membersToJson : (members : List (Option String × Doc)) → {room : Nat} →
    {done values : List (String × Json)} → KeptMembers room done → Doc.membersToJson room members done = .ok values →
    KeptMembers room values
  | [], _, _, _, kept, rfl => kept
  | (none, _) :: _, _, _, _, _, found => by cases found
  | (some key, d) :: rest, room, done, values, kept, found => by
    rw [Doc.membersToJson] at found
    cases first : d.toJson room with
    | error fault => rw [first] at found; cases found
    | ok value =>
      rw [first] at found
      exact kept_membersToJson rest (kept.set key (kept_toJson d first)) found

end

/-- Only null is kept as null. -/
theorem eq_null_of_toJson {d : Doc} {room : Nat} (found : d.toJson room = .ok .null) : d = .null := by
  cases d with
  | null => rfl
  | bool | int | broken => cases found
  | real x =>
    rw [Doc.toJson] at found
    split at found <;> cases found
  | str s => cases s <;> cases found
  | arr items =>
    cases room with
    | zero => cases found
    | succ room =>
      rw [Doc.toJson] at found
      cases whole : Doc.itemsToJson room items <;> rw [whole] at found <;> cases found
  | obj members =>
    cases room with
    | zero => cases found
    | succ room =>
      rw [Doc.toJson] at found
      cases whole : Doc.membersToJson room members [] <;> rw [whole] at found <;> cases found

end BookExport.Proofs.KeptValues
