import Bulletin.Proofs.Json.Altering
import Bulletin.Proofs.Json.Canonical
import Bulletin.Proofs.Json.Yielding
import Bulletin.Proofs.Text.ByteOrder
import Mathlib.Data.List.Nodup
/-!
# Equal values

An object holds one value for a key, that of the last member with the key. Values are equal if
their arrays hold equal items in the same order and their objects hold equal values for every key.
The canonical form of a value is equal to it and has ascending keys at every depth, and values are
equal exactly where their canonical texts are.
-/

namespace Bulletin.Json

/-! ## What objects hold -/

def held? (key : String) (members : List (String × Json)) : Option Json :=
  members.reverse.lookup key

theorem lookup_cons_eq_ite (key name : String) (value : Json) (members : List (String × Json)) :
    ((name, value) :: members).lookup key =
      if key = name then some value else members.lookup key := by
  rw [List.lookup_cons]
  by_cases same : key = name
  · rw [if_pos same, beq_iff_eq.mpr same]
  · rw [if_neg same, beq_eq_false_iff_ne.mpr same]

theorem held?_cons (key name : String) (value : Json) (members : List (String × Json)) :
    held? key ((name, value) :: members) =
      (held? key members).or (if key = name then some value else none) := by
  rw [held?, List.reverse_cons, List.lookup_append, lookup_cons_eq_ite]
  rfl

theorem mem_of_held? {key : String} {value : Json} {members : List (String × Json)}
    (isHeld : held? key members = some value) : (key, value) ∈ members := by
  rcases List.lookup_eq_some_iff.mp isHeld with ⟨before, behind, split, -⟩
  rw [← List.mem_reverse, split]
  exact List.mem_append_right before List.mem_cons_self

/-- Equal values: the same value, or one that holds equal values in the same places of its arrays
and for the same keys of its objects. -/
inductive Same : Json → Json → Prop where
  | same (value : Json) : Same value value
  | array {items others : Json.Items} (inItems : List.Forall₂ Same items.toList others.toList) :
      Same (.array items) (.array others)
  | object {members others : Json.Members}
      (inMembers : ∀ key, Option.Rel Same (held? key members.toList) (held? key others.toList)) :
      Same (.object members) (.object others)

/-! ## Ascending members -/

theorem lookup_eq_some_iff_mem {members : List (String × Json)}
    (distinct : (members.map Prod.fst).Nodup) {key : String} {value : Json} :
    members.lookup key = some value ↔ (key, value) ∈ members := by
  constructor
  · intro found
    rcases List.lookup_eq_some_iff.mp found with ⟨before, behind, rfl, -⟩
    exact List.mem_append_right before List.mem_cons_self
  · intro isMember
    rcases List.append_of_mem isMember with ⟨before, behind, rfl⟩
    rw [List.map_append, List.map_cons, List.nodup_middle, List.nodup_cons] at distinct
    refine List.lookup_eq_some_iff.mpr ⟨before, behind, rfl, fun member isBefore => ?_⟩
    have isKey : member.1 ∈ before.map Prod.fst := List.mem_map_of_mem isBefore
    rw [bne_iff_ne]
    rintro rfl
    exact distinct.1 (List.mem_append_left _ isKey)

theorem held?_eq_lookup {members : List (String × Json)}
    (distinct : (members.map Prod.fst).Nodup) (key : String) :
    held? key members = members.lookup key := by
  have distinctReverse : (members.reverse.map Prod.fst).Nodup := by
    rw [List.map_reverse, List.nodup_reverse]
    exact distinct
  ext value
  rw [held?, lookup_eq_some_iff_mem distinctReverse, lookup_eq_some_iff_mem distinct,
    List.mem_reverse]

theorem Members.IsAscending.nodup {members : Json.Members} (ascending : members.IsAscending) :
    (members.toList.map Prod.fst).Nodup :=
  List.pairwise_map.mpr (ascending.imp fun less => less.ne)

theorem Members.IsAscending.eq_of_lookup {members others : Json.Members}
    (ascending : members.IsAscending) (ascendingOthers : others.IsAscending)
    (same : ∀ key, members.toList.lookup key = others.toList.lookup key) : members = others := by
  have sameMember (member : String × Json) :
      member ∈ members.toList ↔ member ∈ others.toList := by
    rw [← lookup_eq_some_iff_mem ascending.nodup, ← lookup_eq_some_iff_mem ascendingOthers.nodup,
      same]
  have perm := (List.perm_ext_iff_of_nodup (ascending.nodup.of_map Prod.fst)
    (ascendingOthers.nodup.of_map Prod.fst)).mpr sameMember
  have sameList := perm.eq_of_pairwise
    (fun member other _ _ less greater => absurd less greater.asymm) ascending ascendingOthers
  rw [← Members.ofList_toList members, sameList, Members.ofList_toList]

/-! ## Canonical forms -/

theorem lookup_insert (key name : String) (value : Json) (sorted : Json.Members) :
    (sorted.insert name value).toList.lookup key =
      if key = name then some value else sorted.toList.lookup key := by
  match sorted with
  | .nil => exact lookup_cons_eq_ite key name value []
  | .cons other held tail =>
      rw [Members.insert]
      split
      case isTrue isOther =>
        rw [Members.toList, Members.toList, lookup_cons_eq_ite, lookup_cons_eq_ite, isOther]
        split_ifs
        · rfl
        · rfl
      case isFalse notOther =>
        split
        case isTrue => rw [Members.toList, lookup_cons_eq_ite]
        case isFalse =>
          rw [Members.toList, Members.toList, lookup_cons_eq_ite, lookup_cons_eq_ite,
            lookup_insert key name value tail]
          by_cases same : key = name
          · rw [if_pos same, if_pos same, if_neg (same ▸ notOther)]
          · rw [if_neg same, if_neg same]

theorem lookup_canonicalMembers (key : String) (members sorted : Json.Members) :
    (canonicalMembers members sorted).toList.lookup key =
      ((held? key members.toList).map canonical).or (sorted.toList.lookup key) := by
  match members with
  | .nil => rfl
  | .cons name value tail =>
      rw [canonicalMembers, lookup_canonicalMembers key tail, lookup_insert, Members.toList,
        held?_cons, Option.map_or, Option.or_assoc]
      split_ifs
      · rfl
      · rfl

theorem lookup_canonical (key : String) (members : Json.Members) :
    (canonicalMembers members .nil).toList.lookup key =
      (held? key members.toList).map canonical := by
  rw [lookup_canonicalMembers, Members.toList, List.lookup_nil, Option.or_none]

theorem isAscending_canonical (members : Json.Members) :
    (canonicalMembers members .nil).IsAscending :=
  Members.isAscending_canonicalMembers members Members.isAscending_nil

theorem canonicalMembers_eq_iff {members others : Json.Members} :
    canonicalMembers members .nil = canonicalMembers others .nil ↔
      ∀ key,
        (held? key members.toList).map canonical = (held? key others.toList).map canonical := by
  simp only [← lookup_canonical]
  constructor
  · intro same key
    rw [same]
  · exact (isAscending_canonical members).eq_of_lookup (isAscending_canonical others)

theorem canonicalItems_eq_iff {items others : Json.Items} :
    canonicalItems items = canonicalItems others ↔
      items.toList.map canonical = others.toList.map canonical := by
  rw [← toList_canonicalItems, ← toList_canonicalItems]
  constructor
  · exact congrArg Items.toList
  · intro same
    rw [← Items.ofList_toList (canonicalItems items), same, Items.ofList_toList]

/-! ## Equality -/

theorem forall₂_same_iff {items : List Json}
    (inItems : ∀ item ∈ items, ∀ other, item.Same other ↔ canonical item = canonical other)
    (others : List Json) :
    List.Forall₂ Same items others ↔ items.map canonical = others.map canonical := by
  rw [← List.forall₂_eq_eq_eq, List.forall₂_map_left_iff, List.forall₂_map_right_iff]
  induction items generalizing others with
  | nil => cases others <;> simp
  | cons item items induction =>
      rcases List.forall_mem_cons.mp inItems with ⟨first, rest⟩
      cases others with
      | nil => simp
      | cons other others => rw [List.forall₂_cons, List.forall₂_cons, first, induction rest]

theorem rel_same_iff {value? other? : Option Json}
    (inValue : ∀ value ∈ value?, ∀ other, value.Same other ↔ canonical value = canonical other) :
    Option.Rel Same value? other? ↔ value?.map canonical = other?.map canonical := by
  cases value? with
  | none => cases other? <;> simp
  | some value =>
      cases other? with
      | none => simp
      | some other => simp [inValue value rfl other]

section Scalars

variable {value : Json} (notArray : ∀ items, value ≠ .array items)
  (notObject : ∀ members, value ≠ .object members)

include notArray notObject

theorem eq_of_canonical_eq {other : Json} (same : canonical value = canonical other) :
    value = other := by
  cases value <;> cases other <;> simp_all [canonical]

theorem same_iff_of_scalar (other : Json) :
    value.Same other ↔ canonical value = canonical other := by
  constructor
  · intro equal
    cases equal with
    | same => rfl
    | array => exact absurd rfl (notArray _)
    | object => exact absurd rfl (notObject _)
  · intro same
    rw [eq_of_canonical_eq notArray notObject same]
    exact .same other

end Scalars

/-- Values are equal if and only if they have one canonical form. -/
theorem same_iff (value : Json) :
    ∀ other, value.Same other ↔ canonical value = canonical other := by
  induction value using induction_on with
  | null => exact same_iff_of_scalar nofun nofun
  | boolean value => exact same_iff_of_scalar nofun nofun
  | number value => exact same_iff_of_scalar nofun nofun
  | text value => exact same_iff_of_scalar nofun nofun
  | array items induction =>
      have inItems := forall₂_same_iff induction
      rw [← Items.toList_ofList items] at inItems
      intro other
      constructor
      · intro equal
        cases equal with
        | same => rfl
        | array equalItems =>
            rw [canonical, canonical, canonicalItems_eq_iff.mpr ((inItems _).mp equalItems)]
      · intro same
        cases other with
        | array others =>
            rw [canonical, canonical, array.injEq, canonicalItems_eq_iff] at same
            exact .array ((inItems _).mpr same)
        | _ => cases same
  | object members induction =>
      have inMembers (key : String) (other? : Option Json) :
          Option.Rel Same (held? key (Members.ofList members).toList) other? ↔
            (held? key (Members.ofList members).toList).map canonical =
              other?.map canonical := by
        apply rel_same_iff
        intro value isHeld
        rw [Members.toList_ofList] at isHeld
        exact induction (key, value) (mem_of_held? isHeld)
      intro other
      constructor
      · intro equal
        cases equal with
        | same => rfl
        | object equalMembers =>
            have same key := (inMembers key _).mp (equalMembers key)
            rw [canonical, canonical, canonicalMembers_eq_iff.mpr same]
      · intro same
        cases other with
        | object others =>
            rw [canonical, canonical, object.injEq, canonicalMembers_eq_iff] at same
            exact .object fun key => (inMembers key _).mpr (same key)
        | _ => cases same

/-! ## Canonical forms of canonical forms -/

theorem canonical_list (items : List Json) :
    canonical (list items) = list (items.map canonical) := by
  rw [list, canonical, list, ← Items.ofList_toList (canonicalItems _), toList_canonicalItems,
    Items.toList_ofList]

theorem canonical_canonical (value : Json) : canonical (canonical value) = canonical value := by
  induction value using induction_on with
  | null => rfl
  | boolean value => rfl
  | number value => rfl
  | text value => rfl
  | array items induction =>
      change canonical (canonical (list items)) = canonical (list items)
      rw [canonical_list, canonical_list, List.map_map]
      exact congrArg list (List.map_congr_left induction)
  | object members induction =>
      rw [canonical, canonical, object.injEq, canonicalMembers_eq_iff]
      intro key
      rw [held?_eq_lookup (isAscending_canonical _).nodup, lookup_canonical, Option.map_map,
        Members.toList_ofList]
      exact Option.map_congr fun value isHeld => induction (key, value) (mem_of_held? isHeld)

theorem same_canonical (value : Json) : (canonical value).Same value :=
  (same_iff _ value).mpr (canonical_canonical value)

/-! ## Members of canonical forms -/

theorem exists_of_mem_canonicalMembers {members : Json.Members} {member : String × Json}
    (isMember : member ∈ (canonicalMembers members .nil).toList) :
    ∃ value, (member.1, value) ∈ members.toList ∧ canonical value = member.2 := by
  have found := (lookup_eq_some_iff_mem (isAscending_canonical members).nodup).mpr isMember
  rw [lookup_canonical] at found
  rcases Option.map_eq_some_iff.mp found with ⟨value, isHeld, equal⟩
  exact ⟨value, mem_of_held? isHeld, equal⟩

mutual
def KeysAscend : Json → Prop
  | .array items => items.KeysAscend
  | .object members =>
      members.toList.Pairwise (fun member later => Text.bytes member.1 < Text.bytes later.1) ∧
        members.KeysAscend
  | _ => True

def Items.KeysAscend : Json.Items → Prop
  | .nil => True
  | .cons head tail => head.KeysAscend ∧ tail.KeysAscend

def Members.KeysAscend : Json.Members → Prop
  | .nil => True
  | .cons _ value tail => value.KeysAscend ∧ tail.KeysAscend
end

theorem Items.keysAscend_iff {items : Json.Items} :
    items.KeysAscend ↔ ∀ item ∈ items.toList, item.KeysAscend := by
  match items with
  | .nil => simp [Items.KeysAscend, Items.toList]
  | .cons head tail =>
      rw [Items.KeysAscend, Items.toList, List.forall_mem_cons, keysAscend_iff]

theorem Members.keysAscend_iff {members : Json.Members} :
    members.KeysAscend ↔ ∀ member ∈ members.toList, member.2.KeysAscend := by
  match members with
  | .nil => simp [Members.KeysAscend, Members.toList]
  | .cons key value tail =>
      rw [Members.KeysAscend, Members.toList, List.forall_mem_cons, keysAscend_iff]

theorem keysAscend_canonical (value : Json) : (canonical value).KeysAscend := by
  induction value using induction_on with
  | null => trivial
  | boolean value => trivial
  | number value => trivial
  | text value => trivial
  | array items induction =>
      rw [canonical, KeysAscend, Items.keysAscend_iff, toList_canonicalItems, Items.toList_ofList]
      exact List.forall_mem_map.mpr induction
  | object members induction =>
      rw [canonical, KeysAscend, Members.keysAscend_iff]
      constructor
      · exact (isAscending_canonical _).imp Text.bytes_lt_bytes.mpr
      · intro member isMember
        rcases exists_of_mem_canonicalMembers isMember with ⟨value, isValue, equal⟩
        rw [Members.toList_ofList] at isValue
        exact equal ▸ induction (member.1, value) isValue

/-! ## Brackets -/

theorem Items.depth_le_iff {items : Json.Items} {bound : Nat} :
    items.depth ≤ bound ↔ ∀ item ∈ items.toList, item.depth ≤ bound := by
  match items with
  | .nil => simp [Items.depth, Items.toList]
  | .cons head tail =>
      rw [Items.depth, Items.toList, List.forall_mem_cons, Nat.max_le, depth_le_iff]

theorem Members.depth_le_iff {members : Json.Members} {bound : Nat} :
    members.depth ≤ bound ↔ ∀ member ∈ members.toList, member.2.depth ≤ bound := by
  match members with
  | .nil => simp [Members.depth, Members.toList]
  | .cons key value tail =>
      rw [Members.depth, Members.toList, List.forall_mem_cons, Nat.max_le, depth_le_iff]

theorem depth_canonical_le (value : Json) : (canonical value).depth ≤ value.depth := by
  induction value using induction_on with
  | null => exact le_rfl
  | boolean value => exact le_rfl
  | number value => exact le_rfl
  | text value => exact le_rfl
  | array items induction =>
      rw [canonical, depth, depth]
      apply Nat.succ_le_succ
      rw [Items.depth_le_iff, toList_canonicalItems, Items.toList_ofList, List.forall_mem_map]
      have bounds := Items.depth_le_iff.mp (le_refl (Items.ofList items).depth)
      rw [Items.toList_ofList] at bounds
      exact fun item isItem => (induction item isItem).trans (bounds item isItem)
  | object members induction =>
      rw [canonical, depth, depth]
      apply Nat.succ_le_succ
      rw [Members.depth_le_iff]
      intro member isMember
      have bounds := Members.depth_le_iff.mp (le_refl (Members.ofList members).depth)
      rcases exists_of_mem_canonicalMembers isMember with ⟨value, isValue, equal⟩
      have bound := bounds (member.1, value) isValue
      rw [Members.toList_ofList] at isValue
      exact equal ▸ (induction (member.1, value) isValue).trans bound

/-- A reader opens no more brackets inside one another than it may. -/
theorem depth_le_of_readValue {steps depth : Nat} {cursor after : Cursor} {value : Json}
    (read : readValue steps depth cursor = .ok (value, after)) : value.depth ≤ depth := by
  induction depth using Nat.strong_induction_on generalizing cursor after value with
  | h depth induction =>
  have wasRead := wasRead_of_readValue read
  cases value with
  | array items =>
      rcases wasRead with ⟨rest, inner, behind, -, rfl, folded, -⟩
      have bounds : ∀ item ∈ items.toList.reverse, item.depth ≤ inner := by
        refine foldItems_invariant (fun items => ∀ item ∈ items, item.depth ≤ inner) ?_ folded
          nofun
        intro values cursor next after inValues read
        rcases Outcome.map_eq_ok.mp read with ⟨⟨value, reached⟩, readValue, equal⟩
        cases equal
        exact List.forall_mem_cons.mpr ⟨induction inner inner.lt_succ_self readValue, inValues⟩
      rw [Json.depth]
      apply Nat.succ_le_succ
      rw [Items.depth_le_iff]
      exact fun item isItem => bounds item (List.mem_reverse.mpr isItem)
  | object members =>
      rcases wasRead with ⟨rest, inner, behind, -, rfl, folded, -⟩
      have bounds : ∀ member ∈ members.toList.reverse, member.2.depth ≤ inner := by
        refine foldMembers_invariant (fun members => ∀ member ∈ members, member.2.depth ≤ inner) ?_
          folded nofun
        intro values key cursor next after inValues read
        rcases Outcome.bind_eq_ok.mp read with ⟨atValue, -, read⟩
        rcases Outcome.bind_eq_ok.mp read with ⟨⟨value, reached⟩, readValue, equal⟩
        cases equal
        exact List.forall_mem_cons.mpr ⟨induction inner inner.lt_succ_self readValue, inValues⟩
      rw [Json.depth]
      apply Nat.succ_le_succ
      rw [Members.depth_le_iff]
      exact fun member isMember => bounds member (List.mem_reverse.mpr isMember)
  | _ => exact Nat.zero_le depth

theorem depth_le_of_parse {text : String} {value : Json} (parsed : parse text = .ok value) :
    value.depth ≤ 127 := by
  rcases readWhole_eq_ok.mp parsed with ⟨after, read, -⟩
  exact depth_le_of_readValue read

/-! ## Canonical texts -/

theorem parse_canonicalText_of_parse {text : String} {value : Json}
    (parsed : parse text = .ok value) (exact : value.IsExact) :
    parse value.canonicalText = .ok (canonical value) :=
  (Format.finds_any (canonical value)).parse_compact
    ⟨isExact_canonical exact, (depth_canonical_le value).trans (depth_le_of_parse parsed)⟩

/-- The canonical text of a value is read as an equal value with ascending keys, of which it is the
canonical text again. Equal values, and no others, have the same canonical text. -/
theorem canonicalText_isCanonical {text : String} {value : Json} (parsed : parse text = .ok value)
    (exact : value.IsExact) :
    (∃ again, parse value.canonicalText = .ok again ∧ again.KeysAscend ∧ again.Same value ∧
      again.canonicalText = value.canonicalText) ∧
    ∀ otherText other, parse otherText = .ok other → other.IsExact →
      (value.canonicalText = other.canonicalText ↔ value.Same other) := by
  have readBack := parse_canonicalText_of_parse parsed exact
  constructor
  · refine ⟨canonical value, readBack, keysAscend_canonical value, same_canonical value, ?_⟩
    rw [canonicalText, canonical_canonical, canonicalText]
  · intro otherText other parsedOther exactOther
    rw [same_iff]
    constructor
    · intro sameText
      have readOther := parse_canonicalText_of_parse parsedOther exactOther
      rw [← sameText, readBack] at readOther
      exact Except.ok.inj readOther
    · intro same
      rw [canonicalText, same, canonicalText]

theorem canonicalText_isCanonical_repeated :
    let value := list [record [("😀", .number (.integer (-1))), ("～", list []), ("😀", count 2)]]
    let other := list [record [("～", list []), ("😀", count 2)]]
    (∃ again, parse value.canonicalText = .ok again ∧ again.KeysAscend ∧ again.Same value ∧
      again.canonicalText = value.canonicalText) ∧
    value.canonicalText = other.canonicalText ∧ value.Same other := by
  intro value other
  have parsed : parse "[\x7b\"😀\":-1,\"～\":[],\"😀\":2\x7d]" = .ok value := by decide +kernel
  have parsedOther : parse "[ \x7b\"～\":[], \"😀\":2\x7d ]" = .ok other := by decide +kernel
  have exact : value.IsExact := by
    simp [value, list, record, count, Items.ofList, Members.ofList, IsExact, Items.IsExact,
      Members.IsExact, Number.IsExact]
  have exactOther : other.IsExact := by
    simp [other, list, record, count, Items.ofList, Members.ofList, IsExact, Items.IsExact,
      Members.IsExact, Number.IsExact]
  rcases canonicalText_isCanonical parsed exact with ⟨readBack, sameText⟩
  have same : value.canonicalText = other.canonicalText := by decide +kernel
  exact ⟨readBack, same, (sameText _ other parsedOther exactOther).mp same⟩

end Bulletin.Json
