import Bulletin.Json.Canonical
import Bulletin.Proofs.Json.Steadiness
import Mathlib.Data.String.Basic
/-!
# Objects that agree but for one key

The members of one key are replaced, added and taken away in the objects of a text. The values that
are read agree in the same way, and so do their canonical forms.
-/

namespace Bulletin.Json

/-! ## Outlines and values -/

namespace Outline

def membersBut (key : String) (members : List (List TextPart × Outline)) :
    List (List TextPart × Outline) :=
  members.filter fun member => textValue? member.1 ≠ some key

/-- The second outline is the first one, or both are objects that agree but for members of the key,
of which the second one has at most one. -/
inductive AgreesBut (key : String) : Outline → Outline → Prop where
  | same (outline : Outline) : AgreesBut key outline outline
  | object {members others : List (List TextPart × Outline)}
      (agree : membersBut key members = membersBut key others)
      (once : (others.filter fun member => textValue? member.1 = some key).length ≤ 1) :
      AgreesBut key (.object members) (.object others)

end Outline

def membersBut (key : String) (members : List (String × Json)) : List (String × Json) :=
  members.filter fun member => member.1 ≠ key

inductive AgreesBut (key : String) : Json → Json → Prop where
  | same (value : Json) : AgreesBut key value value
  | object {members others : List (String × Json)}
      (agree : membersBut key members = membersBut key others) :
      AgreesBut key (record members) (record others)

/-! ## What is collected -/

theorem exists_read_of_foldlM {told : List (Option α)} {before values : List α}
    (collected : told.foldlM collect before = some values) :
    ∃ read : List α, told = read.map some ∧ values = read.reverse ++ before := by
  induction told generalizing before with
  | nil =>
      cases collected
      exact ⟨[], rfl, rfl⟩
  | cons value? told induction =>
      rw [List.foldlM_cons] at collected
      cases value? with
      | none => cases collected
      | some value =>
          rcases induction collected with ⟨read, rfl, rfl⟩
          exact ⟨value :: read, rfl, by simp⟩

theorem exists_collected {told : List (Option α)} {f : List α → β} {value : β}
    (isValue : value ∈ (told.foldlM collect []).map fun values => f values.reverse) :
    ∃ read : List α, told = read.map some ∧ value = f read := by
  rcases Option.map_eq_some_iff.mp isValue with ⟨values, collected, rfl⟩
  rcases exists_read_of_foldlM collected with ⟨read, told, rfl⟩
  exact ⟨read, told, by rw [List.append_nil, List.reverse_reverse]⟩

/-! ## Values in texts -/

theorem membersBut_told {key : String} {tell : List TextPart × Outline → Option (String × Json)}
    (keys : ∀ member told, tell member = some told → textValue? member.1 = some told.1)
    {members : List (List TextPart × Outline)} {read : List (String × Json)}
    (told : members.map tell = read.map some) :
    (Outline.membersBut key members).map tell = (membersBut key read).map some := by
  induction members generalizing read with
  | nil =>
      cases read with
      | nil => rfl
      | cons first read => cases told
  | cons member members induction =>
      cases read with
      | nil => cases told
      | cons first read =>
          rcases List.cons_eq_cons.mp told with ⟨isFirst, rest⟩
          have isKey := keys member first isFirst
          by_cases same : first.1 = key
          · rw [Outline.membersBut, membersBut, List.filter_cons_of_neg (by simp [isKey, same]),
              List.filter_cons_of_neg (by simp [same])]
            exact induction rest
          · rw [Outline.membersBut, membersBut, List.filter_cons_of_pos (by simp [isKey, same]),
              List.filter_cons_of_pos (by simp [same]), List.map_cons, List.map_cons, isFirst]
            exact congrArg (some first :: ·) (induction rest)

theorem Outline.Tells.unique {read : Allowance → Cursor → Except Fault (α × Cursor)} {depth : Nat}
    {outline : Outline} {value? other? : Option α} (tells : outline.Tells read depth value?)
    (tellsOther : outline.Tells read depth other?) (spellable : outline.IsSpellable) :
    value? = other? := by
  rcases spellable with ⟨chars, spells⟩
  have boundary : IsBoundary [] := fun _ isFirst => by cases isFirst
  have given := tells isGap_nil spells (Nat.lt_succ_self _) boundary 0
  have givenOther := tellsOther isGap_nil spells (Nat.lt_succ_self _) boundary 0
  rw [← given.value?_eq, ← givenOther.value?_eq]

theorem exists_tell (depth : Nat) :
    ∃ tell : List TextPart × Outline → Option (String × Json),
      (∀ members, (Outline.object members).Tells Format.any.read (depth + 1)
        (((members.map tell).foldlM collect []).map fun told => record told.reverse)) ∧
      ∀ member told, tell member = some told → textValue? member.1 = some told.1 ∧
        member.2.Tells Format.any.read depth (some told.2) := by
  have exists_value (outline : Outline) :
      ∃ value?, outline.Tells Format.any.read depth value? := by
    rcases exists_tells_any outline outline outline.reorders_refl depth with
      ⟨value?, -, tells, -, -⟩
    exact ⟨value?, tells⟩
  choose value? tells using exists_value
  refine ⟨fun member => (textValue? member.1).bind fun key => (value? member.2).map (key, ·),
    fun members => ?_, fun member told isTold => ?_⟩
  · apply tells_any_object
    rw [List.forall₂_map_right_iff, List.forall₂_same]
    exact fun member _ => takesMember_any (tells member.2)
  · rcases Option.bind_eq_some_iff.mp isTold with ⟨key, isKey, isTold⟩
    rcases Option.map_eq_some_iff.mp isTold with ⟨value, isValue, rfl⟩
    exact ⟨isKey, isValue ▸ tells member.2⟩

/-- Of outlines that agree but for a key, values are told that do so too. -/
theorem exists_tells_agrees {key : String} {item other : Outline}
    (agrees : item.AgreesBut key other) (depth : Nat) :
    ∃ value? other?, item.Tells Format.any.read depth value? ∧
      other.Tells Format.any.read depth other? ∧
      ∀ value ∈ value?, ∀ found ∈ other?, value.AgreesBut key found := by
  cases agrees with
  | same =>
      rcases exists_tells_any item item item.reorders_refl depth with ⟨value?, -, tells, -, -⟩
      refine ⟨value?, value?, tells, tells, fun value isValue found isFound => ?_⟩
      cases Option.mem_unique isValue isFound
      exact .same value
  | @object members others agree once =>
      cases depth with
      | zero =>
          exact ⟨none, none, tells_object_zero opensObject_any, tells_object_zero opensObject_any,
            nofun⟩
      | succ depth =>
          rcases exists_tell depth with ⟨tell, tellsObject, tellsMember⟩
          refine ⟨_, _, tellsObject members, tellsObject others, ?_⟩
          intro value isValue found isFound
          rcases exists_collected isValue with ⟨read, told, rfl⟩
          rcases exists_collected isFound with ⟨readOther, toldOther, rfl⟩
          have keys member told isTold := (tellsMember member told isTold).1
          refine .object (List.map_injective_iff.mpr (Option.some_injective _) ?_)
          rw [← membersBut_told keys told, ← membersBut_told keys toldOther, agree]

theorem Outline.Tells.exists_tells_member {members : List (List TextPart × Outline)} {depth : Nat}
    {value : Json} (tells : (object members).Tells Format.any.read (depth + 1) (some value))
    (spellable : (object members).IsSpellable) :
    ∀ member ∈ members, ∃ found, member.2.Tells Format.any.read depth (some found) := by
  rcases exists_tell depth with ⟨tell, tellsObject, tellsMember⟩
  have same := Outline.Tells.unique (tellsObject members) tells spellable
  rcases exists_collected same with ⟨read, told, -⟩
  intro member isMember
  have isTold : tell member ∈ read.map some := told ▸ List.mem_map_of_mem isMember
  rcases List.mem_map.mp isTold with ⟨found, -, isFound⟩
  exact ⟨found.2, (tellsMember member found isFound.symm).2⟩

/-! ## Whole texts -/

theorem exists_items_of_parse {items : List Outline} {told : List (Option Json)}
    (tells : List.Forall₂ (Outline.Tells Format.any.read 126) items told) {text : String}
    (isOutline : (Outline.array items).IsOutlineOf text) {value : Json}
    (parsed : parse text = .ok value) :
    ∃ read : List Json, told = read.map some ∧ value = list read := by
  have found := toOption_parse (tells_any_array tells) isOutline
  rw [show Format.any.parse text = .ok value from parsed] at found
  exact exists_collected found.symm

theorem exists_tells_of_parse {items : List Outline} {text : String}
    (isOutline : (Outline.array items).IsOutlineOf text) {value : Json}
    (parsed : parse text = .ok value) :
    ∀ item ∈ items, ∃ found, item.Tells Format.any.read 126 (some found) := by
  have exists_value (item : Outline) : ∃ value?, item.Tells Format.any.read 126 value? := by
    rcases exists_tells_any item item item.reorders_refl 126 with ⟨value?, -, tells, -, -⟩
    exact ⟨value?, tells⟩
  choose value? tells using exists_value
  have told : List.Forall₂ (Outline.Tells Format.any.read 126) items (items.map value?) := by
    rw [List.forall₂_map_right_iff, List.forall₂_same]
    exact fun item _ => tells item
  rcases exists_items_of_parse told isOutline parsed with ⟨read, equal, -⟩
  intro item isItem
  have isTold : value? item ∈ read.map some := equal ▸ List.mem_map_of_mem isItem
  rcases List.mem_map.mp isTold with ⟨found, -, isFound⟩
  exact ⟨found, isFound ▸ tells item⟩

theorem exists_agrees_of_parse {key : String} {items others : List Outline}
    (agree : List.Forall₂ (Outline.AgreesBut key) items others) {text changed : String}
    (isOutline : (Outline.array items).IsOutlineOf text)
    (isChanged : (Outline.array others).IsOutlineOf changed) {value other : Json}
    (parsed : parse text = .ok value) (parsedOther : parse changed = .ok other) :
    ∃ found results, value = list found ∧ other = list results ∧
      List.Forall₂ (AgreesBut key) found results := by
  rcases exists_lists agree fun item _ other agrees => exists_tells_agrees agrees 126 with
    ⟨told, after, tells, tellsOthers, agreeTold⟩
  rcases exists_items_of_parse tells isOutline parsed with ⟨found, rfl, isValue⟩
  rcases exists_items_of_parse tellsOthers isChanged parsedOther with ⟨results, rfl, isOther⟩
  rw [List.forall₂_map_left_iff, List.forall₂_map_right_iff] at agreeTold
  exact ⟨found, results, isValue, isOther,
    agreeTold.imp fun value result agrees => agrees value rfl result rfl⟩

/-! ## Canonical values -/

def Members.IsAscending (members : Json.Members) : Prop :=
  members.toList.Pairwise fun member later => member.1 < later.1

theorem Members.isAscending_nil : Members.nil.IsAscending :=
  .nil

theorem Members.key_of_mem_insert {name : String} {value : Json} {sorted : Json.Members}
    {member : String × Json} (isMember : member ∈ (sorted.insert name value).toList) :
    member.1 = name ∨ member ∈ sorted.toList := by
  match sorted with
  | .nil =>
      rw [insert, toList, toList, List.mem_singleton] at isMember
      exact .inl (congrArg Prod.fst isMember)
  | .cons other held tail =>
      rw [insert] at isMember
      split at isMember
      · rcases List.mem_cons.mp isMember with rfl | inTail
        · exact .inl rfl
        · exact .inr (List.mem_cons_of_mem _ inTail)
      · split at isMember
        · rcases List.mem_cons.mp isMember with rfl | isHeld
          · exact .inl rfl
          · exact .inr isHeld
        · rcases List.mem_cons.mp isMember with rfl | inTail
          · exact .inr List.mem_cons_self
          · exact (key_of_mem_insert inTail).imp_right (List.mem_cons_of_mem _)

theorem Members.IsAscending.insert {sorted : Json.Members} (ascending : sorted.IsAscending)
    (name : String) (value : Json) : (sorted.insert name value).IsAscending := by
  match sorted with
  | .nil => exact List.pairwise_singleton _ _
  | .cons other held tail =>
      rcases List.pairwise_cons.mp ascending with ⟨before, inTail⟩
      have tailAscends : tail.IsAscending := inTail
      rw [Members.insert]
      split
      case isTrue same =>
        subst same
        exact List.pairwise_cons.mpr ⟨before, inTail⟩
      case isFalse different =>
        split
        case isTrue less =>
          refine List.pairwise_cons.mpr ⟨fun member isMember => ?_, ascending⟩
          rcases List.mem_cons.mp isMember with rfl | isLater
          · exact less
          · exact less.trans (before member isLater)
        case isFalse notLess =>
          have greater : other < name := lt_of_le_of_ne (not_lt.mp notLess) (Ne.symm different)
          have inserted := Members.IsAscending.insert tailAscends name value
          refine List.pairwise_cons.mpr ⟨fun member isMember => ?_, inserted⟩
          rcases Members.key_of_mem_insert isMember with rfl | isLater
          · exact greater
          · exact before member isLater

theorem Members.insert_of_lt {name : String} {sorted : Json.Members}
    (less : ∀ member ∈ sorted.toList, name < member.1) (value : Json) :
    sorted.insert name value = .cons name value sorted := by
  cases sorted with
  | nil => rfl
  | cons other held tail =>
      have isLess : name < other := less (other, held) List.mem_cons_self
      rw [Members.insert, if_neg isLess.ne, if_pos isLess]

theorem membersBut_cons_of_eq {key name : String} (same : name = key) (value : Json)
    (members : List (String × Json)) :
    membersBut key ((name, value) :: members) = membersBut key members :=
  List.filter_cons_of_neg (by simp [same])

theorem membersBut_cons_of_ne {key name : String} (different : name ≠ key) (value : Json)
    (members : List (String × Json)) :
    membersBut key ((name, value) :: members) = (name, value) :: membersBut key members :=
  List.filter_cons_of_pos (by simp [different])

theorem membersBut_insert_of_eq {key name : String} (same : name = key) (value : Json)
    (sorted : Json.Members) :
    membersBut key (sorted.insert name value).toList = membersBut key sorted.toList := by
  match sorted with
  | .nil => exact membersBut_cons_of_eq same value []
  | .cons other held tail =>
      rw [Members.insert]
      split
      case isTrue isOther =>
        rw [Members.toList, Members.toList, membersBut_cons_of_eq same,
          membersBut_cons_of_eq (isOther ▸ same)]
      case isFalse =>
        split
        case isTrue => rw [Members.toList, membersBut_cons_of_eq same]
        case isFalse =>
          have inTail := membersBut_insert_of_eq same value tail
          by_cases isKey : other = key
          · rw [Members.toList, Members.toList, membersBut_cons_of_eq isKey,
              membersBut_cons_of_eq isKey, inTail]
          · rw [Members.toList, Members.toList, membersBut_cons_of_ne isKey,
              membersBut_cons_of_ne isKey, inTail]

theorem membersBut_insert_of_ne {key name : String} (different : name ≠ key) (value : Json)
    {sorted : Json.Members} (ascending : sorted.IsAscending) :
    membersBut key (sorted.insert name value).toList =
      ((Members.ofList (membersBut key sorted.toList)).insert name value).toList := by
  match sorted with
  | .nil => exact membersBut_cons_of_ne different value []
  | .cons other held tail =>
      rcases List.pairwise_cons.mp ascending with ⟨before, inTail⟩
      have tailAscends : tail.IsAscending := inTail
      by_cases isOther : name = other
      · subst isOther
        rw [Members.insert, if_pos rfl, Members.toList, Members.toList,
          membersBut_cons_of_ne different, membersBut_cons_of_ne different, Members.ofList,
          Members.insert, if_pos rfl, Members.toList, Members.toList_ofList]
      by_cases less : name < other
      · have isLess : ∀ member ∈ membersBut key (Members.cons other held tail).toList,
            name < member.1 := by
          intro member isMember
          rcases List.mem_cons.mp (List.mem_filter.mp isMember).1 with rfl | isLater
          · exact less
          · exact less.trans (before member isLater)
        rw [Members.insert, if_neg isOther, if_pos less, Members.toList,
          membersBut_cons_of_ne different, Members.insert_of_lt]
        · simp only [Members.toList, Members.toList_ofList]
        · rwa [Members.toList_ofList]
      · have inserted := membersBut_insert_of_ne different value tailAscends
        rw [Members.insert, if_neg isOther, if_neg less, Members.toList, Members.toList]
        by_cases isKey : other = key
        · rw [membersBut_cons_of_eq isKey, membersBut_cons_of_eq isKey, inserted]
        · rw [membersBut_cons_of_ne isKey, membersBut_cons_of_ne isKey, inserted, Members.ofList,
            Members.insert, if_neg isOther, if_neg less, Members.toList]

theorem Members.isAscending_canonicalMembers (members : Json.Members) {sorted : Json.Members}
    (ascending : sorted.IsAscending) : (canonicalMembers members sorted).IsAscending := by
  match members with
  | .nil => exact ascending
  | .cons name value tail =>
      exact isAscending_canonicalMembers tail (ascending.insert name (canonical value))

theorem membersBut_canonicalMembers (key : String) (members : Json.Members)
    {sorted : Json.Members} (ascending : sorted.IsAscending) :
    membersBut key (canonicalMembers members sorted).toList =
      (canonicalMembers (.ofList (membersBut key members.toList))
        (.ofList (membersBut key sorted.toList))).toList := by
  match members with
  | .nil =>
    rw [canonicalMembers, Members.toList]
    exact (Members.toList_ofList _).symm
  | .cons name value tail =>
      have inTail := membersBut_canonicalMembers key tail
        (ascending.insert name (canonical value))
      rw [canonicalMembers, inTail, Members.toList]
      by_cases same : name = key
      · rw [membersBut_insert_of_eq same, membersBut_cons_of_eq same]
      · rw [membersBut_insert_of_ne same _ ascending, membersBut_cons_of_ne same,
          Members.ofList_toList, Members.ofList, canonicalMembers]

theorem membersBut_canonical {key : String} {members others : List (String × Json)}
    (agree : membersBut key members = membersBut key others) :
    membersBut key (canonicalMembers (.ofList members) .nil).toList =
      membersBut key (canonicalMembers (.ofList others) .nil).toList := by
  rw [membersBut_canonicalMembers key _ Members.isAscending_nil,
    membersBut_canonicalMembers key _ Members.isAscending_nil, Members.toList_ofList,
    Members.toList_ofList, agree]

theorem canonical_record (members : List (String × Json)) :
    canonical (record members) = record (canonicalMembers (.ofList members) .nil).toList := by
  rw [record, canonical, record, Members.ofList_toList]

theorem toList_canonicalItems (items : Json.Items) :
    (canonicalItems items).toList = items.toList.map canonical := by
  match items with
  | .nil => rfl
  | .cons head tail =>
      rw [canonicalItems, Items.toList, toList_canonicalItems tail]
      rfl

end Bulletin.Json
