import Bulletin.Json.Canonical
import Bulletin.Proofs.Json.Outlining
import Bulletin.Proofs.Json.Steadiness
/-!
# Canonical texts

A value in which no key is repeated differs from its canonical form in the order of members alone,
so a steady format finds in its canonical text what it finds in the value.
-/

namespace Bulletin.Json

/-! ## Canonical values -/

mutual
def HasDistinctKeys : Json → Prop
  | .array items => items.HaveDistinctKeys
  | .object members => (members.toList.map Prod.fst).Nodup ∧ members.HaveDistinctKeys
  | _ => True

def Items.HaveDistinctKeys : Json.Items → Prop
  | .nil => True
  | .cons head tail => head.HasDistinctKeys ∧ tail.HaveDistinctKeys

def Members.HaveDistinctKeys : Json.Members → Prop
  | .nil => True
  | .cons _ value tail => value.HasDistinctKeys ∧ tail.HaveDistinctKeys
end

theorem Members.toList_insert {key : String} {value : Json} {sorted : Json.Members}
    (isNew : key ∉ sorted.toList.map Prod.fst) :
    (sorted.insert key value).toList.Perm ((key, value) :: sorted.toList) := by
  match sorted with
  | .nil => exact .refl _
  | .cons other held tail =>
      rw [toList, List.map_cons, List.mem_cons, not_or] at isNew
      rw [Members.insert, if_neg isNew.1]
      split
      · exact .refl _
      · exact ((toList_insert isNew.2).cons (other, held)).trans (.swap _ _ _)

def canonicalInPlace (members : List (String × Json)) : List (String × Json) :=
  members.map fun member => (member.1, canonical member.2)

theorem toList_canonicalMembers (members sorted : Json.Members)
    (distinct : ((members.toList ++ sorted.toList).map Prod.fst).Nodup) :
    (canonicalMembers members sorted).toList.Perm
      (canonicalInPlace members.toList ++ sorted.toList) := by
  match members with
  | .nil => exact .refl _
  | .cons key value tail =>
      rw [Members.toList, List.cons_append, List.map_cons, List.nodup_cons] at distinct
      have isNew : key ∉ sorted.toList.map Prod.fst := fun inSorted =>
        distinct.1 (by rw [List.map_append]; exact List.mem_append_right _ inSorted)
      have inserted : (sorted.insert key (canonical value)).toList.Perm
          ((key, canonical value) :: sorted.toList) := Members.toList_insert isNew
      have moved := (inserted.append_left tail.toList).trans List.perm_middle
      have stillDistinct :
          ((tail.toList ++ (sorted.insert key (canonical value)).toList).map Prod.fst).Nodup := by
        rw [(moved.map Prod.fst).nodup_iff]
        exact List.nodup_cons.mpr distinct
      have others := toList_canonicalMembers tail (sorted.insert key (canonical value))
        stillDistinct
      rw [canonicalMembers, Members.toList]
      exact others.trans ((inserted.append_left _).trans List.perm_middle)

mutual
theorem reorders_canonical :
    ∀ {value : Json}, value.HasDistinctKeys → value.Reorders (canonical value)
  | .null, _ => .null
  | .boolean value, _ => .boolean value
  | .number value, _ => .number value
  | .text value, _ => .text value
  | .array items, distinct => by
      have reordered := Reorders.array (reorders_canonicalItems distinct)
      rw [Items.ofList_toList, Items.ofList_toList] at reordered
      exact reordered
  | .object members, distinct => by
      rw [HasDistinctKeys] at distinct
      have sorted := toList_canonicalMembers members .nil
        (by rw [Members.toList, List.append_nil]; exact distinct.1)
      rw [Members.toList, List.append_nil] at sorted
      have reordered := Reorders.object (reorders_canonicalInPlace distinct.2) sorted.symm
      rw [Members.ofList_toList, Members.ofList_toList] at reordered
      exact reordered

theorem reorders_canonicalItems :
    ∀ {items : Json.Items}, items.HaveDistinctKeys →
      List.Forall₂ Reorders items.toList (canonicalItems items).toList
  | .nil, _ => .nil
  | .cons _ _, distinct =>
      .cons (reorders_canonical distinct.1) (reorders_canonicalItems distinct.2)

theorem reorders_canonicalInPlace :
    ∀ {members : Json.Members}, members.HaveDistinctKeys →
      List.Forall₂ ReordersMember members.toList (canonicalInPlace members.toList)
  | .nil, _ => .nil
  | .cons _ _ _, distinct =>
      .cons (.value (reorders_canonical distinct.1)) (reorders_canonicalInPlace distinct.2)
end

/-! ## Exact numbers -/

theorem Members.isExact_insert (key : String) {value : Json} (exact : value.IsExact)
    {sorted : Json.Members} (inSorted : sorted.IsExact) : (sorted.insert key value).IsExact := by
  cases sorted with
  | nil => exact ⟨exact, trivial⟩
  | cons other held tail =>
      rw [Members.insert]
      split
      · exact ⟨exact, inSorted.2⟩
      · split
        · exact ⟨exact, inSorted⟩
        · exact ⟨inSorted.1, isExact_insert key exact inSorted.2⟩

mutual
theorem isExact_canonical : ∀ {value : Json}, value.IsExact → (canonical value).IsExact
  | .null, _ => trivial
  | .boolean _, _ => trivial
  | .number _, exact => exact
  | .text _, _ => trivial
  | .array _, exact => isExact_canonicalItems exact
  | .object _, exact => isExact_canonicalMembers exact trivial

theorem isExact_canonicalItems :
    ∀ {items : Json.Items}, items.IsExact → (canonicalItems items).IsExact
  | .nil, _ => trivial
  | .cons _ _, exact => ⟨isExact_canonical exact.1, isExact_canonicalItems exact.2⟩

theorem isExact_canonicalMembers :
    ∀ {members sorted : Json.Members}, members.IsExact → sorted.IsExact →
      (canonicalMembers members sorted).IsExact
  | .nil, _, _, inSorted => inSorted
  | .cons key _ _, _, exact, inSorted => by
      rw [canonicalMembers]
      exact isExact_canonicalMembers exact.2
        (Members.isExact_insert key (isExact_canonical exact.1) inSorted)
end

/-! ## Texts -/

theorem Outlines.isOutlineOf_compact {value : Json} {outline : Outline}
    (outlines : Outlines value outline) (exact : value.IsExact) :
    outline.IsOutlineOf value.compact := by
  refine ⟨[], compactChars value, [], isGap_nil, ?_, isGap_nil, ?_⟩
  · exact outlines _ (spells_compactChars value exact)
  · rw [compact, String.toList_ofList, List.nil_append, List.append_nil]

theorem Format.IsSteady.parse_canonicalText {format : Format α} (steady : format.IsSteady)
    {value : Json} {result : α} (finds : format.Finds value result)
    (writable : value.IsWritable 127) (distinct : value.HasDistinctKeys) :
    format.parse value.canonicalText = .ok result := by
  rcases exists_outlines value (canonical value) (reorders_canonical distinct) with
    ⟨outline, next, ofValue, ofCanonical, reorders⟩
  have same := steady.parse reorders (ofValue.isOutlineOf_compact writable.1)
    (ofCanonical.isOutlineOf_compact (isExact_canonical writable.1))
  rw [canonicalText, ← Outcome.toOption_eq_some, ← same, Outcome.toOption_eq_some]
  exact finds.parse_compact writable

/-! ## Distinct keys -/

theorem hasDistinctKeys_text (value : String) : (Json.text value).HasDistinctKeys := trivial

theorem hasDistinctKeys_boolean (value : Bool) : (Json.boolean value).HasDistinctKeys := trivial

theorem hasDistinctKeys_list {items : List Json} (distinct : ∀ item ∈ items, item.HasDistinctKeys) :
    (list items).HasDistinctKeys := by
  have inItems : (Items.ofList items).HaveDistinctKeys := by
    induction items with
    | nil => trivial
    | cons item items induction =>
        rcases List.forall_mem_cons.mp distinct with ⟨first, others⟩
        exact ⟨first, induction others⟩
  exact inItems

theorem hasDistinctKeys_list_map {toJson : α → Json}
    (distinct : ∀ item, (toJson item).HasDistinctKeys) (items : List α) :
    (list (items.map toJson)).HasDistinctKeys :=
  hasDistinctKeys_list (List.forall_mem_map.mpr fun item _ => distinct item)

theorem hasDistinctKeys_record {members : List (String × Json)}
    (keys : (members.map Prod.fst).Nodup)
    (distinct : ∀ member ∈ members, member.2.HasDistinctKeys) :
    (record members).HasDistinctKeys := by
  have inMembers : (Members.ofList members).HaveDistinctKeys := by
    clear keys
    induction members with
    | nil => trivial
    | cons member members induction =>
        rcases List.forall_mem_cons.mp distinct with ⟨first, others⟩
        exact ⟨first, induction others⟩
  refine ⟨?_, inMembers⟩
  rw [Members.toList_ofList]
  exact keys

theorem nodup_member? (key : String) (value? : Option Json) :
    ((member? key value?).map Prod.fst).Nodup := by
  cases value? <;> simp [member?]

theorem hasDistinctKeys_member? (key : String) {value? : Option Json}
    (distinct : ∀ value ∈ value?, value.HasDistinctKeys) :
    ∀ member ∈ member? key value?, member.2.HasDistinctKeys := by
  intro member isMember
  cases value? with
  | none => cases isMember
  | some value =>
      rw [List.mem_singleton.mp isMember]
      exact distinct value rfl

end Bulletin.Json
