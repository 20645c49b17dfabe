import Bulletin.Proofs.Json.Folding
import Bulletin.Proofs.Json.Reordering
/-!
# Values in any order of members

The reader of values tells of an outline what its tokens say. Of two outlines that differ in the
order of members alone it tells two values that do so, or none of either.
-/

namespace Bulletin.Json

/-! ## Scalars and brackets -/

theorem read_any_gap {gap : List Char} (isGap : IsGap gap) {c : Char}
    (notBlank : isSpace c = false) (allowance : Allowance) (rest : List Char) (offset : Nat) :
    Format.any.read allowance ⟨gap ++ c :: rest, offset⟩ =
      readValue allowance.steps allowance.depth ⟨c :: rest, offset + gap.length⟩ :=
  readValue_gap isGap notBlank _ _ rest offset

theorem opensArray_any :
    OpensArray Format.any.read fun allowance cursor =>
      (foldItems
        (fun values cursor =>
          (Format.any.read allowance cursor).map fun (value, after) => (value :: values, after))
        allowance.steps true [] cursor).map
        fun (values, after) => (list values.reverse, after) := by
  intro gap isGap allowance rest offset
  rcases allowance with ⟨depth, steps⟩
  rw [read_any_gap isGap rfl, readValue, skipSpaces_cons rfl, inArray]
  cases depth with
  | zero => rfl
  | succ depth =>
      exact (settle_map closeArray afterArrayClose _ fun values : List Json =>
        list values.reverse).symm

theorem opensObject_any :
    OpensObject Format.any.read fun allowance cursor =>
      foldMembers (collectMember allowance.steps allowance.depth) allowance.steps allowance.steps
        true [] cursor >>= fun (members, after) => .ok (record members.reverse, after) := by
  intro gap isGap allowance rest offset
  rcases allowance with ⟨depth, steps⟩
  rw [read_any_gap isGap rfl, readValue, skipSpaces_cons rfl, inObject]
  cases depth with
  | zero => rfl
  | succ depth =>
      exact (settle_map closeObject afterObjectClose _ fun members : List (String × Json) =>
        record members.reverse).symm

theorem tells_any_null (depth : Nat) : Outline.null.Tells Format.any.read depth (some .null) := by
  intro gap chars isGap spells steps _ rest _ offset
  rw [Outline.Spells] at spells
  rw [spells, List.append_assoc, List.cons_append, read_any_gap isGap rfl, readValue,
    skipSpaces_cons rfl]
  exact ⟨_, rfl⟩

theorem tells_any_boolean (value : Bool) (depth : Nat) :
    (Outline.boolean value).Tells Format.any.read depth (some (.boolean value)) := by
  intro gap chars isGap spells steps _ rest _ offset
  cases value
  all_goals
    rw [Outline.Spells] at spells
    rw [spells, List.append_assoc, List.cons_append, read_any_gap isGap rfl, readValue,
      skipSpaces_cons rfl]
    exact ⟨_, rfl⟩

theorem tells_any_number (numeral : Numeral) (depth : Nat) :
    (Outline.number numeral).Tells Format.any.read depth (numeral.value?.map Json.number) := by
  intro gap chars isGap spells steps _ rest boundary offset
  rw [Outline.Spells] at spells
  rcases spells with ⟨proper, rfl⟩
  have reads (offset : Nat) := gives_unsignedNumber proper boundary offset
  rw [Numeral.chars]
  cases negative : numeral.negative with
  | true =>
      rw [if_pos rfl, List.append_assoc, List.singleton_append, List.cons_append,
        read_any_gap isGap rfl, readValue, skipSpaces_cons rfl]
      rw [negative] at reads
      exact (reads _).map Json.number
  | false =>
      rcases proper.start with ⟨c, more, startsWith, isDigit⟩
      have isStart := isStart_of_isDigit isDigit
      rw [negative, startsWith] at reads
      rw [if_neg Bool.false_ne_true, List.nil_append, startsWith, List.append_assoc,
        List.cons_append, read_any_gap isGap isStart.1, readValue, skipSpaces_cons isStart.1]
      simp only
      split
      case h_9 heads =>
        rcases List.cons.inj heads with ⟨rfl, -⟩
        rw [if_pos isDigit]
        exact (reads _).map Json.number
      all_goals simp_all

theorem tells_any_text (parts : List TextPart) (depth : Nat) :
    (Outline.text parts).Tells Format.any.read depth ((textValue? parts).map Json.text) := by
  intro gap chars isGap spells steps enough rest _ offset
  rw [Outline.Spells] at spells
  rcases spells with ⟨proper, rfl⟩
  rw [List.length_append, length_quotedChars] at enough
  have shorter : (parts.flatMap TextPart.chars).length < steps := by omega
  rw [List.append_assoc, quotedChars_append, read_any_gap isGap rfl, readValue,
    skipSpaces_cons rfl]
  exact (gives_stringBody proper shorter rest _).map Json.text

/-! ## Members -/

theorem takesMember_any {depth : Nat} {member : List TextPart × Outline} {value? : Option Json}
    (tells : member.2.Tells Format.any.read depth value?) :
    TakesMember (fun allowance => collectMember allowance.steps allowance.depth) depth collect
      member ((textValue? member.1).bind fun key => value?.map (key, ·)) where
  noKey noKey members := by
    rw [noKey]
    rfl
  key key isText members := by
    rw [isText, Option.bind_some, collect, Option.map_map]
    exact tells.member fun value => (key, value) :: members

theorem exists_takesMember_any {depth : Nat} {member other : List TextPart × Outline}
    (reorders : Outline.ReordersMember member other)
    (tells : ∀ value, member.2.Reorders value → ∃ value? other?,
      member.2.Tells Format.any.read depth value? ∧ value.Tells Format.any.read depth other? ∧
        Option.Rel Reorders value? other?) :
    ∃ part next,
      TakesMember (fun allowance => collectMember allowance.steps allowance.depth) depth collect
        member part ∧
      TakesMember (fun allowance => collectMember allowance.steps allowance.depth) depth collect
        other next ∧ Option.Rel ReordersMember part next := by
  cases reorders with
  | value inValue =>
      rcases tells _ inValue with ⟨value?, other?, tellsValue, tellsOther, alike⟩
      refine ⟨_, _, takesMember_any tellsValue, takesMember_any tellsOther, ?_⟩
      rename_i key value other
      cases textValue? key with
      | none => exact .none
      | some key => exact rel_map alike fun _ _ holds => ReordersMember.value holds

/-! ## What is collected -/

theorem collect_alike {alike : α → α → Prop} {told others : List (Option α)}
    (inTold : List.Forall₂ (Option.Rel alike) told others) :
    Option.Rel (List.Forall₂ alike) (told.foldlM collect []) (others.foldlM collect []) := by
  refine foldlM_alike (fun values after part next follows isAlike => ?_) inTold .nil
  exact rel_map isAlike fun _ _ holds => List.Forall₂.cons holds follows

theorem collect_perm {told others : List (Option α)} (order : told.Perm others) :
    Option.Rel List.Perm (told.foldlM collect []) (others.foldlM collect []) := by
  have equivalence : Equivalence (List.Perm (α := α)) := ⟨.refl, .symm, .trans⟩
  refine foldlM_perm equivalence ?_ order ?_ (.refl [])
  · intro values others part follows
    cases part with
    | none => exact .none
    | some value => exact .some (follows.cons value)
  · intro part _ next _ values
    cases part <;> cases next
    case some.some => exact .some (.swap _ _ values)
    all_goals exact .none

theorem collect_reorders {told inPlace others : List (Option (String × Json))}
    (inTold : List.Forall₂ (Option.Rel ReordersMember) told inPlace)
    (order : inPlace.Perm others) :
    Option.Rel ReordersMembers (told.foldlM collect []) (others.foldlM collect []) :=
  rel_trans (collect_alike inTold) (collect_perm order) fun _ inPlace _ inMembers order =>
    ⟨inPlace, inMembers, order⟩

/-! ## All values -/

theorem tells_any_array {depth : Nat} {items : List Outline} {told : List (Option Json)}
    (tells : List.Forall₂ (Outline.Tells Format.any.read depth) items told) :
    (Outline.array items).Tells Format.any.read (depth + 1)
      ((told.foldlM collect []).map fun values => list values.reverse) :=
  tells_array_succ opensArray_any (tellsItems_fold tells fun values => list values.reverse)

theorem tells_any_object {depth : Nat} {members : List (List TextPart × Outline)}
    {told : List (Option (String × Json))}
    (takes : List.Forall₂
      (TakesMember (fun allowance => collectMember allowance.steps allowance.depth) depth collect)
      members told) :
    (Outline.object members).Tells Format.any.read (depth + 1)
      ((told.foldlM collect []).map fun members => record members.reverse) := by
  rw [Option.map_eq_bind]
  refine tells_object_succ opensObject_any (tellsMembers_fold takes [] ?_)
  exact fun members rest offset => ⟨offset, rfl⟩

/-- From texts that differ in the order of members alone, values are read that do so too. -/
theorem exists_tells_any (outline : Outline) :
    ∀ other, outline.Reorders other → ∀ depth, ∃ value? other?,
      outline.Tells Format.any.read depth value? ∧ other.Tells Format.any.read depth other? ∧
        Option.Rel Reorders value? other? := by
  induction outline using Outline.induction_on with
  | null =>
      intro other reorders depth
      cases reorders
      exact ⟨_, _, tells_any_null depth, tells_any_null depth, .some .null⟩
  | boolean value =>
      intro other reorders depth
      cases reorders
      exact ⟨_, _, tells_any_boolean value depth, tells_any_boolean value depth,
        .some (.boolean value)⟩
  | number numeral =>
      intro other reorders depth
      cases reorders
      refine ⟨_, _, tells_any_number numeral depth, tells_any_number numeral depth, ?_⟩
      cases numeral.value? with
      | none => exact .none
      | some value => exact .some (.number value)
  | text parts =>
      intro other reorders depth
      cases reorders
      refine ⟨_, _, tells_any_text parts depth, tells_any_text parts depth, ?_⟩
      cases textValue? parts with
      | none => exact .none
      | some value => exact .some (.text value)
  | array items induction =>
      intro other reorders depth
      cases reorders with
      | array inItems =>
          cases depth with
          | zero =>
              exact ⟨none, none, tells_array_zero opensArray_any, tells_array_zero opensArray_any,
                .none⟩
          | succ depth =>
              rcases exists_lists inItems fun item isItem other reorders =>
                induction item isItem other reorders depth with
                ⟨told, after, tells, tellsOthers, alike⟩
              refine ⟨_, _, tells_any_array tells, tells_any_array tellsOthers, ?_⟩
              exact rel_map (collect_alike alike) fun _ _ holds => .array (List.rel_reverse holds)
  | object members induction =>
      intro other reorders depth
      cases reorders with
      | object inMembers order =>
          cases depth with
          | zero =>
              exact ⟨none, none, tells_object_zero opensObject_any,
                tells_object_zero opensObject_any, .none⟩
          | succ depth =>
              rcases exists_lists_perm inMembers order fun member isMember other reorders =>
                exists_takesMember_any reorders fun value reorders =>
                  induction member isMember value reorders depth with
                ⟨told, inPlace, after, takes, takesOthers, alike, moved⟩
              refine ⟨_, _, tells_any_object takes, tells_any_object takesOthers, ?_⟩
              have reordered := collect_reorders alike moved
              exact rel_map reordered fun _ _ holds => holds.reverse.record

end Bulletin.Json
