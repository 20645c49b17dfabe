import Bulletin.Proofs.Json.Finding
import Bulletin.Proofs.Json.Skipping
/-!
# Loops over outlines

A loop over the items of an array, or over the members of an object, is a fold over what each of
them tells by itself, wherever the array or the object is spelled.
-/

namespace Bulletin.Json

/-! ## What an outline tells -/

/-- Wherever the outline is spelled, the reader gets the value from it, or nothing. -/
def Outline.Tells (read : Allowance → Cursor → Except Fault (α × Cursor)) (depth : Nat)
    (outline : Outline) (value? : Option α) : Prop :=
  ∀ {gap chars : List Char}, IsGap gap → outline.Spells chars → ∀ {steps : Nat},
    (gap ++ chars).length < steps → ∀ {rest : List Char}, IsBoundary rest → ∀ offset,
      Gives (read ⟨depth, steps⟩ ⟨gap ++ chars ++ rest, offset⟩) value? rest

section Tells

variable {read : Allowance → Cursor → Except Fault (α × Cursor)} {depth : Nat}
  {outline : Outline} {value? : Option α}

theorem Outline.Tells.map (tells : outline.Tells read depth value?) (f : α → β) :
    outline.Tells
      (fun allowance cursor =>
        (read allowance cursor).map fun (value, after) => (f value, after))
      depth (value?.map f) :=
  fun isGap spells _ enough _ boundary offset => (tells isGap spells enough boundary offset).map f

/-- The same where the outline is the value of a member and the reader at the colon before it. -/
def Outline.TellsMember (read : Allowance → Cursor → Except Fault (α × Cursor)) (depth : Nat)
    (outline : Outline) (value? : Option α) : Prop :=
  ∀ {before behind chars : List Char}, IsGap before → IsGap behind → outline.Spells chars →
    ∀ {steps : Nat}, (behind ++ chars).length < steps → ∀ {rest : List Char}, IsBoundary rest →
      ∀ offset,
        Gives (read ⟨depth, steps⟩ ⟨before ++ ':' :: (behind ++ chars ++ rest), offset⟩) value? rest

theorem Outline.Tells.member (tells : outline.Tells read depth value?) (f : α → β) :
    outline.TellsMember
      (fun allowance cursor => do
        let (value, after) ← read allowance (← colon cursor)
        .ok (f value, after))
      depth (value?.map f) := by
  intro before behind chars isBefore isBehind spells steps enough rest boundary offset
  simp only [colon_gap isBefore, Outcome.ok_bind]
  rw [Option.map_eq_bind]
  exact (tells isBehind spells enough boundary _).bind fun _ after => ⟨after, rfl⟩

end Tells

/-! ## Arrays -/

/-- What an item tells stands before what was told before it. -/
def collect (values : List α) (value? : Option α) : Option (List α) :=
  value?.map (· :: values)

theorem gives_foldItems {read : Allowance → Cursor → Except Fault (α × Cursor)} {depth : Nat}
    {items : List Outline} {told : List (Option α)}
    (tells : List.Forall₂ (Outline.Tells read depth) items told) {first : Bool}
    {chars : List Char} (spells : Outline.SpellsItems first items chars) {steps : Nat}
    (fits : chars.length < steps) {count : Nat} (enough : chars.length ≤ count)
    (values : List α) (rest : List Char) (offset : Nat) :
    Gives
      (foldItems
        (fun values cursor =>
          (read ⟨depth, steps⟩ cursor).map fun (value, after) => (value :: values, after))
        count first values ⟨chars ++ rest, offset⟩)
      (told.foldlM collect values) (']' :: rest) := by
  induction tells generalizing first chars count values offset with
  | nil =>
      rw [Outline.SpellsItems] at spells
      rcases spells with ⟨gap, isGap, rfl⟩
      rw [List.length_append, List.length_singleton] at enough
      rcases Nat.exists_eq_add_one_of_ne_zero (by omega : count ≠ 0) with ⟨count, rfl⟩
      rw [foldItems, List.append_assoc, List.singleton_append, nextItem_closing isGap]
      exact ⟨_, rfl⟩
  | @cons head value? tail others tellsHead tellsTail induction =>
      rw [Outline.SpellsItems] at spells
      rcases spells with ⟨lead, item, behind, isLead, spellsHead, spellsTail, rfl⟩
      rcases spellsHead.start with ⟨c, more, startsWith, isStart⟩
      simp only [List.length_append] at fits enough
      have nonempty : 0 < item.length := by
        rw [startsWith]
        exact Nat.zero_lt_succ _
      rcases Nat.exists_eq_add_one_of_ne_zero (by omega : count ≠ 0) with ⟨count, rfl⟩
      rcases nextItem_lead isLead isStart (more ++ (behind ++ rest)) offset with ⟨atItem, next⟩
      rw [← List.cons_append, ← startsWith] at next
      have shorter : ([] ++ item).length < steps := by
        rw [List.nil_append]
        omega
      have givesHead := tellsHead isGap_nil spellsHead shorter (spellsTail.isBoundary rest) atItem
      rw [foldItems, List.append_assoc, List.append_assoc, next, List.foldlM_cons]
      exact (givesHead.map (· :: values)).bind fun values offset =>
        induction spellsTail (by omega) (by omega) values offset

/-! ## Objects -/

theorem gives_nextKey {first : Bool} {lead : List Char} (isLead : IsLead first lead)
    {key : List TextPart} (proper : ∀ part ∈ key, part.IsProper) {steps : Nat}
    (enough : (quotedChars key).length < steps) (rest : List Char) (offset : Nat) :
    Gives (nextKey steps first ⟨lead ++ (quotedChars key ++ rest), offset⟩)
      ((textValue? key).map some) rest := by
  have shorter : (key.flatMap TextPart.chars).length < steps := by
    rw [length_quotedChars] at enough
    omega
  have body (behind : Nat) :
      Gives
        (stringBody steps [] ⟨key.flatMap TextPart.chars ++ '"' :: rest, behind⟩ >>=
          fun read => .ok (some read.1, read.2))
        ((textValue? key).map some) rest := by
    rw [Option.map_eq_bind]
    exact (gives_stringBody proper shorter rest behind).bind fun _ after => ⟨after, rfl⟩
  rcases isLead with ⟨before, after, isBefore, isAfter, rfl⟩
  rw [quotedChars_append, nextKey]
  cases first with
  | true =>
      rw [if_pos rfl, List.append_nil, List.append_assoc, skipSpaces_append isBefore,
        skipSpaces_gap isAfter rfl]
      exact body _
  | false =>
      rw [if_neg Bool.false_ne_true, List.append_assoc, List.append_assoc,
        List.singleton_append, skipSpaces_gap isBefore rfl]
      simpa [Cursor.next, skipSpaces_gap isAfter (c := '"') rfl] using body _

/-- What the reader makes of the member is the step on the part that the member tells. A key that
is no text ends both. -/
structure TakesMember (read : Allowance → σ → String → Cursor → Except Fault (σ × Cursor))
    (depth : Nat) (step : σ → β → Option σ) (member : List TextPart × Outline) (part : β) :
    Prop where
  noKey : textValue? member.1 = none → ∀ state, step state part = none
  key : ∀ key, textValue? member.1 = some key → ∀ state,
    member.2.TellsMember (fun allowance => read allowance state key) depth (step state part)

theorem gives_foldMembers
    {read : Allowance → σ → String → Cursor → Except Fault (σ × Cursor)} {depth : Nat}
    {step : σ → β → Option σ} {members : List (List TextPart × Outline)} {told : List β}
    (takes : List.Forall₂ (TakesMember read depth step) members told) {first : Bool}
    {chars : List Char} (spells : Outline.SpellsMembers first members chars) {steps : Nat}
    (fits : chars.length < steps) {count : Nat} (enough : chars.length ≤ count) (state : σ)
    (rest : List Char) (offset : Nat) :
    Gives (foldMembers (read ⟨depth, steps⟩) steps count first state ⟨chars ++ rest, offset⟩)
      (told.foldlM step state) ('\x7d' :: rest) := by
  induction takes generalizing first chars count state offset with
  | nil =>
      rw [Outline.SpellsMembers] at spells
      rcases spells with ⟨gap, isGap, rfl⟩
      rw [List.length_append, List.length_singleton] at enough
      rcases Nat.exists_eq_add_one_of_ne_zero (by omega : count ≠ 0) with ⟨count, rfl⟩
      rw [foldMembers, List.append_assoc, List.singleton_append, nextKey_closing isGap]
      exact ⟨_, rfl⟩
  | @cons member part tail others takesHead takesTail induction =>
      rcases member with ⟨key, value⟩
      rw [Outline.SpellsMembers] at spells
      rcases spells with
        ⟨lead, before, behind, item, rests, isLead, proper, isBefore, isBehind, spellsValue,
          spellsTail, rfl⟩
      simp only [List.length_append, List.length_cons] at fits enough
      rcases Nat.exists_eq_add_one_of_ne_zero (by omega : count ≠ 0) with ⟨count, rfl⟩
      have quoted : (quotedChars key).length < steps := by omega
      have givesKey := gives_nextKey isLead proper quoted
        (before ++ ':' :: (behind ++ item ++ (rests ++ rest))) offset
      simp only [List.append_assoc, List.cons_append] at givesKey ⊢
      rw [foldMembers, List.foldlM_cons]
      cases isText : textValue? key with
      | none =>
          rw [takesHead.noKey isText]
          rw [isText] at givesKey
          rcases givesKey with ⟨fault, equal⟩
          rw [equal]
          exact ⟨fault, rfl⟩
      | some key =>
          rw [isText] at givesKey
          rcases givesKey with ⟨atColon, equal⟩
          have shorter : (behind ++ item).length < steps := by
            rw [List.length_append]
            omega
          have givesValue := takesHead.key key isText state isBefore isBehind spellsValue shorter
            (spellsTail.isBoundary rest) atColon
          rw [List.append_assoc] at givesValue
          rw [equal]
          exact givesValue.bind fun next offset =>
            induction spellsTail (by omega) (by omega) next offset

/-! ## Brackets -/

theorem Gives.settle {close : Cursor → Except Fault Cursor} {afterClose : Cursor → Cursor}
    {contents : Except Fault (α × Cursor)} {value? : Option α} {inside rest : List Char}
    (gives : Gives contents value? inside)
    (closes : ∀ offset, ∃ behind, close ⟨inside, offset⟩ = .ok ⟨rest, behind⟩) :
    Gives (settle close afterClose contents) value? rest := by
  cases value? with
  | none =>
      rcases gives with ⟨fault, rfl⟩
      cases fault
      all_goals exact ⟨_, rfl⟩
  | some value =>
      rcases gives with ⟨offset, rfl⟩
      rcases closes offset with ⟨behind, closed⟩
      refine ⟨behind, ?_⟩
      rw [Json.settle, closed]
      rfl

theorem settle_map (close : Cursor → Except Fault Cursor) (afterClose : Cursor → Cursor)
    (contents : Except Fault (α × Cursor)) (f : α → β) :
    settle close afterClose (contents.map fun (value, after) => (f value, after)) =
      (settle close afterClose contents).map fun (value, after) => (f value, after) := by
  rcases contents with (_ | _) | ⟨value, behind⟩
  · rfl
  · rfl
  · simp only [Outcome.map_ok, settle]
    cases close behind <;> rfl

def TellsItems (read : Allowance → Cursor → Except Fault (α × Cursor)) (depth : Nat)
    (first : Bool) (items : List Outline) (value? : Option α) : Prop :=
  ∀ {chars : List Char}, Outline.SpellsItems first items chars → ∀ {steps : Nat},
    chars.length < steps → ∀ rest offset,
      Gives (settle closeArray afterArrayClose (read ⟨depth, steps⟩ ⟨chars ++ rest, offset⟩))
        value? rest

def TellsMembers (read : Allowance → Cursor → Except Fault (α × Cursor)) (depth : Nat)
    (members : List (List TextPart × Outline)) (value? : Option α) : Prop :=
  ∀ {chars : List Char}, Outline.SpellsMembers true members chars → ∀ {steps : Nat},
    chars.length < steps → ∀ rest offset,
      Gives (settle closeObject afterObjectClose (read ⟨depth, steps⟩ ⟨chars ++ rest, offset⟩))
        value? rest

section Brackets

variable {read contents : Allowance → Cursor → Except Fault (α × Cursor)} {value? : Option α}

def OpensArray (read contents : Allowance → Cursor → Except Fault (α × Cursor)) : Prop :=
  ∀ {gap : List Char}, IsGap gap → ∀ allowance rest offset,
    read allowance ⟨gap ++ '[' :: rest, offset⟩ =
      inArray allowance ⟨'[' :: rest, offset + gap.length⟩ rest contents

def OpensObject (read contents : Allowance → Cursor → Except Fault (α × Cursor)) : Prop :=
  ∀ {gap : List Char}, IsGap gap → ∀ allowance rest offset,
    read allowance ⟨gap ++ '\x7b' :: rest, offset⟩ =
      inObject allowance ⟨'\x7b' :: rest, offset + gap.length⟩ rest contents

variable {items : List Outline} {members : List (List TextPart × Outline)} {depth : Nat}

theorem tells_array_zero (opens : OpensArray read contents) :
    (Outline.array items).Tells read 0 none := by
  intro gap chars isGap spells steps _ rest _ offset
  rw [Outline.Spells] at spells
  rcases spells with ⟨inside, -, rfl⟩
  rw [List.append_assoc, List.cons_append, opens isGap]
  exact ⟨_, rfl⟩

theorem tells_array_succ (opens : OpensArray read contents)
    (tells : TellsItems contents depth true items value?) :
    (Outline.array items).Tells read (depth + 1) value? := by
  intro gap chars isGap spells steps enough rest _ offset
  rw [Outline.Spells] at spells
  rcases spells with ⟨inside, spells, rfl⟩
  rw [List.length_append, List.length_cons] at enough
  have shorter : inside.length < steps := by omega
  rw [List.append_assoc, List.cons_append, opens isGap]
  exact tells spells shorter rest _

theorem tells_object_zero (opens : OpensObject read contents) :
    (Outline.object members).Tells read 0 none := by
  intro gap chars isGap spells steps _ rest _ offset
  rw [Outline.Spells] at spells
  rcases spells with ⟨inside, -, rfl⟩
  rw [List.append_assoc, List.cons_append, opens isGap]
  exact ⟨_, rfl⟩

theorem tells_object_succ (opens : OpensObject read contents)
    (tells : TellsMembers contents depth members value?) :
    (Outline.object members).Tells read (depth + 1) value? := by
  intro gap chars isGap spells steps enough rest _ offset
  rw [Outline.Spells] at spells
  rcases spells with ⟨inside, spells, rfl⟩
  rw [List.length_append, List.length_cons] at enough
  have shorter : inside.length < steps := by omega
  rw [List.append_assoc, List.cons_append, opens isGap]
  exact tells spells shorter rest _

end Brackets

theorem tellsItems_fold {read : Allowance → Cursor → Except Fault (α × Cursor)} {depth : Nat}
    {items : List Outline} {told : List (Option α)}
    (tells : List.Forall₂ (Outline.Tells read depth) items told) (f : List α → β) :
    TellsItems
      (fun allowance cursor =>
        (foldItems
          (fun values cursor =>
            (read allowance cursor).map fun (value, after) => (value :: values, after))
          allowance.steps true [] cursor).map
          fun (values, after) => (f values, after))
      depth true items ((told.foldlM collect []).map f) := by
  intro chars spells steps enough rest offset
  have folded := gives_foldItems tells spells enough (Nat.le_of_lt enough) [] rest offset
  exact (folded.map f).settle fun offset => ⟨_, closeArray_cons rest offset⟩

theorem tellsMembers_fold
    {read : Allowance → σ → String → Cursor → Except Fault (σ × Cursor)} {depth : Nat}
    {step : σ → β → Option σ} {members : List (List TextPart × Outline)} {told : List β}
    (takes : List.Forall₂ (TakesMember read depth step) members told) (start : σ)
    {finish : σ × Cursor → Except Fault (α × Cursor)} {finish? : σ → Option α}
    (finishes : ∀ state rest offset, Gives (finish (state, ⟨rest, offset⟩)) (finish? state) rest) :
    TellsMembers
      (fun allowance cursor =>
        foldMembers (read allowance) allowance.steps allowance.steps true start cursor >>= finish)
      depth members ((told.foldlM step start).bind finish?) := by
  intro chars spells steps enough rest offset
  have folded := gives_foldMembers takes spells enough (Nat.le_of_lt enough) start rest offset
  have finished := folded.bind fun state offset => finishes state ('\x7d' :: rest) offset
  exact finished.settle fun offset => ⟨_, closeObject_cons rest offset⟩

end Bulletin.Json
