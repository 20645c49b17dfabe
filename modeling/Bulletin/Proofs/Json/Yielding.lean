import Bulletin.Json.Format
import Bulletin.Proofs.Json.Finding
/-!
# What formats yield

Where every value that a format reads has some property, so have the items of its lists; and a
record has it that starts with it and keeps it with every field.
-/

namespace Bulletin.Json

/-! ## Folds -/

section Folds

variable (invariant : σ → Prop)

theorem foldItems_invariant {item : σ → Cursor → Except Fault (σ × Cursor)}
    (preserves : ∀ state cursor next after, invariant state →
      item state cursor = .ok (next, after) → invariant next)
    {count : Nat} {first : Bool} {state last : σ} {cursor after : Cursor}
    (folded : foldItems item count first state cursor = .ok (last, after))
    (holds : invariant state) : invariant last := by
  induction count generalizing first state cursor with
  | zero => cases folded
  | succ count induction =>
      rw [foldItems] at folded
      rcases Outcome.bind_eq_ok.mp folded with ⟨⟨more, here⟩, -, folded⟩
      cases more with
      | false =>
          cases folded
          exact holds
      | true =>
          rcases Outcome.bind_eq_ok.mp folded with ⟨⟨next, behind⟩, taken, folded⟩
          exact induction folded (preserves state here next behind holds taken)

theorem foldMembers_invariant {member : σ → String → Cursor → Except Fault (σ × Cursor)}
    (preserves : ∀ state key cursor next after, invariant state →
      member state key cursor = .ok (next, after) → invariant next)
    {keySteps count : Nat} {first : Bool} {state last : σ} {cursor after : Cursor}
    (folded : foldMembers member keySteps count first state cursor = .ok (last, after))
    (holds : invariant state) : invariant last := by
  induction count generalizing first state cursor with
  | zero => cases folded
  | succ count induction =>
      rw [foldMembers] at folded
      rcases Outcome.bind_eq_ok.mp folded with ⟨⟨key?, here⟩, -, folded⟩
      cases key? with
      | none =>
          cases folded
          exact holds
      | some key =>
          rcases Outcome.bind_eq_ok.mp folded with ⟨⟨next, behind⟩, taken, folded⟩
          exact induction folded (preserves state key here next behind holds taken)

theorem foldlM_invariant {ε : Type} {step : σ → β → Except ε σ}
    (preserves : ∀ state item next, invariant state → step state item = .ok next →
      invariant next)
    {items : List β} {state last : σ} (folded : items.foldlM step state = .ok last)
    (holds : invariant state) : invariant last := by
  induction items generalizing state with
  | nil =>
      cases folded
      exact holds
  | cons item items induction =>
      rw [List.foldlM_cons] at folded
      rcases Outcome.bind_eq_ok.mp folded with ⟨next, taken, folded⟩
      exact induction folded (preserves state item next holds taken)

end Folds

/-! ## Formats -/

/-- Whatever the format reads or finds has the property. -/
structure Format.Yields (format : Format α) (holds : α → Prop) : Prop where
  ofJson : ∀ surplus value result, format.ofJson surplus value = .ok result → holds result
  read : ∀ allowance cursor result after,
    format.read allowance cursor = .ok (result, after) → holds result

namespace Format

variable {format : Format α} {holds : α → Prop}

theorem Yields.map (yields : format.Yields holds) {holdsMapped : β → Prop} {f : α → β}
    (keeps : ∀ value, holds value → holdsMapped (f value)) :
    (format.map f).Yields holdsMapped where
  ofJson surplus value result found := by
    rcases Outcome.map_eq_ok.mp found with ⟨inner, foundInner, rfl⟩
    exact keeps inner (yields.ofJson surplus value inner foundInner)
  read allowance cursor result after read := by
    rcases Outcome.map_eq_ok.mp read with ⟨⟨inner, behind⟩, readInner, equal⟩
    cases equal
    exact keeps inner (yields.read allowance cursor inner after readInner)

theorem yields_map {holdsMapped : β → Prop} {f : α → β}
    (always : ∀ value, holdsMapped (f value)) : (format.map f).Yields holdsMapped := by
  have anything : format.Yields fun _ => True :=
    ⟨fun _ _ _ _ => trivial, fun _ _ _ _ _ => trivial⟩
  exact anything.map fun value _ => always value

theorem mapM_invariant {find : Json → Except Cause α}
    (yields : ∀ value result, find value = .ok result → holds result) {items : List Json}
    {results : List α} (found : items.mapM find = .ok results) :
    ∀ result ∈ results, holds result := by
  induction items generalizing results with
  | nil =>
      cases found
      exact fun _ member => (List.not_mem_nil member).elim
  | cons item items induction =>
      rw [List.mapM_cons] at found
      rcases Outcome.bind_eq_ok.mp found with ⟨first, foundFirst, found⟩
      rcases Outcome.bind_eq_ok.mp found with ⟨rest, foundRest, equal⟩
      cases equal
      exact List.forall_mem_cons.mpr ⟨yields item first foundFirst, induction foundRest⟩

theorem Yields.list (yields : format.Yields holds) :
    format.list.Yields fun values => ∀ value ∈ values, holds value where
  ofJson surplus value results found := by
    cases value with
    | array items => exact mapM_invariant (yields.ofJson surplus) found
    | _ => cases found
  read allowance cursor results after read := by
    simp only [Format.list] at read
    split at read
    · rw [inArray] at read
      split at read
      · cases read
      · rcases settle_eq_ok.mp read with ⟨behind, contents, -⟩
        rcases Outcome.map_eq_ok.mp contents with ⟨⟨values, reached⟩, folded, equal⟩
        cases equal
        have none : ∀ value ∈ ([] : List α), holds value :=
          fun _ member => (List.not_mem_nil member).elim
        suffices all : ∀ value ∈ values, holds value from
          fun value member => all value (List.mem_reverse.mp member)
        refine foldItems_invariant (fun values => ∀ value ∈ values, holds value) ?_ folded none
        intro values cursor next after inValues read
        rcases Outcome.map_eq_ok.mp read with ⟨⟨value, reached⟩, readValue, equal⟩
        cases equal
        exact List.forall_mem_cons.mpr ⟨yields.read _ cursor value reached readValue, inValues⟩
    · cases read

end Format

/-! ## Records -/

namespace Field

variable {holds : σ → Prop}

def Keeps (field : Field σ) (holds : σ → Prop) : Prop :=
  field.update.Yields fun change => ∀ value, holds value → holds (change value)

theorem keeps_defaulted {name : String} {format : Format α} {put : α → σ → σ}
    (keeps : ∀ result value, holds value → holds (put result value)) :
    (defaulted name format put).Keeps holds :=
  Format.yields_map keeps

theorem keeps_required {name : String} {format : Format α} {put : α → σ → σ}
    (keeps : ∀ result value, holds value → holds (put result value)) :
    (required name format put).Keeps holds :=
  Format.yields_map keeps

end Field

theorem Format.Yields.keeps_defaulted {format : Format α} {holdsResult : α → Prop}
    (yields : format.Yields holdsResult) {name : String} {put : α → σ → σ} {holds : σ → Prop}
    (keeps : ∀ result, holdsResult result → ∀ value, holds value → holds (put result value)) :
    (Field.defaulted name format put).Keeps holds :=
  yields.map keeps

theorem Format.Yields.keeps_required {format : Format α} {holdsResult : α → Prop}
    (yields : format.Yields holdsResult) {name : String} {put : α → σ → σ} {holds : σ → Prop}
    (keeps : ∀ result, holdsResult result → ∀ value, holds value → holds (put result value)) :
    (Field.required name format put).Keeps holds :=
  yields.map keeps

namespace RecordShape

variable {shape : RecordShape σ} {holds : σ → Prop}

theorem ofItems_invariant {surplus : Surplus} {fields : List (Field σ)}
    (keeps : ∀ field ∈ fields, field.Keeps holds)
    {index : Nat} {items : List Json} {value result : σ}
    (found : shape.ofItems surplus fields index items value = .ok result)
    (holdsValue : holds value) : holds result := by
  induction fields generalizing index items value with
  | nil =>
      cases items with
      | nil =>
          cases found
          exact holdsValue
      | cons item items => cases found
  | cons field fields induction =>
      have keepsRest := fun other member => keeps other (List.mem_cons_of_mem field member)
      cases items with
      | nil =>
          rw [ofItems] at found
          split at found
          · cases found
          · exact induction keepsRest found holdsValue
      | cons item items =>
          rw [ofItems] at found
          rcases Outcome.bind_eq_ok.mp found with ⟨change, foundChange, found⟩
          have keepsChange :=
            (keeps field List.mem_cons_self).ofJson surplus item change foundChange
          exact induction keepsRest found (keepsChange value holdsValue)

theorem readItems_invariant {allowance : Allowance} {fields : List (Field σ)}
    (keeps : ∀ field ∈ fields, field.Keeps holds)
    {index : Nat} {first : Bool} {value result : σ} {cursor after : Cursor}
    (read : shape.readItems allowance fields index first value cursor = .ok (result, after))
    (holdsValue : holds value) : holds result := by
  induction fields generalizing index first value cursor with
  | nil =>
      cases read
      exact holdsValue
  | cons field fields induction =>
      have keepsRest := fun other member => keeps other (List.mem_cons_of_mem field member)
      rw [readItems] at read
      rcases Outcome.bind_eq_ok.mp read with ⟨⟨more, here⟩, -, read⟩
      dsimp only at read
      split at read
      · rcases Outcome.bind_eq_ok.mp read with ⟨⟨change, behind⟩, readChange, read⟩
        have keepsChange :=
          (keeps field List.mem_cons_self).read allowance here change behind readChange
        exact induction keepsRest read (keepsChange value holdsValue)
      · split at read
        · cases read
        · exact induction keepsRest read holdsValue

theorem ofMember_invariant (keeps : ∀ field ∈ shape.fields, field.Keeps holds) {surplus : Surplus}
    {draft next : Draft σ} {member : String × Json} (holdsDraft : holds draft.value)
    (taken : shape.ofMember surplus draft member = .ok next) : holds next.value := by
  rw [ofMember] at taken
  split at taken
  · cases taken
    exact holdsDraft
  · rename_i field known
    split at taken
    · cases taken
    · rcases Outcome.bind_eq_ok.mp taken with ⟨change, found, equal⟩
      cases equal
      exact (keeps field (List.mem_of_find?_eq_some known)).ofJson surplus member.2 change found
        draft.value holdsDraft

theorem readMember_invariant (keeps : ∀ field ∈ shape.fields, field.Keeps holds)
    {allowance : Allowance} {draft next : Draft σ} {key : String} {cursor after : Cursor}
    (holdsDraft : holds draft.value)
    (read : shape.readMember allowance draft key cursor = .ok (next, after)) :
    holds next.value := by
  rw [readMember] at read
  split at read
  · rcases Outcome.bind_eq_ok.mp read with ⟨atValue, -, read⟩
    rcases Outcome.bind_eq_ok.mp read with ⟨behind, -, equal⟩
    cases equal
    exact holdsDraft
  · rename_i field known
    split at read
    · cases read
    · rcases Outcome.bind_eq_ok.mp read with ⟨atValue, -, read⟩
      rcases Outcome.bind_eq_ok.mp read with ⟨⟨change, behind⟩, readChange, equal⟩
      cases equal
      exact (keeps field (List.mem_of_find?_eq_some known)).read allowance atValue change after
        readChange draft.value holdsDraft

theorem yields_record (blank : holds shape.blank)
    (keeps : ∀ field ∈ shape.fields, field.Keeps holds) : shape.format.Yields holds where
  ofJson surplus value result found := by
    cases value with
    | array items => exact ofItems_invariant keeps found blank
    | object members =>
        rcases Outcome.bind_eq_ok.mp found with ⟨draft, folded, found⟩
        have holdsDraft : holds draft.value :=
          foldlM_invariant (fun draft => holds draft.value)
            (fun _ _ _ holdsDraft taken => ofMember_invariant keeps holdsDraft taken) folded blank
        split at found
        · cases found
        · cases found
          exact holdsDraft
    | _ => cases found
  read allowance cursor result after read := by
    simp only [format, RecordShape.read] at read
    split at read
    · rw [inArray] at read
      split at read
      · cases read
      · rcases settle_eq_ok.mp read with ⟨behind, contents, -⟩
        exact readItems_invariant keeps contents blank
    · rw [inObject] at read
      split at read
      · cases read
      · rcases settle_eq_ok.mp read with ⟨behind, contents, -⟩
        rcases Outcome.bind_eq_ok.mp contents with ⟨⟨draft, reached⟩, folded, contents⟩
        have holdsDraft : holds draft.value :=
          foldMembers_invariant (fun draft => holds draft.value)
            (fun _ _ _ _ _ holdsDraft read => readMember_invariant keeps holdsDraft read) folded
            blank
        dsimp only at contents
        split at contents
        · cases contents
        · cases contents
          exact holdsDraft
    · cases read

end RecordShape

theorem Format.Yields.parse {format : Format α} {holds : α → Prop} (yields : format.Yields holds)
    {text : String} {result : α} (parsed : format.parse text = .ok result) : holds result := by
  rcases readWhole_eq_ok.mp parsed with ⟨after, read, -⟩
  exact yields.read _ _ _ _ read

end Bulletin.Json
