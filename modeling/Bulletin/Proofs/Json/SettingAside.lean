import Bulletin.Proofs.Json.Steadiness
/-!
# One key set aside

A member with some key is set aside from the others, which are kept as they are. Wherever that
member stands, the same is set aside, and the others are kept in the order in which they come.
-/

namespace Bulletin.Json

/-- What a member tells: its key, what it stands for if the key is set aside, and its value if it
is not. -/
structure Portion (α : Type) where
  key? : Option String
  aside? : Option α
  value? : Option Json

/-- What was set aside, if anything, and the other members, the last one first. -/
abbrev Sorted (α : Type) := Option α × List (String × Json)

def setAside (name : String) (sorted : Sorted α) (portion : Portion α) : Option (Sorted α) :=
  portion.key?.bind fun key =>
    if key = name then
      match sorted.1 with
      | some _ => none
      | none => portion.aside?.map fun aside => (some aside, sorted.2)
    else portion.value?.map fun value => (sorted.1, (key, value) :: sorted.2)

namespace Portion

structure IsAlike (portion other : Portion α) : Prop where
  key : portion.key? = other.key?
  aside : portion.aside? = other.aside?
  value : Option.Rel Reorders portion.value? other.value?

end Portion

def InOthers (related : List (String × Json) → List (String × Json) → Prop)
    (sorted other : Sorted α) : Prop :=
  sorted.1 = other.1 ∧ related sorted.2 other.2

section

variable {name : String}

theorem setAside_alike {sorted other : Sorted α} {portion next : Portion α}
    (start : InOthers (List.Forall₂ ReordersMember) sorted other) (alike : portion.IsAlike next) :
    Option.Rel (InOthers (List.Forall₂ ReordersMember)) (setAside name sorted portion)
      (setAside name other next) := by
  rcases sorted with ⟨found, members⟩
  rcases other with ⟨_, others⟩
  rcases start with ⟨rfl, inMembers⟩
  rw [setAside, setAside, alike.key, alike.aside]
  cases next.key? with
  | none => exact .none
  | some key =>
      simp only [Option.bind_some]
      split
      · cases found with
        | some _ => exact .none
        | none =>
            cases next.aside? with
            | none => exact .none
            | some aside => exact .some ⟨rfl, inMembers⟩
      · exact rel_map alike.value fun _ _ holds => ⟨rfl, .cons (.value holds) inMembers⟩

theorem setAside_perm {sorted other : Sorted α} (start : InOthers List.Perm sorted other)
    (portion : Portion α) :
    Option.Rel (InOthers List.Perm) (setAside name sorted portion)
      (setAside name other portion) := by
  rcases sorted with ⟨found, members⟩
  rcases other with ⟨_, others⟩
  rcases start with ⟨rfl, order⟩
  rw [setAside, setAside]
  cases portion.key? with
  | none => exact .none
  | some key =>
      simp only [Option.bind_some]
      split
      · cases found with
        | some _ => exact .none
        | none =>
            cases portion.aside? with
            | none => exact .none
            | some aside => exact .some ⟨rfl, order⟩
      · cases portion.value? with
        | none => exact .none
        | some value => exact .some ⟨rfl, order.cons _⟩

theorem setAside_unreadable (aside? : Option α) (value? : Option Json) (sorted : Sorted α) :
    setAside name sorted ⟨none, aside?, value?⟩ = none := rfl

theorem setAside_other {key : String} (different : key ≠ name) (aside? : Option α)
    (value? : Option Json) (sorted : Sorted α) :
    setAside name sorted ⟨some key, aside?, value?⟩ =
      value?.map fun value => (sorted.1, (key, value) :: sorted.2) :=
  if_neg different

theorem setAside_name (aside? : Option α) (value? : Option Json) (found : Option α)
    (members : List (String × Json)) :
    setAside name (found, members) ⟨some name, aside?, value?⟩ =
      if found.isSome then none else aside?.map fun aside => (some aside, members) := by
  cases found <;> exact if_pos rfl

theorem setAside_twice (aside? nextAside? : Option α) (value? nextValue? : Option Json)
    (sorted : Sorted α) :
    (setAside name sorted ⟨some name, aside?, value?⟩ >>=
      (setAside name · ⟨some name, nextAside?, nextValue?⟩)) = none := by
  rcases sorted with ⟨found, members⟩
  cases found <;> cases aside? <;> simp [setAside_name]

theorem setAside_before_other {key : String} (different : key ≠ name)
    (aside? nextAside? : Option α) (value? nextValue? : Option Json) (sorted : Sorted α) :
    (setAside name sorted ⟨some name, aside?, value?⟩ >>=
        (setAside name · ⟨some key, nextAside?, nextValue?⟩)) =
      (setAside name sorted ⟨some key, nextAside?, nextValue?⟩ >>=
        (setAside name · ⟨some name, aside?, value?⟩)) := by
  rcases sorted with ⟨found, members⟩
  cases found <;> cases aside? <;> cases nextValue? <;>
    simp [setAside_name, setAside_other different]

theorem equivalence_inOthers : Equivalence (InOthers (α := α) List.Perm) where
  refl sorted := ⟨rfl, .refl sorted.2⟩
  symm related := ⟨related.1.symm, related.2.symm⟩
  trans first second := ⟨first.1.trans second.1, first.2.trans second.2⟩

theorem setAside_exchange (portion next : Portion α) (sorted : Sorted α) :
    Option.Rel (InOthers List.Perm)
      (setAside name sorted portion >>= (setAside name · next))
      (setAside name sorted next >>= (setAside name · portion)) := by
  have unchanged (outcome : Option (Sorted α)) :
      Option.Rel (InOthers List.Perm) outcome outcome := by
    cases outcome with
    | none => exact .none
    | some sorted => exact .some (equivalence_inOthers.refl sorted)
  rcases portion with ⟨key?, aside?, value?⟩
  rcases next with ⟨nextKey?, nextAside?, nextValue?⟩
  cases key? with
  | none =>
      simp only [setAside_unreadable, Option.bind_eq_bind, Option.bind_fun_none]
      exact .none
  | some key =>
  cases nextKey? with
  | none =>
      simp only [setAside_unreadable, Option.bind_eq_bind, Option.bind_fun_none]
      exact .none
  | some nextKey =>
  by_cases isAside : key = name
  · subst isAside
    by_cases isAlso : nextKey = key
    · subst isAlso
      rw [setAside_twice, setAside_twice]
      exact .none
    · rw [setAside_before_other isAlso]
      exact unchanged _
  · by_cases isAlso : nextKey = name
    · subst isAlso
      rw [setAside_before_other isAside]
      exact unchanged _
    · simp only [setAside_other isAside, setAside_other isAlso]
      cases value? <;> cases nextValue?
      case some.some => exact .some ⟨rfl, .swap _ _ sorted.2⟩
      all_goals exact .none

theorem setAside_reorders {told inPlace others : List (Portion α)}
    (inTold : List.Forall₂ Portion.IsAlike told inPlace) (order : inPlace.Perm others) :
    Option.Rel (InOthers ReordersMembers) (told.foldlM (setAside name) (none, []))
      (others.foldlM (setAside name) (none, [])) := by
  have alike : Option.Rel (InOthers (List.Forall₂ ReordersMember))
      (told.foldlM (setAside name) (none, [])) (inPlace.foldlM (setAside name) (none, [])) := by
    refine foldlM_alike ?_ inTold ⟨rfl, .nil⟩
    exact fun _ _ _ _ start isAlike => setAside_alike start isAlike
  have permuted : Option.Rel (InOthers List.Perm)
      (inPlace.foldlM (setAside name) (none, [])) (others.foldlM (setAside name) (none, [])) := by
    refine foldlM_perm equivalence_inOthers ?_ order ?_ ⟨rfl, .refl []⟩
    · exact fun _ _ portion start => setAside_perm start portion
    · exact fun portion _ next _ => setAside_exchange portion next
  exact rel_trans alike permuted fun _ between _ first second =>
    ⟨first.1.trans second.1, between.2, first.2, second.2⟩

theorem setAside_reordersMembers {portion : String × Json → Portion α}
    (alike : ∀ member other, ReordersMember member other → (portion member).IsAlike (portion other))
    {members others : List (String × Json)} (reorders : ReordersMembers members others) :
    Option.Rel (InOthers ReordersMembers)
      ((members.map portion).foldlM (setAside name) (none, []))
      ((others.map portion).foldlM (setAside name) (none, [])) := by
  rcases reorders with ⟨inPlace, inMembers, order⟩
  refine setAside_reorders ?_ (order.map portion)
  rw [List.forall₂_map_left_iff, List.forall₂_map_right_iff]
  exact inMembers.imp alike

/-- A loop that sets one key aside, and makes the same of the others in any order, ends alike. -/
theorem toOption_foldlM_reorders {τ : Type} {take : τ → String × Json → Except ε τ}
    {ofSorted : Sorted α → τ} {portion : String × Json → Portion α} {finish? : τ → Option β}
    (steps : ∀ sorted member, (take (ofSorted sorted) member).toOption =
      (setAside name sorted (portion member)).map ofSorted)
    (alike : ∀ member other, ReordersMember member other → (portion member).IsAlike (portion other))
    (ends : ∀ sorted other, InOthers ReordersMembers sorted other →
      finish? (ofSorted sorted) = finish? (ofSorted other))
    {members others : List (String × Json)} (reorders : ReordersMembers members others) :
    (members.foldlM take (ofSorted (none, []))).toOption.bind finish? =
      (others.foldlM take (ofSorted (none, []))).toOption.bind finish? := by
  have folded (members : List (String × Json)) :
      (members.foldlM take (ofSorted (none, []))).toOption =
        ((members.map portion).foldlM (setAside name) (none, [])).map ofSorted := by
    rw [Outcome.toOption_foldlM, List.foldlM_map]
    exact foldlM_image ofSorted steps members (none, [])
  rw [folded, folded, Option.bind_map, Option.bind_map]
  exact bind_eq_of_rel (setAside_reordersMembers alike reorders) ends

end

end Bulletin.Json
