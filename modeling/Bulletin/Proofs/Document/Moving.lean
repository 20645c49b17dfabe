import Bulletin.Proofs.Document.Addressing
import Mathlib.Data.List.Basic
import Mathlib.Data.List.Induction
import Mathlib.Data.List.Nodup
import Mathlib.Logic.Equiv.Basic
/-!
# Moves

A move exchanges an element with its neighbour. Where the id of the element is not repeated, the
element can be moved back again, and moving it on and on takes it past all others, one by one, to
the end of the list.
-/

namespace Bulletin

def Direction.opposite : Direction → Direction
  | .up => .down
  | .down => .up

/-! ## Repetition -/

/-- A step is taken again and again until it is told as not done: how often it was done, and what
came of it. -/
inductive Repeats (step : σ → Bool × σ) : σ → Nat → σ → Prop where
  | ended {state last : σ} (untold : step state = (false, last)) : Repeats step state 0 last
  | again {state next last : σ} {count : Nat} (told : step state = (true, next))
      (rest : Repeats step next count last) : Repeats step state (count + 1) last

theorem Repeats.iff {step : σ → Bool × σ} {state last : σ} {count : Nat}
    (repeats : Repeats step state count last) {otherCount : Nat} {other : σ} :
    Repeats step state otherCount other ↔ otherCount = count ∧ other = last := by
  constructor
  · intro others
    induction repeats generalizing otherCount with
    | ended untold =>
        cases others with
        | ended otherUntold => exact ⟨rfl, congrArg Prod.snd (otherUntold.symm.trans untold)⟩
        | again told _ => cases told.symm.trans untold
    | again told _ induction =>
        cases others with
        | ended untold => cases untold.symm.trans told
        | again otherTold rest =>
            cases otherTold.symm.trans told
            rcases induction rest with ⟨rfl, rfl⟩
            exact ⟨rfl, rfl⟩
  · rintro ⟨rfl, rfl⟩
    exact repeats

theorem Repeats.lift {step : σ → Bool × σ} {wholeStep : τ → Bool × τ} {rebuild : σ → τ}
    (lifts : ∀ state, wholeStep (rebuild state) = ((step state).1, rebuild (step state).2))
    {state last : σ} {count : Nat} (repeats : Repeats step state count last) :
    Repeats wholeStep (rebuild state) count (rebuild last) := by
  induction repeats with
  | ended untold => exact .ended (by rw [lifts, untold])
  | again told _ induction => exact .again (by rw [lifts, told]) induction

namespace Elements

/-! ## Exchanges -/

/-- The elements at two positions stand at each other's, and all else stays where it was. -/
def Exchanged (items moved : List α) (i j : Nat) : Prop :=
  ∀ position, moved[position]? = items[Equiv.swap i j position]?

example : Exchanged ['a', 'b', 'c'] ['a', 'c', 'b'] 1 2 := by
  intro position
  match position with
  | 0 | 1 | 2 | _ + 3 => rfl

theorem exchanged_next (before : List α) (first second : α) (after : List α) :
    Exchanged (before ++ first :: second :: after) (before ++ second :: first :: after)
      before.length (before.length + 1) := by
  intro position
  rw [Equiv.swap_apply_def]
  grind

/-! ## The only element -/

structure Alone (isSought : α → Bool) (before : List α) (item : α) (after : List α) : Prop where
  sought : isSought item = true
  earlier : ∀ other ∈ before, isSought other = false
  later : ∀ other ∈ after, isSought other = false

variable {isSought : α → Bool} {before after : List α} {item neighbour : α}

theorem alone_of_nodup {idOf : α → String}
    (distinct : ((before ++ item :: after).map idOf).Nodup) :
    Alone (fun other => idOf other = idOf item) before item after := by
  rw [List.map_append, List.map_cons, List.nodup_middle, List.nodup_cons, ← List.map_append,
    List.mem_map] at distinct
  have others : ∀ other ∈ before ++ after, idOf other ≠ idOf item := fun other member same =>
    distinct.1 ⟨other, member, same⟩
  exact
    { sought := decide_eq_true rfl
      earlier := fun other member => decide_eq_false (others other (List.mem_append_left _ member))
      later := fun other member => decide_eq_false (others other (List.mem_append_right _ member)) }

theorem exists_split {items : List α} {index : Nat} (isThere : items[index]? = some item) :
    ∃ before after, items = before ++ item :: after ∧ before.length = index := by
  rcases List.getElem?_eq_some_iff.mp isThere with ⟨inBounds, rfl⟩
  refine ⟨items.take index, items.drop (index + 1), ?_, ?_⟩
  · rw [← List.drop_eq_getElem_cons, List.take_append_drop]
  · rw [List.length_take, Nat.min_eq_left (Nat.le_of_lt inBounds)]

namespace Alone

theorem addresses (alone : Alone isSought before item after) :
    Addresses isSought (before ++ item :: after) before item after :=
  ⟨rfl, alone.sought, alone.earlier⟩

theorem next (alone : Alone isSought before item (neighbour :: after)) :
    Alone isSought (before ++ [neighbour]) item after where
  sought := alone.sought
  earlier := by
    simpa [or_imp, forall_and] using
      And.intro alone.earlier (alone.later neighbour List.mem_cons_self)
  later other member := alone.later other (List.mem_cons_of_mem neighbour member)

theorem previous (alone : Alone isSought (before ++ [neighbour]) item after) :
    Alone isSought before item (neighbour :: after) where
  sought := alone.sought
  earlier other member := alone.earlier other (List.mem_append_left _ member)
  later := List.forall_mem_cons.mpr ⟨alone.earlier neighbour (by simp), alone.later⟩

/-! ## One move -/

theorem move_down (alone : Alone isSought before item (neighbour :: after)) :
    move isSought .down (before ++ item :: neighbour :: after) =
      (true, before ++ neighbour :: item :: after) := by
  rw [alone.addresses.move]
  rfl

theorem move_up (alone : Alone isSought (before ++ [neighbour]) item after) :
    move isSought .up (before ++ neighbour :: item :: after) =
      (true, before ++ item :: neighbour :: after) := by
  have moved := alone.addresses.move .up
  simpa [shift] using moved

theorem move_down_last (alone : Alone isSought before item []) :
    move isSought .down (before ++ [item]) = (false, before ++ [item]) := by
  rw [alone.addresses.move]
  rfl

theorem move_up_first (alone : Alone isSought [] item after) :
    move isSought .up (item :: after) = (false, item :: after) :=
  alone.addresses.move .up

theorem told_down_iff (alone : Alone isSought before item after) :
    (move isSought .down (before ++ item :: after)).1 = true ↔ after ≠ [] := by
  cases after with
  | nil => simp [alone.move_down_last]
  | cons neighbour after => simp [alone.move_down]

theorem told_up_iff (alone : Alone isSought before item after) :
    (move isSought .up (before ++ item :: after)).1 = true ↔ before ≠ [] := by
  rcases List.eq_nil_or_concat' before with rfl | ⟨others, neighbour, rfl⟩
  · simp [alone.move_up_first]
  · simp [alone.move_up]

theorem move_back (alone : Alone isSought before item after) (direction : Direction)
    (told : (move isSought direction (before ++ item :: after)).1 = true) :
    move isSought direction.opposite (move isSought direction (before ++ item :: after)).2 =
      (true, before ++ item :: after) := by
  cases direction with
  | down =>
      rcases List.exists_cons_of_ne_nil (alone.told_down_iff.mp told) with ⟨neighbour, others, rfl⟩
      rw [alone.move_down]
      exact alone.next.move_up
  | up =>
      have notFirst := alone.told_up_iff.mp told
      rcases (List.eq_nil_or_concat' before).resolve_left notFirst with ⟨others, neighbour, rfl⟩
      rw [List.append_assoc, List.singleton_append, alone.move_up]
      exact alone.previous.move_down

/-! ## Moves to the end -/

theorem repeats_down (alone : Alone isSought before item after) :
    Repeats (move isSought .down) (before ++ item :: after) after.length
      (before ++ after ++ [item]) := by
  induction after generalizing before with
  | nil =>
      rw [List.append_nil]
      exact .ended alone.move_down_last
  | cons neighbour after induction =>
      have rest := induction alone.next
      simp only [List.append_assoc, List.cons_append] at rest ⊢
      exact .again alone.move_down rest

theorem repeats_up (alone : Alone isSought before item after) :
    Repeats (move isSought .up) (before ++ item :: after) before.length
      (item :: (before ++ after)) := by
  induction before using List.reverseRecOn generalizing after with
  | nil => exact .ended alone.move_up_first
  | append_singleton before neighbour induction =>
      have rest := induction alone.previous
      rw [List.length_append, List.append_assoc, List.append_assoc]
      exact .again alone.move_up rest

end Alone

/-! ## Moves of a whole -/

structure MovesAt (index : Nat) (item : α) (items : List α) (rebuild : List α → σ)
    (move : Direction → σ → Bool × σ) : Prop where
  told_down : (move .down (rebuild items)).1 = true ↔ index + 1 < items.length
  told_up : (move .up (rebuild items)).1 = true ↔ 0 < index
  down : (move .down (rebuild items)).1 = true →
    ∃ moved, (move .down (rebuild items)).2 = rebuild moved ∧
      Exchanged items moved index (index + 1)
  up : (move .up (rebuild items)).1 = true →
    ∃ moved, (move .up (rebuild items)).2 = rebuild moved ∧
      Exchanged items moved (index - 1) index
  /-- The element comes to stand last, and the others keep their order. -/
  downmost : ∀ count last, Repeats (move .down) (rebuild items) count last ↔
    count = items.length - 1 - index ∧ last = rebuild (items.eraseIdx index ++ [item])
  /-- The element comes to stand first, and the others keep their order. -/
  upmost : ∀ count last, Repeats (move .up) (rebuild items) count last ↔
    count = index ∧ last = rebuild (item :: items.eraseIdx index)

structure Moves (idOf : α → String) (id : String) (items : List α) (rebuild : List α → σ)
    (move : Direction → σ → Bool × σ) : Prop where
  untold : ∀ direction, (move direction (rebuild items)).1 = false →
    (move direction (rebuild items)).2 = rebuild items
  missing : (∀ item ∈ items, idOf item ≠ id) →
    ∀ direction, (move direction (rebuild items)).1 = false
  found : ∀ index item, items[index]? = some item → idOf item = id →
    MovesAt index item items rebuild move
  back : ∀ direction, (move direction (rebuild items)).1 = true →
    move direction.opposite (move direction (rebuild items)).2 = (true, rebuild items)

section Wholes

variable {rebuild : List α → σ} {wholeMove : Direction → σ → Bool × σ}
  (lifts : ∀ direction items, wholeMove direction (rebuild items) =
    ((move isSought direction items).1, rebuild (move isSought direction items).2))

include lifts

theorem Alone.movesAt (alone : Alone isSought before item after) :
    MovesAt before.length item (before ++ item :: after) rebuild wholeMove where
  told_down := by
    rw [lifts, alone.told_down_iff, ← List.length_pos_iff]
    simp
  told_up := by
    rw [lifts, alone.told_up_iff, ← List.length_pos_iff]
  down told := by
    rw [lifts] at told ⊢
    rcases List.exists_cons_of_ne_nil (alone.told_down_iff.mp told) with ⟨neighbour, others, rfl⟩
    refine ⟨_, rfl, ?_⟩
    rw [alone.move_down]
    exact exchanged_next before item neighbour others
  up told := by
    rw [lifts] at told ⊢
    have notFirst := alone.told_up_iff.mp told
    rcases (List.eq_nil_or_concat' before).resolve_left notFirst with ⟨others, neighbour, rfl⟩
    refine ⟨_, rfl, ?_⟩
    rw [List.append_assoc, List.singleton_append, alone.move_up, List.length_append]
    exact exchanged_next others neighbour item after
  downmost count last := by
    have repeats := alone.repeats_down.lift (lifts .down)
    rw [repeats.iff, List.eraseIdx_append_of_length_le (Nat.le_refl _)]
    simp
  upmost count last := by
    have repeats := alone.repeats_up.lift (lifts .up)
    rw [repeats.iff, List.eraseIdx_append_of_length_le (Nat.le_refl _)]
    simp

end Wholes

theorem moves_of_nodup {idOf : α → String} {id : String} {items : List α} {rebuild : List α → σ}
    {wholeMove : Direction → σ → Bool × σ}
    (lifts : ∀ direction items, wholeMove direction (rebuild items) =
      ((move (fun other => idOf other = id) direction items).1,
        rebuild (move (fun other => idOf other = id) direction items).2))
    (distinct : (items.map idOf).Nodup) : Moves idOf id items rebuild wholeMove where
  untold direction untold := by
    rw [lifts] at untold ⊢
    exact congrArg rebuild (move_of_untold untold)
  missing absent direction := by
    have unsought : ∀ item ∈ items, decide (idOf item = id) = false := by simpa using absent
    rw [lifts, move_of_missing unsought]
  found index item isThere hasId := by
    subst hasId
    rcases exists_split isThere with ⟨before, after, rfl, rfl⟩
    exact (alone_of_nodup distinct).movesAt lifts
  back direction told := by
    rw [lifts] at told ⊢
    by_cases present : ∃ item ∈ items, idOf item = id
    · rcases present with ⟨item, member, rfl⟩
      rcases List.append_of_mem member with ⟨before, after, rfl⟩
      have back := (alone_of_nodup distinct).move_back direction told
      rw [lifts, back]
    · have unsought : ∀ item ∈ items, decide (idOf item = id) = false := by simpa using present
      rw [move_of_missing unsought] at told
      cases told

end Elements

open Elements (Moves moves_of_nodup)

/-! ## Documents -/

namespace Document

/-- In a section and in a document whose elements have distinct ids, a move exchanges the addressed
element with its neighbour and does nothing where there is none. Each move can be taken back, and
moves in one direction end when the element has passed all others. -/
theorem moves_exchange_neighbours (part : Section) (document : Document) :
    ((part.widgets.map Widget.id).Nodup → ∀ id,
      Moves Widget.id id part.widgets (fun widgets => { part with widgets })
        fun direction part => part.moveWidget id direction) ∧
    ((document.sections.map Section.id).Nodup → ∀ id,
      Moves Section.id id document.sections (fun sections => { document with sections })
        fun direction document => document.moveSection id direction) :=
  ⟨fun distinct _ => moves_of_nodup (fun _ _ => rfl) distinct,
    fun distinct _ => moves_of_nodup (fun _ _ => rfl) distinct⟩

def lines : Section :=
  ⟨"s", "Lines", [⟨"a", .divider⟩, ⟨"b", .unknown⟩, ⟨"c", .divider⟩], none, none⟩

def lined : Document :=
  { Document.starter with sections := [lines, ⟨"t", "Nothing", [], none, none⟩] }

theorem moves_exchange_neighbours_lined :
    (lines.widgets.map Widget.id).Nodup ∧ (lined.sections.map Section.id).Nodup ∧
      (lines.moveWidget "b" .down).1 = true ∧
      (lines.moveWidget "b" .down).2.moveWidget "b" .up = (true, lines) ∧
      Repeats (fun part : Section => part.moveWidget "a" .down) lines 2
        { lines with widgets := [⟨"b", .unknown⟩, ⟨"c", .divider⟩, ⟨"a", .divider⟩] } ∧
      (lined.moveSection "t" .down).1 = false ∧ (lined.moveSection "t" .down).2 = lined := by
  have distinct : (lines.widgets.map Widget.id).Nodup := by decide
  have distinctSections : (lined.sections.map Section.id).Nodup := by decide
  have moves := moves_exchange_neighbours lines lined
  have told : (lines.moveWidget "b" .down).1 = true := by decide
  have untold : (lined.moveSection "t" .down).1 = false := by decide
  have atStart := (moves.1 distinct "a").found 0 _ rfl rfl
  exact ⟨distinct, distinctSections, told, (moves.1 distinct "b").back .down told,
    (atStart.downmost 2 _).mpr ⟨rfl, rfl⟩, untold,
    (moves.2 distinctSections "t").untold .down untold⟩

end Document

end Bulletin
