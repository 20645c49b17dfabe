import Bulletin.Json.Format
import Bulletin.Proofs.Outcome
import Mathlib.Data.List.Forall2
/-!
# Formats that read in parallel

Two formats read in parallel where they end at the same fault, or behind the same characters with
results that are related. So do then the formats of the lists and the records made from them.
-/

namespace Bulletin

/-! ## Outcomes -/

namespace Outcome

variable {ε : Type}

inductive Parallel {α β : Type} (same : α → β → Prop) : Except ε α → Except ε β → Prop where
  | error (error : ε) : Parallel same (.error error) (.error error)
  | ok {value : α} {other : β} (isSame : same value other) : Parallel same (.ok value) (.ok other)

variable {α β γ δ : Type} {same : α → β → Prop} {also : γ → δ → Prop}
  {outcome : Except ε α} {other : Except ε β}

theorem parallel_self {same : α → α → Prop} (reflexive : ∀ value, same value value)
    (outcome : Except ε α) : Parallel same outcome outcome := by
  cases outcome with
  | error error => exact .error error
  | ok value => exact .ok (reflexive value)

theorem Parallel.bind (parallel : Parallel same outcome other) {next : α → Except ε γ}
    {nextOther : β → Except ε δ}
    (goesOn : ∀ value other, same value other → Parallel also (next value) (nextOther other)) :
    Parallel also (outcome >>= next) (other >>= nextOther) := by
  cases parallel with
  | error error => exact .error error
  | ok isSame => exact goesOn _ _ isSame

theorem parallel_bind {outcome : Except ε α} {next : α → Except ε γ} {nextOther : α → Except ε δ}
    (goesOn : ∀ value, Parallel also (next value) (nextOther value)) :
    Parallel also (outcome >>= next) (outcome >>= nextOther) := by
  cases outcome with
  | error error => exact .error error
  | ok value => exact goesOn value

theorem Parallel.map (parallel : Parallel same outcome other) {f : α → γ} {g : β → δ}
    (maps : ∀ value other, same value other → also (f value) (g other)) :
    Parallel also (outcome.map f) (other.map g) := by
  cases parallel with
  | error error => exact .error error
  | ok isSame => exact .ok (maps _ _ isSame)

theorem Parallel.mapError {ζ : Type} (parallel : Parallel same outcome other) (f : ε → ζ) :
    Parallel same (outcome.mapError f) (other.mapError f) := by
  cases parallel with
  | error error => exact .error (f error)
  | ok isSame => exact .ok isSame

theorem Parallel.exists_ok (parallel : Parallel same outcome other) {value : α}
    (isOk : outcome = .ok value) : ∃ result, other = .ok result ∧ same value result := by
  cases parallel with
  | error error => cases isOk
  | ok isSame =>
      cases isOk
      exact ⟨_, rfl, isSame⟩

end Outcome

namespace Json

open Outcome (Parallel parallel_bind parallel_self)

variable {α β σ τ : Type}

/-! ## Reading -/

def Behind (same : α → β → Prop) (read : α × Cursor) (other : β × Cursor) : Prop :=
  same read.1 other.1 ∧ read.2 = other.2

theorem parallel_foldItems (same : σ → τ → Prop) {item : σ → Cursor → Except Fault (σ × Cursor)}
    {other : τ → Cursor → Except Fault (τ × Cursor)}
    (steps : ∀ state next cursor, same state next →
      Parallel (Behind same) (item state cursor) (other next cursor))
    (count : Nat) (first : Bool) {state : σ} {next : τ} (start : same state next)
    (cursor : Cursor) :
    Parallel (Behind same) (foldItems item count first state cursor)
      (foldItems other count first next cursor) := by
  induction count generalizing first state next cursor with
  | zero => exact .error _
  | succ count induction =>
      rw [foldItems, foldItems]
      refine parallel_bind fun ⟨more, here⟩ => ?_
      cases more with
      | false => exact .ok ⟨start, rfl⟩
      | true =>
          refine (steps state next here start).bind ?_
          rintro ⟨state, behind⟩ ⟨next, _⟩ ⟨follows, rfl⟩
          exact induction false follows behind

theorem parallel_foldMembers (same : σ → τ → Prop)
    {member : σ → String → Cursor → Except Fault (σ × Cursor)}
    {other : τ → String → Cursor → Except Fault (τ × Cursor)}
    (steps : ∀ state next key cursor, same state next →
      Parallel (Behind same) (member state key cursor) (other next key cursor))
    (keySteps count : Nat) (first : Bool) {state : σ} {next : τ} (start : same state next)
    (cursor : Cursor) :
    Parallel (Behind same) (foldMembers member keySteps count first state cursor)
      (foldMembers other keySteps count first next cursor) := by
  induction count generalizing first state next cursor with
  | zero => exact .error _
  | succ count induction =>
      rw [foldMembers, foldMembers]
      refine parallel_bind fun ⟨key?, here⟩ => ?_
      cases key? with
      | none => exact .ok ⟨start, rfl⟩
      | some key =>
          refine (steps state next key here start).bind ?_
          rintro ⟨state, behind⟩ ⟨next, _⟩ ⟨follows, rfl⟩
          exact induction false follows behind

theorem parallel_settle {same : α → β → Prop} {contents : Except Fault (α × Cursor)}
    {other : Except Fault (β × Cursor)} (parallel : Parallel (Behind same) contents other)
    (close : Cursor → Except Fault Cursor) (afterClose : Cursor → Cursor) :
    Parallel (Behind same) (settle close afterClose contents) (settle close afterClose other) := by
  cases parallel with
  | error fault => cases fault <;> exact .error _
  | @ok read found isSame =>
      rcases read with ⟨value, behind⟩
      rcases found with ⟨result, _⟩
      rcases isSame with ⟨isSame, rfl⟩
      exact (parallel_self (fun _ => rfl) (close behind)).map fun _ _ equal => ⟨isSame, equal⟩

/-! ## Formats -/

/-- Wherever they read, and in every value, the formats end at the same fault or find results that
are related. -/
structure Format.Parallel (same : α → β → Prop) (format : Format α) (other : Format β) : Prop where
  ofJson : ∀ surplus value,
    Outcome.Parallel same (format.ofJson surplus value) (other.ofJson surplus value)
  read : ∀ allowance cursor,
    Outcome.Parallel (Behind same) (format.read allowance cursor) (other.read allowance cursor)

namespace Format

variable {same : α → β → Prop} {format : Format α} {other : Format β}

theorem parallel_self {same : α → α → Prop} (reflexive : ∀ value, same value value)
    (format : Format α) : format.Parallel same format where
  ofJson _ _ := Outcome.parallel_self reflexive _
  read _ _ := Outcome.parallel_self (fun read => ⟨reflexive read.1, rfl⟩) _

theorem Parallel.map (parallel : format.Parallel same other) {also : σ → τ → Prop} {f : α → σ}
    {g : β → τ} (maps : ∀ value other, same value other → also (f value) (g other)) :
    (format.map f).Parallel also (other.map g) where
  ofJson surplus value := (parallel.ofJson surplus value).map maps
  read allowance cursor := (parallel.read allowance cursor).map fun read found isSame =>
    ⟨maps read.1 found.1 isSame.1, isSame.2⟩

theorem parallel_mapM {find : Json → Except Cause α} {findOther : Json → Except Cause β}
    (finds : ∀ value, Outcome.Parallel same (find value) (findOther value)) (items : List Json) :
    Outcome.Parallel (List.Forall₂ same) (items.mapM find) (items.mapM findOther) := by
  induction items with
  | nil => exact .ok .nil
  | cons item items induction =>
      rw [List.mapM_cons, List.mapM_cons]
      refine (finds item).bind fun value other first => ?_
      exact induction.bind fun values others rest => .ok (.cons first rest)

theorem Parallel.list (parallel : format.Parallel same other) :
    format.list.Parallel (List.Forall₂ same) other.list where
  ofJson surplus value := by
    cases value with
    | array items => exact parallel_mapM (parallel.ofJson surplus) items.toList
    | _ => exact .error _
  read allowance cursor := by
    simp only [Format.list]
    split
    · rw [inArray, inArray]
      split
      · exact .error _
      · refine parallel_settle ?_ closeArray afterArrayClose
        refine (parallel_foldItems (List.Forall₂ same) ?_ _ true .nil _).map ?_
        · intro values others cursor rest
          exact (parallel.read _ cursor).map fun read found first =>
            ⟨.cons first.1 rest, first.2⟩
        · exact fun read found isSame => ⟨List.rel_reverse isSame.1, isSame.2⟩
    · exact .error _

theorem Parallel.parse (parallel : format.Parallel same other) (text : String) :
    Outcome.Parallel same (format.parse text) (other.parse text) := by
  refine Outcome.Parallel.mapError ?_ _
  refine (parallel.read _ _).bind ?_
  rintro ⟨value, behind⟩ ⟨found, _⟩ ⟨isSame, rfl⟩
  exact parallel_bind fun _ => .ok isSame

end Format

/-! ## Records -/

/-- The fields have one name, are both required or neither, and change what is the same to what is
the same. -/
structure Field.Parallel (same : σ → τ → Prop) (field : Field σ) (other : Field τ) : Prop where
  name : other.name = field.name
  isRequired : other.isRequired = field.isRequired
  update : field.update.Parallel
    (fun change next => ∀ value found, same value found → same (change value) (next found))
    other.update

theorem Field.parallel_map {same : σ → τ → Prop} {name : String} {isRequired : Bool}
    {format : Format α} {put : α → σ → σ} {putOther : α → τ → τ}
    (puts : ∀ result value found, same value found →
      same (put result value) (putOther result found)) :
    Field.Parallel same ⟨name, isRequired, format.map put⟩
      ⟨name, isRequired, format.map putOther⟩ where
  name := rfl
  isRequired := rfl
  update := by
    refine (Format.parallel_self (fun _ => rfl) format).map ?_
    rintro result _ rfl
    exact puts result

structure RecordShape.Parallel (same : σ → τ → Prop) (shape : RecordShape σ)
    (other : RecordShape τ) : Prop where
  name : other.name = shape.name
  blank : same shape.blank other.blank
  fields : List.Forall₂ (Field.Parallel same) shape.fields other.fields

namespace RecordShape

variable {same : σ → τ → Prop} {shape : RecordShape σ} {other : RecordShape τ}

def InStep (same : σ → τ → Prop) (draft : Draft σ) (other : Draft τ) : Prop :=
  same draft.value other.value ∧ draft.seen = other.seen

theorem rel_find? {relation : α → β → Prop} {test : α → Bool} {testOther : β → Bool}
    (tests : ∀ item other, relation item other → test item = testOther other) {items : List α}
    {others : List β} (related : List.Forall₂ relation items others) :
    Option.Rel relation (items.find? test) (others.find? testOther) := by
  induction related with
  | nil => exact .none
  | @cons item other items others first rest induction =>
      rw [List.find?_cons, List.find?_cons, tests item other first]
      split
      · exact .some first
      · exact induction

theorem Parallel.field? (parallel : shape.Parallel same other) (key : String) :
    Option.Rel (Field.Parallel same) (shape.field? key) (other.field? key) :=
  rel_find? (fun _ _ fields => by rw [fields.name]) parallel.fields

theorem Parallel.missing? (parallel : shape.Parallel same other) (seen : List String) :
    Option.Rel (Field.Parallel same) (shape.missing? seen) (other.missing? seen) :=
  rel_find? (fun _ _ fields => by rw [fields.name, fields.isRequired]) parallel.fields

theorem Parallel.tooShort (parallel : shape.Parallel same other) (index : Nat) :
    other.tooShort index = shape.tooShort index := by
  rw [RecordShape.tooShort, RecordShape.tooShort, parallel.name, parallel.fields.length_eq]

/-! ### In a text -/

theorem Parallel.readMember (parallel : shape.Parallel same other) (allowance : Allowance)
    {draft : Draft σ} {next : Draft τ} (start : InStep same draft next) (key : String)
    (cursor : Cursor) :
    Outcome.Parallel (Behind (InStep same)) (shape.readMember allowance draft key cursor)
      (other.readMember allowance next key cursor) := by
  rcases draft with ⟨value, seen⟩
  rcases next with ⟨found, _⟩
  rcases start with ⟨isSame, rfl⟩
  have fields := parallel.field? key
  rw [RecordShape.readMember, RecordShape.readMember]
  generalize shape.field? key = field?, other.field? key = other? at fields
  cases fields with
  | none =>
      exact parallel_bind fun _ => parallel_bind fun _ => .ok ⟨⟨isSame, rfl⟩, rfl⟩
  | @some field other fields =>
      dsimp only
      split
      · exact .error _
      · refine parallel_bind fun after => ?_
        refine (fields.update.read allowance after).bind ?_
        rintro ⟨change, behind⟩ ⟨next, _⟩ ⟨changes, rfl⟩
        exact .ok ⟨⟨changes value found isSame, rfl⟩, rfl⟩

theorem Parallel.readMembers (parallel : shape.Parallel same other) (allowance : Allowance)
    (cursor : Cursor) :
    Outcome.Parallel (Behind same) (shape.readMembers allowance cursor)
      (other.readMembers allowance cursor) := by
  rw [RecordShape.readMembers, RecordShape.readMembers]
  have start : InStep same (⟨shape.blank, []⟩ : Draft σ) ⟨other.blank, []⟩ := ⟨parallel.blank, rfl⟩
  refine (parallel_foldMembers (InStep same) ?_ _ _ true start cursor).bind ?_
  · exact fun draft next key cursor start => parallel.readMember allowance start key cursor
  rintro ⟨⟨value, seen⟩, behind⟩ ⟨⟨found, _⟩, _⟩ ⟨⟨isSame, rfl⟩, rfl⟩
  have missing := parallel.missing? seen
  dsimp only at *
  generalize shape.missing? seen = field?, other.missing? seen = other? at missing
  cases missing with
  | none => exact .ok ⟨isSame, rfl⟩
  | some fields =>
      dsimp only
      rw [fields.name]
      exact .error _

theorem Parallel.readItems (parallel : shape.Parallel same other) (allowance : Allowance)
    {fields : List (Field σ)} {others : List (Field τ)}
    (inFields : List.Forall₂ (Field.Parallel same) fields others) (index : Nat) (first : Bool)
    {value : σ} {found : τ} (isSame : same value found) (cursor : Cursor) :
    Outcome.Parallel (Behind same) (shape.readItems allowance fields index first value cursor)
      (other.readItems allowance others index first found cursor) := by
  induction inFields generalizing index first value found cursor with
  | nil => exact .ok ⟨isSame, rfl⟩
  | @cons field other fields others inField rest induction =>
      rw [RecordShape.readItems, RecordShape.readItems, parallel.tooShort, inField.isRequired]
      refine parallel_bind fun ⟨more, here⟩ => ?_
      dsimp only
      split
      · refine (inField.update.read allowance here).bind ?_
        rintro ⟨change, behind⟩ ⟨next, _⟩ ⟨changes, rfl⟩
        exact induction (index + 1) false (changes value found isSame) behind
      · split
        · exact .error _
        · exact induction (index + 1) first isSame here

theorem Parallel.read (parallel : shape.Parallel same other) (allowance : Allowance)
    (cursor : Cursor) :
    Outcome.Parallel (Behind same) (shape.read allowance cursor) (other.read allowance cursor) := by
  simp only [RecordShape.read]
  split
  · rw [inArray, inArray]
    split
    · exact .error _
    · exact parallel_settle (parallel.readItems _ parallel.fields 0 true parallel.blank _) _ _
  · rw [inObject, inObject]
    split
    · exact .error _
    · exact parallel_settle (parallel.readMembers _ _) _ _
  · rw [parallel.name]
    exact .error _

/-! ### In a value -/

theorem Parallel.ofMember (parallel : shape.Parallel same other) (surplus : Surplus)
    {draft : Draft σ} {next : Draft τ} (start : InStep same draft next) (member : String × Json) :
    Outcome.Parallel (InStep same) (shape.ofMember surplus draft member)
      (other.ofMember surplus next member) := by
  rcases draft with ⟨value, seen⟩
  rcases next with ⟨found, _⟩
  rcases start with ⟨isSame, rfl⟩
  have fields := parallel.field? member.1
  rw [RecordShape.ofMember, RecordShape.ofMember]
  generalize shape.field? member.1 = field?, other.field? member.1 = other? at fields
  cases fields with
  | none => exact .ok ⟨isSame, rfl⟩
  | some fields =>
      dsimp only
      split
      · exact .error _
      · exact (fields.update.ofJson surplus member.2).bind fun change next changes =>
          .ok ⟨changes value found isSame, rfl⟩

theorem Parallel.ofMembers (parallel : shape.Parallel same other) (surplus : Surplus)
    (members : List (String × Json)) :
    Outcome.Parallel same (shape.ofMembers surplus members) (other.ofMembers surplus members) := by
  have folded {draft : Draft σ} {next : Draft τ} (start : InStep same draft next) :
      Outcome.Parallel (InStep same) (members.foldlM (shape.ofMember surplus) draft)
        (members.foldlM (other.ofMember surplus) next) := by
    induction members generalizing draft next with
    | nil => exact .ok start
    | cons member members induction =>
        rw [List.foldlM_cons, List.foldlM_cons]
        exact (parallel.ofMember surplus start member).bind fun _ _ follows => induction follows
  rw [RecordShape.ofMembers, RecordShape.ofMembers]
  refine (folded ⟨parallel.blank, rfl⟩).bind ?_
  rintro ⟨value, seen⟩ ⟨found, _⟩ ⟨isSame, rfl⟩
  have missing := parallel.missing? seen
  dsimp only at *
  generalize shape.missing? seen = field?, other.missing? seen = other? at missing
  cases missing with
  | none => exact .ok isSame
  | some fields =>
      dsimp only
      rw [fields.name]
      exact .error _

theorem Parallel.ofItems (parallel : shape.Parallel same other) (surplus : Surplus)
    {fields : List (Field σ)} {others : List (Field τ)}
    (inFields : List.Forall₂ (Field.Parallel same) fields others) (index : Nat)
    (items : List Json) {value : σ} {found : τ} (isSame : same value found) :
    Outcome.Parallel same (shape.ofItems surplus fields index items value)
      (other.ofItems surplus others index items found) := by
  induction inFields generalizing index items value found with
  | nil =>
      cases items with
      | nil => exact .ok isSame
      | cons item items =>
          simp only [RecordShape.ofItems, parallel.fields.length_eq]
          exact .error _
  | @cons field other fields others inField rest induction =>
      cases items with
      | nil =>
          rw [RecordShape.ofItems, RecordShape.ofItems, parallel.tooShort, inField.isRequired]
          split
          · exact .error _
          · exact induction (index + 1) [] isSame
      | cons item items =>
          rw [RecordShape.ofItems, RecordShape.ofItems]
          exact (inField.update.ofJson surplus item).bind fun change next changes =>
            induction (index + 1) items (changes value found isSame)

theorem Parallel.format (parallel : shape.Parallel same other) :
    shape.format.Parallel same other.format where
  ofJson surplus value := by
    cases value with
    | array items => exact parallel.ofItems surplus parallel.fields 0 _ parallel.blank
    | object members => exact parallel.ofMembers surplus _
    | _ =>
        simp only [RecordShape.format, RecordShape.ofJson, parallel.name]
        exact .error _
  read := parallel.read

end RecordShape

end Json

end Bulletin
