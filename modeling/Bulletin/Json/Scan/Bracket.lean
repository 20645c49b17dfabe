import Bulletin.Json.Scan.Text
/-!
# Scanning brackets

The steps from item to item of an array and from member to member of an object, the closing of
both, and loops over them. A reader that stops before the closing bracket is told so by the close.
-/

namespace Bulletin.Json

/-- What bounds the reading of a text: how many more brackets may be opened inside one another,
and a number of steps that no loop over the text exceeds. -/
structure Allowance where
  depth : Nat
  steps : Nat
deriving DecidableEq, Repr

namespace Allowance

/-- A text may nest 127 brackets. -/
def ofText (chars : List Char) : Allowance :=
  ⟨127, chars.length + 1⟩

end Allowance

/-! ## Arrays -/

/-- Whether another item follows, and the cursor at it or at the closing bracket. -/
def nextItem (first : Bool) (cursor : Cursor) : Except Fault (Bool × Cursor) :=
  let cursor := cursor.skipSpaces
  match cursor.rest with
  | [] => .error (cursor.fault .endInArray 0)
  | ']' :: _ => .ok (false, cursor)
  | ',' :: rest =>
      if first then .ok (true, cursor)
      else
        let cursor := (cursor.next rest).skipSpaces
        match cursor.rest with
        | [] => .error (cursor.fault .endBeforeValue 0)
        | ']' :: _ => .error (cursor.aheadFault .trailingComma)
        | _ => .ok (true, cursor)
  | _ => if first then .ok (true, cursor) else .error (cursor.aheadFault .expectedItemEnd)

/-- How far the closing of an array reads, whether it succeeds or not. -/
def afterArrayClose (cursor : Cursor) : Cursor :=
  let cursor := cursor.skipSpaces
  match cursor.rest with
  | ']' :: rest => cursor.next rest
  | ',' :: rest => (cursor.next rest).skipSpaces
  | _ => cursor

def closeArray (cursor : Cursor) : Except Fault Cursor :=
  let cursor := cursor.skipSpaces
  match cursor.rest with
  | [] => .error (cursor.fault .endInArray 0)
  | ']' :: rest => .ok (cursor.next rest)
  | ',' :: rest =>
      let cursor := (cursor.next rest).skipSpaces
      match cursor.rest with
      | ']' :: _ => .error (cursor.aheadFault .trailingComma)
      | _ => .error (cursor.aheadFault .trailingCharacters)
  | _ => .error (cursor.aheadFault .trailingCharacters)

/-! ## Objects -/

def nextKey (steps : Nat) (first : Bool) (cursor : Cursor) :
    Except Fault (Option String × Cursor) := do
  let cursor := cursor.skipSpaces
  match cursor.rest with
  | [] => .error (cursor.fault .endInObject 0)
  | '\x7d' :: _ => .ok (none, cursor)
  | c :: rest =>
      if c ≠ ',' && !first then .error (cursor.aheadFault .expectedMemberEnd)
      else
        let cursor := if first then cursor else (cursor.next rest).skipSpaces
        match cursor.rest with
        | [] => .error (cursor.fault .endBeforeValue 0)
        | '"' :: rest => do
            let (key, cursor) ← stringBody steps [] (cursor.next rest)
            .ok (some key, cursor)
        | '\x7d' :: _ => .error (cursor.aheadFault .trailingComma)
        | _ => .error (cursor.aheadFault .keyNotString)

def colon (cursor : Cursor) : Except Fault Cursor :=
  let cursor := cursor.skipSpaces
  match cursor.rest with
  | [] => .error (cursor.fault .endInObject 0)
  | ':' :: rest => .ok (cursor.next rest)
  | _ => .error (cursor.aheadFault .expectedColon)

def afterObjectClose (cursor : Cursor) : Cursor :=
  let cursor := cursor.skipSpaces
  match cursor.rest with
  | '\x7d' :: rest => cursor.next rest
  | _ => cursor

def closeObject (cursor : Cursor) : Except Fault Cursor :=
  let cursor := cursor.skipSpaces
  match cursor.rest with
  | [] => .error (cursor.fault .endInObject 0)
  | '\x7d' :: rest => .ok (cursor.next rest)
  | ',' :: _ => .error (cursor.aheadFault .trailingComma)
  | _ => .error (cursor.aheadFault .trailingCharacters)

/-! ## What stands between brackets -/

/-- The contents of a bracket and then its close. A fault of meaning in the contents gets its place
where the close would end. -/
def settle (close : Cursor → Except Fault Cursor) (afterClose : Cursor → Cursor) :
    Except Fault (α × Cursor) → Except Fault (α × Cursor)
  | .ok (value, cursor) => (close cursor).map fun cursor => (value, cursor)
  | .error (.placed cause offset) => .error (.placed cause offset)
  | .error (.pending cause cursor) => .error (.placed cause (afterClose cursor).offset)

def inArray (allowance : Allowance) (cursor : Cursor) (rest : List Char)
    (contents : Allowance → Cursor → Except Fault (α × Cursor)) : Except Fault (α × Cursor) :=
  match allowance.depth with
  | 0 => .error (cursor.aheadFault .tooDeep)
  | depth + 1 =>
      settle closeArray afterArrayClose (contents ⟨depth, allowance.steps⟩ (cursor.next rest))

def inObject (allowance : Allowance) (cursor : Cursor) (rest : List Char)
    (contents : Allowance → Cursor → Except Fault (α × Cursor)) : Except Fault (α × Cursor) :=
  match allowance.depth with
  | 0 => .error (cursor.aheadFault .tooDeep)
  | depth + 1 =>
      settle closeObject afterObjectClose (contents ⟨depth, allowance.steps⟩ (cursor.next rest))

def foldItems (item : σ → Cursor → Except Fault (σ × Cursor)) :
    (steps : Nat) → (first : Bool) → σ → Cursor → Except Fault (σ × Cursor)
  | 0, _, _, cursor => .error (cursor.fault .endInArray 0)
  | steps + 1, first, state, cursor => do
      let (more, cursor) ← nextItem first cursor
      if more then
        let (state, cursor) ← item state cursor
        foldItems item steps false state cursor
      else .ok (state, cursor)

def foldMembers (member : σ → String → Cursor → Except Fault (σ × Cursor)) (keySteps : Nat) :
    (steps : Nat) → (first : Bool) → σ → Cursor → Except Fault (σ × Cursor)
  | 0, _, _, cursor => .error (cursor.fault .endInObject 0)
  | steps + 1, first, state, cursor => do
      let (key?, cursor) ← nextKey keySteps first cursor
      match key? with
      | some key =>
          let (state, cursor) ← member state key cursor
          foldMembers member keySteps steps false state cursor
      | none => .ok (state, cursor)

end Bulletin.Json
