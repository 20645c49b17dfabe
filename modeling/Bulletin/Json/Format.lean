import Bulletin.Json.Reader
/-!
# Formats

A format says how values of a type are found in JSON: in a text, read directly and with positions
in its faults, and in a JSON value that was read before. Formats of records are made from formats
of their fields; a record may stand as an object, or as an array of its fields in order.
-/

namespace Bulletin.Json

/-- How surplus items of an array are reported that should be a record. -/
inductive Surplus where
  | counted
  | fewer
deriving DecidableEq, Repr

def elementsText (count : Nat) : String :=
  Number.naturalText count ++ (if count = 1 then " element" else " elements")

def Surplus.cause (surplus : Surplus) (length expected : Nat) : Cause :=
  match surplus with
  | .counted => .wrongLength length (elementsText expected ++ " in sequence")
  | .fewer => .wrongLength length "fewer elements in array"

structure Format (α : Type) where
  read : Allowance → Cursor → Except Fault (α × Cursor)
  ofJson : Surplus → Json → Except Cause α

/-- The fault of a value at a cursor that is not of the expected type. A scalar is read first, and
its own faults come before; a bracket is only looked at. -/
def wrongTypeAt (allowance : Allowance) (cursor : Cursor) (expected : String) : Fault :=
  let scalar (reading : Except Fault (Found × Cursor)) : Fault :=
    match reading with
    | .ok (found, after) => after.fault (.wrongType found expected) 0
    | .error fault => fault
  match cursor.rest with
  | [] => cursor.fault .endBeforeValue 0
  | 'n' :: rest => scalar ((expectLetters ['u', 'l', 'l'] (cursor.next rest)).map (.null, ·))
  | 't' :: rest =>
      scalar ((expectLetters ['r', 'u', 'e'] (cursor.next rest)).map (.boolean true, ·))
  | 'f' :: rest =>
      scalar ((expectLetters ['a', 'l', 's', 'e'] (cursor.next rest)).map (.boolean false, ·))
  | '-' :: rest =>
      scalar ((unsignedNumber true (cursor.next rest)).map fun (value, after) =>
        (.number value, after))
  | '"' :: rest =>
      scalar ((stringBody allowance.steps [] (cursor.next rest)).map fun (value, after) =>
        (.text value, after))
  | '[' :: _ => cursor.fault (.wrongType .sequence expected) 0
  | '\x7b' :: _ => cursor.fault (.wrongType .map expected) 0
  | c :: _ =>
      if c.isDigit then
        scalar ((unsignedNumber false cursor).map fun (value, after) => (.number value, after))
      else cursor.aheadFault .expectedValue

namespace Format

def map (f : α → β) (format : Format α) : Format β where
  read allowance cursor := (format.read allowance cursor).map fun (value, after) => (f value, after)
  ofJson surplus value := (format.ofJson surplus value).map f

def any : Format Json where
  read allowance cursor := readValue allowance.steps allowance.depth cursor
  ofJson _ value := .ok value

def text : Format String where
  read allowance cursor :=
    let cursor := cursor.skipSpaces
    match cursor.rest with
    | '"' :: rest => stringBody allowance.steps [] (cursor.next rest)
    | _ => .error (wrongTypeAt allowance cursor "a string")
  ofJson
    | _, .text value => .ok value
    | _, value => .error (.wrongType value.found "a string")

def flag : Format Bool where
  read allowance cursor :=
    let cursor := cursor.skipSpaces
    match cursor.rest with
    | 't' :: rest => (expectLetters ['r', 'u', 'e'] (cursor.next rest)).map (true, ·)
    | 'f' :: rest => (expectLetters ['a', 'l', 's', 'e'] (cursor.next rest)).map (false, ·)
    | _ => .error (wrongTypeAt allowance cursor "a boolean")
  ofJson
    | _, .boolean value => .ok value
    | _, value => .error (.wrongType value.found "a boolean")

def optional (format : Format α) : Format (Option α) where
  read allowance cursor :=
    let cursor := cursor.skipSpaces
    match cursor.rest with
    | 'n' :: rest => (expectLetters ['u', 'l', 'l'] (cursor.next rest)).map (none, ·)
    | _ => (format.map some).read allowance cursor
  ofJson
    | _, .null => .ok none
    | surplus, value => (format.ofJson surplus value).map some

def list (format : Format α) : Format (List α) where
  read allowance cursor :=
    let cursor := cursor.skipSpaces
    match cursor.rest with
    | '[' :: rest =>
        inArray allowance cursor rest fun inner cursor =>
          (foldItems
            (fun values cursor =>
              (format.read inner cursor).map fun (value, after) => (value :: values, after))
            inner.steps true [] cursor).map
            fun (values, after) => (values.reverse, after)
    | _ => .error (wrongTypeAt allowance cursor "a sequence")
  ofJson
    | surplus, .array items => items.toList.mapM (format.ofJson surplus)
    | _, value => .error (.wrongType value.found "a sequence")

end Format

/-! ## Records -/

/-- A field of a record under construction. Reading it gives the change it makes to the record. -/
structure Field (σ : Type) where
  name : String
  isRequired : Bool
  update : Format (σ → σ)

namespace Field

def defaulted (name : String) (format : Format α) (put : α → σ → σ) : Field σ :=
  ⟨name, false, format.map put⟩

def required (name : String) (format : Format α) (put : α → σ → σ) : Field σ :=
  ⟨name, true, format.map put⟩

end Field

/-- A record as JSON knows it: its name in messages, the record without any field read, and its
fields in order. -/
structure RecordShape (σ : Type) where
  name : String
  blank : σ
  fields : List (Field σ)

structure Draft (σ : Type) where
  value : σ
  seen : List String

namespace RecordShape

def field? (shape : RecordShape σ) (name : String) : Option (Field σ) :=
  shape.fields.find? fun field => field.name = name

def missing? (shape : RecordShape σ) (seen : List String) : Option (Field σ) :=
  shape.fields.find? fun field => field.isRequired && !seen.contains field.name

def tooShort (shape : RecordShape σ) (index : Nat) : Cause :=
  .wrongLength index (shape.name ++ " with " ++ elementsText shape.fields.length)

/-! ### In a text -/

/-- One member: unknown ones are skipped, known ones may not come twice. -/
def readMember (shape : RecordShape σ) (allowance : Allowance) (record : Draft σ)
    (key : String) (cursor : Cursor) : Except Fault (Draft σ × Cursor) := do
  match shape.field? key with
  | none =>
      let cursor ← skipValue allowance.steps (← colon cursor)
      return (record, cursor)
  | some field =>
      if record.seen.contains key then .error (.pending (.duplicateField key) cursor)
      else
        let (change, cursor) ← field.update.read allowance (← colon cursor)
        return (⟨change record.value, key :: record.seen⟩, cursor)

def readMembers (shape : RecordShape σ) (allowance : Allowance) (cursor : Cursor) :
    Except Fault (σ × Cursor) := do
  let (record, cursor) ←
    foldMembers (shape.readMember allowance) allowance.steps allowance.steps true
      ⟨shape.blank, []⟩ cursor
  match shape.missing? record.seen with
  | some field => .error (.pending (.missingField field.name) cursor)
  | none => return (record.value, cursor)

def readItems (shape : RecordShape σ) (allowance : Allowance) :
    (fields : List (Field σ)) → (index : Nat) → (first : Bool) → σ → Cursor →
      Except Fault (σ × Cursor)
  | [], _, _, value, cursor => .ok (value, cursor)
  | field :: fields, index, first, value, cursor => do
      let (more, cursor) ← nextItem first cursor
      if more then
        let (change, cursor) ← field.update.read allowance cursor
        shape.readItems allowance fields (index + 1) false (change value) cursor
      else if field.isRequired then .error (.pending (shape.tooShort index) cursor)
      else shape.readItems allowance fields (index + 1) first value cursor

def read (shape : RecordShape σ) (allowance : Allowance) (cursor : Cursor) :
    Except Fault (σ × Cursor) :=
  let cursor := cursor.skipSpaces
  match cursor.rest with
  | '[' :: rest =>
      inArray allowance cursor rest fun inner cursor =>
        shape.readItems inner shape.fields 0 true shape.blank cursor
  | '\x7b' :: rest => inObject allowance cursor rest shape.readMembers
  | _ => .error (wrongTypeAt allowance cursor shape.name)

/-! ### In a value -/

def ofMember (shape : RecordShape σ) (surplus : Surplus) (record : Draft σ)
    (member : String × Json) : Except Cause (Draft σ) := do
  match shape.field? member.1 with
  | none => return record
  | some field =>
      if record.seen.contains member.1 then .error (.duplicateField member.1)
      else
        let change ← field.update.ofJson surplus member.2
        return ⟨change record.value, member.1 :: record.seen⟩

def ofMembers (shape : RecordShape σ) (surplus : Surplus) (members : List (String × Json)) :
    Except Cause σ := do
  let record ← members.foldlM (shape.ofMember surplus) ⟨shape.blank, []⟩
  match shape.missing? record.seen with
  | some field => .error (.missingField field.name)
  | none => return record.value

def ofItems (shape : RecordShape σ) (surplus : Surplus) :
    (fields : List (Field σ)) → (index : Nat) → List Json → σ → Except Cause σ
  | [], _, [], value => .ok value
  | [], index, surplusItems, _ =>
      .error (surplus.cause (index + surplusItems.length) shape.fields.length)
  | field :: fields, index, [], value =>
      if field.isRequired then .error (shape.tooShort index)
      else shape.ofItems surplus fields (index + 1) [] value
  | field :: fields, index, item :: items, value => do
      let change ← field.update.ofJson surplus item
      shape.ofItems surplus fields (index + 1) items (change value)

def ofJson (shape : RecordShape σ) (surplus : Surplus) : Json → Except Cause σ
  | .array items => shape.ofItems surplus shape.fields 0 items.toList shape.blank
  | .object members => shape.ofMembers surplus members.toList
  | value => .error (.wrongType value.found shape.name)

def format (shape : RecordShape σ) : Format σ where
  read := shape.read
  ofJson := shape.ofJson

end RecordShape

/-! ## Choices -/

/-- A choice among names: one of them as a string, or as the only key of an object whose value is
null. -/
structure Choice (α : Type) where
  names : List (String × α)

namespace Choice

def choose (choice : Choice α) (name : String) : Except Cause α :=
  match choice.names.lookup name with
  | some value => .ok value
  | none => .error (.unknownVariant name (choice.names.map Prod.fst))

def readName (choice : Choice α) (allowance : Allowance) (cursor : Cursor) :
    Except Fault (α × Cursor) := do
  let (name, cursor) ← stringBody allowance.steps [] cursor
  match choice.choose name with
  | .ok value => return (value, cursor)
  | .error cause => .error (cursor.fault cause 0)

def readNull (allowance : Allowance) (cursor : Cursor) : Except Fault Cursor :=
  let cursor := cursor.skipSpaces
  match cursor.rest with
  | 'n' :: rest => expectLetters ['u', 'l', 'l'] (cursor.next rest)
  | _ => .error (wrongTypeAt allowance cursor "unit")

def readObject (choice : Choice α) (allowance : Allowance) (cursor : Cursor) :
    Except Fault (α × Cursor) := do
  let cursor := cursor.skipSpaces
  match cursor.rest with
  | [] => .error (cursor.fault .endBeforeValue 0)
  | '"' :: rest =>
      let (value, cursor) ← choice.readName allowance (cursor.next rest)
      let cursor ← readNull allowance (← colon cursor)
      let cursor := cursor.skipSpaces
      match cursor.rest with
      | [] => .error (cursor.fault .endInObject 0)
      | '\x7d' :: rest => return (value, cursor.next rest)
      | _ => .error (cursor.fault .expectedValue 0)
  | '\x7d' :: _ => .error (cursor.aheadFault .expectedValue)
  | _ => .error (cursor.aheadFault .keyNotString)

def read (choice : Choice α) (allowance : Allowance) (cursor : Cursor) :
    Except Fault (α × Cursor) :=
  let cursor := cursor.skipSpaces
  match cursor.rest with
  | [] => .error (cursor.fault .endBeforeValue 0)
  | '"' :: rest => choice.readName allowance (cursor.next rest)
  | '\x7b' :: rest =>
      match allowance.depth with
      | 0 => .error (cursor.aheadFault .tooDeep)
      | depth + 1 => choice.readObject ⟨depth, allowance.steps⟩ (cursor.next rest)
  | _ => .error (cursor.aheadFault .expectedValue)

def ofJson (choice : Choice α) : Json → Except Cause α
  | .text name => choice.choose name
  | .object (.cons name .null .nil) => choice.choose name
  | value => .error (.wrongType value.found "string or map")

def format (choice : Choice α) : Format α where
  read := choice.read
  ofJson _ := choice.ofJson

end Choice

def Format.parse (format : Format α) (text : String) : Except ReadError α :=
  readWhole format.read text

end Bulletin.Json
