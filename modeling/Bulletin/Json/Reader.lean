import Bulletin.Json.Canonical
import Bulletin.Json.Scan.Bracket
import Bulletin.Json.Scan.Number
import Bulletin.Json.Scan.Skip
/-!
# Reading JSON values

The reader of whole values, and the reader of a text as one value with nothing behind it.
-/

namespace Bulletin.Json

/-- The value at a cursor, blanks before it skipped. Brackets are opened while the depth lasts. -/
def readValue (steps : Nat) : (depth : Nat) → Cursor → Except Fault (Json × Cursor)
  | depth, cursor =>
      let cursor := cursor.skipSpaces
      match cursor.rest with
      | [] => .error (cursor.fault .endBeforeValue 0)
      | 'n' :: rest =>
          (expectLetters ['u', 'l', 'l'] (cursor.next rest)).map (.null, ·)
      | 't' :: rest =>
          (expectLetters ['r', 'u', 'e'] (cursor.next rest)).map (.boolean true, ·)
      | 'f' :: rest =>
          (expectLetters ['a', 'l', 's', 'e'] (cursor.next rest)).map (.boolean false, ·)
      | '-' :: rest =>
          (unsignedNumber true (cursor.next rest)).map fun (value, after) => (.number value, after)
      | '"' :: rest =>
          (stringBody steps [] (cursor.next rest)).map fun (value, after) => (.text value, after)
      | '[' :: rest =>
          match depth with
          | 0 => .error (cursor.aheadFault .tooDeep)
          | depth + 1 =>
              (settle closeArray afterArrayClose
                (foldItems
                  (fun items cursor =>
                    (readValue steps depth cursor).map fun (value, after) =>
                      (value :: items, after))
                  steps true [] (cursor.next rest))).map
                fun (items, after) => (list items.reverse, after)
      | '\x7b' :: rest =>
          match depth with
          | 0 => .error (cursor.aheadFault .tooDeep)
          | depth + 1 =>
              (settle closeObject afterObjectClose
                (foldMembers
                  (fun members key cursor => do
                    let (value, after) ← readValue steps depth (← colon cursor)
                    .ok ((key, value) :: members, after))
                  steps steps true [] (cursor.next rest))).map
                fun (members, after) => (record members.reverse, after)
      | c :: _ =>
          if c.isDigit then
            (unsignedNumber false cursor).map fun (value, after) => (.number value, after)
          else .error (cursor.aheadFault .expectedValue)

def expectEnd (cursor : Cursor) : Except Fault Unit :=
  let cursor := cursor.skipSpaces
  match cursor.rest with
  | [] => .ok ()
  | _ :: _ => .error (cursor.aheadFault .trailingCharacters)

def Fault.report (chars : List Char) : Fault → ReadError
  | .placed cause offset => ⟨cause, some (Position.ofOffset chars offset)⟩
  | .pending cause _ => ⟨cause, none⟩

def readWhole (read : Allowance → Cursor → Except Fault (α × Cursor)) (text : String) :
    Except ReadError α :=
  let chars := text.toList
  let result : Except Fault α := do
    let (value, cursor) ← read (.ofText chars) ⟨chars, 0⟩
    expectEnd cursor
    return value
  result.mapError (Fault.report chars)

def parse (text : String) : Except ReadError Json :=
  readWhole (fun allowance => readValue allowance.steps allowance.depth) text

example : (parse " [1, \x7b\"a\": \"\\u00e9\"\x7d]").toOption.map compact =
    some "[1,\x7b\"a\":\"é\"\x7d]" := by decide +kernel

example : (match parse "[1,]" with | .ok _ => none | .error error => some error.message) =
    some "trailing comma at line 1 column 4" := by decide +kernel

end Bulletin.Json
