import Bulletin.Json.Scan.Text
/-!
# Skipping values

A value that nothing needs is passed over without being read: its syntax is checked, but nesting
has no limit, numbers have no range, and codes in strings may be any. The brackets that are open
are kept on a stack.
-/

namespace Bulletin.Json

inductive Bracket where
  | square
  | curly
deriving DecidableEq, Repr

namespace Bracket

def isClosedBy : Bracket → Char → Bool
  | .square, c => c = ']'
  | .curly, c => c = '\x7d'

def endFault : Bracket → Cause
  | .square => .endInArray
  | .curly => .endInObject

def separatorFault : Bracket → Cause
  | .square => .expectedItemEnd
  | .curly => .expectedMemberEnd

end Bracket

/-! ## Strings and numbers -/

def skipEscape (cursor : Cursor) : Except Fault Cursor :=
  match cursor.rest with
  | [] => .error (cursor.fault .endInString 0)
  | 'u' :: rest => (hexCode (cursor.next rest)).map Prod.snd
  | c :: rest =>
      if ['"', '\\', '/', 'b', 'f', 'n', 'r', 't'].contains c then .ok (cursor.next rest)
      else .error (cursor.fault .invalidEscape 1)

/-- Up to the closing quote; a control character is looked at only. -/
def skipString : (limit : Nat) → Cursor → Except Fault Cursor
  | 0, cursor => .error (cursor.fault .endInString 0)
  | limit + 1, cursor =>
      match cursor.rest with
      | [] => .error (cursor.fault .endInString 0)
      | '"' :: rest => .ok (cursor.next rest)
      | '\\' :: rest => do
          let cursor ← skipEscape (cursor.next rest)
          skipString limit cursor
      | c :: rest =>
          if c.toNat < 0x20 then .error (cursor.fault .controlCharacter 0)
          else skipString limit ⟨rest, cursor.offset + c.utf8Size⟩

def skipDigits (cursor : Cursor) : Cursor :=
  let (digits, rest) := cursor.rest.span Char.isDigit
  ⟨rest, cursor.offset + digits.length⟩

def skipExponent (cursor : Cursor) : Except Fault Cursor :=
  let cursor : Cursor :=
    match cursor.rest with
    | '+' :: rest => cursor.next rest
    | '-' :: rest => cursor.next rest
    | _ => cursor
  match cursor.rest with
  | [] => .error (cursor.fault .invalidNumber 0)
  | c :: _ =>
      if c.isDigit then .ok (skipDigits cursor) else .error (cursor.fault .invalidNumber 1)

def skipExponent? (cursor : Cursor) : Except Fault Cursor :=
  match cursor.rest with
  | 'e' :: rest => skipExponent (cursor.next rest)
  | 'E' :: rest => skipExponent (cursor.next rest)
  | _ => .ok cursor

def skipNumber (cursor : Cursor) : Except Fault Cursor :=
  match cursor.rest with
  | [] => .error (cursor.fault .invalidNumber 0)
  | c :: rest =>
      if !c.isDigit then .error (cursor.fault .invalidNumber 1)
      else if c = '0' && (rest.head?.map Char.isDigit).getD false then
        .error ((cursor.next rest).aheadFault .invalidNumber)
      else
        let cursor := skipDigits cursor
        match cursor.rest with
        | '.' :: rest =>
            let cursor := cursor.next rest
            let after := skipDigits cursor
            if after.offset = cursor.offset then .error (cursor.aheadFault .invalidNumber)
            else skipExponent? after
        | _ => skipExponent? cursor

/-! ## Values -/

inductive Due where
  | value
  /-- The first item or member, or the closing bracket. -/
  | contents
  | key
  /-- A comma or a closing bracket; the end where no bracket is open. -/
  | separator
deriving DecidableEq, Repr

/-- Where a scalar starts, the cursor behind it; where a bracket opens, the bracket too. -/
def skipStart (limit : Nat) (cursor : Cursor) : Except Fault (Option Bracket × Cursor) :=
  match cursor.rest with
  | [] => .error (cursor.fault .endBeforeValue 0)
  | 'n' :: rest => (expectLetters ['u', 'l', 'l'] (cursor.next rest)).map (none, ·)
  | 't' :: rest => (expectLetters ['r', 'u', 'e'] (cursor.next rest)).map (none, ·)
  | 'f' :: rest => (expectLetters ['a', 'l', 's', 'e'] (cursor.next rest)).map (none, ·)
  | '-' :: rest => (skipNumber (cursor.next rest)).map (none, ·)
  | '"' :: rest => (skipString limit (cursor.next rest)).map (none, ·)
  | '[' :: rest => .ok (some .square, cursor.next rest)
  | '\x7b' :: rest => .ok (some .curly, cursor.next rest)
  | c :: _ =>
      if c.isDigit then (skipNumber cursor).map (none, ·)
      else .error (cursor.aheadFault .expectedValue)

def skipKey (limit : Nat) (cursor : Cursor) : Except Fault Cursor := do
  match cursor.rest with
  | [] => .error (cursor.fault .endInObject 0)
  | '"' :: rest =>
      let cursor ← skipString limit (cursor.next rest)
      let cursor := cursor.skipSpaces
      match cursor.rest with
      | [] => .error (cursor.fault .endInObject 0)
      | ':' :: rest => .ok (cursor.next rest)
      | _ => .error (cursor.aheadFault .expectedColon)
  | _ => .error (cursor.aheadFault .keyNotString)

def dueBehindComma : Bracket → Due
  | .square => .value
  | .curly => .key

/-- Skips until every bracket is closed. A text has at most four steps a character. -/
def skipUntilClosed (limit : Nat) :
    (steps : Nat) → Due → (opened : List Bracket) → Cursor → Except Fault Cursor
  | 0, _, _, cursor => .error (cursor.fault .endBeforeValue 0)
  | steps + 1, .value, opened, cursor => do
      let (bracket?, cursor) ← skipStart limit cursor.skipSpaces
      match bracket? with
      | some bracket => skipUntilClosed limit steps .contents (bracket :: opened) cursor
      | none => skipUntilClosed limit steps .separator opened cursor
  | _ + 1, .separator, [], cursor => .ok cursor
  | steps + 1, .separator, bracket :: opened, cursor =>
      let cursor := cursor.skipSpaces
      match cursor.rest with
      | [] => .error (cursor.fault bracket.endFault 0)
      | c :: rest =>
          if c = ',' then
            skipUntilClosed limit steps (dueBehindComma bracket) (bracket :: opened)
              (cursor.next rest)
          else if bracket.isClosedBy c then
            skipUntilClosed limit steps .separator opened (cursor.next rest)
          else .error (cursor.aheadFault bracket.separatorFault)
  | _ + 1, .contents, [], cursor => .ok cursor
  | steps + 1, .contents, bracket :: opened, cursor =>
      let cursor := cursor.skipSpaces
      match cursor.rest with
      | [] => .error (cursor.fault bracket.endFault 0)
      | c :: rest =>
          if bracket.isClosedBy c then
            skipUntilClosed limit steps .separator opened (cursor.next rest)
          else
            skipUntilClosed limit steps (dueBehindComma bracket) (bracket :: opened) cursor
  | steps + 1, .key, opened, cursor => do
      let cursor ← skipKey limit cursor.skipSpaces
      skipUntilClosed limit steps .value opened cursor

def skipValue (steps : Nat) (cursor : Cursor) : Except Fault Cursor :=
  skipUntilClosed steps (4 * steps) .value [] cursor

end Bulletin.Json
