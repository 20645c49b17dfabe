import Bulletin.Number.Hexadecimal
import Bulletin.Text.Bytes
import Bulletin.Json.Scan.Cursor
/-!
# Scanning strings

A string from behind its opening quote to behind its closing one, with its escapes read. A
character beyond 16 bits is escaped by two codes, and neither of the two may stand alone.
-/

namespace Bulletin.Json

/-- Four hexadecimal digits. When one of the next four bytes is no digit, all four are read. -/
def hexCode (cursor : Cursor) : Except Fault (Nat × Cursor) :=
  let bad : Fault :=
    let left := Text.byteCount (cursor.rest.take 4)
    if 4 ≤ left then cursor.fault .invalidEscape 4 else cursor.fault .endInString left
  match cursor.rest with
  | a :: b :: c :: d :: rest =>
      match [a, b, c, d].mapM Number.hexValue? with
      | some digits =>
          .ok (digits.foldl (fun code digit => 16 * code + digit.val) 0, ⟨rest, cursor.offset + 4⟩)
      | none => .error bad
  | _ => .error bad

/-- What follows `\u`: one code, or the two codes of a character beyond 16 bits. -/
def codeEscape (cursor : Cursor) : Except Fault (Char × Cursor) := do
  let (code, cursor) ← hexCode cursor
  if 0xDC00 ≤ code ∧ code ≤ 0xDFFF then .error (cursor.fault .loneSurrogate 0)
  else if code < 0xD800 ∨ 0xDBFF < code then .ok (Char.ofNat code, cursor)
  else
    match cursor.rest with
    | [] => .error (cursor.fault .endInString 0)
    | '\\' :: [] => .error (cursor.fault .endInString 1)
    | '\\' :: 'u' :: rest =>
        let (low, cursor) ← hexCode ⟨rest, cursor.offset + 2⟩
        if 0xDC00 ≤ low ∧ low ≤ 0xDFFF then
          .ok (Char.ofNat (0x10000 + (code - 0xD800) * 0x400 + (low - 0xDC00)), cursor)
        else .error (cursor.fault .loneSurrogate 0)
    | '\\' :: _ => .error (cursor.fault .unfinishedSurrogatePair 2)
    | _ => .error (cursor.fault .unfinishedSurrogatePair 1)

def escape (cursor : Cursor) : Except Fault (Char × Cursor) :=
  match cursor.rest with
  | [] => .error (cursor.fault .endInString 0)
  | '"' :: rest => .ok ('"', cursor.next rest)
  | '\\' :: rest => .ok ('\\', cursor.next rest)
  | '/' :: rest => .ok ('/', cursor.next rest)
  | 'b' :: rest => .ok ('\x08', cursor.next rest)
  | 'f' :: rest => .ok ('\x0c', cursor.next rest)
  | 'n' :: rest => .ok ('\n', cursor.next rest)
  | 'r' :: rest => .ok ('\r', cursor.next rest)
  | 't' :: rest => .ok ('\t', cursor.next rest)
  | 'u' :: rest => codeEscape (cursor.next rest)
  | _ => .error (cursor.fault .invalidEscape 1)

/-- The characters up to the closing quote; `read` holds those read so far, the last one first.
No text has more characters than its length, which `limit` bounds. -/
def stringBody :
    (limit : Nat) → (read : List Char) → Cursor → Except Fault (String × Cursor)
  | 0, _, cursor => .error (cursor.fault .endInString 0)
  | limit + 1, read, cursor =>
      match cursor.rest with
      | [] => .error (cursor.fault .endInString 0)
      | '"' :: rest => .ok (String.ofList read.reverse, cursor.next rest)
      | '\\' :: rest => do
          let (c, cursor) ← escape (cursor.next rest)
          stringBody limit (c :: read) cursor
      | c :: rest =>
          if c.toNat < 0x20 then .error (cursor.fault .controlCharacter 1)
          else stringBody limit (c :: read) ⟨rest, cursor.offset + c.utf8Size⟩

end Bulletin.Json
