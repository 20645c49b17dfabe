/-!
# User text

What is trimmed from the ends of a text that a user entered, and how the text stands in a page: the
five characters that could end a text node or a quoted attribute are written as entities.
-/

namespace Bulletin.Text

/-! ## Blanks -/

/-- First and last code point of each run of Unicode's `White_Space` characters, which are more than
the ASCII blanks. -/
def blankRanges : List (Nat × Nat) :=
  [(0x09, 0x0D), (0x20, 0x20), (0x85, 0x85), (0xA0, 0xA0), (0x1680, 0x1680), (0x2000, 0x200A),
    (0x2028, 0x2029), (0x202F, 0x202F), (0x205F, 0x205F), (0x3000, 0x3000)]

def isBlank (c : Char) : Bool :=
  blankRanges.any fun range => range.1 ≤ c.toNat && c.toNat ≤ range.2

def trimChars (chars : List Char) : List Char :=
  ((chars.dropWhile isBlank).reverse.dropWhile isBlank).reverse

def trim (text : String) : String :=
  String.ofList (trimChars text.toList)

/-- Nothing but blanks, or nothing at all. -/
def isAllBlank (text : String) : Bool :=
  text.toList.all isBlank

example : trim "\u00a0 a b\t" = "a b" := by cbv

/-! ## Escaped text -/

def escapeChar : Char → List Char
  | '&' => ['&', 'a', 'm', 'p', ';']
  | '<' => ['&', 'l', 't', ';']
  | '>' => ['&', 'g', 't', ';']
  | '"' => ['&', 'q', 'u', 'o', 't', ';']
  | '\'' => ['&', '#', '3', '9', ';']
  | c => [c]

def escapeChars (chars : List Char) : List Char :=
  chars.flatMap escapeChar

/-- `text` as it is written in a text node or a quoted attribute. -/
def escape (text : String) : String :=
  String.ofList (escapeChars text.toList)

example : escape "a<b & 'c'" = "a&lt;b &amp; &#39;c&#39;" := by cbv

@[simp] theorem escapeChars_append (left right : List Char) :
    escapeChars (left ++ right) = escapeChars left ++ escapeChars right := by
  simp [escapeChars]

end Bulletin.Text
