/-!
# Tags

A scan of markup from left to right. It knows nothing of pages: it finds opening and closing tags,
whose attribute values stand in double quotes, and fails where a `<` does not start a whole tag.
-/

namespace Bulletin.Markup

abbrev Name := List Char

inductive Tag where
  | opening (name : Name) (attributes : List Name)
  | closing (name : Name)
deriving DecidableEq, Repr

namespace Tag

def name : Tag → Name
  | .opening name _ => name
  | .closing name => name

def attributes : Tag → List Name
  | .opening _ attributes => attributes
  | .closing _ => []

end Tag

/-! ## The scan -/

/-- Where a scan stands. Names under construction have their last character first. -/
inductive Mode where
  | text
  | angle
  | openingName (read : Name)
  | closingName (read : Name)
  | inside (tag : Name) (attributes : List Name)
  | attributeName (tag : Name) (attributes : List Name) (read : Name)
  | equals (tag : Name) (attributes : List Name)
  | value (tag : Name) (attributes : List Name)
  | quoted (tag : Name) (attributes : List Name)
deriving DecidableEq, Repr

/-- One character: the tag that it completes, if any, and where the scan stands behind it. -/
def step : Mode → Char → Option (List Tag × Mode)
  | .text, c => some ([], if c = '<' then .angle else .text)
  | .angle, c =>
      if c = '/' then some ([], .closingName [])
      else if c.isAlphanum then some ([], .openingName [c])
      else none
  | .openingName read, c =>
      if c.isAlphanum then some ([], .openingName (c :: read))
      else if c = ' ' then some ([], .inside read.reverse [])
      else if c = '>' then some ([.opening read.reverse []], .text)
      else none
  | .closingName read, c =>
      if c.isAlphanum then some ([], .closingName (c :: read))
      else if c = '>' then some ([.closing read.reverse], .text)
      else none
  | .inside tag attributes, c =>
      if c.isAlphanum then some ([], .attributeName tag attributes [c]) else none
  | .attributeName tag attributes read, c =>
      if c.isAlphanum then some ([], .attributeName tag attributes (c :: read))
      else if c = '=' then some ([], .equals tag (attributes ++ [read.reverse]))
      else if c = ' ' then some ([], .inside tag (attributes ++ [read.reverse]))
      else if c = '>' then some ([.opening tag (attributes ++ [read.reverse])], .text)
      else none
  | .equals tag attributes, c => if c = '"' then some ([], .value tag attributes) else none
  | .value tag attributes, c =>
      if c = '"' then some ([], .quoted tag attributes)
      else if c = '<' then none
      else some ([], .value tag attributes)
  | .quoted tag attributes, c =>
      if c = ' ' then some ([], .inside tag attributes)
      else if c = '>' then some ([.opening tag attributes], .text)
      else none

def scan : Mode → List Char → Option (List Tag × Mode)
  | mode, [] => some ([], mode)
  | mode, c :: rest =>
      match step mode c with
      | none => none
      | some (found, mode) => (scan mode rest).map fun (tags, mode) => (found ++ tags, mode)

theorem scan_append {mode behind : Mode} {left : List Char} {tags : List Tag}
    (scanned : scan mode left = some (tags, behind)) (right : List Char) :
    scan mode (left ++ right) =
      (scan behind right).map fun (more, mode) => (tags ++ more, mode) := by
  induction left generalizing mode tags with
  | nil =>
      cases scanned
      simp
  | cons c left induction =>
      rw [scan] at scanned
      rw [List.cons_append, scan]
      cases stepped : step mode c with
      | none => simp [stepped] at scanned
      | some result =>
          simp only [stepped, Option.map_eq_some_iff, Prod.mk.injEq] at scanned ⊢
          rcases scanned with ⟨⟨found, reached⟩, rest, rfl, rfl⟩
          simp only [induction rest, Option.map_map, Function.comp_def, List.append_assoc]

theorem scan_of_steady {mode : Mode} {chars : List Char}
    (steady : ∀ c ∈ chars, step mode c = some ([], mode)) : scan mode chars = some ([], mode) := by
  induction chars with
  | nil => rfl
  | cons c chars induction =>
      have rest := induction fun other member => steady other (List.mem_cons_of_mem c member)
      rw [scan, steady c List.mem_cons_self]
      simp [rest]

/-- The tags of a text in which every `<` starts a whole tag. -/
def tags? (chars : List Char) : Option (List Tag) :=
  match scan .text chars with
  | some (tags, .text) => some tags
  | _ => none

example : tags? "<p id=\"1\">a > b</p>".toList =
    some [.opening ['p'] [['i', 'd']], .closing ['p']] := by decide +kernel
example : tags? "a < b".toList = none := by decide +kernel

/-! ## Nesting -/

def voidElements : List Name :=
  ["meta", "link", "hr", "img"].map String.toList

/-- The elements that are open behind some tags, the innermost first; none where a closing tag is
not that of the innermost one. -/
def nest : (opened : List Name) → List Tag → Option (List Name)
  | opened, [] => some opened
  | opened, .opening name _ :: tags =>
      nest (if name ∈ voidElements then opened else name :: opened) tags
  | [], .closing _ :: _ => none
  | innermost :: opened, .closing name :: tags =>
      if innermost = name then nest opened tags else none

theorem nest_append (opened : List Name) (left right : List Tag) :
    nest opened (left ++ right) = (nest opened left).bind fun opened => nest opened right := by
  induction left generalizing opened with
  | nil => rfl
  | cons tag left induction =>
      cases tag with
      | opening name attributes =>
          rw [List.cons_append, nest, nest]
          exact induction _
      | closing name =>
          cases opened with
          | nil => rfl
          | cons innermost opened =>
              rw [List.cons_append, nest, nest]
              split
              · exact induction opened
              · rfl

theorem nest_beneath {before after : List Name} {tags : List Tag} (outer : List Name)
    (nested : nest before tags = some after) :
    nest (before ++ outer) tags = some (after ++ outer) := by
  induction tags generalizing before with
  | nil =>
      rw [nest, Option.some.injEq] at nested
      rw [nest, nested]
  | cons tag tags induction =>
      cases tag with
      | opening name attributes =>
          rw [nest] at nested ⊢
          have rest := induction nested
          split at rest <;> simp_all
      | closing name =>
          cases before with
          | nil => cases nested
          | cons innermost before =>
              rw [nest] at nested
              rw [List.cons_append, nest]
              split at nested
              · rw [if_pos ‹_›]
                exact induction nested
              · cases nested

def WellNested (tags : List Tag) : Prop :=
  nest [] tags = some []

end Bulletin.Markup
