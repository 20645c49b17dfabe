import Bulletin.Document.Basic
import Bulletin.Identity
/-!
# Editing documents

What an editor does to a document: sections and widgets are added, removed, moved and copied.
Operations address the first element with an id; removal takes away every element with it. Those
that may fail tell so by their first result.
-/

namespace Bulletin

inductive Direction where
  | up
  | down
deriving DecidableEq, Repr

/-! ## Lists of identified elements -/

namespace Elements

def neighbour? (length index : Nat) : Direction → Option Nat
  | .up => if 0 < index then some (index - 1) else none
  | .down => if index + 1 < length then some (index + 1) else none

def swap (items : List α) (i j : Nat) : List α :=
  match items[i]?, items[j]? with
  | some a, some b => (items.set i b).set j a
  | _, _ => items

/-- Exchanges the first element that is sought with its neighbour. -/
def move (isSought : α → Bool) (direction : Direction) (items : List α) : Bool × List α :=
  match items.findIdx? isSought with
  | some index =>
      match neighbour? items.length index direction with
      | some other => (true, swap items index other)
      | none => (false, items)
  | none => (false, items)

/-- Takes away all elements that are sought. -/
def removeAll (isSought : α → Bool) (items : List α) : Bool × List α :=
  let kept := items.filter fun item => !isSought item
  (kept.length ≠ items.length, kept)

def modifyFirst (isSought : α → Bool) (change : α → α) : List α → List α
  | [] => []
  | item :: items =>
      if isSought item then change item :: items
      else item :: modifyFirst isSought change items

end Elements

/-! ## Widgets -/

namespace WidgetBody

/-- The same body with new ids on everything nested in it. -/
def rekey : WidgetBody → Fresh WidgetBody
  | .buttonGroup body => do
      let buttons ← rekeyAll (fun id button => { button with id }) body.buttons
      return .buttonGroup { body with buttons }
  | .meeting body => do
      let buttons ← rekeyAll (fun id button => { button with id }) body.buttons
      let details ← rekeyAll (fun id row => { row with id }) body.details
      return .meeting { body with details, buttons }
  | .list body => do
      let items ← rekeyAll (fun id entry => { entry with id }) body.items
      return .list { body with items }
  | body => pure body

end WidgetBody

namespace Widget

def new (kind : WidgetKind) : Fresh Widget := do
  return ⟨← freshId, .new kind⟩

def ofBody (body : WidgetBody) : Fresh Widget := do
  let body ← body.rekey
  return ⟨← freshId, body⟩

def copy (widget : Widget) : Fresh Widget :=
  ofBody widget.body

end Widget

/-! ## Sections -/

namespace Section

def new : Fresh Section := do
  return ⟨← freshId, "New Section", [], none, some false⟩

def widget? (part : Section) (id : String) : Option Widget :=
  part.widgets.find? fun widget => widget.id = id

def push (part : Section) (widget : Widget) : Section :=
  { part with widgets := part.widgets ++ [widget] }

def modifyWidget (part : Section) (id : String) (change : Widget → Widget) : Section :=
  { part with
    widgets := Elements.modifyFirst (fun widget => widget.id = id) change part.widgets }

def removeWidget (part : Section) (id : String) : Bool × Section :=
  let (removed, widgets) := Elements.removeAll (fun widget => widget.id = id) part.widgets
  (removed, { part with widgets })

def moveWidget (part : Section) (id : String) (direction : Direction) : Bool × Section :=
  let (moved, widgets) := Elements.move (fun widget => widget.id = id) direction part.widgets
  (moved, { part with widgets })

def duplicateWidget (part : Section) (id : String) : Fresh (Option Widget × Section) := do
  match part.widgets.findIdx? fun widget => widget.id = id with
  | some index =>
      match part.widgets[index]? with
      | some widget =>
          let copy ← widget.copy
          return (some copy, { part with widgets := part.widgets.insertIdx (index + 1) copy })
      | none => return (none, part)
  | none => return (none, part)

end Section

/-! ## Documents -/

namespace Document

def section? (document : Document) (id : String) : Option Section :=
  document.sections.find? fun part => part.id = id

def modifySection (document : Document) (id : String) (change : Section → Section) : Document :=
  { document with
    sections := Elements.modifyFirst (fun part => part.id = id) change document.sections }

/-- Adds a new section at the end; its id comes first. -/
def addSection (document : Document) : Fresh (String × Document) := do
  let part ← Section.new
  return (part.id, { document with sections := document.sections ++ [part] })

def removeSection (document : Document) (id : String) : Bool × Document :=
  let (removed, sections) := Elements.removeAll (fun part => part.id = id) document.sections
  (removed, { document with sections })

def moveSection (document : Document) (id : String) (direction : Direction) : Bool × Document :=
  let (moved, sections) := Elements.move (fun part => part.id = id) direction document.sections
  (moved, { document with sections })

end Document

end Bulletin
