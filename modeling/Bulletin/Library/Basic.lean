import Bulletin.Document.Format
import Bulletin.Failure
import Bulletin.Identity
import Bulletin.Time.Timestamp
/-!
# The library of saved documents

Whole documents saved under a name for later use, in the order in which they were saved. A library
is written as a plain array of its entries. The time of an entry never keeps a library from being
read: a time that is missing or no time at all is taken to be now.
-/

namespace Bulletin

open Json (Format RecordShape)

structure SavedDocument where
  id : String
  name : String
  description : String
  document : Document
  createdAt : Timestamp
deriving DecidableEq

namespace SavedDocument

/-- The moment that a value names, and now for a value that names none. -/
def momentOf (now : Timestamp) : Json → Timestamp
  | .text text => (Timestamp.ofText? text).getD now
  | _ => now

def shape (now : Timestamp) : RecordShape SavedDocument where
  name := "struct SavedTemplate"
  blank := ⟨"", "", "", Document.shape.blank, now⟩
  fields :=
    [.required "id" .text fun id saved => { saved with id },
      .required "name" .text fun name saved => { saved with name },
      .defaulted "description" .text fun description saved => { saved with description },
      .required "config" Document.format fun document saved => { saved with document },
      .defaulted "createdAt" .any fun value saved =>
        { saved with createdAt := momentOf now value }]

def toJson (saved : SavedDocument) : Json :=
  .record
    [("id", .text saved.id), ("name", .text saved.name), ("description", .text saved.description),
      ("config", saved.document.toJson), ("createdAt", .text saved.createdAt.text)]

end SavedDocument

structure Library where
  entries : List SavedDocument
deriving DecidableEq

namespace Library

def empty : Library := ⟨[]⟩

def size (library : Library) : Nat :=
  library.entries.length

def get? (library : Library) (id : String) : Option SavedDocument :=
  library.entries.find? fun saved => saved.id = id

/-- Saves a document under a name that is not blank; gives the new entry and the new library. -/
def save (library : Library) (now : Timestamp) (name description : String)
    (document : Document) : Fresh (Except Failure (SavedDocument × Library)) := do
  if Text.isAllBlank name then return .error .blankName
  else
    let saved : SavedDocument :=
      { id := ← freshId
        name := Text.trim name
        description := Text.trim description
        document
        createdAt := now }
    return .ok (saved, ⟨library.entries ++ [saved]⟩)

def load (library : Library) (id : String) : Except Failure Document :=
  match library.get? id with
  | some saved => .ok saved.document
  | none => .error (.presetNotFound id)

/-- Takes away every entry with an id, and tells whether there was one. -/
def delete (library : Library) (id : String) : Bool × Library :=
  let kept := library.entries.filter fun saved => saved.id ≠ id
  (kept.length ≠ library.entries.length, ⟨kept⟩)

/-! ## Exchange -/

def format (now : Timestamp) : Format Library :=
  (Format.list (SavedDocument.shape now).format).map Library.mk

def toJson (library : Library) : Json :=
  .list (library.entries.map SavedDocument.toJson)

def exportText (library : Library) : String :=
  library.toJson.pretty

/-- The entries that the text of another library holds. The text is read as a plain value first,
in which the last of repeated members counts. -/
def entriesOf (now : Timestamp) (text : String) : Except Failure (List SavedDocument) :=
  match Json.parse text with
  | .error error => .error (.content error)
  | .ok value =>
      match value.canonical with
      | .array items =>
          match (Format.list (SavedDocument.shape now).format).ofJson .fewer (.array items) with
          | .ok entries => .ok entries
          | .error cause => .error (.content ⟨cause, none⟩)
      | _ => .error .notLibrary

/-- Adds the entries of another library under new ids; gives their number and the new library. -/
def importText (library : Library) (now : Timestamp) (text : String) :
    Fresh (Except Failure (Nat × Library)) := do
  match entriesOf now text with
  | .error failure => return .error failure
  | .ok entries =>
      let entries ← rekeyAll (fun id saved => { saved with id }) entries
      return .ok (entries.length, ⟨library.entries ++ entries⟩)

end Library

end Bulletin
