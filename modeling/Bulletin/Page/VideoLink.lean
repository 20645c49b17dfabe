import Bulletin.Text.Basic
import Bulletin.Text.Bytes
/-!
# Video links

A video id stands behind one of two marks in a link and ends at an ampersand or a blank. The first
mark in the link that has an id behind it counts.
-/

namespace Bulletin.VideoLink

def marks : List (List Char) :=
  ["youtube.com/watch?v=".toList, "youtu.be/".toList]

def isIdChar (c : Char) : Bool :=
  c ≠ '&' && !Text.isBlank c

def nearest? (chars : List Char) : Option (Nat × List Char) :=
  (marks.filterMap fun mark =>
    (Text.findByte? mark chars).map fun offset => (offset, mark)).minOn? Prod.fst

/-- What stands from byte `start` on. A cut inside a character or behind the end is a fault, which
tells where the text was cut. -/
def cut (chars : List Char) (start : Nat) : Except Nat (List Char) :=
  match Text.fromByte? chars start with
  | some rest => .ok rest
  | none => .error start

/-- The first id that stands at byte `start` or later. Where a mark has no id behind it, the search
goes on one byte behind the start of the mark. -/
def search (chars : List Char) (start : Nat) : Except Nat (Option (List Char)) :=
  if start < Text.byteCount chars then do
    match nearest? (← cut chars start) with
    | none => .ok none
    | some (offset, mark) =>
        let behind ← cut chars (start + offset + Text.byteCount mark)
        let id := behind.takeWhile isIdChar
        if id = [] then search chars (start + offset + 1) else .ok (some id)
  else .ok none
termination_by Text.byteCount chars - start

def id? (url : String) : Option String :=
  match search url.toList 0 with
  | .ok found => found.map String.ofList
  | .error _ => none

example : id? "https://youtu.be/&youtu.be/abc?t=1 x" = some "abc?t=1" := by decide +kernel

end Bulletin.VideoLink
