import Bulletin.Json.Writer
/-!
# Canonical values

A value in which every object has one member a key, the last one read, and its keys in ascending
order of their UTF-8 bytes, which is the order of their code points. The canonical text of a value
is the compact text of its canonical form, so it does not depend on the order of members.
-/

namespace Bulletin.Json

/-- Adds a member to members in ascending order, in place of one that has the same key. -/
def Members.insert (key : String) (value : Json) : Members → Members
  | .nil => .cons key value .nil
  | .cons other held tail =>
      if key = other then .cons key value tail
      else if key < other then .cons key value (.cons other held tail)
      else .cons other held (tail.insert key value)

mutual
def canonical : Json → Json
  | .array items => .array (canonicalItems items)
  | .object members => .object (canonicalMembers members .nil)
  | value => value

def canonicalItems : Items → Items
  | .nil => .nil
  | .cons head tail => .cons (canonical head) (canonicalItems tail)

/-- The members inserted from left to right into those that are sorted already. -/
def canonicalMembers : Members → (sorted : Members) → Members
  | .nil, sorted => sorted
  | .cons key value tail, sorted => canonicalMembers tail (sorted.insert key (canonical value))
end

def canonicalText (value : Json) : String :=
  compact (canonical value)

example :
    canonical (record [("b", count 1), ("a", count 2), ("b", count 3)]) =
      record [("a", count 2), ("b", count 3)] := by decide +kernel

end Bulletin.Json
