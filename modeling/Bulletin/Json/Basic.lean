import Bulletin.Number.Shortest
/-!
# JSON values

A JSON value keeps the members of an object in the order in which they were read, repeated keys
included. Lists of values and lists of members are types of their own, so that definitions recurse
over a value and its parts together.
-/

namespace Bulletin

/-- Integers that fit 64 bits are kept apart from all other numbers, which are reals. -/
inductive Json.Number where
  | integer (value : Int)
  | real (negative : Bool) (magnitude : Number.Dyadic)
deriving DecidableEq, Repr

mutual
inductive Json where
  | null
  | boolean (value : Bool)
  | number (value : Json.Number)
  | text (value : String)
  | array (items : Json.Items)
  | object (members : Json.Members)

inductive Json.Items where
  | nil
  | cons (head : Json) (tail : Json.Items)

inductive Json.Members where
  | nil
  | cons (key : String) (value : Json) (tail : Json.Members)
end

namespace Json

deriving instance DecidableEq for Json
deriving instance DecidableEq for Items
deriving instance DecidableEq for Members
deriving instance Repr for Json
deriving instance Repr for Items
deriving instance Repr for Members

instance : Inhabited Json := ⟨.null⟩

namespace Items

def ofList : List Json → Items
  | [] => .nil
  | head :: tail => .cons head (ofList tail)

def toList : Items → List Json
  | .nil => []
  | .cons head tail => head :: tail.toList

@[simp] theorem toList_ofList (items : List Json) : (ofList items).toList = items := by
  induction items with
  | nil => rfl
  | cons head tail ih => simp [ofList, toList, ih]

end Items

namespace Members

def ofList : List (String × Json) → Members
  | [] => .nil
  | (key, value) :: tail => .cons key value (ofList tail)

def toList : Members → List (String × Json)
  | .nil => []
  | .cons key value tail => (key, value) :: tail.toList

@[simp] theorem toList_ofList (members : List (String × Json)) :
    (ofList members).toList = members := by
  induction members with
  | nil => rfl
  | cons head tail ih => simp [ofList, toList, ih]

end Members

def list (items : List Json) : Json :=
  .array (.ofList items)

def record (members : List (String × Json)) : Json :=
  .object (.ofList members)

/-- A whole number that is known to be small. -/
def count (value : Nat) : Json :=
  .number (.integer value)

/-- An optional member: left out where there is no value. -/
def member? (key : String) : Option Json → List (String × Json)
  | some value => [(key, value)]
  | none => []

end Json

end Bulletin
