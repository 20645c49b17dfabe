import Bulletin.Digest
/-!
# Identities

Sections, widgets, nested items and saved documents are identified by ids. New ones are drawn from
a supply, a sequence of ids that is used up from its front; where an id has to be new, the supply
is what is assumed to hold only new ones.
-/

namespace Bulletin

structure IdSupply where
  idAt : Nat → String
  drawn : Nat

abbrev Fresh := StateM IdSupply

def freshId : Fresh String := fun supply =>
  (supply.idAt supply.drawn, { supply with drawn := supply.drawn + 1 })

def rekeyAll (setId : String → α → α) : List α → Fresh (List α)
  | [] => pure []
  | item :: items => do
      let id ← freshId
      let rest ← rekeyAll setId items
      return setId id item :: rest

namespace IdSupply

/-- Sixteen hexadecimal digit pairs in five groups, marked as a random identifier. -/
def layout (digits : List Char) : List Char :=
  let variantDigit : Char :=
    match digits[16]? with
    | some c => ['8', '9', 'a', 'b'][c.toNat % 4]?.getD '8'
    | none => '8'
  digits.take 8 ++ '-' :: (digits.drop 8).take 4 ++ '-' :: '4' :: (digits.drop 13).take 3 ++
    '-' :: variantDigit :: (digits.drop 17).take 3 ++ '-' :: (digits.drop 20).take 12

/-- The ids that follow from a seed: one digest of the seed and a number each. -/
def ofSeed (seed : String) : IdSupply where
  idAt index :=
    String.ofList (layout (Digest.ofText (seed ++ ":" ++ toString index)).toList)
  drawn := 0

end IdSupply

end Bulletin
