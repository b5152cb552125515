/-
This file reads catalogs. A card that is not valid, or whose number is taken, is left out and does
not affect the others.
-/

import CardDuel.Catalog.Card

namespace CardDuel

inductive CatalogError where
  | notJson
  | notArray
deriving DecidableEq

/-- This is the result of reading a catalog: the cards that are in it and those left out. -/
structure CatalogLoad where
  catalog : Catalog
  rejected : List RejectedCard

namespace CatalogLoad

def add (load : CatalogLoad) (index : Nat) (value : Json) : CatalogLoad :=
  match CardTemplate.read index value with
  | .ok template =>
    if load.catalog.contains template.id then
      { load with rejected := load.rejected ++ [.duplicate template.id index] }
    else { load with catalog := ⟨load.catalog.templates ++ [template]⟩ }
  | .error rejected => { load with rejected := load.rejected ++ [rejected] }

/-- This takes the cards of a list into account, of which the first has the given index. -/
def addAll (load : CatalogLoad) (index : Nat) : List Json → CatalogLoad
  | [] => load
  | value :: rest => (load.add index value).addAll (index + 1) rest

def ofList (values : List Json) : CatalogLoad := addAll ⟨⟨[]⟩, []⟩ 0 values

/-- This reads the text of a catalog, which is a JSON array. -/
def parse (text : String) : Except CatalogError CatalogLoad :=
  match Json.parse? text with
  | none => .error .notJson
  | some (.array values) => .ok (ofList values)
  | some _ => .error .notArray

end CatalogLoad

end CardDuel
