/-
This file relates values to JSON: numbers, lists, options, records and tagged alternatives.
-/

import CardDuel.Json.Value

namespace CardDuel

class ToJson (α : Type) where
  toJson : α → Json

export ToJson (toJson)

class FromJson (α : Type) where
  fromJson? : Json → Option α
  /-- This is the value of a missing field, if there may be one. -/
  absent? : Option α := none

export FromJson (fromJson?)

namespace Json

def nat (value : Nat) : Json := number (.integer value)

/-- This makes an object of members in any order. -/
def record (members : List (String × Json)) : Json := object (sortMembers members)

/-- This is an alternative with content, written as an object with one member. -/
def tagged (tag : String) (content : Json) : Json := object [(tag, content)]

def variant (tag : String) (members : List (String × Json)) : Json := tagged tag (record members)

/-- This splits a written alternative into its tag and its content. -/
def alternative? : Json → Option (String × Option Json)
  | string tag => some (tag, none)
  | object [(tag, content)] => some (tag, some content)
  | _ => none

/-- This reads an alternative by its tag alone, or by its tag and its named fields. -/
def choose? {α : Type} (ofTag? : String → Option α)
    (ofFields? : String → List (String × Json) → Option α) (value : Json) : Option α := do
  match ← value.alternative? with
  | (tag, none) | (tag, some null) => ofTag? tag
  | (tag, some content) => ofFields? tag (← content.members?)

/-- This gives the named fields of a record, which may also be written as a list in their order. -/
def fieldsNamed? (names : List String) : Json → Option (List (String × Json))
  | object members => some members
  | array items => if items.length = names.length then some (names.zip items) else none
  | _ => none

end Json

instance : ToJson Json := ⟨id⟩

instance : ToJson Bool := ⟨.bool⟩

instance : FromJson Bool := ⟨Json.bool?, none⟩

instance : ToJson String := ⟨.string⟩

instance : FromJson String := ⟨Json.string?, none⟩

instance : ToJson Nat := ⟨Json.nat⟩

instance : FromJson Nat := ⟨Json.nat?, none⟩

instance : ToJson UInt8 := ⟨fun value => .nat value.toNat⟩

instance : FromJson UInt8 := ⟨Json.uint8?, none⟩

instance : ToJson UInt32 := ⟨fun value => .nat value.toNat⟩

instance : FromJson UInt32 := ⟨Json.uint32?, none⟩

instance : ToJson UInt64 := ⟨fun value => .nat value.toNat⟩

instance : FromJson UInt64 := ⟨Json.uint64?, none⟩

instance : ToJson Int32 := ⟨fun value => .number (.integer value.toInt)⟩

instance : FromJson Int32 := ⟨Json.int32?, none⟩

instance {α : Type} [ToJson α] : ToJson (Option α) where
  toJson
    | none => .null
    | some value => toJson value

instance {α : Type} [FromJson α] : FromJson (Option α) where
  fromJson?
    | .null => some none
    | value => (fromJson? value).map some
  absent? := some none

instance {α : Type} [ToJson α] : ToJson (List α) := ⟨fun values => .array (values.map toJson)⟩

instance {α : Type} [FromJson α] : FromJson (List α) where
  fromJson? value := value.items?.bind fun items => items.mapM fromJson?

instance {α β : Type} [ToJson α] [ToJson β] : ToJson (α × β) where
  toJson pair := .array [toJson pair.1, toJson pair.2]

instance {α β : Type} [FromJson α] [FromJson β] : FromJson (α × β) where
  fromJson?
    | .array [first, second] => do
      return (← fromJson? first, ← fromJson? second)
    | _ => none

/-- This lists the written names of all values of a type. -/
class Tagged (α : Type) where
  tags : List (String × α)

def Tagged.tag {α : Type} [Tagged α] [DecidableEq α] (value : α) : String :=
  ((Tagged.tags.find? fun entry => entry.2 = value).map Prod.fst).getD ""

instance {α : Type} [Tagged α] [DecidableEq α] : ToJson α where
  toJson value := .string (Tagged.tag value)

instance {α : Type} [Tagged α] : FromJson α where
  fromJson? value := do
    match ← value.alternative? with
    | (tag, none) | (tag, some .null) => Tagged.tags.lookup tag
    | _ => none

namespace Json

def get? {α : Type} [FromJson α] (fields : List (String × Json)) (name : String) : Option α :=
  match fields.lookup name with
  | some value => fromJson? value
  | none => FromJson.absent?

end Json

end CardDuel
