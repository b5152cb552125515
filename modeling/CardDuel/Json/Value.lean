/-
This file defines JSON values, which have no repeated keys and keep their members in key order, and
reads and writes them.
-/

import CardDuel.Hex
import CardDuel.Json.Document

namespace CardDuel

/-- This is a JSON value; the members of an object are sorted by key. -/
inductive Json where
  | null
  | bool (value : Bool)
  | number (value : Json.Number)
  | string (value : String)
  | array (items : List Json)
  | object (members : List (String × Json))

namespace Json

/-- This puts a member in its place; a key that is already there gets the new value. -/
def insertMember (key : String) (value : Json) :
    List (String × Json) → List (String × Json)
  | [] => [(key, value)]
  | (other, stored) :: rest =>
    if key < other then (key, value) :: (other, stored) :: rest
    else if key = other then (key, value) :: rest
    else (other, stored) :: insertMember key value rest

/-- This sorts members by key; of two members with one key the later one stays. -/
def sortMembers (members : List (String × Json)) : List (String × Json) :=
  members.foldl (fun sorted (key, value) => insertMember key value sorted) []

/-- This is the deepest allowed nesting of arrays and objects. -/
def maxDepth : Nat := 127

mutual

/-- This is the value of a document with at most `depth` nested arrays and objects. -/
def ofDocument? (depth : Nat) : Document → Option Json
  | .null => some null
  | .bool value => some (bool value)
  | .number numeral => numeral.number?.map number
  | .string units => (decodeUnits units).map fun characters => string (String.ofList characters)
  | .array items =>
    match depth with
    | 0 => none
    | depth + 1 => (ofItems? depth items).map array
  | .object members =>
    match depth with
    | 0 => none
    | depth + 1 => (ofMembers? depth members).map fun values => object (sortMembers values)

def ofItems? (depth : Nat) : List Document → Option (List Json)
  | [] => some []
  | item :: rest => do
    let value ← ofDocument? depth item
    let values ← ofItems? depth rest
    return value :: values

def ofMembers? (depth : Nat) :
    List (List TextUnit × Document) → Option (List (String × Json))
  | [] => some []
  | (key, item) :: rest => do
    let characters ← decodeUnits key
    let value ← ofDocument? depth item
    let values ← ofMembers? depth rest
    return (String.ofList characters, value) :: values

end

def parse? (text : String) : Option Json := do
  ofDocument? maxDepth (← Document.read? text)

def escape (character : Char) : String :=
  match character with
  | '"' => "\\\""
  | '\\' => "\\\\"
  | '\x08' => "\\b"
  | '\x0c' => "\\f"
  | '\n' => "\\n"
  | '\r' => "\\r"
  | '\t' => "\\t"
  | _ =>
    if character.toNat < 0x20 then
      "\\u00" ++ String.ofList (Hex.encode [character.toNat.toUInt8])
    else character.toString

def quote (text : String) : String :=
  "\"" ++ String.join (text.toList.map escape) ++ "\""

mutual

/-- This writes a value without blanks. -/
def write : Json → String
  | null => "null"
  | bool value => if value then "true" else "false"
  | number value => value.text
  | string value => quote value
  | array items => "[" ++ String.intercalate "," (writeItems items) ++ "]"
  | object members => "\x7b" ++ String.intercalate "," (writeMembers members) ++ "\x7d"

def writeItems : List Json → List String
  | [] => []
  | item :: rest => write item :: writeItems rest

def writeMembers : List (String × Json) → List String
  | [] => []
  | (key, value) :: rest => (quote key ++ ":" ++ write value) :: writeMembers rest

end

def Number.same : Number → Number → Bool
  | integer left, integer right => left = right
  | decimal left, decimal right => left.toBits = right.toBits
  | _, _ => false

mutual

def same : Json → Json → Bool
  | null, null => true
  | bool left, bool right => left = right
  | number left, number right => left.same right
  | string left, string right => left = right
  | array left, array right => sameItems left right
  | object left, object right => sameMembers left right
  | _, _ => false

def sameItems : List Json → List Json → Bool
  | [], [] => true
  | left :: leftRest, right :: rightRest => same left right && sameItems leftRest rightRest
  | _, _ => false

def sameMembers : List (String × Json) → List (String × Json) → Bool
  | [], [] => true
  | (key, left) :: leftRest, (other, right) :: rightRest =>
    key = other && same left right && sameMembers leftRest rightRest
  | _, _ => false

end

def field? (value : Json) (key : String) : Option Json :=
  match value with
  | object members => members.lookup key
  | _ => none

theorem lookup_size {members : List (String × Json)} {key : String} {value : Json}
    (found : members.lookup key = some value) : sizeOf value < sizeOf members := by
  induction members with
  | nil => simp at found
  | cons member rest inductionHypothesis =>
    obtain ⟨name, stored⟩ := member
    simp only [List.lookup_cons] at found
    split at found
    · cases found
      simp only [List.cons.sizeOf_spec, Prod.mk.sizeOf_spec]
      omega
    · have smaller := inductionHypothesis found
      simp only [List.cons.sizeOf_spec]
      omega

theorem field?_size {value field : Json} {key : String} (found : value.field? key = some field) :
    sizeOf field < sizeOf value := by
  cases value with
  | object members =>
    have smaller := lookup_size found
    simp only [object.sizeOf_spec]
    omega
  | _ => simp [field?] at found

def string? : Json → Option String
  | string value => some value
  | _ => none

def bool? : Json → Option Bool
  | bool value => some value
  | _ => none

def uint64? : Json → Option UInt64
  | number value => value.toUInt64?
  | _ => none

def uint32? (value : Json) : Option UInt32 := do
  let wide ← value.uint64?
  if wide.toNat < UInt32.size then some wide.toUInt32 else none

def uint8? (value : Json) : Option UInt8 := do
  let wide ← value.uint64?
  if wide.toNat < UInt8.size then some wide.toUInt8 else none

def nat? (value : Json) : Option Nat := value.uint64?.map UInt64.toNat

def int32? : Json → Option Int32
  | number (.integer value) =>
    if Int32.minValue.toInt ≤ value ∧ value ≤ Int32.maxValue.toInt then some (Int32.ofInt value) else none
  | _ => none

def items? : Json → Option (List Json)
  | array items => some items
  | _ => none

def members? : Json → Option (List (String × Json))
  | object members => some members
  | _ => none

end Json

end CardDuel
