/-
This file defines codecs: ways to write values as bytes and to read them back from the front of a
list of bytes.
-/

namespace CardDuel

/-- This writes values as bytes, and reads a value from the front of some bytes with the rest. -/
structure Codec (α : Type) where
  encode : α → List UInt8
  decode : List UInt8 → Option (α × List UInt8)

namespace Codec

variable {α β : Type}

def byte : Codec UInt8 where
  encode value := [value]
  decode
    | [] => none
    | head :: rest => some (head, rest)

/-- This turns values of one type into values of another; some of the former may be refused. -/
def refine (codec : Codec α) (pack : α → Option β) (unpack : β → α) : Codec β where
  encode value := codec.encode (unpack value)
  decode bytes := do
    let (value, rest) ← codec.decode bytes
    return (← pack value, rest)

def map (codec : Codec α) (pack : α → β) (unpack : β → α) : Codec β where
  encode value := codec.encode (unpack value)
  decode bytes := (codec.decode bytes).map fun (value, rest) => (pack value, rest)

def pair (first : Codec α) (second : Codec β) : Codec (α × β) where
  encode value := first.encode value.1 ++ second.encode value.2
  decode bytes := do
    let (left, rest) ← first.decode bytes
    let (right, rest) ← second.decode rest
    return ((left, right), rest)

/-- These are the digits of a number to the base 256, the lowest first. -/
def digits : (width : Nat) → Nat → List UInt8
  | 0, _ => []
  | width + 1, value => value.toUInt8 :: digits width (value / 256)

/-- This reads digits to the base 256, the lowest first. -/
def readDigits : (width : Nat) → List UInt8 → Option (Nat × List UInt8)
  | 0, bytes => some (0, bytes)
  | _ + 1, [] => none
  | width + 1, low :: rest => do
    let (high, rest) ← readDigits width rest
    return (low.toNat + 256 * high, rest)

/-- This is a number with a fixed width in bytes. -/
def number (width : Nat) : Codec Nat := ⟨digits width, readDigits width⟩

def word32 : Codec UInt32 := (number 4).map Nat.toUInt32 UInt32.toNat

def word64 : Codec UInt64 := (number 8).map Nat.toUInt64 UInt64.toNat

def signed32 : Codec Int32 := word32.map UInt32.toInt32 Int32.toUInt32

def size : Codec Nat := number 8

/-- This is a truth value; a byte other than zero and one is refused. -/
def bool : Codec Bool :=
  byte.refine (fun tag => if tag = 0 then some false else if tag = 1 then some true else none)
    Bool.toUInt8

def option (codec : Codec α) : Codec (Option α) where
  encode
    | none => [0]
    | some value => 1 :: codec.encode value
  decode bytes := do
    let (present, rest) ← bool.decode bytes
    if present then
      let (value, rest) ← codec.decode rest
      return (some value, rest)
    else return (none, rest)

def readMany (codec : Codec α) : (count : Nat) → List UInt8 → Option (List α × List UInt8)
  | 0, bytes => some ([], bytes)
  | count + 1, bytes => do
    let (value, rest) ← codec.decode bytes
    let (values, rest) ← readMany codec count rest
    return (value :: values, rest)

def list (codec : Codec α) : Codec (List α) where
  encode values := size.encode values.length ++ values.flatMap codec.encode
  decode bytes := do
    let (count, rest) ← size.decode bytes
    codec.readMany count rest

/-- This is a text after its length in bytes. -/
def text : Codec String :=
  byte.list.refine (fun bytes => String.fromUTF8? ⟨bytes.toArray⟩) fun text => text.toUTF8.toList

/-- This is one of some values, by its place among them. -/
def oneOf [DecidableEq α] (values : List α) : Codec α :=
  (number 4).refine (fun place => values[place]?) values.idxOf

/-- This is one alternative of a type: how its values are written, if they are of it, and read. -/
structure Case (α : Type) where
  encode? : α → Option (List UInt8)
  decode : List UInt8 → Option (α × List UInt8)

def case (codec : Codec β) (build : β → α) (content? : α → Option β) : Case α where
  encode? value := (content? value).map codec.encode
  decode bytes := (codec.decode bytes).map fun (content, rest) => (build content, rest)

/-- This is the place of the alternative of a value with the bytes of its content. -/
def findCase? (value : α) : List (Case α) → (place : Nat) → Option (Nat × List UInt8)
  | [], _ => none
  | alternative :: rest, place =>
    match alternative.encode? value with
    | some bytes => some (place, bytes)
    | none => findCase? value rest (place + 1)

/-- This is a value of one of several alternatives after the place of its alternative. -/
def choice (cases : List (Case α)) : Codec α where
  encode value :=
    match findCase? value cases 0 with
    | some (place, bytes) => (number 4).encode place ++ bytes
    | none => []
  decode bytes := do
    let (place, rest) ← (number 4).decode bytes
    (← cases[place]?).decode rest

def constant [DecidableEq α] (value : α) : Case α where
  encode? other := if other = value then some [] else none
  decode bytes := some (value, bytes)

end Codec

end CardDuel
