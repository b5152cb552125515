/-
This file reads the grammar of JSON text. A document keeps what is written: repeated keys, the order
of members, digits and escapes, so that each reader can apply its own rules to them.
-/

import CardDuel.Json.Number

namespace CardDuel

namespace Json

/-- This is one written unit of a string: a character, or the 16 bits of a `u` escape. -/
inductive TextUnit where
  | plain (character : Char)
  | escaped (code : Nat)

inductive Document where
  | null
  | bool (value : Bool)
  | number (numeral : Numeral)
  | string (units : List TextUnit)
  | array (items : List Document)
  | object (members : List (List TextUnit × Document))

namespace Document

def isBlank (character : Char) : Bool :=
  character = ' ' || character = '\n' || character = '\t' || character = '\r'

def skipBlanks (text : List Char) : List Char := text.dropWhile isBlank

def digit? (character : Char) : Option Nat :=
  if '0' ≤ character ∧ character ≤ '9' then some (character.toNat - '0'.toNat) else none

def hexDigit? (character : Char) : Option Nat :=
  if '0' ≤ character ∧ character ≤ '9' then some (character.toNat - '0'.toNat)
  else if 'a' ≤ character ∧ character ≤ 'f' then some (character.toNat - 'a'.toNat + 10)
  else if 'A' ≤ character ∧ character ≤ 'F' then some (character.toNat - 'A'.toNat + 10)
  else none

def readDigits : List Char → List Nat × List Char
  | [] => ([], [])
  | character :: rest =>
    match digit? character with
    | some digit =>
      let (digits, remaining) := readDigits rest
      (digit :: digits, remaining)
    | none => ([], character :: rest)

/-- This reads digits of which there must be at least one. -/
def readSomeDigits (text : List Char) : Option (List Nat × List Char) :=
  match readDigits text with
  | ([], _) => none
  | result => some result

/-- This reads the whole part of a numeral, which has no leading zero. -/
def readWhole : List Char → Option (List Nat × List Char)
  | '0' :: rest => some ([0], rest)
  | text => readSomeDigits text

def readFraction : List Char → Option (List Nat × List Char)
  | '.' :: rest => readSomeDigits rest
  | text => some ([], text)

def readExponent (text : List Char) : Option (Option (Bool × List Nat) × List Char) :=
  match text with
  | [] => some (none, [])
  | mark :: rest =>
    if mark = 'e' ∨ mark = 'E' then
      let (below, digitsText) : Bool × List Char :=
        match rest with
        | '+' :: after => (false, after)
        | '-' :: after => (true, after)
        | after => (false, after)
      (readSomeDigits digitsText).map fun (digits, remaining) => (some (below, digits), remaining)
    else some (none, text)

def readNumeral (text : List Char) : Option (Numeral × List Char) := do
  let (negative, unsigned) : Bool × List Char :=
    match text with
    | '-' :: rest => (true, rest)
    | rest => (false, rest)
  let (whole, afterWhole) ← readWhole unsigned
  let (fraction, afterFraction) ← readFraction afterWhole
  let (exponent, rest) ← readExponent afterFraction
  return (⟨negative, whole, fraction, exponent⟩, rest)

/-- This is the character that a one-letter escape stands for. -/
def simpleEscape? : Char → Option Char
  | '"' => some '"'
  | '\\' => some '\\'
  | '/' => some '/'
  | 'b' => some '\x08'
  | 'f' => some '\x0c'
  | 'n' => some '\n'
  | 'r' => some '\r'
  | 't' => some '\t'
  | _ => none

/-- This reads the rest of a string after its opening quote. -/
def readUnits : List Char → Option (List TextUnit × List Char)
  | [] => none
  | '"' :: rest => some ([], rest)
  | '\\' :: 'u' :: a :: b :: c :: d :: rest => do
    let code := ((← hexDigit? a) * 16 + (← hexDigit? b)) * 256 +
      ((← hexDigit? c) * 16 + (← hexDigit? d))
    let (units, remaining) ← readUnits rest
    return (.escaped code :: units, remaining)
  | '\\' :: letter :: rest => do
    let character ← simpleEscape? letter
    let (units, remaining) ← readUnits rest
    return (.plain character :: units, remaining)
  | character :: rest => do
    if character.toNat < 0x20 ∨ character = '\\' then none
    let (units, remaining) ← readUnits rest
    return (.plain character :: units, remaining)

mutual

/-- This reads one document, with a bound on the number of nested steps. -/
def readValue : (steps : Nat) → List Char → Option (Document × List Char)
  | 0, _ => none
  | steps + 1, text =>
    match skipBlanks text with
    | 'n' :: 'u' :: 'l' :: 'l' :: rest => some (null, rest)
    | 't' :: 'r' :: 'u' :: 'e' :: rest => some (bool true, rest)
    | 'f' :: 'a' :: 'l' :: 's' :: 'e' :: rest => some (bool false, rest)
    | '"' :: rest => do
      let (units, remaining) ← readUnits rest
      return (string units, remaining)
    | '[' :: rest =>
      match skipBlanks rest with
      | ']' :: remaining => some (array [], remaining)
      | _ => do
        let (items, remaining) ← readItems steps rest
        return (array items, remaining)
    | '\x7b' :: rest =>
      match skipBlanks rest with
      | '\x7d' :: remaining => some (object [], remaining)
      | _ => do
        let (members, remaining) ← readMembers steps rest
        return (object members, remaining)
    | trimmed => do
      let (numeral, remaining) ← readNumeral trimmed
      return (number numeral, remaining)

def readItems : (steps : Nat) → List Char → Option (List Document × List Char)
  | 0, _ => none
  | steps + 1, text => do
    let (item, afterItem) ← readValue steps text
    match skipBlanks afterItem with
    | ']' :: remaining => return ([item], remaining)
    | ',' :: rest => do
      let (items, remaining) ← readItems steps rest
      return (item :: items, remaining)
    | _ => none

def readMembers :
    (steps : Nat) → List Char → Option (List (List TextUnit × Document) × List Char)
  | 0, _ => none
  | steps + 1, text => do
    let (key, afterKey) ←
      match skipBlanks text with
      | '"' :: rest => readUnits rest
      | _ => none
    let (value, afterValue) ←
      match skipBlanks afterKey with
      | ':' :: rest => readValue steps rest
      | _ => none
    match skipBlanks afterValue with
    | '\x7d' :: remaining => return ([(key, value)], remaining)
    | ',' :: rest => do
      let (members, remaining) ← readMembers steps rest
      return ((key, value) :: members, remaining)
    | _ => none

end

/-- This reads a text that holds one document and blanks around it. -/
def read? (text : String) : Option Document := do
  let characters := text.toList
  let (document, rest) ← readValue (2 * characters.length + 2) characters
  if (skipBlanks rest).isEmpty then some document else none

end Document

/--
This decodes the written units of a string. The two halves of an escaped surrogate pair must follow
each other; a half that stands alone has no text.
-/
def decodeUnits : List TextUnit → Option (List Char)
  | [] => some []
  | .plain character :: rest => (decodeUnits rest).map (character :: ·)
  | .escaped code :: rest =>
    if code < 0xD800 ∨ code ≥ 0xE000 then
      (decodeUnits rest).map (Char.ofNat code :: ·)
    else if code < 0xDC00 then
      match rest with
      | .escaped low :: after =>
        if 0xDC00 ≤ low ∧ low < 0xE000 then
          let combined := 0x10000 + (code - 0xD800) * 0x400 + (low - 0xDC00)
          (decodeUnits after).map (Char.ofNat combined :: ·)
        else none
      | _ => none
    else none

end Json

end CardDuel
