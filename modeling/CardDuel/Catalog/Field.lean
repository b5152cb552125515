/-
This file reads the fields of a card description. Each part carries its path, and every issue is
reported at the path of a part that exists.
-/

import CardDuel.Card.Stat
import CardDuel.Catalog.Checked

namespace CardDuel

/-- This is a part of a JSON value together with the path that leads to it. -/
structure Located where
  path : Path
  value : Json

namespace Located

variable {α : Type}

def root (value : Json) : Located := ⟨[], value⟩

def field? (part : Located) (name : String) : Option Located :=
  (part.value.field? name).map fun value => ⟨part.path ++ [.key name], value⟩

def items? (part : Located) : Option (List Located) :=
  part.value.items?.map fun items =>
    items.mapIdx fun position value => ⟨part.path ++ [.index position], value⟩

def fail (part : Located) (fault : Fault) : Checked α := ⟨none, [⟨part.path, fault⟩]⟩

def note (part : Located) (fault : Fault) : Checked Unit := ⟨some (), [⟨part.path, fault⟩]⟩

/-- This needs a value that is otherwise reported as a fault. -/
def orFail (part : Located) (fault : Fault) : Option α → Checked α
  | some value => pure value
  | none => part.fail fault

def object (part : Located) : Checked Unit :=
  part.orFail (.expected "object") (part.value.members?.map fun _ => ())

def string (part : Located) : Checked String :=
  part.orFail (.expected "string") part.value.string?

def natural (part : Located) : Checked UInt64 :=
  part.orFail (.expected "non-negative integer") part.value.uint64?

def word (part : Located) : Checked UInt32 := do
  let value ← part.natural
  part.orFail (.expected "32-bit integer")
    (if value.toNat < UInt32.size then some value.toUInt32 else none)

def signed (part : Located) : Checked Int32 :=
  part.orFail (.expected "32-bit signed integer") part.value.int32?

def boolean (part : Located) : Checked Bool :=
  part.orFail (.expected "boolean") part.value.bool?

/-- This is the list of the items of an array; anything else has none. -/
def items (part : Located) : List Located := part.items?.getD []

/-- This reports a part that is no array and goes on. -/
def array (part : Located) : Checked Unit :=
  match part.items? with
  | some _ => pure ()
  | none => part.note (.expected "array")

def required (part : Located) (name : String) : Checked Located :=
  part.orFail (.missingField name) (part.field? name)

def optional (part : Located) (name : String) (read : Located → Checked α) :
    Checked (Option α) :=
  match part.field? name with
  | none => pure none
  | some field => do
    let value ← read field
    return some value

/-- This reads a boolean field, which is false when it is missing. -/
def flag (part : Located) (name : String) : Checked Bool := do
  return (← part.optional name boolean).getD false

/-- This reads a field that holds one of several names, with a default when it is missing. -/
def choice (part : Located) (name : String) (default : α) (ofName? : String → Option α) :
    Checked α :=
  match part.field? name with
  | none => pure default
  | some field => do
    let text ← field.string
    field.orFail (.unknownValue name text) (ofName? text)

/-- This reads a number field that is one when it is missing and must not be zero. -/
def positive (part : Located) (name : String) : Checked UInt32 :=
  match part.field? name with
  | none => pure 1
  | some field => do
    let value ← field.word
    if value = 0 then field.fail .zeroCount else pure value

def stat (part : Located) : Checked Stat := do
  let field ← part.required "stat"
  let name ← field.string
  field.orFail (.unknownAttribute name) (Stat.ofName? name)

theorem field?_size {part field : Located} {name : String} (found : part.field? name = some field) :
    sizeOf field.value < sizeOf part.value := by
  obtain ⟨value, inside, rfl⟩ := Option.map_eq_some_iff.1 found
  exact Json.field?_size inside

theorem items_size {part item : Located} (member : item ∈ part.items) :
    sizeOf item.value < sizeOf part.value := by
  unfold items items? at member
  cases partValue : part.value with
  | array stored =>
    rw [partValue] at member
    obtain ⟨position, inRange, rfl⟩ := List.mem_mapIdx.1 member
    have smaller := List.sizeOf_lt_of_mem (List.getElem_mem inRange)
    simp only [Json.array.sizeOf_spec]
    omega
  | _ => simp [partValue, Json.items?] at member

end Located

end CardDuel
