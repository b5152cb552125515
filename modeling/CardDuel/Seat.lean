/-
This file holds the two seats of a duel and tables with one entry for each seat.
-/

namespace CardDuel

inductive Seat where
  | first
  | second
deriving DecidableEq

namespace Seat

def opponent : Seat → Seat
  | first => second
  | second => first

def number : Seat → UInt8
  | first => 0
  | second => 1

/-- This is the seat with a number, if there is one. -/
def ofNumber? (number : UInt8) : Option Seat :=
  if number = 0 then some first else if number = 1 then some second else none

def missingMessage (number : UInt8) : String :=
  "no seat " ++ toString number ++ " in a two-player duel"

def both : List Seat := [first, second]

/-- These are both seats, beginning with the given one. -/
def startingWith (seat : Seat) : List Seat := [seat, seat.opponent]

def label (seat : Seat) : String := "Player " ++ toString seat.number

@[simp] theorem opponent_opponent (seat : Seat) : seat.opponent.opponent = seat := by
  cases seat <;> rfl

theorem opponent_ne (seat : Seat) : seat.opponent ≠ seat := by
  cases seat <;> decide

theorem eq_or_eq_opponent (seat other : Seat) : seat = other ∨ seat = other.opponent := by
  cases seat <;> cases other <;> simp [opponent]

theorem ofNumber?_number (seat : Seat) : ofNumber? seat.number = some seat := by
  cases seat <;> rfl

end Seat

structure PerSeat (α : Type) where
  first : α
  second : α
deriving DecidableEq

namespace PerSeat

variable {α : Type}

def replicate (value : α) : PerSeat α := ⟨value, value⟩

def get (table : PerSeat α) : Seat → α
  | .first => table.first
  | .second => table.second

def set (table : PerSeat α) (seat : Seat) (value : α) : PerSeat α :=
  match seat with
  | .first => { table with first := value }
  | .second => { table with second := value }

def modify (table : PerSeat α) (seat : Seat) (change : α → α) : PerSeat α :=
  table.set seat (change (table.get seat))

def map {β : Type} (table : PerSeat α) (change : α → β) : PerSeat β :=
  ⟨change table.first, change table.second⟩

theorem get_set (table : PerSeat α) (seat other : Seat) (value : α) :
    (table.set seat value).get other = if other = seat then value else table.get other := by
  cases seat <;> cases other <;> rfl

theorem get_modify (table : PerSeat α) (seat other : Seat) (change : α → α) :
    (table.modify seat change).get other =
      if other = seat then change (table.get other) else table.get other := by
  cases seat <;> cases other <;> rfl

@[simp] theorem get_map {β : Type} (table : PerSeat α) (change : α → β) (seat : Seat) :
    (table.map change).get seat = change (table.get seat) := by
  cases seat <;> rfl

@[simp] theorem get_replicate (value : α) (seat : Seat) : (replicate value).get seat = value := by
  cases seat <;> rfl

end PerSeat

end CardDuel
