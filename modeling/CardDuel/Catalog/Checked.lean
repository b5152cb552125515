/-
This file defines checks that go on after a fault, so that one reading of a card reports all of
them. A check has a value or not, and independently of that a list of issues.
-/

import CardDuel.Catalog.Issue

namespace CardDuel

/-- This is the result of a check: its value, if it has one, and the issues in order. -/
structure Checked (α : Type) where
  value? : Option α
  issues : List Issue

namespace Checked

variable {α β : Type}

/-- This goes on with the value of a check; without a value nothing more is looked at. -/
def andThen (check : Checked α) (next : α → Checked β) : Checked β :=
  match check.value? with
  | none => ⟨none, check.issues⟩
  | some value =>
    let result := next value
    ⟨result.value?, check.issues ++ result.issues⟩

instance : Monad Checked where
  pure value := ⟨some value, []⟩
  bind := andThen

/-- This makes a check whose value may be missing, so that reading goes on in any case. -/
def attempt (check : Checked α) : Checked (Option α) := ⟨some check.value?, check.issues⟩

/-- This needs a value whose absence was reported before. -/
def require (value : Option α) : Checked α := ⟨value, []⟩

/-- This runs a check on every item, whatever the others give. -/
def each (check : α → Checked β) (items : List α) : Checked (List (Option β)) :=
  let results := items.map check
  ⟨some (results.map Checked.value?), results.flatMap Checked.issues⟩

/-- This is the list of all values, if none is missing. -/
def complete? : List (Option α) → Option (List α)
  | [] => some []
  | value :: rest => do
    let value ← value
    let values ← complete? rest
    return value :: values

end Checked

end CardDuel
