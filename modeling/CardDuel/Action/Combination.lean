/-
This file lists the ways to choose some of several items.
-/

namespace CardDuel

/--
This is the list of the choices of `count` places of a list, each with its items in order. Choices
come in the order of their places; a list that is too short has none.
-/
def combinations {α : Type} : List α → (count : Nat) → List (List α)
  | _, 0 => [[]]
  | [], _ + 1 => []
  | item :: rest, count + 1 =>
    if rest.length < count then []
    else (combinations rest count).map (item :: ·) ++ combinations rest (count + 1)

theorem combinations_eq_nil {α : Type} {items : List α} {count : Nat}
    (short : items.length < count) : combinations items count = [] := by
  cases items with
  | nil => cases count with
    | zero => simp at short
    | succ => rfl
  | cons item rest => cases count with
    | zero => simp at short
    | succ count =>
      have shorter : rest.length < count := by simpa using short
      simp [combinations, shorter]

/-- The check of the length only saves work. -/
theorem combinations_cons {α : Type} (item : α) (rest : List α) (count : Nat) :
    combinations (item :: rest) (count + 1) =
      (combinations rest count).map (item :: ·) ++ combinations rest (count + 1) := by
  rw [combinations]
  split
  · next short => simp [combinations_eq_nil short, combinations_eq_nil (Nat.lt_succ_of_lt short)]
  · rfl

end CardDuel
