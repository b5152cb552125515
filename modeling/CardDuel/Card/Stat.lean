/-
This file defines the three numbers of a monster and the changes that are made to them.
-/

namespace CardDuel

inductive Stat where
  | attack
  | defense
  | level
deriving DecidableEq

namespace Stat

def name : Stat → String
  | attack => "atk"
  | .defense => "def"
  | level => "level"

def ofName? (name : String) : Option Stat :=
  if name = "atk" then some attack
  else if name = "def" then some .defense
  else if name = "level" then some level
  else none

theorem ofName?_name (stat : Stat) : ofName? stat.name = some stat := by
  cases stat <;> rfl

end Stat

structure StatLine where
  attack : UInt32
  defense : UInt32
  level : UInt32
deriving DecidableEq

namespace StatLine

def zero : StatLine := ⟨0, 0, 0⟩

def get (line : StatLine) : Stat → UInt32
  | .attack => line.attack
  | .defense => line.defense
  | .level => line.level

def set (line : StatLine) (stat : Stat) (value : UInt32) : StatLine :=
  match stat with
  | .attack => { line with attack := value }
  | .defense => { line with defense := value }
  | .level => { line with level := value }

/-- This is the sum of a value and a change, held between zero and the largest value. -/
def shift (value : UInt32) (delta : Int32) : UInt32 :=
  let sum : Int := (value.toNat : Int) + delta.toInt
  (max 0 (min sum 0xFFFFFFFF)).toNat.toUInt32

def add (line : StatLine) (stat : Stat) (delta : Int32) : StatLine :=
  line.set stat (shift (line.get stat) delta)

@[simp] theorem get_set_self (line : StatLine) (stat : Stat) (value : UInt32) :
    (line.set stat value).get stat = value := by
  cases stat <;> rfl

theorem get_set_of_ne (line : StatLine) {stat other : Stat} (value : UInt32)
    (different : other ≠ stat) : (line.set stat value).get other = line.get other := by
  cases stat <;> cases other <;> first | rfl | exact absurd rfl different

end StatLine

end CardDuel
