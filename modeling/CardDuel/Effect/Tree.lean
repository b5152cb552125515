/-
This file defines what effects do: single instructions and the trees that join them.
-/

import CardDuel.Effect.Kind
import CardDuel.Modifier
import CardDuel.Trigger.Spec

namespace CardDuel

inductive DeckPlacement where
  | top
  | bottom
  | shuffle
deriving DecidableEq

def DeckPlacement.ofName? (name : String) : Option DeckPlacement :=
  if name = "top" then some .top
  else if name = "bottom" then some .bottom
  else if name = "shuffle" then some .shuffle
  else none

inductive SummonPosition where
  | attack
  | defense
deriving DecidableEq

def SummonPosition.ofName? (name : String) : Option SummonPosition :=
  if name = "attack" then some .attack
  else if name = "defense" then some .defense
  else none

inductive InstructionCategory where
  | movement
  | combat
  | summon
  | utility
deriving DecidableEq

inductive Instruction where
  | draw (count : Nat)
  | mill (count : Nat)
  | discard (count : Nat)
  | banish
  | search (filter : CardFilter) (count : Nat)
  | returnToDeck (placement : DeckPlacement)
  | sendToGraveyard
  | toHand
  | damage (amount : UInt32)
  | gainLife (amount : UInt32)
  | modifyStat (stat : Stat) (amount : Int32) (duration : Duration)
  | setStat (stat : Stat) (value : UInt32) (duration : Duration)
  | specialSummon (position : SummonPosition)
  | destroy
  | negate
  | negateAttack
deriving DecidableEq

namespace Instruction

def category : Instruction → InstructionCategory
  | draw _ | mill _ | discard _ | banish | search .. | returnToDeck _ | sendToGraveyard | toHand =>
    .movement
  | damage _ | gainLife _ | modifyStat .. | setStat .. => .combat
  | specialSummon _ | destroy => .summon
  | negate | negateAttack => .utility

def name : Instruction → String
  | draw _ => "draw"
  | mill _ => "mill"
  | discard _ => "discard"
  | banish => "banish"
  | search .. => "search"
  | returnToDeck _ => "return_to_deck"
  | sendToGraveyard => "send_to_graveyard"
  | toHand => "to_hand"
  | damage _ => "damage"
  | gainLife _ => "gain_life"
  | modifyStat .. => "modify_stat"
  | setStat .. => "set_stat"
  | specialSummon _ => "special_summon"
  | destroy => "destroy"
  | negate => "negate"
  | negateAttack => "negate_attack"

/-- This tells whether an instruction acts on players and never on cards. -/
def takesPlayers : Instruction → Bool
  | draw _ | mill _ | search .. | damage _ | gainLife _ => true
  | _ => false

end Instruction

inductive Selector where
  | this
  | controller
  | opponent
  | bothPlayers
  /-- This is a target that was chosen at activation, by its number. -/
  | chosen (index : Nat)
  | previousLink
  | attacker
  | attackTarget
  | all (filter : CardFilter)
deriving DecidableEq

namespace Selector

def digitsValue? (digits : List Char) : Option Nat :=
  if digits.isEmpty ∨ digits.any (fun digit => digit < '0' ∨ '9' < digit) then none
  else some (digits.foldl (fun value digit => value * 10 + (digit.toNat - '0'.toNat)) 0)

/-- This is the value of an index text: digits after an optional plus, below `2 ^ 64`. -/
def index? (text : List Char) : Option Nat := do
  let digits := match text with
    | '+' :: rest => rest
    | _ => text
  let value ← digitsValue? digits
  if value < UInt64.size then some value else none

def ofName? (name : String) : Option Selector :=
  let letters := name.toList
  if "chosen:".toList.isPrefixOf letters then
    (index? (letters.drop "chosen:".length)).map chosen
  else if name = "self" then some this
  else if name = "controller" then some controller
  else if name = "opponent" then some opponent
  else if name = "both_players" then some bothPlayers
  else if name = "previous_link" then some previousLink
  else if name = "attacker" then some attacker
  else if name = "attack_target" then some attackTarget
  else none

def selectsPlayers : Selector → Bool
  | controller | opponent | bothPlayers => true
  | _ => false

def selectsCards (selector : Selector) : Bool := !selector.selectsPlayers

end Selector

/-- This is the selector of an instruction that names none. -/
def Instruction.defaultSelector : Instruction → Selector
  | .negate => .previousLink
  | .negateAttack => .attacker
  | .discard _ => .controller
  | instruction => if instruction.takesPlayers then .controller else .this

inductive EffectTree where
  | act (instruction : Instruction) (target : Selector)
  | sequence (children : List EffectTree)
  | branch (condition : Condition) (yes : EffectTree) (no : Option EffectTree)

namespace EffectTree

def empty : EffectTree := sequence []

mutual

/-- This is the list of the instructions of a tree from left to right. -/
def instructions : EffectTree → List Instruction
  | act instruction _ => [instruction]
  | sequence children => instructionsOfAll children
  | branch _ yes no => instructions yes ++ instructionsOfOption no

def instructionsOfAll : List EffectTree → List Instruction
  | [] => []
  | child :: rest => instructions child ++ instructionsOfAll rest

def instructionsOfOption : Option EffectTree → List Instruction
  | none => []
  | some child => instructions child

end

def actionCount (tree : EffectTree) : Nat := tree.instructions.length

def uses (tree : EffectTree) (category : InstructionCategory) : Bool :=
  tree.instructions.any fun instruction => instruction.category = category

end EffectTree

/-- This describes targets that are chosen at activation. -/
structure TargetSpec where
  filter : CardFilter
  count : Nat
deriving DecidableEq

def TargetSpec.total : List TargetSpec → Nat
  | [] => 0
  | spec :: rest => spec.count + total rest

structure CardEffect where
  kind : EffectKind
  speed : Speed
  limit : Option ActivationLimit
  cost : Option Cost
  condition : Option Condition
  trigger : Option TriggerSpec
  targets : List TargetSpec
  root : EffectTree

namespace CardEffect

/-- This is an effect with nothing beside its kind, its speed and its tree. -/
def plain (kind : EffectKind) (speed : Speed) (root : EffectTree) : CardEffect where
  kind := kind
  speed := speed
  limit := none
  cost := none
  condition := none
  trigger := none
  targets := []
  root := root

def targetCount (effect : CardEffect) : Nat := TargetSpec.total effect.targets

/-- This tells whether an effect follows an event only if its controller wants it to. -/
def isOptionalTrigger (effect : CardEffect) : Bool :=
  effect.kind = .trigger && effect.trigger.any TriggerSpec.optional

/-- This tells whether an effect that is no trigger needs an event to answer. -/
def isEventGated (effect : CardEffect) : Bool :=
  effect.kind ≠ .trigger && effect.trigger.isSome

end CardEffect

end CardDuel
