/-
This file defines the chain: effects that answer each other and resolve from the last to the first.
-/

import CardDuel.Config.Basic
import CardDuel.Rejection

namespace CardDuel

/-- This is a target as it was when it was chosen; a card that moved since is another object. -/
structure BoundTarget where
  card : InstanceId
  moves : UInt32
deriving DecidableEq

structure ChainLink where
  /-- This counts the links from one. -/
  number : Nat
  source : InstanceId
  /-- This is the move count of the source when its effect was activated. -/
  sourceMoves : UInt32
  card : CardId
  effect : Nat
  controller : Seat
  speed : Speed
  targets : List BoundTarget
  negated : Bool
deriving DecidableEq

inductive ChainStatus where
  | idle
  | awaitingResponse
  | resolving
deriving DecidableEq

inductive PassOutcome where
  | priorityTo (player : Seat)
  | resolve
deriving DecidableEq

/-- This holds the links of a chain from the first to the last, and who may answer. -/
structure Chain where
  links : List ChainLink
  status : ChainStatus
  priority : Seat
  passes : UInt8
deriving DecidableEq

namespace Chain

/-- This is a chain without links, as it is before the first link and after the last one. -/
def idle (priority : Seat) : Chain := ⟨[], .idle, priority, 0⟩

def isEmpty (chain : Chain) : Bool := chain.links.isEmpty

def top? (chain : Chain) : Option ChainLink := chain.links.getLast?

/-- This is the link with a number; the first has number one. -/
def link? (chain : Chain) (number : Nat) : Option ChainLink :=
  if number = 0 then none else chain.links[number - 1]?

/-- This refuses an effect that is slower than the last link, or that comes too late. -/
def canActivate (chain : Chain) (speed : Speed) : Except Rejection Unit :=
  if chain.status = .resolving then .error .chainInProgress
  else
    match chain.top? with
    | some top =>
      if speed.value < top.speed.value then .error (.speedTooLow speed.value top.speed.value)
      else .ok ()
    | none => .ok ()

/-- This adds a link, which gets the next number; then the other player may answer. -/
def push (chain : Chain) (link : ChainLink) : Except Rejection (Nat × Chain) := do
  chain.canActivate link.speed
  let number := chain.links.length + 1
  return (number, {
    links := chain.links ++ [{ link with number := number }]
    status := .awaitingResponse
    priority := link.controller.opponent
    passes := 0 })

/-- This passes on answering; enough passes start the resolution. -/
def pass (chain : Chain) (player : Seat) (rule : PassRule) :
    Except Rejection (PassOutcome × Chain) :=
  if chain.status ≠ .awaitingResponse then .error .nothingToPass
  else if player ≠ chain.priority then .error (.noPriority player)
  else
    let passes := chain.passes + 1
    let done := match rule with
      | .consecutive => decide (passes ≥ 2)
      | .singleFlip => true
    if done then .ok (.resolve, { chain with passes := passes, status := .resolving })
    else .ok (.priorityTo player.opponent,
      { chain with passes := passes, priority := player.opponent })

def beginResolving (chain : Chain) : Chain :=
  if chain.isEmpty then chain else { chain with status := .resolving }

def pop? (chain : Chain) : Option (ChainLink × Chain) :=
  chain.top?.map fun top => (top, { chain with links := chain.links.dropLast })

/-- This negates the link with a number, if there is one. -/
def negate? (chain : Chain) (number : Nat) : Option Chain :=
  (chain.link? number).map fun link =>
    { chain with links := chain.links.set (number - 1) { link with negated := true } }

end Chain

end CardDuel
