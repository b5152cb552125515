/-
This file defines how events are answered: mandatory effects go on the chain, windows open for the
others, and chains resolve.
-/

import CardDuel.Effect.Resolution
import CardDuel.Play.Legal

namespace CardDuel

namespace GameState

def pushLink (state : GameState) (link : ChainLink) : Except Rejection GameState := do
  let (number, chain) ← state.chain.push link
  return { state with chain := chain }.record (.chainLinkAdded number link.source link.speed.value)

def applyChange (state : GameState) (change : Change) : Except Rejection GameState :=
  (change.apply state).mapError .violated

/-- This pays the cost of a trigger. A cost that is not life sends the card to the graveyard. -/
def payTriggerCost (state : GameState) (cost : Option Cost) (trigger : TriggeredEffect) :
    Except Rejection GameState :=
  match cost with
  | none => .ok state
  | some cost =>
    if cost.resource = .lifePoints then
      if (state.player trigger.controller).life < cost.amount then
        .error (.cannotPayCost .notEnoughLife)
      else state.applyChange (.payLife trigger.controller cost.amount)
    else state.applyChange (.toGraveyard trigger.source)

/-- This activates a trigger: its cost is paid and it goes on the chain. -/
def activateTrigger (state : GameState) (cost : Option Cost) (trigger : TriggeredEffect) :
    Except Rejection GameState := do
  let paid ← state.payTriggerCost cost trigger
  let told := paid.record (.effectActivated trigger.source trigger.effect trigger.controller)
  let counted := { told with
    activations := told.activations.record trigger.source trigger.effect }
  let moves := ((counted.card? trigger.source).map CardInstance.moves).getD trigger.sourceMoves
  counted.pushLink
    ⟨0, trigger.source, moves, trigger.card, trigger.effect, trigger.controller, trigger.speed,
      [], false⟩

/-- This activates a mandatory trigger; one that is not possible is skipped. -/
def chainTrigger (catalog : Catalog) (state : GameState) (trigger : TriggeredEffect) : GameState :=
  match catalog.effect? trigger.card trigger.effect with
  | none => state
  | some effect =>
    match state.activateTrigger effect.cost trigger with
    | .ok next => next
    | .error _ => state

/-- This passes for players who cannot answer, until one can or the window closes. -/
def advanceWindow (catalog : Catalog) : (passes : Nat) → GameState → GameState
  | 0, state => state
  | passes + 1, state =>
    match state.window with
    | none => state
    | some window =>
      if state.hasResponse catalog window.holder then state
      else
        match window.pass window.holder with
        | .ok (.priorityTo _, next) =>
          advanceWindow catalog passes { state with window := some next }
        | _ => { state with window := none }

/-- This is enough automatic passes to close any window, whatever its count of passes is. -/
def maxPasses : Nat := 3

/-- This tells that a window is open, if there is one. -/
def announceWindow (state : GameState) : GameState :=
  match state.window with
  | some window => state.record (.windowOpened window.holder)
  | none => state

/-- This opens a window for the pending events and puts the mandatory triggers on the chain. -/
def gatherTriggers (state : GameState) (catalog : Catalog) : GameState :=
  let events := state.pendingEvents
  let taken := { state with pendingEvents := [] }
  let triggers := taken.collectTriggers catalog events
  let mandatory := triggers.filter fun trigger => !trigger.optional
  let chained := mandatory.foldl (chainTrigger catalog) taken
  { chained with
    window := some (.fresh events (triggers.filter TriggeredEffect.optional) chained.turnPlayer) }

/-- This opens a window for the pending events. Under a chain it stays open in any case. -/
def openWindow (state : GameState) (catalog : Catalog) : GameState :=
  let gathered := state.gatherTriggers catalog
  if gathered.chain.isEmpty then (advanceWindow catalog maxPasses gathered).announceWindow
  else gathered.announceWindow

def closeWindow (state : GameState) : GameState :=
  if state.window.isSome then { state with window := none }.record .windowClosed else state

/-- This resolves links from the last to the first while the duel goes on, and counts them. -/
def resolveLinks (catalog : Catalog) :
    (links : Nat) → GameState → (resolved : Nat) → GameState × Nat
  | 0, state, resolved => (state, resolved)
  | links + 1, state, resolved =>
    if state.outcome.isSome then (state, resolved)
    else
      match state.chain.pop? with
      | none => (state, resolved)
      | some (link, chain) =>
        resolveLinks catalog links ({ state with chain := chain }.resolveLink catalog link).1
          (resolved + 1)

/-- This resolves the chain and closes the window under it. -/
def resolveChain (state : GameState) (catalog : Catalog) : GameState :=
  let begun := { state with chain := state.chain.beginResolving }
  let (resolved, length) := resolveLinks catalog begun.chain.links.length begun 0
  ({ resolved with chain := .idle resolved.turnPlayer }.record (.chainResolved length)).closeWindow

def passChain (state : GameState) (rules : Rules) (player : Seat) :
    Except Rejection GameState := do
  let (outcome, chain) ← state.chain.pass player rules.config.passRule
  let passed := { state with chain := chain }.record (.priorityPassed player)
  return if outcome = .resolve then passed.resolveChain rules.catalog else passed

/-- This tells that a window is closed, if there is none any more. -/
def announceClosing (state : GameState) : GameState :=
  if state.window.isNone then state.record .windowClosed else state

def passWindow (state : GameState) (catalog : Catalog) (player : Seat) (window : ResponseWindow) :
    Except Rejection GameState := do
  let (outcome, next) ← window.pass player
  let passed := { state with window := some next }.record (.priorityPassed player)
  match outcome with
  | .closed => return passed.closeWindow
  | .priorityTo _ => return (advanceWindow catalog maxPasses passed).announceClosing

def passPriority (state : GameState) (rules : Rules) (player : Seat) :
    Except Rejection GameState :=
  if state.chain.isEmpty then
    match state.window with
    | some window => state.passWindow rules.catalog player window
    | none => .error .nothingToPass
  else state.passChain rules player

/-- This clears everything that waits after the end of a duel. -/
def clearWaiting (state : GameState) : GameState :=
  { state with
    chain := .idle state.turnPlayer, window := none, pendingAttack := none, pendingEvents := [] }

/-- This is the next thing that happens by itself, if there is one. -/
def settleStep? (state : GameState) (catalog : Catalog) : Option GameState :=
  if state.canPass then none
  else if !state.pendingEvents.isEmpty then some (state.openWindow catalog)
  else if state.pendingAttack.isSome then some (state.resolveAttack catalog)
  else none

/-- This lets things happen by themselves until a player has to act or the duel is over. -/
def settleWithin (catalog : Catalog) : (steps : Nat) → GameState → GameState
  | 0, state => if state.outcome.isSome then state.clearWaiting else state
  | steps + 1, state =>
    if state.outcome.isSome then state.clearWaiting
    else
      match state.settleStep? catalog with
      | some next => settleWithin catalog steps next
      | none => state

/-- This is enough steps to settle any state: a window, an attack and a window after it. -/
def maxSettleSteps : Nat := 3

/-- This lets things happen by themselves until a player has to act or the duel is over. -/
def settle (state : GameState) (catalog : Catalog) : GameState :=
  settleWithin catalog maxSettleSteps state

end GameState

end CardDuel
