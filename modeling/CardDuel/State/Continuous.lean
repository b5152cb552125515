/-
This file computes what lasting changes do to the cards. Granted modifiers come first; the abilities
of cards read the board as those left it. All overrides of a stat count after all deltas.
-/

import CardDuel.Card.Template
import CardDuel.State.Condition

namespace CardDuel

structure ContinuousResult where
  modifiers : List Modifier
  stats : List StatLine
  negated : List Bool
deriving DecidableEq

namespace Modifier

/-- This tells whether the target is still the same object on the field. -/
def isLive (modifier : Modifier) (state : GameState) : Bool :=
  (state.card? modifier.target).any fun card =>
    card.isOnField && card.moves = modifier.targetMoves

def isNegation (modifier : Modifier) : Bool := modifier.alteration = .negate

def isIn (layer : Layer) (modifier : Modifier) : Bool := modifier.alteration.layer = layer

/-- This puts modifiers in the order of their layers and keeps their order within a layer. -/
def inLayers (modifiers : List Modifier) : List Modifier :=
  modifiers.filter (isIn .negation) ++ modifiers.filter (isIn .numeric) ++
    modifiers.filter (isIn .override)

def negatedCards (modifiers : List Modifier) : List InstanceId :=
  (modifiers.filter isNegation).map target

end Modifier

def Alteration.applyTo (alteration : Alteration) (line : StatLine) : StatLine :=
  match alteration with
  | negate => line
  | delta stat amount => line.add stat amount
  | override stat value => line.set stat value

namespace GameState

/-- This makes the alteration of a modifier in a table of stat lines. -/
def alterStats (stats : List StatLine) (modifier : Modifier) : List StatLine :=
  stats.modify modifier.target.index modifier.alteration.applyTo

def statsUnder (state : GameState) (modifiers : List Modifier) : List StatLine :=
  (Modifier.inLayers modifiers).foldl alterStats (state.cards.map CardInstance.base)

/-- These are the granted modifiers whose targets are still there. -/
def liveGranted (state : GameState) : List Modifier :=
  state.granted.filter fun modifier => modifier.isLive state

def withResults (state : GameState) (stats : List StatLine) (negated : List Bool) : GameState :=
  { state with
    cards := state.cards.zipWith
      (fun card (line, negates) => { card with current := line, negated := negates })
      (stats.zip negated) }

/-- These flags tell for each card whether it is in a list. -/
def flagsOf (state : GameState) (negated : List InstanceId) : List Bool :=
  state.cards.map fun card => negated.contains card.id

/-- This is the board on which only granted modifiers count. -/
def grantedBoard (state : GameState) : GameState :=
  state.withResults (state.statsUnder state.liveGranted)
    (state.flagsOf (Modifier.negatedCards state.liveGranted))

def abilityModifiers (board : GameState) (source : CardInstance) (ability : Ability) :
    List Modifier :=
  if Condition.holdsIfAny ability.condition board source.owner source.id then
    (board.cards.filter (ability.affects.matchesFor source.owner source.id)).map fun target =>
      ⟨source.id, target.id, ability.alteration, .whileSourceActive, target.moves⟩
  else []

def cardModifiers (board : GameState) (catalog : Catalog) (source : CardInstance) :
    List Modifier :=
  match catalog.get? source.card with
  | some template => template.continuous.flatMap (board.abilityModifiers source)
  | none => []

/-- These are the modifiers of all face-up cards on the field that are not negated on a board. -/
def staticModifiers (board : GameState) (catalog : Catalog) : List Modifier :=
  (board.cards.filter fun card => card.isFaceUpOnField && !card.negated).flatMap
    (board.cardModifiers catalog)

def recompute (state : GameState) (catalog : Catalog) : ContinuousResult :=
  let granted := state.liveGranted
  let static := state.grantedBoard.staticModifiers catalog
  let negated := Modifier.negatedCards (granted ++ static)
  let counting := static.filter fun modifier =>
    modifier.isNegation || !negated.contains modifier.source
  let modifiers := Modifier.inLayers (granted ++ counting)
  ⟨modifiers, state.statsUnder modifiers, state.flagsOf negated⟩

/-- This stores the results of lasting changes and drops granted modifiers that are over. -/
def refresh (state : GameState) (catalog : Catalog) : GameState :=
  let result := state.recompute catalog
  { state.withResults result.stats result.negated with
    granted := state.liveGranted, active := result.modifiers }

/-- This tells whether a refresh changes the stats or the negation of a card. -/
def isStale (state : GameState) (catalog : Catalog) : Bool :=
  (state.refresh catalog).cards ≠ state.cards

def expire (state : GameState) (duration : Duration) : GameState :=
  { state with granted := state.granted.filter fun modifier => modifier.duration ≠ duration }

end GameState

end CardDuel
