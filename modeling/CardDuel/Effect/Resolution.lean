/-
This file resolves chain links. An effect happens as a whole, or it is aborted and leaves nothing
but its mention in the log.
-/

import CardDuel.Effect.Plan
import CardDuel.State.Sweep

namespace CardDuel

namespace EffectTree

def runInstruction (catalog : Catalog) (link : ChainLink) (instruction : Instruction)
    (target : Selector) (state : GameState) : Except Violation GameState := do
  let resolved ← state.resolve link target
  let changes ← state.plan link instruction resolved
  let next ← Change.applyAll changes state
  return next.refresh catalog

mutual

def run (catalog : Catalog) (link : ChainLink) :
    EffectTree → GameState → Except Violation GameState
  | act instruction target, state => runInstruction catalog link instruction target state
  | sequence children, state => runAll catalog link children state
  | branch condition yes no, state =>
    if condition.holds state link.controller link.source then run catalog link yes state
    else runOption catalog link no state

def runAll (catalog : Catalog) (link : ChainLink) :
    List EffectTree → GameState → Except Violation GameState
  | [], state => .ok state
  | child :: rest, state => do
    let next ← run catalog link child state
    runAll catalog link rest next

def runOption (catalog : Catalog) (link : ChainLink) :
    Option EffectTree → GameState → Except Violation GameState
  | none, state => .ok state
  | some child, state => run catalog link child state

end

end EffectTree

namespace GameState

/-- This tells whether the source of a link lies negated on the field since its activation. -/
def sourceNegated (state : GameState) (link : ChainLink) : Bool :=
  (state.card? link.source).any fun card =>
    card.isOnField && card.moves = link.sourceMoves && card.negated

def carryOut (state : GameState) (catalog : Catalog) (link : ChainLink) :
    GameState × EffectOutcome :=
  match catalog.effect? link.card link.effect with
  | none => (state, .negated)
  | some effect =>
    if link.negated || state.sourceNegated link then (state, .negated)
    else
      match effect.root.run catalog link state with
      | .ok next => (next, .applied)
      | .error violation =>
        (state.record (.effectAborted link.number link.source violation.message), .aborted)

/-- This tells whether the source of a link is still the spell or trap that was activated. -/
def sourceRemains (state : GameState) (link : ChainLink) : Bool :=
  (state.card? link.source).any fun card =>
    card.zone = .spells && card.moves = link.sourceMoves

/-- This sends a spell or trap to the graveyard after its own activation if it does not stay. -/
def finishActivation (state : GameState) (catalog : Catalog) (link : ChainLink) : GameState :=
  match catalog.get? link.card with
  | none => state
  | some template =>
    let activated := (template.effect? link.effect).any fun effect => effect.kind = .activate
    let stays := template.kind.staysOnField && !link.negated
    if activated && !stays && state.sourceRemains link then
      Change.applyPossible [.toGraveyard link.source] state
    else state

def resolveLink (state : GameState) (catalog : Catalog) (link : ChainLink) :
    GameState × EffectOutcome :=
  let (carried, outcome) := state.carryOut catalog link
  let told := carried.record (.chainLinkResolved link.number link.source outcome)
  ((told.finishActivation catalog link).sweep catalog, outcome)

end GameState

end CardDuel
