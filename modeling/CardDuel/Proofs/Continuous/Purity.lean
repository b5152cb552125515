/-
This file shows that a refresh is pure: it reads nothing back that a refresh has stored and touches
nothing else, so a second refresh changes nothing.
-/

import CardDuel.Proofs.Continuous.Recompute

namespace CardDuel

namespace GameState

/--
This is a state apart from its log, from the stored results of lasting changes and from the granted
modifiers that do not count any more.
-/
def unrefreshed (state : GameState) : GameState :=
  { state with
    cards := state.cards.map CardInstance.bare
    granted := state.liveGranted
    active := []
    log := [] }

variable {state before after : GameState} {catalog : Catalog}

/-- States that differ in stored results and in the log only have the same board. -/
theorem sameBoard_of_unrefreshed (same : after.unrefreshed = before.unrefreshed) :
    SameBoard before after where
  cards := congrArg GameState.cards same
  players := (congrArg GameState.players same :)
  phase := (congrArg GameState.phase same :)
  live := congrArg GameState.granted same

/-- A refresh changes stored results only. -/
theorem unrefreshed_refresh (state : GameState) (catalog : Catalog) :
    (state.refresh catalog).unrefreshed = state.unrefreshed := by
  have same := state.sameBoard_refresh catalog
  show ({ state with
    cards := (state.refresh catalog).cards.map CardInstance.bare
    granted := (state.refresh catalog).liveGranted
    active := []
    log := [] } : GameState) = _
  rw [same.cards, same.live]
  rfl

/-- What a second refresh stores is there already. -/
theorem refresh_refresh (state : GameState) (catalog : Catalog) :
    (state.refresh catalog).refresh catalog = state.refresh catalog := by
  have same := state.sameBoard_refresh catalog
  have results := same.recompute catalog
  have cards : ((state.refresh catalog).refresh catalog).cards = (state.refresh catalog).cards := by
    show ((state.refresh catalog).withResults ((state.refresh catalog).recompute catalog).stats
      ((state.refresh catalog).recompute catalog).negated).cards = _
    rw [results]
    exact withResults_congr same.cards _ _
  show ({ state with
    cards := ((state.refresh catalog).refresh catalog).cards
    granted := (state.refresh catalog).liveGranted
    active := ((state.refresh catalog).recompute catalog).modifiers } : GameState) = _
  rw [cards, same.live, results]
  rfl

/--
The results of lasting changes are the same for all states that differ in stored results, in the log and
in modifiers that are over only. A refresh makes only such a difference and tells of nothing, and a
second refresh makes none and finds nothing stale.
-/
theorem refresh_pure (state : GameState) (catalog : Catalog) :
    (∀ other : GameState, other.unrefreshed = state.unrefreshed →
      other.recompute catalog = state.recompute catalog) ∧
    (state.refresh catalog).unrefreshed = state.unrefreshed ∧
    (state.refresh catalog).log = state.log ∧
    (state.refresh catalog).refresh catalog = state.refresh catalog ∧
    (state.refresh catalog).isStale catalog = false := by
  refine ⟨fun other same => (sameBoard_of_unrefreshed same).recompute catalog,
    state.unrefreshed_refresh catalog, rfl, state.refresh_refresh catalog, ?_⟩
  rw [isStale, refresh_refresh]
  simp

/-- This is a catalog with one monster, which makes the weak monsters of its controller stronger. -/
def banners : Catalog :=
  ⟨[⟨⟨1⟩, "Banner", .monster 4 800 500, [],
    [⟨{ CardFilter.fieldMonsters .controller with maxAttack := some 1000 }, .delta .attack 500, none⟩],
    none⟩]⟩

/-- This is a table with one banner in attack position, before any refresh. -/
def printedBanner : GameState :=
  { GameState.initial .standard 0 .first with
    cards := [{ CardInstance.create ⟨0⟩ ⟨1⟩ (.monster 4 800 500) .first with
      zone := .monsters, slot := some 0, position := .faceUpAttack, moves := 1 }] }

/--
This is the same table with other stored results: the banner is as strong as it has made itself, and a
modifier from before its last move has negated it.
-/
def wornBanner : GameState :=
  { printedBanner with
    cards := printedBanner.cards.map fun card =>
      { card with current := ⟨1300, 500, 4⟩, negated := true }
    granted := [⟨⟨0⟩, ⟨0⟩, .negate, .endOfTurn, 0⟩]
    active := [⟨⟨0⟩, ⟨0⟩, .negate, .endOfTurn, 0⟩]
    log := [⟨0, 1, .windowClosed⟩] }

/-- A banner that has made itself strong is still one of the weak monsters that it makes stronger. -/
theorem banner_stays_raised :
    wornBanner.unrefreshed = printedBanner.unrefreshed ∧
    wornBanner.recompute banners = printedBanner.recompute banners ∧
    ((wornBanner.refresh banners).cards.map fun card => card.current.attack) = [1300] ∧
    (wornBanner.refresh banners).refresh banners = wornBanner.refresh banners ∧
    (wornBanner.refresh banners).isStale banners = false := by
  have same : wornBanner.unrefreshed = printedBanner.unrefreshed := by decide
  have again := wornBanner.refresh_pure banners
  exact ⟨same, (printedBanner.refresh_pure banners).1 wornBanner same, by decide, again.2.2.2⟩

end GameState

end CardDuel
