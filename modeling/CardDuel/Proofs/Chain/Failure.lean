/-
This file shows that an effect which is negated or aborted leaves nothing behind: in a state that a sweep
leaves alone, only the spent card of the link goes to the graveyard.
-/

import CardDuel.Proofs.Flow.Settled

namespace CardDuel

namespace GameState

variable {state next before after : GameState} {catalog : Catalog} {link : ChainLink}
  {card : InstanceId} {found : CardInstance}

/-! Failed effects -/

/-- Nothing of an effect that is not applied is left but events. -/
theorem carried_eq (failed : (state.carryOut catalog link).2 ≠ .applied) : ∃ pending log,
    state.carried catalog link = { state with pendingEvents := pending, log := log } := by
  obtain ⟨notes, same⟩ : ∃ notes, (state.carryOut catalog link).1 = state.recordAll notes := by
    rw [carryOut] at failed ⊢
    split at failed
    · exact ⟨[], rfl⟩
    · split at failed
      · next given => exact ⟨[], by rw [if_pos given]; rfl⟩
      · next given =>
        split at failed
        · exact absurd rfl failed
        · exact ⟨[_], by rw [if_neg given]; rfl⟩
  obtain ⟨pending, log, told⟩ := state.recordAll_eq notes
  rw [carried, same, told]
  exact ⟨_, _, rfl⟩

/-! Spent cards -/

/--
This tells that the source of a link is spent by its resolution: it was activated as a spell or trap that
does not stay, or its activation was negated, and it lies where it was activated.
-/
structure Departs (state : GameState) (catalog : Catalog) (link : ChainLink) : Prop where
  goes : ∃ template effect, catalog.get? link.card = some template ∧
    template.effect? link.effect = some effect ∧ effect.kind = .activate ∧
    (template.kind.staysOnField = false ∨ link.negated = true)
  lies : ∃ found, state.card? link.source = some found ∧ found.zone = .spells ∧
    found.moves = link.sourceMoves

/-- A card that departs is sent to the graveyard, if it can be moved. -/
theorem finishActivation_of_departs (departs : state.Departs catalog link) :
    state.finishActivation catalog link = Change.applyPossible [.toGraveyard link.source] state := by
  obtain ⟨⟨template, effect, named, listed, kind, leaves⟩, found, known, spells, moves⟩ := departs
  have remains : state.sourceRemains link = true := by simp [sourceRemains, known, spells, moves]
  have gone : (template.kind.staysOnField && !link.negated) = false := by
    rcases leaves with goes | negated
    · rw [goes]
      rfl
    · rw [negated]
      simp
  rw [finishActivation, named]
  simp [listed, kind, gone, remains]

/-- A card that stays is left alone. -/
theorem finishActivation_of_not_departs (stays : ¬state.Departs catalog link) :
    state.finishActivation catalog link = state := by
  rw [finishActivation]
  split
  · rfl
  · next template named =>
    dsimp only
    split
    · next goes =>
      simp only [Bool.and_eq_true, Bool.not_eq_true', Option.any_eq_true, decide_eq_true_eq,
        sourceRemains] at goes
      obtain ⟨⟨⟨effect, listed, kind⟩, leaves⟩, found, known, spells, moves⟩ := goes
      refine absurd ⟨⟨template, effect, named, listed, kind, ?_⟩, found, known, spells, moves⟩ stays
      cases goes : template.kind.staysOnField <;> simp_all
    · rfl

/-- When a spell goes to the graveyard, its state stays settled, and no other card and no deck changes. -/
theorem bury_spell (settled : state.Settled) (known : state.card? card = some found)
    (spells : found.zone = .spells) : ∃ next,
      Change.applyPossible [.toGraveyard card] state = next.record (.cardMoved card .spells .graveyard) ∧
      state.relocate card .graveyard .top (.inPile .graveyard) = .ok (.spells, next) ∧ next.Settled ∧
      next.card? card = some (found.relocate .graveyard none (.inPile .graveyard)) ∧
      (∀ other ≠ card, next.card? other = state.card? other) ∧
      ∀ seat, (next.zones seat).deck = (state.zones seat).deck := by
  obtain ⟨next, moved⟩ : ∃ next, state.relocate card .graveyard .top (.inPile .graveyard) =
      .ok (found.zone, next) :=
    relocate_ok known ((settled.consistent.lists _).present known) fun field => by cases field
  rw [spells] at moved
  have buried : (Change.toGraveyard card).apply state =
      .ok (next.record (.cardMoved card .spells .graveyard)) := by
    rw [Change.toGraveyard, Change.apply, moved]
    rfl
  have calm := settled.relocate moved
  obtain ⟨same, remaining, knownToo, _, room, removed, rfl⟩ := relocate_cases moved
  obtain rfl := Option.some.inj (known.symm.trans knownToo)
  refine ⟨_, ?_, moved, calm, ?_, ?_, ?_⟩
  · rw [Change.applyPossible, List.foldl_cons, List.foldl_nil, buried]
  · rw [card?_arrived, if_pos rfl, known]
    rfl
  · intro other different
    rw [card?_arrived, if_neg different]
  · intro seat
    rw [zones_arrived]
    split
    · next own =>
      have inserted : (remaining.insert .graveyard card .top).1.cards .deck = remaining.cards .deck :=
        PlayerZones.insert_cards_of_ne card .top (room.remove? removed) (by decide)
      have left : remaining.cards .deck = (state.zones found.owner).cards .deck :=
        PlayerZones.remove?_cards_of_ne removed (by rw [spells]; decide)
      rw [own]
      exact inserted.trans left
    · rfl

/-! Resolution -/

/--
This tells that the effect of a link was undone: everything is as it was, and only the source of the link has
moved to the graveyard if it was spent.
-/
structure Undone (catalog : Catalog) (link : ChainLink) (before after : GameState) : Prop where
  lives : ∀ seat, (after.player seat).life = (before.player seat).life
  decks : ∀ seat, (after.zones seat).deck = (before.zones seat).deck
  shuffler : after.shuffler = before.shuffler
  chain : after.chain = before.chain
  window : after.window = before.window
  attack : after.pendingAttack = before.pendingAttack
  activations : after.activations = before.activations
  outcome : after.outcome = before.outcome
  others : ∀ card ≠ link.source, (after.card? card).map CardInstance.whereabouts =
    (before.card? card).map CardInstance.whereabouts
  spent : before.Departs catalog link → ∃ old new, before.card? link.source = some old ∧
    after.card? link.source = some new ∧ new.zone = .graveyard ∧ new.moves = old.moves + 1 ∧
    link.source ∈ (after.zones old.owner).graveyard
  stays : ¬before.Departs catalog link → (after.card? link.source).map CardInstance.whereabouts =
    (before.card? link.source).map CardInstance.whereabouts

/-- Once its mention is in the log, the end of a failed effect is the departure of a spent card. -/
theorem Settled.finish_undone (settled : state.Settled) :
    Undone catalog link state ((state.finishActivation catalog link).sweep catalog) := by
  by_cases departs : state.Departs catalog link
  · obtain ⟨found, known, spells, _⟩ := departs.lies
    obtain ⟨buried, made, moved, calm, there, others, decks⟩ := bury_spell settled known spells
    have told : (buried.record (.cardMoved link.source .spells .graveyard)).Settled := calm.same rfl rfl rfl
    have listed := calm.consistent.lists .graveyard
    have lives := SameLife.relocate moved
    rw [finishActivation_of_departs departs, made, told.sweep_eq]
    have spent := whereabouts_refresh (buried.record (.cardMoved link.source .spells .graveyard))
      catalog link.source
    rw [card?_record, there] at spent
    obtain ⟨new, present, where_⟩ := Option.map_eq_some_iff.mp spent
    obtain ⟨_, _, _, _, _, _, rfl⟩ := relocate_cases moved
    exact
      { lives := fun seat => (lives seat).1
        decks := decks
        shuffler := rfl
        chain := rfl
        window := rfl
        attack := rfl
        activations := rfl
        outcome := rfl
        others := fun card different => by
          rw [whereabouts_refresh, card?_record, others card different]
        spent := fun _ => ⟨found, new, known, present, congrArg Prod.fst where_,
          congrArg (fun place => place.2.2.2) where_,
          (listed.listed found.owner link.source).mpr ⟨_, there, rfl, rfl⟩⟩
        stays := fun stays => absurd departs stays }
  · rw [finishActivation_of_not_departs departs, settled.sweep_eq]
    exact ⟨fun _ => rfl, fun _ => rfl, rfl, rfl, rfl, rfl, rfl, rfl,
      fun card _ => whereabouts_refresh state catalog card, fun impossible => absurd impossible departs,
      fun _ => whereabouts_refresh state catalog link.source⟩

/-- A settled state is undone from an effect that is not applied. -/
theorem Settled.undone (settled : before.Settled)
    (failed : (before.carryOut catalog link).2 ≠ .applied) :
    Undone catalog link before (before.resolveLink catalog link).1 := by
  obtain ⟨pending, log, carried⟩ := carried_eq failed
  have swept : (before.resolveLink catalog link).1 =
      ((before.carried catalog link).finishActivation catalog link).sweep catalog := rfl
  have told : Settled { before with pendingEvents := pending, log := log } := settled.same rfl rfl rfl
  have finished : Undone catalog link _ _ := told.finish_undone
  rw [swept, carried]
  exact
    { lives := finished.lives
      decks := finished.decks
      shuffler := finished.shuffler
      chain := finished.chain
      window := finished.window
      attack := finished.attack
      activations := finished.activations
      outcome := finished.outcome
      others := finished.others
      spent := fun departs => finished.spent ⟨departs.goes, departs.lies⟩
      stays := fun stays => finished.stays fun departs => stays ⟨departs.goes, departs.lies⟩ }

/--
In a state that a sweep leaves alone, an effect that is negated or aborted is undone, whatever is left of the
chain when its link is resolved.
-/
theorem resolveLink_undone (consistent : state.Consistent) (stable : state.sweep catalog = state)
    (chain : Chain) (failed : ({ state with chain := chain }.resolveLink catalog link).2 = .negated ∨
      ({ state with chain := chain }.resolveLink catalog link).2 = .aborted) :
    Undone catalog link { state with chain := chain }
      ({ state with chain := chain }.resolveLink catalog link).1 := by
  have settled : Settled { state with chain := chain } :=
    (Settled.of_sweep_eq consistent stable).same rfl rfl rfl
  apply settled.undone
  intro applied
  have same : ({ state with chain := chain }.resolveLink catalog link).2 = .applied := applied
  rw [same] at failed
  simp at failed

end GameState

namespace DuelSetup

open GameState

/-- This is a duel with a spell that draws a card and then asks for an attack to negate. -/
def duds : DuelSetup where
  rules := ⟨⟨[⟨⟨1⟩, "Dud", .spell .normal, [CardEffect.plain .activate .one
    (.sequence [.act (.draw 1) .controller, .act .negateAttack .controller])], [], none⟩]⟩,
    { DuelConfig.standard with startingHand := 1 }⟩
  decks := .replicate [⟨1⟩, ⟨1⟩]
  seed := 0
  shuffle := false
  firstPlayer := .first

/-- This is a table on which a dud lies face-up. -/
def fused : GameState :=
  (Change.applyPossible [.placeSpell ⟨0⟩ true] duds.withDecks).sweep duds.rules.catalog

def fuse : ChainLink := ⟨1, ⟨0⟩, 1, ⟨1⟩, 0, .first, .one, [], false⟩

/-- Without an attack a dud is aborted: the drawn card is back in the deck, and the dud is in the graveyard. -/
theorem duds_undone :
    fused.Consistent ∧ fused.sweep duds.rules.catalog = fused ∧
      (fused.resolveLink duds.rules.catalog fuse).2 = .aborted ∧
      Undone duds.rules.catalog fuse fused (fused.resolveLink duds.rules.catalog fuse).1 ∧
      ((fused.resolveLink duds.rules.catalog fuse).1.zones .first).deck = [⟨1⟩] ∧
      ((fused.resolveLink duds.rules.catalog fuse).1.zones .first).graveyard = [⟨0⟩] := by
  have fits : duds.Fits := by
    show 2 + 2 < UInt32.size
    decide
  have placed := (Change.applyPossible_edits [.placeSpell ⟨0⟩ true] duds.withDecks).shifts.consistent
    (withDecks_agrees fits).consistent
  have consistent : fused.Consistent := (sweep_shifts _ duds.rules.catalog).consistent placed
  have stable : fused.sweep duds.rules.catalog = fused := sweep_sweep placed duds.rules.catalog
  have aborted : (fused.resolveLink duds.rules.catalog fuse).2 = .aborted := by decide
  have undone := resolveLink_undone consistent stable fused.chain (.inr aborted)
  exact ⟨consistent, stable, aborted, undone, by decide, by decide⟩

end DuelSetup

end CardDuel
