/-
This file shows that the lasting changes of abilities come from cards that are seen on the field, and
tells exactly when the stored results of lasting changes can be out of date.
-/

import CardDuel.Proofs.Catalog.Load
import CardDuel.Proofs.Continuous.Start
import CardDuel.Proofs.Move.Play
import CardDuel.Proofs.Move.Tale

namespace CardDuel

/-- No effect of a catalog that was read grants anything that lasts as long as an ability. -/
theorem Catalog.MayGrant.duration_ne {catalog : Catalog} (sound : catalog.Sound) {modifier : Modifier}
    (may : catalog.MayGrant modifier) : modifier.duration ≠ .whileSourceActive := by
  rcases may with leaves | ⟨card, index, effect, known, instruction, listed, asked⟩
  · simp [leaves]
  · obtain ⟨selector, fits⟩ := (sound.effect known).fits.instruction listed
    intro active
    exact fits.lasting (active ▸ asked)

namespace GameState

variable {rules : Rules} {ways : Placement → Prop} {catalog : Catalog} {state before after : GameState} {modifier : Modifier}

/-- A modifier that deeds grant was granted before, or an effect of the catalog may grant it. -/
theorem Deeds.granted (deeds : Deeds catalog.MayMake before after) (member : modifier ∈ after.granted) :
    modifier ∈ before.granted ∨ catalog.MayGrant modifier :=
  (deeds.quiet.granted modifier member).imp_right Catalog.MayMake.grants

/-- A modifier that is granted was granted before, or an effect of the catalog may grant it. -/
theorem Act.granted (act : Act rules ways before after) (member : modifier ∈ after.granted) :
    modifier ∈ before.granted ∨ rules.catalog.MayGrant modifier := by
  cases act with
  | deed deed => exact (Deeds.of_deed deed).granted member
  | aside aside => exact .inl (aside.granted modifier member)
  | conclude waits deeds ends => exact deeds.granted member
  | use may first placing second =>
    rcases second.granted member with late | allowed
    · rcases placing.deeds.quiet.granted modifier late with early | ⟨_, none⟩
      · exact first.granted early
      · simp [Change.modifier?] at none
    · exact .inr allowed
  | @resolve link chain running popped =>
    rcases (spent_deeds { before with chain := chain } rules.catalog link).granted member with
      member | allowed
    swap
    · exact .inr allowed
    rcases carryOut_cases { before with chain := chain } rules.catalog link with
      deeds | ⟨_, _, _, _, same⟩
    · exact deeds.granted member
    · have kept : modifier ∈ ({ before with chain := chain }.carryOut rules.catalog link).1.granted :=
        member
      rw [same] at kept
      exact .inl kept
  | _ => exact .inl member

theorem Move.granted (move : Move rules ways before after) (member : modifier ∈ after.granted) :
    modifier ∈ before.granted ∨ rules.catalog.MayGrant modifier := by
  cases move with
  | act act => exact act.granted member
  | offer events window => exact .inl member
  | drop ended => exact .inl member

theorem Moves.granted (moves : Moves rules ways before after) (member : modifier ∈ after.granted) :
    modifier ∈ before.granted ∨ rules.catalog.MayGrant modifier := by
  induction moves with
  | refl => exact .inl member
  | tail _ move ih => exact (move.granted member).elim ih .inr

/-! Modifiers of abilities -/

theorem mem_inLayers {modifiers : List Modifier} (member : modifier ∈ Modifier.inLayers modifiers) :
    modifier ∈ modifiers := by
  simp only [Modifier.inLayers, List.mem_append, List.mem_filter] at member
  tauto

/-- The source of a modifier of an ability is seen on the field. -/
theorem mem_staticModifiers (member : modifier ∈ state.staticModifiers catalog) :
    ∃ card ∈ state.cards, card.id = modifier.source ∧ card.isFaceUpOnField = true := by
  obtain ⟨card, seen, made⟩ := List.mem_flatMap.mp member
  obtain ⟨there, shown⟩ := List.mem_filter.mp seen
  refine ⟨card, there, ?_, by simpa using (Bool.and_eq_true_iff.mp shown).1⟩
  rw [cardModifiers.eq_def] at made
  split at made
  · obtain ⟨ability, _, own⟩ := List.mem_flatMap.mp made
    rw [abilityModifiers] at own
    split at own
    · obtain ⟨target, _, rfl⟩ := List.mem_map.mp own
      rfl
    · cases own
  · cases made

/-- A modifier that counts is granted and live, or its source is seen on the field. -/
theorem mem_recompute (member : modifier ∈ (state.recompute catalog).modifiers) :
    modifier ∈ state.granted ∨
      ∃ card ∈ state.cards, card.id = modifier.source ∧ card.isFaceUpOnField = true := by
  rcases List.mem_append.mp (mem_inLayers member) with granted | static
  · exact .inl (List.mem_filter.mp granted).1
  · obtain ⟨card, there, source, seen⟩ := mem_staticModifiers (List.mem_filter.mp static).1
    obtain ⟨old, present, same⟩ := exists_card
      (bare_withResults (state.length_statsUnder _) (state.length_flagsOf _)) there
    have id : old.id = card.id := (congrArg CardInstance.id same :)
    have zone : old.zone = card.zone := (congrArg CardInstance.zone same :)
    have position : old.position = card.position := (congrArg CardInstance.position same :)
    refine .inr ⟨old, present, id.trans source, ?_⟩
    rw [CardInstance.isFaceUpOnField, CardInstance.isOnField, zone, position]
    exact seen

/-- A card that is seen on the field is found under its number. -/
theorem Anchored.card?_of_isFaceUpOnField (anchored : state.Anchored) {card : CardInstance}
    (member : card ∈ state.cards) (seen : card.isFaceUpOnField = true) :
    state.card? card.id = some card := by
  apply anchored.card?_id member
  intro hidden
  simp [CardInstance.isFaceUpOnField, CardInstance.isOnField, hidden, Zone.isField] at seen

end GameState

namespace DuelSetup

open GameState

variable {setup : DuelSetup} {requests : List Request} {duel : Duel}

/-- Nothing that is granted lasts as long as an ability. -/
theorem Run.granted_duration_ne (run : setup.Run requests duel) (sound : setup.rules.catalog.Sound) :
    ∀ modifier ∈ duel.state.granted, modifier.duration ≠ .whileSourceActive := by
  intro modifier member
  rcases run.moves.granted member with first | may
  · rw [setup.withDecks_unused.2.2] at first
    cases first
  · exact may.duration_ne sound

/--
In a running duel with a catalog that was read from a text, the stored results of lasting changes are
those that are computed again, and every modifier of an ability comes from a card that is seen on the
field, unless nothing but mandatory triggers is on the chain, no player has answered them, and one has
a cost: this was paid after the results were stored.
-/
theorem Run.stores_fresh {text : String} {load : CatalogLoad}
    (read : CatalogLoad.parse text = .ok load) (taken : setup.rules.catalog = load.catalog)
    (run : setup.Run requests duel) (running : duel.state.outcome = none) :
    duel.state.recompute setup.rules.catalog =
        ⟨duel.state.active, duel.state.cards.map CardInstance.current,
          duel.state.cards.map CardInstance.negated⟩ ∧
      (∀ modifier ∈ duel.state.active, modifier.duration = .whileSourceActive →
        ∃ source, duel.state.card? modifier.source = some source ∧ source.isFaceUpOnField = true) ∨
    duel.state.Unanswered setup.rules.catalog := by
  rcases run.cached running with fresh | unanswered
  · refine .inl ⟨fresh, ?_⟩
    intro modifier member active
    have counts : modifier ∈ (duel.state.recompute setup.rules.catalog).modifiers := by
      rw [show duel.state.recompute setup.rules.catalog = _ from fresh]
      exact member
    rcases mem_recompute counts with granted | ⟨source, there, same, seen⟩
    · have sound : setup.rules.catalog.Sound := taken ▸ CatalogLoad.parse_sound read
      exact absurd active (run.granted_duration_ne sound modifier granted)
    · have anchored := run.moves.shifts.anchored setup.withDecks_anchored
      exact ⟨source, same ▸ anchored.card?_of_isFaceUpOnField there seen, seen⟩
  · exact .inr unanswered

/--
This is the text of a catalog with one monster. It makes the monsters in the hand stronger, and when it
is summoned, it pays itself.
-/
def martyrText : String :=
  "[\x7b\"id\":1,\"name\":\"Martyr\",\"kind\":\"monster\",\"level\":1,\"atk\":100,\"def\":100," ++
  "\"continuous\":[\x7b\"affects\":\x7b\"zone\":\"hand\",\"side\":\"controller\"\x7d," ++
  "\"stat\":\"atk\",\"amount\":500\x7d],\"effects\":[\x7b\"type\":\"trigger\"," ++
  "\"trigger\":\x7b\"event\":\"summoned\",\"subject\":\"self\"\x7d," ++
  "\"cost\":\x7b\"resource\":\"self\"\x7d," ++
  "\"effect\":\x7b\"action\":\"gain_life\",\"amount\":1\x7d\x7d]\x7d]"

/-- This is a duel in which each player has two monsters of a catalog. -/
def martyrs (catalog : Catalog) : DuelSetup where
  rules := ⟨catalog, { DuelConfig.standard with startingHand := 2 }⟩
  decks := .replicate [⟨1⟩, ⟨1⟩]
  seed := 0
  shuffle := false
  firstPlayer := .first

/-- A martyr in the graveyard still makes the one in the hand stronger: its trigger was just paid. -/
theorem martyrs_stale :
    ∃ load duel, CatalogLoad.parse martyrText = .ok load ∧
      (martyrs load.catalog).Run [.act .first (.normalSummon ⟨1⟩ [])] duel ∧
      duel.state.outcome = none ∧
      (duel.state.card? ⟨1⟩).map CardInstance.zone = some .graveyard ∧
      (duel.state.card? ⟨0⟩).map (fun card => card.current.attack) = some 600 ∧
      duel.state.active.map Modifier.source = [⟨1⟩] ∧
      (duel.state.recompute load.catalog).modifiers = [] ∧
      duel.state.Unanswered load.catalog := by
  have played : (CatalogLoad.parse martyrText).toOption.any (fun load =>
      ((martyrs load.catalog).play? [.act .first (.normalSummon ⟨1⟩ [])]).any fun duel =>
        decide (duel.state.outcome = none ∧
          (duel.state.card? ⟨1⟩).map CardInstance.zone = some .graveyard ∧
          (duel.state.card? ⟨0⟩).map (fun card => card.current.attack) = some 600 ∧
          duel.state.active.map Modifier.source = [⟨1⟩] ∧
          (duel.state.recompute load.catalog).modifiers = [])) = true := by
    decide +kernel
  obtain ⟨load, read, follows⟩ := any_toOption_iff.mp played
  obtain ⟨duel, followed, facts⟩ := (Option.any_eq_true _ _).mp follows
  obtain ⟨running, buried, stronger, counted, none⟩ := of_decide_eq_true facts
  have run : (martyrs load.catalog).Run [.act .first (.normalSummon ⟨1⟩ [])] duel := .of_play followed
  refine ⟨load, duel, read, run, running, buried, stronger, counted, none, ?_⟩
  apply (run.stores_fresh read rfl running).resolve_left
  intro fresh
  have empty : duel.state.active = [] := by
    have same := congrArg ContinuousResult.modifiers fresh.1
    exact same.symm.trans none
  rw [empty] at counted
  cases counted

end DuelSetup

end CardDuel
