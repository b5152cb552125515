/-
This file shows that no card is ever lost, doubled or exchanged: in every state of a run the table and
the zones tell the same, and they hold the decks with which the players began.
-/

import CardDuel.Proofs.Table.Setup
import Mathlib.Data.List.Nodup
import Mathlib.Data.List.Perm.Basic

namespace CardDuel

/-- Every zone is in the list of all zones. -/
theorem Zone.mem_all (zone : Zone) : zone ∈ Zone.all := by
  cases zone <;> decide

namespace GameState

variable {config : DuelConfig} {state : GameState}

/-- These are the physical cards in the six zones of a player. -/
def held (state : GameState) (seat : Seat) : List InstanceId :=
  Zone.all.flatMap (state.zones seat).cards

/-- These are the catalog numbers of the cards in the six zones of a player. -/
def holdings (state : GameState) (seat : Seat) : List CardId :=
  (state.held seat).filterMap fun card => (state.card? card).map CardInstance.card

/-- These are the cards of the table that belong to a player. -/
def belongings (state : GameState) (seat : Seat) : List CardInstance :=
  state.cards.filter fun card => card.owner = seat

namespace Agrees

/-- The six zones of a player hold each card only once. -/
theorem nodup_held (agrees : state.Agrees config) (seat : Seat) : (state.held seat).Nodup := by
  rw [held, List.nodup_flatMap]
  refine ⟨fun zone _ => agrees.once seat zone, ?_⟩
  have apart : ∀ {left right : Zone}, left ≠ right →
      List.Disjoint ((state.zones seat).cards left) ((state.zones seat).cards right) := by
    intro left right different card inLeft inRight
    obtain ⟨found, known, _, placed⟩ := (agrees.listed seat left card).mp inLeft
    obtain ⟨again, knownToo, _, placedToo⟩ := (agrees.listed seat right card).mp inRight
    obtain rfl : found = again := Option.some.inj (known.symm.trans knownToo)
    exact different (placed.symm.trans placedToo)
  have distinct : Zone.all.Nodup := by decide
  exact distinct.imp apart

/-- The six zones of a player hold exactly the cards that belong to the player. -/
theorem held_perm (agrees : state.Agrees config) (seat : Seat) :
    (state.held seat).Perm ((state.belongings seat).map CardInstance.id) := by
  have owned : ((state.belongings seat).map CardInstance.id).Nodup :=
    agrees.nodup_ids.sublist (List.filter_sublist.map _)
  rw [List.perm_ext_iff_of_nodup (agrees.nodup_held seat) owned]
  intro card
  simp only [held, belongings, List.mem_flatMap, List.mem_map, List.mem_filter, decide_eq_true_eq]
  constructor
  · rintro ⟨zone, _, present⟩
    obtain ⟨found, known, own, _⟩ := (agrees.listed seat zone card).mp present
    exact ⟨found, ⟨List.mem_of_getElem? known, own⟩, agrees.id_eq known⟩
  · rintro ⟨found, ⟨member, own⟩, rfl⟩
    refine ⟨found.zone, Zone.mem_all _, ?_⟩
    exact (agrees.listed seat found.zone found.id).mpr ⟨found, agrees.card?_id member, own, rfl⟩

/-- What the zones of a player hold are the cards that belong to the player. -/
theorem holdings_perm (agrees : state.Agrees config) (seat : Seat) :
    (state.holdings seat).Perm ((state.belongings seat).map CardInstance.card) := by
  refine ((agrees.held_perm seat).filterMap _).trans (List.Perm.of_eq ?_)
  rw [List.filterMap_map, ← List.filterMap_eq_map]
  apply List.filterMap_congr
  intro found member
  have inside : found ∈ state.cards := (List.mem_filter.mp member).1
  rw [Function.comp_apply, agrees.card?_id inside]
  rfl

/-- A card is counted once in its zone and nowhere else. -/
theorem count_eq (agrees : state.Agrees config) {card : InstanceId} {found : CardInstance}
    (known : state.card? card = some found) (seat : Seat) (zone : Zone) :
    ((state.zones seat).cards zone).count card =
      if seat = found.owner ∧ zone = found.zone then 1 else 0 := by
  by_cases here : seat = found.owner ∧ zone = found.zone
  · rw [if_pos here, here.1, here.2]
    exact List.count_eq_one_of_mem (agrees.once _ _) (agrees.present known)
  · rw [if_neg here, List.count_eq_zero]
    intro present
    obtain ⟨again, knownToo, own, placed⟩ := (agrees.listed seat zone card).mp present
    obtain rfl : found = again := Option.some.inj (known.symm.trans knownToo)
    exact here ⟨own.symm, placed.symm⟩

end Agrees

end GameState

namespace DuelSetup

variable {setup : DuelSetup} {requests : List Request} {duel : Duel}

/-- The roster lists for each player the cards of the deck, if all of them are printed. -/
theorem roster_cards (known : ∀ seat, ∀ card ∈ setup.decks.get seat,
    (setup.rules.catalog.get? card).isSome) (seat : Seat) :
    (setup.roster.filter fun identity => identity.owner = seat).map CardIdentity.card =
      (setup.decks.get seat).reverse := by
  have whole (player : Seat) : (setup.printed player).map (fun entry => (entry.1, entry.2.1)) =
      (setup.decks.get player).reverse.map fun card => (player, card) := by
    rw [printed, List.map_filterMap, ← List.filterMap_eq_map]
    apply List.filterMap_congr
    intro card member
    obtain ⟨template, printed⟩ := Option.isSome_iff_exists.mp
      (known player card (List.mem_reverse.mp member))
    simp [printed]
  have pairs : setup.roster.map (fun identity => (identity.owner, identity.card)) =
      Seat.both.flatMap fun player =>
        (setup.decks.get player).reverse.map fun card => (player, card) := by
    have first : (Seat.both.flatMap setup.printed).zipIdx.map (fun entry =>
        (entry.1.1, entry.1.2.1)) =
          (Seat.both.flatMap setup.printed).map fun entry => (entry.1, entry.2.1) := by
      have places := List.map_map (l := (Seat.both.flatMap setup.printed).zipIdx) (f := Prod.fst)
        (g := fun entry : Seat × CardId × CardKind => (entry.1, entry.2.1))
      rw [List.zipIdx_map_fst] at places
      exact places.symm
    rw [roster, List.map_map]
    refine Eq.trans first ?_
    rw [List.map_flatMap]
    exact List.flatMap_congr fun player _ => whole player
  have split : (setup.roster.filter fun identity => identity.owner = seat).map CardIdentity.card =
      ((setup.roster.map fun identity => (identity.owner, identity.card)).filter
        fun pair => pair.1 = seat).map Prod.snd := by
    rw [List.filter_map, List.map_map]
    rfl
  rw [split, pairs]
  cases seat <;> simp [Seat.both, List.filter_map, Function.comp_def]

/-- This tells that a state keeps every card of a setup, in one place and with its identity. -/
structure Keeps (setup : DuelSetup) (state : GameState) : Prop where
  /-- Owners, catalog numbers, categories and printed stats are those of the setup. -/
  identities : state.cards.map CardInstance.identity = setup.roster
  numbered : ∀ (place : Nat) (found : CardInstance),
    state.cards[place]? = some found → found.id.index = place
  /-- A card is once in its owner's zone of the kind that the table tells, and nowhere else. -/
  placed : ∀ (card : InstanceId) (found : CardInstance), state.card? card = some found →
    ∀ (seat : Seat) (zone : Zone), ((state.zones seat).cards zone).count card =
      if seat = found.owner ∧ zone = found.zone then 1 else 0
  known : ∀ (seat : Seat) (zone : Zone), ∀ card ∈ (state.zones seat).cards zone,
    (state.card? card).isSome
  /-- A card on the field knows its place in the row. -/
  seated : ∀ (card : InstanceId) (found : CardInstance), state.card? card = some found →
    found.zone.isField = true → ∃ slot row, found.slot = some slot ∧
      (state.zones found.owner).row? found.zone = some row ∧ row[slot]? = some (some card)
  piled : ∀ (card : InstanceId) (found : CardInstance), state.card? card = some found →
    found.zone.isField = false → found.slot = none
  rows : ∀ (seat : Seat) (zone : Zone) (row : List (Option InstanceId)),
    (state.zones seat).row? zone = some row → row.length = setup.rules.config.slots zone
  /-- The six zones of a player hold the deck of the player. -/
  holdings : ∀ seat : Seat, (state.holdings seat).Perm (setup.decks.get seat)

/-- In a duel whose decks are known, a state in agreement that has all cards keeps them. -/
theorem Keeps.of_agrees {state : GameState} (agrees : state.Agrees setup.rules.config)
    (same : state.cards.map CardInstance.identity = setup.roster)
    (known : ∀ seat, ∀ card ∈ setup.decks.get seat, (setup.rules.catalog.get? card).isSome) :
    setup.Keeps state where
  identities := same
  numbered := agrees.numbered
  placed := fun _ _ present => agrees.count_eq present
  known := by
    intro seat zone card present
    obtain ⟨found, there, _⟩ := (agrees.listed seat zone card).mp present
    rw [there]
    rfl
  seated := by
    intro card found present field
    cases given : (state.zones found.owner).row? found.zone with
    | none =>
      have hidden := PlayerZones.row?_eq_none_iff.mp given
      exact absurd field (by simp [hidden])
    | some row =>
      obtain ⟨slot, told, stands⟩ := agrees.inRow card found row present given
      exact ⟨slot, row, told, rfl, stands⟩
  piled := agrees.inPile
  rows := agrees.rows
  holdings := by
    intro seat
    have owned : (state.belongings seat).map CardInstance.card =
        (setup.roster.filter fun identity => identity.owner = seat).map CardIdentity.card := by
      rw [← same, List.filter_map, List.map_map]
      rfl
    refine (agrees.holdings_perm seat).trans ?_
    rw [owned, roster_cards known seat]
    exact List.reverse_perm _

/-- Every state of a run keeps every card of the setup. -/
theorem Run.keeps_cards (fits : setup.Fits) (run : setup.Run requests duel) :
    setup.Keeps duel.state := by
  obtain ⟨start, built⟩ := run.built
  obtain ⟨_, first, second, _⟩ := build_eq_ok.mp built
  refine .of_agrees (run.shifts.agrees (withDecks_agrees fits)) (run.shifts.identities.trans
    setup.withDecks_identities) ?_
  intro seat
  cases seat with
  | first => exact (checkDeck_eq_ok.mp first).1
  | second => exact (checkDeck_eq_ok.mp second).1

/-- A duel of sentries keeps its cards when the first one is set. -/
theorem sentries_keep_cards :
    ∃ duel, sentries.Fits ∧ sentries.Run [.act .first (.setCard ⟨1⟩ [])] duel ∧
      sentries.Keeps duel.state := by
  have fits : sentries.Fits := by
    show 2 + 2 < UInt32.size
    decide
  have run : sentries.Run [.act .first (.setCard ⟨1⟩ [])] _ := .next (.start rfl) rfl
  exact ⟨_, fits, run, run.keeps_cards fits⟩

end DuelSetup

end CardDuel
