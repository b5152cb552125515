/-
This file shows that every card lies as its zone asks for: only monsters are among the monsters and only
other cards among the spells, cards of piles are face-down or face-up as a whole, and a card off the field
has neither marks nor memories of the turn. Between requests no card is marked at all.
-/

import CardDuel.Proofs.Flow.Marks
import CardDuel.Proofs.Move.Stroke
import CardDuel.Proofs.Table.Custody

namespace CardDuel

/-- These are the positions that a card can have in a zone. -/
def Zone.poses : Zone → List Position
  | monsters => [.faceUpAttack, .faceUpDefense, .faceDownDefense]
  | spells => [.faceUp, .faceDown]
  | hand | deck => [.faceDown]
  | graveyard | banished => [.faceUp]

namespace CardInstance

/-- This tells that a card did nothing this turn: none of its flags for the turn is set. -/
def isRested (card : CardInstance) : Bool :=
  !card.summonedThisTurn && !card.setThisTurn && !card.hasAttacked && !card.positionChanged

/-- This tells that the category, the zone, the position and the marks of a card agree. -/
structure Poised (catalog : Catalog) (card : CardInstance) : Prop where
  printed : ∃ template, catalog.get? card.card = some template ∧
    card.category = template.kind.category
  monsters : card.zone = .monsters → card.isMonster = true
  spells : card.zone = .spells → card.isMonster = false
  lies : card.position ∈ card.zone.poses
  rests : card.isOnField = false → card.isRested = true
  unmarked : card.isOnField = false → card.destruction = none

variable {catalog : Catalog} {card old new : CardInstance} {zone : Zone} {slot : Option Nat}
  {position : Position}

/-- The numbers and the flags of a card do not matter for its pose. -/
theorem poised_bare : card.bare.Poised catalog ↔ card.Poised catalog :=
  ⟨fun poised => ⟨poised.printed, poised.monsters, poised.spells, poised.lies, poised.rests,
    poised.unmarked⟩, fun poised => ⟨poised.printed, poised.monsters, poised.spells, poised.lies,
      poised.rests, poised.unmarked⟩⟩

namespace Poised

/-- A card that was printed as a monster is one. -/
theorem isMonster_eq (poised : card.Poised catalog) {template : CardTemplate}
    (known : catalog.get? card.card = some template) : card.isMonster = template.kind.isMonster := by
  obtain ⟨other, knownToo, category⟩ := poised.printed
  obtain rfl := Option.some.inj (known.symm.trans knownToo)
  rw [isMonster, category]
  cases template.kind <;> rfl

/-- A card can be turned within its zone. -/
theorem turn (poised : card.Poised catalog) (fits : position ∈ card.zone.poses) :
    ({ card with position := position } : CardInstance).Poised catalog :=
  ⟨poised.printed, poised.monsters, poised.spells, fits, poised.rests, poised.unmarked⟩

/-- A card comes to lie as it is put, and it is rested and without a mark. -/
theorem relocate (poised : card.Poised catalog) (fits : position ∈ zone.poses)
    (monsters : zone = .monsters → card.isMonster = true)
    (spells : zone = .spells → card.isMonster = false) :
    (card.relocate zone slot position).Poised catalog := by
  have identity := card.identity_relocate zone slot position
  have name : (card.relocate zone slot position).card = card.card :=
    congrArg CardIdentity.card identity
  have category : (card.relocate zone slot position).category = card.category :=
    congrArg CardIdentity.category identity
  have same : (card.relocate zone slot position).isMonster = card.isMonster := by
    rw [isMonster, isMonster, category]
  refine ⟨?_, ?_, ?_, ?_, ?_, fun _ => card.destruction_relocate zone slot position⟩
  · rw [name, category]
    exact poised.printed
  · rw [zone_relocate, same]
    exact monsters
  · rw [zone_relocate, same]
    exact spells
  · rw [zone_relocate, position_relocate]
    exact fits
  · intro _
    unfold CardInstance.relocate
    dsimp only
    split <;> rfl

/-- A card of the field may get any marks. -/
theorem noted (poised : card.Poised catalog) (field : card.isOnField = true)
    (same : new = { card with
      summonedThisTurn := new.summonedThisTurn
      setThisTurn := new.setThisTurn
      hasAttacked := new.hasAttacked
      positionChanged := new.positionChanged
      destruction := new.destruction }) : new.Poised catalog := by
  have stays : new.isOnField = true := by
    rw [same]
    exact field
  refine ⟨?_, ?_, ?_, ?_, by simp [stays], by simp [stays]⟩
  all_goals rw [same]
  · exact poised.printed
  · exact poised.monsters
  · exact poised.spells
  · exact poised.lies

end Poised

/-- A lawful deed leaves every card as its zone asks for. -/
theorem Handled.poised (handled : old.Handled new) (poised : old.Poised catalog) :
    new.Poised catalog := by
  cases handled with
  | kept same =>
    rw [← poised_bare, same, poised_bare]
    exact poised
  | @turned position monsters upright =>
    refine poised.turn ?_
    rw [monsters]
    cases position <;> simp_all [Zone.poses, Position.isUpright]
  | marked cause field => exact poised.noted field rfl
  | unmarked =>
    exact ⟨poised.printed, poised.monsters, poised.spells, poised.lies, poised.rests, fun _ => rfl⟩
  | @arrived card zone slot position note events arrival =>
    cases arrival with
    | moved pile =>
      refine poised.relocate ?_ ?_ ?_
      all_goals cases zone <;> simp_all [Zone.isField, Zone.poses, Position.inPile, Zone.isHidden]
    | destroyed byBattle => exact poised.relocate (by decide) (by simp) (by simp)
    | drawn player => exact poised.relocate (by decide) (by simp) (by simp)
    | @summoned position kind monster upright comes =>
      have arrived : (old.relocate .monsters slot position).Poised catalog := by
        refine poised.relocate ?_ (fun _ => monster) (by simp)
        cases position <;> simp_all [Zone.poses, Position.isUpright]
      exact arrived.noted (by simp [isOnField, Zone.isField]) rfl
    | setMonster monster =>
      have arrived : (old.relocate .monsters slot .faceDownDefense).Poised catalog :=
        poised.relocate (by decide) (fun _ => monster) (by simp)
      exact arrived.noted (by simp [isOnField, Zone.isField]) rfl
    | setSpell other =>
      have arrived : (old.relocate .spells slot .faceDown).Poised catalog :=
        poised.relocate (by decide) (by simp) fun _ => other
      exact arrived.noted (by simp [isOnField, Zone.isField]) rfl

end CardInstance

namespace GameState

variable {catalog : Catalog} {ways : Placement → Prop} {rules : Rules} {before after state : GameState}
  {events : List GameEvent}

/-- This tells that every card of the table lies as its zone asks for. -/
def Poised (state : GameState) (catalog : Catalog) : Prop :=
  ∀ found ∈ state.cards, found.Poised catalog

/-- If every card comes from one that makes it lie as it should, all cards do. -/
theorem Poised.of_entries (poised : before.Poised catalog)
    (each : ∀ (place : Nat) (new : CardInstance), after.cards[place]? = some new →
      ∃ old, before.cards[place]? = some old ∧ (old.Poised catalog → new.Poised catalog)) :
    after.Poised catalog := by
  intro new member
  obtain ⟨place, there⟩ := List.mem_iff_getElem?.mp member
  obtain ⟨old, early, follows⟩ := each place new there
  exact follows (poised old (List.mem_of_getElem? early))

theorem Poised.of_cards (poised : before.Poised catalog) (cards : after.cards = before.cards) :
    after.Poised catalog := fun found member => poised found (cards ▸ member)

/-- Only cards of the field are marked in a state whose cards are poised. -/
theorem Poised.marksField (poised : state.Poised catalog) : state.MarksField :=
  fun found member => (poised found member).unmarked

/-- Only a spell or trap is activated, so every stroke leaves the cards as their zones ask for. -/
theorem Stroke.poised (stroke : Stroke catalog ways before events after)
    (poised : before.Poised catalog) : after.Poised catalog := by
  cases stroke with
  | handle handling =>
    apply poised.of_entries
    intro place new there
    obtain ⟨old, early, handled⟩ := handling.entry there
    exact ⟨old, early, handled.poised⟩
  | announce known printed otherwise => exact poised.of_cards rfl
  | enter allowed known printed activates hand moved =>
    apply poised.of_entries
    intro place new there
    obtain ⟨found, remaining, knownToo, _, _, _, rfl⟩ := relocate_cases moved
    obtain rfl := Option.some.inj (knownToo.symm.trans known)
    rcases of_getElem?_arrived there with stayed | ⟨rfl, old, slot, early, rfl⟩
    · exact ⟨new, stayed, id⟩
    · obtain rfl := Option.some.inj (known.symm.trans early)
      refine ⟨found, known, ?_⟩
      intro posed
      obtain ⟨template, named, _⟩ := posed.printed
      have spell := activates.spell template (printed ▸ named)
      exact posed.relocate (by decide) (by simp) fun _ => (posed.isMonster_eq named).trans spell
  | reveal known printed activates spells =>
    apply poised.of_entries
    intro place new there
    refine of_modifyCard (fun old new => old.Poised catalog → new.Poised catalog) (fun _ => id)
      (fun old knownToo posed => posed.turn ?_) there
    obtain rfl := Option.some.inj (known.symm.trans knownToo)
    rw [spells]
    decide
  | aside aside =>
    apply poised.of_entries
    intro place new there
    obtain ⟨old, early, noted⟩ := aside.noted place new there
    refine ⟨old, early, ?_⟩
    intro posed
    cases field : old.isOnField with
    | true => exact posed.noted field (by rw [noted.same])
    | false => exact noted.offField field ▸ posed
  | tell silent => exact poised.of_cards rfl
  | newTurn seat =>
    apply poised.of_entries
    intro place new there
    rw [getElem?_passTurn] at there
    obtain ⟨old, early, rfl⟩ := Option.map_eq_some_iff.mp there
    exact ⟨old, early, fun posed => ⟨posed.printed, posed.monsters, posed.spells, posed.lies,
      fun _ => rfl, posed.unmarked⟩⟩
  | rearrange same => exact poised.of_cards same.cards

/-- Moves keep all cards poised. -/
theorem Moves.poised (moves : Moves rules ways before after)
    (poised : before.Poised rules.catalog) : after.Poised rules.catalog := by
  obtain ⟨events, strokes⟩ := moves.struck
  exact strokes.keeps (fun stroke => stroke.poised) poised

/-! Between requests -/

/-- A resolved attack leaves no mark. -/
theorem resolveAttack_unmarked (anchored : state.Anchored) (poised : state.Poised rules.catalog)
    (unmarked : state.Unmarked) : (state.resolveAttack rules.catalog).Unmarked := by
  rw [resolveAttack]
  split
  · exact unmarked
  · next attack waits =>
    dsimp only
    split
    · next both =>
      obtain ⟨there, stands⟩ := Bool.and_eq_true_iff.mp both
      obtain ⟨fought, deeds, same⟩ := fight_deeds rules.catalog there stands
      have moves : Moves rules (fun _ => True) state
          (fought.record (.battleResolved attack.attacker attack.target)) :=
        .of_acts (.of_act (.conclude waits deeds (.inr rfl)))
      rw [same]
      exact sweep_unmarked (moves.shifts.anchored anchored) (moves.poised poised).marksField _
    · exact unmarked.of_cards rfl

/-- Settling leaves no mark. -/
theorem settle_unmarked (anchored : state.Anchored) (poised : state.Poised rules.catalog)
    (unmarked : state.Unmarked) : (state.settle rules.catalog).Unmarked := by
  -- Marks alone are not kept by an attack: its sweep clears them because only cards of the field bear any.
  refine settle_keeps (fun later => later.Anchored ∧ later.Poised rules.catalog ∧ later.Unmarked) Unmarked
    ?_ ?_ ?_ ⟨anchored, poised, unmarked⟩
  · rintro last ⟨_, _, unmarked⟩ _
    exact unmarked.of_cards rfl
  · rintro last ⟨_, _, unmarked⟩
    exact unmarked
  · rintro before after ⟨anchored, poised, unmarked⟩ _ taken
    have moves : Moves rules (fun _ => True) before after := settleStep?_moves trivial anchored taken
    refine ⟨moves.shifts.anchored anchored, moves.poised poised, ?_⟩
    obtain ⟨_, ⟨_, rfl⟩ | ⟨_, _, rfl⟩⟩ := settleStep?_eq_some taken
    · exact openWindow_unmarked unmarked
    · exact resolveAttack_unmarked anchored poised unmarked

/-- The start of a turn leaves no mark. -/
theorem startTurn_unmarked (free : state.Free) (anchored : state.Anchored)
    (poised : state.Poised rules.catalog) : (state.startTurn rules).Unmarked := by
  have moves : Moves rules (fun _ => True) state (state.drawn rules) := .of_acts (drawn_acts free).1
  have swept := sweep_unmarked (moves.shifts.anchored anchored) (moves.poised poised).marksField
    rules.catalog
  have entered {start : GameState} (clean : start.Unmarked) (phase : Phase) :
      (start.enterPhase phase).Unmarked := clean.of_cards rfl
  rw [startTurn_eq]
  split
  · exact swept
  · exact entered (entered swept .standby) .main1

/-- Every request that is accepted leaves no mark. -/
theorem step_unmarked {player : Seat} {action : Action} {next : GameState}
    (orderly : state.outcome = none → state.Orderly) (anchored : state.Anchored)
    (poised : state.Poised rules.catalog) (stepped : state.step rules player action = .ok next) :
    next.Unmarked := by
  obtain ⟨running, acted, dispatched, rfl⟩ := step_eq_ok.mp stepped
  have moves : Moves rules (fun _ => True) state acted :=
    .of_acts (dispatch_acts (orderly running) (fun _ _ _ _ _ _ _ => trivial) dispatched)
  have swept := sweep_unmarked (moves.shifts.anchored anchored) (moves.poised poised).marksField
    rules.catalog
  have sweeps := moves.trans (sweep_moves acted rules.catalog)
  have settled := settle_unmarked (sweeps.shifts.anchored anchored) (sweeps.poised poised) swept
  exact settled.of_cards rfl

end GameState

namespace DuelSetup

open GameState

variable {setup : DuelSetup} {requests : List Request} {duel : Duel}

/-- The cards of the full decks are printed in the catalog and lie face-down. -/
theorem withDecks_poised (setup : DuelSetup) : setup.withDecks.Poised setup.rules.catalog := by
  intro found member
  obtain ⟨id, card, owner, template, known, rfl⟩ := mem_withDecks setup member
  refine ⟨⟨template, known, rfl⟩, ?_, ?_, ?_, fun _ => rfl, fun _ => rfl⟩
  all_goals simp [CardInstance.create, Zone.poses]

/-- The cards of every reached state are poised. -/
theorem Run.poised (run : setup.Run requests duel) : duel.state.Poised setup.rules.catalog :=
  run.moves.poised setup.withDecks_poised

/-- No card is marked at the start of a duel. -/
theorem build_unmarked (built : setup.build = .ok duel) : duel.state.Unmarked := by
  obtain ⟨_, _, _, dealt, hands, rfl⟩ := build_eq_ok.mp built
  have deeds : Deeds setup.rules.catalog.MayMake setup.withDecks dealt :=
    dealHands_deeds (fun state _ => .plain state _ rfl rfl) (fun state _ _ => .plain state _ rfl rfl) hands
  have free : dealt.Free := Free.course ⟨rfl, rfl⟩ (setup.withDecks_frame.trans deeds.frame).toCourse
  have dealing : Moves setup.rules (fun _ => True) setup.withDecks dealt :=
    .of_acts (.of_deeds deeds)
  have beginning : Moves setup.rules (fun _ => True) setup.withDecks
      (dealt.startTurn setup.rules) := dealing.trans (.of_acts (startTurn_acts free))
  exact settle_unmarked (beginning.shifts.anchored setup.withDecks_anchored)
    (beginning.poised setup.withDecks_poised)
    (startTurn_unmarked free (dealing.shifts.anchored setup.withDecks_anchored)
      (dealing.poised setup.withDecks_poised))

/-- No card is marked in a reached state. -/
theorem Run.unmarked (run : setup.Run requests duel) : duel.state.Unmarked := by
  cases run with
  | start built => exact build_unmarked built
  | next earlier served =>
    obtain ⟨_, player, action, stepped, _⟩ := Duel.serve_eq_ok served
    rw [earlier.rules] at stepped
    exact step_unmarked (fun running => (earlier.atRest.running running).1) earlier.anchored
      earlier.poised stepped

/-- Outside the decks a zone lists only cards that the table puts there. -/
theorem Run.lists (run : setup.Run requests duel) {zone : Zone} (away : zone ≠ .deck) :
    duel.state.Lists zone := run.shifts.lists (setup.withDecks_lists away)

/--
Every card has its printed category, lies as its zone asks for and is not marked, and off the field it has
no memory of the turn. Every zone holds only cards that the table puts there; for the decks this needs
numbers for all cards.
-/
theorem Run.keeps_posture (run : setup.Run requests duel) :
    (∀ found ∈ duel.state.cards,
      found.Poised setup.rules.catalog ∧ found.destruction = none) ∧
    ∀ seat zone card, zone ≠ .deck ∨ setup.Fits → card ∈ (duel.state.zones seat).cards zone →
      ∃ found ∈ duel.state.cards, duel.state.card? card = some found ∧
        found.owner = seat ∧ found.zone = zone := by
  refine ⟨fun found member => ⟨run.poised found member, run.unmarked found member⟩, ?_⟩
  intro seat zone card known listed
  have lists : duel.state.Lists zone := by
    rcases known with away | fits
    · exact run.lists away
    · exact (run.shifts.agrees (withDecks_agrees fits)).lists zone
  obtain ⟨found, there, own, placed⟩ := (lists.listed seat card).mp listed
  exact ⟨found, List.mem_of_getElem? there, there, own, placed⟩

/-- A summoned sentry is a monster that stands in attack position, and it is not marked. -/
theorem sentries_keep_posture :
    ∃ duel found, sentries.Run [.act .first (.normalSummon ⟨1⟩ [])] duel ∧
      (duel.state.zones .first).cards .monsters = [⟨1⟩] ∧ duel.state.card? ⟨1⟩ = some found ∧
      found.zone = .monsters ∧ found.position = .faceUpAttack ∧
      found.Poised sentries.rules.catalog ∧ found.destruction = none := by
  have played : (sentries.play? [.act .first (.normalSummon ⟨1⟩ [])]).any (fun duel =>
      decide ((duel.state.zones .first).cards .monsters = [⟨1⟩] ∧
        (duel.state.card? ⟨1⟩).map CardInstance.position = some .faceUpAttack)) = true := by
    decide +kernel
  obtain ⟨duel, followed, facts⟩ := (Option.any_eq_true _ _).mp played
  obtain ⟨monsters, position⟩ := of_decide_eq_true facts
  have run : sentries.Run [.act .first (.normalSummon ⟨1⟩ [])] duel := .of_play followed
  obtain ⟨poised, listed⟩ := run.keeps_posture
  obtain ⟨found, member, known, _, placed⟩ :=
    listed .first .monsters ⟨1⟩ (.inl (by decide)) (by simp [monsters])
  rw [known] at position
  exact ⟨duel, found, run, monsters, known, placed, Option.some.inj position, poised found member⟩

end DuelSetup

end CardDuel
