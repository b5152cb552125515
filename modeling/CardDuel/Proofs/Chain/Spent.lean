/-
This file shows that no spent spell or trap lingers: a card that lies face-up among the spells and does not
stay there is the source of an activation that waits on the chain, and it has not moved since.
-/

import CardDuel.Proofs.Continuous.Start
import CardDuel.Proofs.Move.Handling
import CardDuel.Proofs.Move.Tale
import CardDuel.Proofs.Move.Waiting
import CardDuel.Proofs.Table.Posture

namespace CardDuel

/-- This is a card as the object that it is until it moves. -/
structure CardObject where
  id : InstanceId
  card : CardId
  moves : UInt32
deriving DecidableEq

namespace CardInstance

def object (card : CardInstance) : CardObject := ⟨card.id, card.card, card.moves⟩

/-- This tells whether a card lies face-up among the spells. -/
def isShown (card : CardInstance) : Bool := card.zone = .spells && card.position.isFaceUp

theorem isOnField_of_isShown {card : CardInstance} (shown : card.isShown = true) :
    card.isOnField = true := by
  simp only [isShown, Bool.and_eq_true, decide_eq_true_eq] at shown
  rw [isOnField, shown.1]
  rfl

/-- No lawful deed lays a card face-up among the spells. -/
theorem Handled.shown {old new : CardInstance} (handled : old.Handled new)
    (shown : new.isShown = true) : old.isShown = true ∧ old.object = new.object := by
  cases handled with
  | kept same =>
    have shows : new.isShown = old.isShown := congrArg (·.isShown) same
    have object : new.object = old.object := congrArg (·.object) same
    exact ⟨shows ▸ shown, object.symm⟩
  | turned monsters upright => simp [isShown, monsters] at shown
  | marked cause field => exact ⟨shown, rfl⟩
  | unmarked => exact ⟨shown, rfl⟩
  | @arrived card zone slot position note events arrival =>
    cases arrival with
    | moved pile =>
      cases zone <;> simp_all [isShown, Zone.isField]
    | setSpell other => simp [isShown, Position.isFaceUp] at shown
    | _ => simp [isShown] at shown

end CardInstance

def ChainLink.object (link : ChainLink) : CardObject := ⟨link.source, link.card, link.sourceMoves⟩

namespace Catalog

def plays (catalog : Catalog) (link : ChainLink) : Bool :=
  (catalog.effect? link.card link.effect).any fun effect => effect.kind = .activate

/-- These are the objects of which activations are on a chain. -/
def held (catalog : Catalog) (links : List ChainLink) : List CardObject :=
  (links.filter catalog.plays).map ChainLink.object

/-- This tells whether a printed card stays on the field. -/
def keeps (catalog : Catalog) (card : CardId) : Prop :=
  ∃ template, catalog.get? card = some template ∧ template.kind.staysOnField = true

variable {catalog : Catalog} {link : ChainLink} {links : List ChainLink}

theorem Activates.plays (activates : catalog.Activates link) : catalog.plays link = true := by
  obtain ⟨effect, known, kind⟩ := activates.kind
  rw [Catalog.plays, known]
  simp [kind]

theorem held_append (more : List ChainLink) :
    catalog.held (links ++ more) = catalog.held links ++ catalog.held more := by
  rw [held, List.filter_append, List.map_append]
  rfl

theorem mem_held {object : CardObject} : object ∈ catalog.held links ↔
    ∃ link ∈ links, catalog.plays link = true ∧ link.object = object := by
  simp [held, and_assoc]

/-- Negations do not matter for what is held. -/
theorem held_of_bare {others : List ChainLink}
    (same : others.map ChainLink.bare = links.map ChainLink.bare) :
    catalog.held others = catalog.held links := by
  have bared (links : List ChainLink) : catalog.held (links.map ChainLink.bare) = catalog.held links := by
    rw [held, held, List.filter_map, List.map_map]
    rfl
  rw [← bared, same, bared]

end Catalog

namespace GameState

/-- These are the objects that lie face-up among the spells. -/
def shown (state : GameState) : List CardObject :=
  (state.cards.filter CardInstance.isShown).map CardInstance.object

variable {catalog : Catalog} {rules : Rules} {ways : Placement → Prop}
  {before after state : GameState} {link : ChainLink} {object : CardObject}

theorem mem_shown : object ∈ state.shown ↔
    ∃ found ∈ state.cards, found.isShown = true ∧ found.object = object := by
  simp [shown, and_assoc]

/-- If every shown card was shown before as the same object, nothing new is shown. -/
theorem shown_subset (each : ∀ (place : Nat) (new : CardInstance), after.cards[place]? = some new →
    new.isShown = true → ∃ old, before.cards[place]? = some old ∧ old.isShown = true ∧
      old.object = new.object) : after.shown ⊆ before.shown := by
  intro object member
  obtain ⟨new, listed, shows, rfl⟩ := mem_shown.mp member
  obtain ⟨place, there⟩ := List.mem_iff_getElem?.mp listed
  obtain ⟨old, early, shown, same⟩ := each place new there shows
  exact mem_shown.mpr ⟨old, List.mem_of_getElem? early, shown, same⟩

/-- Deeds show no new card. -/
theorem Deeds.shown (deeds : Deeds catalog.MayMake before after) : after.shown ⊆ before.shown := by
  induction deeds with
  | refl => exact List.Subset.refl _
  | tail _ deed ih =>
    obtain ⟨events, handling⟩ := deed.handling
    refine List.Subset.trans (shown_subset ?_) ih
    intro place new there shows
    obtain ⟨old, early, handled⟩ := handling.entry there
    exact ⟨old, early, handled.shown shows⟩

theorem Aside.shown (aside : Aside before after) : after.shown ⊆ before.shown := by
  apply shown_subset
  intro place new there shows
  obtain ⟨old, early, noted⟩ := aside.noted place new there
  rw [noted.same] at shows ⊢
  exact ⟨old, early, shows, rfl⟩

theorem shown_passTurn (state : GameState) (seat : Seat) :
    (state.passTurn seat).shown ⊆ state.shown := by
  apply shown_subset
  intro place new there shows
  rw [getElem?_passTurn] at there
  obtain ⟨old, early, rfl⟩ := Option.map_eq_some_iff.mp there
  exact ⟨old, early, shows, rfl⟩

/-- Only the card of an activation can come to lie face-up among the spells. -/
theorem Placing.shown {way : Placement} (placing : Placing catalog link way before after)
    (anchored : before.Anchored) : ∀ object ∈ after.shown, object ∈ before.shown ∨
      object.id = link.source ∧ catalog.plays link = true := by
  intro object member
  cases placing with
  | stay otherwise => exact .inl member
  | @enter _ _ found activates known hand made =>
    simp only [Change.apply, bind_eq_ok, pure_eq_ok] at made
    obtain ⟨_, _, ⟨_, middle⟩, moved, rfl⟩ := made
    obtain ⟨other, remaining, _, _, _, _, rfl⟩ := relocate_cases moved
    obtain ⟨new, listed, shows, rfl⟩ := mem_shown.mp member
    obtain ⟨place, there⟩ := List.mem_iff_getElem?.mp listed
    rcases of_getElem?_arrived there with stayed | ⟨rfl, old, slot, early, rfl⟩
    · exact .inl (mem_shown.mpr ⟨new, List.mem_of_getElem? stayed, shows, rfl⟩)
    · refine .inr ⟨?_, activates.plays⟩
      exact (congrArg CardIdentity.id (old.identity_relocate _ slot _)).trans (anchored.id_eq early)
  | @turn _ _ found activates known spells made =>
    simp only [Change.apply, bind_eq_ok, pure_eq_ok, onField_eq_ok] at made
    obtain ⟨_, ⟨_, _, _, rfl⟩, rfl⟩ := made
    obtain ⟨new, listed, shows, rfl⟩ := mem_shown.mp member
    obtain ⟨place, there⟩ := List.mem_iff_getElem?.mp listed
    rw [cards_record, getElem?_modifyCard] at there
    split at there
    · next here =>
      subst here
      obtain ⟨old, early, rfl⟩ := Option.map_eq_some_iff.mp there
      exact .inr ⟨anchored.id_eq early, activates.plays⟩
    · exact .inl (mem_shown.mpr ⟨new, List.mem_of_getElem? there, shows, rfl⟩)

theorem shown_carried (state : GameState) (catalog : Catalog) (link : ChainLink) :
    (state.carried catalog link).shown ⊆ state.shown := by
  show (state.carryOut catalog link).1.shown ⊆ state.shown
  rcases carryOut_cases state catalog link with deeds | ⟨_, _, _, _, same⟩
  · exact deeds.shown
  · rw [same]
    exact List.Subset.refl state.shown

/-- A shown object is found among the spells. -/
theorem Anchored.card?_of_shown (anchored : state.Anchored) (member : object ∈ state.shown) :
    ∃ found, state.card? object.id = some found ∧ found.zone = .spells ∧ found.object = object := by
  obtain ⟨found, inside, shows, rfl⟩ := mem_shown.mp member
  have spells : found.zone = .spells := by
    simp only [CardInstance.isShown, Bool.and_eq_true, decide_eq_true_eq] at shows
    exact shows.1
  exact ⟨found, anchored.card?_id inside (by simp [spells]), spells, rfl⟩

/-- A card that is listed in its zone can be sent to the graveyard, and then it is there. -/
theorem Lists.toGraveyard {card : InstanceId} {found : CardInstance}
    (lists : state.Lists found.zone) (known : state.card? card = some found) :
    ∃ next, (Change.toGraveyard card).apply state = .ok next ∧
      ∀ later, next.card? card = some later → later.zone = .graveyard := by
  have room : (state.zones found.owner).HasRoom .graveyard := fun field => by cases field
  obtain ⟨next, moved⟩ : ∃ next, state.relocate card .graveyard .top (.inPile .graveyard) =
      .ok (found.zone, next) := relocate_ok known (lists.present known) room
  refine ⟨next.record (.cardMoved card found.zone .graveyard), ?_, ?_⟩
  · simp only [Change.toGraveyard, Change.apply, moved]
    rfl
  · intro later there
    obtain ⟨other, remaining, _, _, _, _, rfl⟩ := relocate_cases moved
    rw [card?_record, card?_arrived, if_pos rfl, known, Option.map_some] at there
    obtain rfl := Option.some.inj there
    exact found.zone_relocate _ _ _

/-- After an activation, its card is not shown any more as the same object unless it stays. -/
theorem finishActivation_shown (anchored : state.Anchored) (lists : state.Lists .spells)
    (plays : catalog.plays link = true)
    (member : link.object ∈ (state.finishActivation catalog link).shown) :
    catalog.keeps link.card := by
  by_contra leaves
  obtain ⟨effect, known, kind⟩ := (Option.any_eq_true _ _).mp plays
  obtain ⟨template, named, listed⟩ := Option.bind_eq_some_iff.mp known
  have goes : template.kind.staysOnField = false :=
    Bool.eq_false_iff.mpr fun stays => leaves ⟨template, named, stays⟩
  have deeds : Deeds catalog.MayMake state (state.finishActivation catalog link) :=
    finishActivation_deeds state catalog link fun current => .plain current _ rfl rfl
  -- The card is still the one that was activated, so it goes to the graveyard.
  obtain ⟨found, there, spells, same⟩ := anchored.card?_of_shown (deeds.shown member)
  have remains : state.sourceRemains link = true := by
    have moves : found.moves = link.sourceMoves := congrArg CardObject.moves same
    simp [sourceRemains, show state.card? link.source = some found from there, spells, moves]
  have home : state.Lists found.zone := by rwa [spells]
  obtain ⟨next, made, buried⟩ := home.toGraveyard there
  have made : (Change.toGraveyard link.source).apply state = .ok next := made
  have finished : state.finishActivation catalog link = next := by
    rw [finishActivation, named]
    simp [listed, kind, goes, remains, Change.applyPossible, made]
  obtain ⟨later, thereToo, spellsToo, _⟩ :=
    (deeds.shifts.anchored anchored).card?_of_shown member
  rw [finished] at thereToo
  simp [buried later thereToo] at spellsToo

/-- This tells that every object that is shown stays on the field or is held by the chain. -/
def Backed (state : GameState) (catalog : Catalog) : Prop :=
  ∀ object ∈ state.shown, catalog.keeps object.card ∨ object ∈ catalog.held state.chain.links

namespace Backed

/-- Where nothing new is shown and the links stay, everything stays backed. -/
theorem same (backed : before.Backed catalog) (shown : after.shown ⊆ before.shown)
    (links : after.chain.links.map ChainLink.bare = before.chain.links.map ChainLink.bare) :
    after.Backed catalog := by
  intro object member
  rw [Catalog.held_of_bare links]
  exact backed object (shown member)

/-- A spell or trap that a use lays face-up is held by the new link. -/
theorem use {early placed late : GameState} {way : Placement} (backed : before.Backed catalog)
    (anchored : before.Anchored) (may : before.MayUse catalog link)
    (first : Deeds catalog.MayMake before early)
    (placing : Placing catalog link way
      (early.record (.effectActivated link.source link.effect link.controller)) placed)
    (second : Deeds catalog.MayMake placed late)
    (held : ∀ found, late.card? link.source = some found → link.sourceMoves = found.moves) :
    (late.used link).Backed catalog := by
  intro object member
  have frame := use_frame first placing second
  have links : catalog.held (late.used link).chain.links = catalog.held before.chain.links ++
      catalog.held [{ link with number := late.chain.links.length + 1 }] := by
    show catalog.held (late.chain.links ++ [_]) = _
    rw [Catalog.held_append, Catalog.held_of_bare frame.links]
  have told : Shifts before (early.record (.effectActivated link.source link.effect
      link.controller)) := first.shifts.then_still (.record early _)
  have shifts : Shifts before late := (told.trans placing.deeds.shifts).trans second.shifts
  rw [links, List.mem_append]
  rcases placing.shown (told.anchored anchored) object (second.shown member) with
    old | ⟨own, plays⟩
  · exact (backed object (first.shown old)).imp_right .inl
  · right; right
    obtain ⟨found, there, _, rfl⟩ := (shifts.anchored anchored).card?_of_shown member
    obtain ⟨source, effect, known, printed, _⟩ := may.allowed
    obtain ⟨same, present, stays⟩ := shifts.printed known
    rw [own] at there
    obtain rfl := Option.some.inj (there.symm.trans present)
    refine Catalog.mem_held.mpr ⟨_, List.mem_singleton_self _, plays, ?_⟩
    rw [ChainLink.object, CardInstance.object, held found there, printed, stays]
    exact congrArg (fun id : InstanceId => CardObject.mk id source.card found.moves) own.symm

/-- What a link held is gone after its resolution, or it stays on the field. -/
theorem resolve {chain : Chain} (backed : before.Backed catalog) (anchored : before.Anchored)
    (lists : before.Lists .spells) (popped : before.chain.pop? = some (link, chain)) :
    ({ before with chain := chain }.spent catalog link).Backed catalog := by
  intro object member
  have taken : Shifts before { before with chain := chain } := .of_still ⟨rfl, fun _ => rfl⟩
  have carried : Shifts before ({ before with chain := chain }.carried catalog link) :=
    (taken.trans (carryOut_edits _ catalog link).shifts).then_still (.record _ _)
  have early : object ∈ before.shown := shown_carried { before with chain := chain } catalog link
    ((spent_deeds { before with chain := chain } catalog link).shown member)
  rw [Catalog.held_of_bare (spent_frame { before with chain := chain } catalog link).links]
  have links := (Chain.pop?_eq_some popped).1
  rcases backed object early with keeps | held
  · exact .inl keeps
  · rw [links, Catalog.held_append, List.mem_append] at held
    refine held.symm.imp ?_ id
    intro last
    obtain ⟨other, same, plays, rfl⟩ := Catalog.mem_held.mp last
    obtain rfl := List.mem_singleton.mp same
    exact finishActivation_shown (carried.anchored anchored) (carried.lists lists)
      plays member

end Backed

/-- Every act keeps what is shown backed while the duel goes on. -/
theorem Act.backed (act : Act rules ways before after) (anchored : before.Anchored)
    (lists : before.Lists .spells) (backed : before.Backed rules.catalog)
    (running : after.outcome = none) : after.Backed rules.catalog := by
  have none {state : GameState} : state.shown ⊆ state.shown := List.Subset.refl _
  cases act with
  | deed deed => exact backed.same (Deeds.of_deed deed).shown deed.frame.links
  | aside aside => exact backed.same aside.shown (by rw [aside.chain])
  | note remark => exact backed.same none rfl
  | enter free phase => exact backed.same none rfl
  | newTurn free seat => exact backed.same (shown_passTurn before seat) (by rw [free.unlinked]; rfl)
  | attack aim peaceful there aimed => exact backed.same none rfl
  | conclude waits deeds ends => exact backed.same deeds.shown deeds.frame.links
  | finish goesOn result => simp [record] at running
  | use may first placing second held => exact backed.use anchored may first placing second held
  | answer same => exact backed.same none (congrArg (List.map ChainLink.bare) same)
  | resolve goesOn popped => exact backed.resolve anchored lists popped
  | clear drained priority =>
    exact backed.same none (by rw [drained running]; rfl)

/-- Every shown card stays backed by its link through a move. -/
theorem Move.backed (move : Move rules ways before after) (anchored : before.Anchored)
    (lists : before.Lists .spells)
    (backed : before.outcome = none → before.Backed rules.catalog) (running : after.outcome = none) :
    after.Backed rules.catalog := by
  cases move with
  | act act => exact act.backed anchored lists (backed (act.running running)) running
  | offer events window => exact (backed running).same (List.Subset.refl _) rfl
  | drop ended =>
    change before.outcome = none at running
    simp [running] at ended

theorem Moves.backed (moves : Moves rules ways before after) (anchored : before.Anchored)
    (lists : before.Lists .spells) (backed : before.Backed rules.catalog)
    (running : after.outcome = none) : after.Backed rules.catalog := by
  induction moves with
  | refl => exact backed
  | tail earlier move ih =>
    have shifts : Shifts before _ := Moves.shifts earlier
    exact move.backed (shifts.anchored anchored) (shifts.lists lists) ih running

end GameState

namespace DuelSetup

open GameState

variable {setup : DuelSetup} {requests : List Request} {duel : Duel}

/-- In every state of a running duel the shown cards are backed by links. -/
theorem Run.backed (run : setup.Run requests duel) (running : duel.state.outcome = none) :
    duel.state.Backed setup.rules.catalog := by
  refine run.moves.backed setup.withDecks_anchored (setup.withDecks_lists (by decide)) ?_ running
  intro object member
  obtain ⟨found, inside, shows, _⟩ := mem_shown.mp member
  have away := setup.withDecks_offField found inside
  simp [CardInstance.isOnField_of_isShown shows] at away

/--
While the duel goes on, every card that lies face-up among the spells stays on the field by its kind, or it
is the source of an activation that waits on the chain and it has not moved since. So with an empty chain
only cards that stay on the field lie there.
-/
theorem Run.keeps_no_spent (run : setup.Run requests duel) (running : duel.state.outcome = none) :
    ∀ found ∈ duel.state.cards, found.zone = .spells → found.position.isFaceUp = true →
      ∃ template, setup.rules.catalog.get? found.card = some template ∧
        (template.kind.staysOnField = false → ∃ link ∈ duel.state.chain.links,
          link.source = found.id ∧ link.card = found.card ∧ link.sourceMoves = found.moves ∧
          ∃ effect, setup.rules.catalog.effect? link.card link.effect = some effect ∧
            effect.kind = .activate) ∧
        (duel.state.chain.links = [] → template.kind.staysOnField = true) := by
  intro found member spells faceUp
  obtain ⟨template, known, _⟩ := (run.poised found member).printed
  have shown : found.object ∈ duel.state.shown :=
    mem_shown.mpr ⟨found, member, by simp [CardInstance.isShown, spells, faceUp], rfl⟩
  have waits : template.kind.staysOnField = false → ∃ link ∈ duel.state.chain.links,
      link.source = found.id ∧ link.card = found.card ∧ link.sourceMoves = found.moves ∧
      ∃ effect, setup.rules.catalog.effect? link.card link.effect = some effect ∧
        effect.kind = .activate := by
    intro goes
    rcases run.backed running found.object shown with ⟨other, knownToo, stays⟩ | held
    · obtain rfl := Option.some.inj (known.symm.trans knownToo)
      simp [goes] at stays
    · obtain ⟨link, listed, plays, same⟩ := Catalog.mem_held.mp held
      obtain ⟨effect, given, kind⟩ := (Option.any_eq_true _ _).mp plays
      exact ⟨link, listed, congrArg CardObject.id same, congrArg CardObject.card same,
        congrArg CardObject.moves same, effect, given, by simpa using kind⟩
  refine ⟨template, known, waits, ?_⟩
  intro empty
  by_contra goes
  obtain ⟨link, listed, _⟩ := waits (by simpa using goes)
  simp [empty] at listed

/-- This is a duel in which each player has one spell that gives a life point. -/
def candles : DuelSetup where
  rules := ⟨⟨[⟨⟨1⟩, "Candle", .spell .normal,
    [CardEffect.plain .activate .one (.act (.gainLife 1) .controller)], [], none⟩]⟩,
    { DuelConfig.standard with startingHand := 1 }⟩
  decks := .replicate [⟨1⟩]
  seed := 0
  shuffle := false
  firstPlayer := .first

/-- A candle that was activated lies face-up, held by its link, until the link is resolved. -/
theorem candles_keep_no_spent :
    ∃ lit burnt found, candles.Run [.act .first (.activateEffect ⟨0⟩ 0 [] [])] lit ∧
      lit.state.card? ⟨0⟩ = some found ∧ found.zone = .spells ∧ found.position = .faceUp ∧
      (∃ link ∈ lit.state.chain.links, link.source = found.id ∧ link.sourceMoves = found.moves) ∧
      candles.Run ([.act .first (.activateEffect ⟨0⟩ 0 [] [])] ++
        [.act .second .passPriority, .act .first .passPriority]) burnt ∧
      (burnt.state.card? ⟨0⟩).map CardInstance.zone = some .graveyard := by
  have played : (candles.play? [.act .first (.activateEffect ⟨0⟩ 0 [] [])]).any (fun lit =>
      decide (lit.state.outcome = none ∧ (lit.state.card? ⟨0⟩).any (fun found =>
        found.zone = .spells && found.position = .faceUp && found.card = ⟨1⟩) = true) &&
      (followUp? lit [.act .second .passPriority, .act .first .passPriority]).any fun burnt =>
        decide ((burnt.state.card? ⟨0⟩).map CardInstance.zone = some .graveyard)) = true := by
    decide +kernel
  obtain ⟨lit, begun, facts⟩ := (Option.any_eq_true _ _).mp played
  obtain ⟨there, goesOn⟩ := Bool.and_eq_true_iff.mp facts
  obtain ⟨burnt, followed, gone⟩ := (Option.any_eq_true _ _).mp goesOn
  obtain ⟨running, lies⟩ := of_decide_eq_true there
  obtain ⟨found, known, lies⟩ := (Option.any_eq_true _ _).mp lies
  simp only [Bool.and_eq_true, decide_eq_true_eq] at lies
  obtain ⟨⟨spells, faceUp⟩, printed⟩ := lies
  have run : candles.Run [.act .first (.activateEffect ⟨0⟩ 0 [] [])] lit := .of_play begun
  obtain ⟨template, named, waits, _⟩ := run.keeps_no_spent running found
    (List.mem_of_getElem? known) spells (by rw [faceUp]; rfl)
  rw [printed] at named
  obtain rfl := Option.some.inj ((show candles.rules.catalog.get? ⟨1⟩ = _ from rfl).symm.trans named)
  obtain ⟨link, listed, source, _, moves, _⟩ := waits rfl
  exact ⟨lit, burnt, found, run, known, spells, faceUp, ⟨link, listed, source, moves⟩,
    run.followUp followed, of_decide_eq_true gone⟩

end DuelSetup

end CardDuel
