/-
This file tells what the plans of instructions are made of: which cards the planned changes touch, how
long the granted modifiers last, and that cards only go to piles or are summoned face-up.
-/

import CardDuel.Effect.Plan
import CardDuel.Proofs.Accepted

namespace CardDuel

/-- This tells whether a monster lies face-up. -/
def Position.isUpright : Position → Bool
  | faceUpAttack | faceUpDefense => true
  | _ => false

namespace Change

def modifier? : Change → Option Modifier
  | grant modifier => some modifier
  | _ => none

/-- This is the card that a change needs. -/
def subject? : Change → Option InstanceId
  | moveCard card .. | draw _ card | summon card .. | setMonster card | placeSpell card _
  | changePosition card _ | markDestroyed card _ => some card
  | _ => none

/--
This tells whether a change is fit for any state: cards go to piles or are summoned face-up, and nothing
is set, placed, turned or paid.
-/
def isPlain : Change → Bool
  | moveCard _ destination _ => !destination.isField
  | summon _ position kind => position.isUpright && kind ≠ .flip
  | setMonster _ | placeSpell .. | changePosition .. | payLife .. => false
  | _ => true

/-- This tells that a change is plain, touches known cards only and grants nothing that lasts otherwise. -/
structure Within (known : InstanceId → Prop) (duration : Option Duration) (change : Change) :
    Prop where
  subject : ∀ card ∈ change.subject?, known card
  lasting : ∀ modifier ∈ change.modifier?,
    modifier.duration = .untilLeavesField ∨ duration = some modifier.duration
  plain : change.isPlain = true

end Change

/-- This is how long an instruction asks its modifiers to last. -/
def Instruction.duration? : Instruction → Option Duration
  | modifyStat _ _ duration | setStat _ _ duration => some duration
  | _ => none

/-- This tells which changes an instruction can plan if it acts on known cards. -/
inductive Change.Planned (known : InstanceId → Prop) (instruction : Instruction) : Change → Prop where
  | draw {seat : Seat} {card : InstanceId} (there : known card) : Planned known instruction (.draw seat card)
  | move {card : InstanceId} {destination : Zone} {place : Place} (pile : destination.isField = false)
      (there : known card) : Planned known instruction (.moveCard card destination place)
  | shuffle {seat : Seat} : Planned known instruction (.shuffleDeck seat)
  | damage {seat : Seat} {amount : UInt32} : Planned known instruction (.damage seat amount false)
  | gain {seat : Seat} {amount : UInt32} : Planned known instruction (.gainLife seat amount)
  | grant {modifier : Modifier} (lasts : modifier.duration = .untilLeavesField ∨
      instruction.duration? = some modifier.duration) : Planned known instruction (.grant modifier)
  | summon {position : SummonPosition} {card : InstanceId} (asked : instruction = .specialSummon position)
      (there : known card) : Planned known instruction (.summon card (GameState.summonedPosition position) .special)
  | destroy {card : InstanceId} (there : known card) : Planned known instruction (.markDestroyed card .effect)
  | negateLink {number : Nat} : Planned known instruction (.negateLink number)
  | negateAttack : Planned known instruction .negateAttack

/-- What an instruction plans is plain, and lasts as long as the instruction asks for. -/
theorem Change.Planned.within {known : InstanceId → Prop} {instruction : Instruction} {change : Change}
    (planned : change.Planned known instruction) : change.Within known instruction.duration? := by
  constructor
  · cases planned <;> simp_all [subject?]
  · cases planned <;> simp_all [modifier?]
  · cases planned with
    | move pile => simp [isPlain, pile]
    | @summon position => cases position <;> rfl
    | _ => rfl

/-- This tells that all changes which an instruction can plan may be made in any state. -/
def Instruction.MakesOnly (may : GameState → Change → Prop) (instruction : Instruction) : Prop :=
  ∀ state change, change.Within (fun _ => True) instruction.duration? → may state change

namespace GameState

variable {state : GameState} {changes : List Change} {change : Change} {seat : Seat}
  {card : InstanceId} {known : InstanceId → Prop} {instruction : Instruction} {count : Nat}

/-! Plans for several items -/

section Each

variable {α : Type} {plan : α → Except Violation (List Change)} {items : List α}

/-- Every change of a joined plan is planned for one of its items. -/
theorem planEach_eq_ok (planned : planEach plan items = .ok changes) :
    ∀ change ∈ changes, ∃ item ∈ items, ∃ own, plan item = .ok own ∧ change ∈ own := by
  simp only [planEach, bind_eq_ok, pure_eq_ok] at planned
  obtain ⟨plans, made, rfl⟩ := planned
  induction items generalizing plans with
  | nil =>
    obtain rfl : [] = plans := pure_eq_ok.mp made
    simp
  | cons item rest ih =>
    simp only [List.mapM_cons, bind_eq_ok, pure_eq_ok] at made
    obtain ⟨own, first, others, remaining, rfl⟩ := made
    intro change member
    rw [List.flatten_cons, List.mem_append] at member
    rcases member with inOwn | inOthers
    · exact ⟨item, List.mem_cons_self .., own, first, inOwn⟩
    · obtain ⟨other, listed, rest⟩ := ih others remaining change inOthers
      exact ⟨other, List.mem_cons_of_mem item listed, rest⟩

/-- What holds of the changes for every item holds of all changes of a joined plan. -/
theorem planEach_forall {holds : Change → Prop} (planned : planEach plan items = .ok changes)
    (each : ∀ item ∈ items, ∀ own, plan item = .ok own → ∀ change ∈ own, holds change) :
    ∀ change ∈ changes, holds change := by
  intro change member
  obtain ⟨item, listed, own, made, inOwn⟩ := planEach_eq_ok planned change member
  exact each item listed own made change inOwn

end Each

/-! Plans for one player -/

/-- The cards that come first in a pile are cards of the pile. -/
theorem mem_of_mem_newest {pile : List InstanceId} (newest : card ∈ pile.reverse.take count) : card ∈ pile :=
  List.mem_reverse.mp (List.mem_of_mem_take newest)

/-- A draw of known cards is planned. -/
theorem planDraw_planned (planned : state.planDraw count seat = .ok changes)
    (held : ∀ card ∈ (state.zones seat).deck, known card) :
    ∀ change ∈ changes, change.Planned known instruction := by
  simp only [planDraw, bind_eq_ok, pure_eq_ok] at planned
  obtain ⟨_, _, rfl⟩ := planned
  intro change member
  obtain ⟨card, newest, rfl⟩ := List.mem_map.mp member
  exact .draw (held card (mem_of_mem_newest newest))

/-- A mill of known cards is planned. -/
theorem planMill_planned (planned : state.planMill count seat = .ok changes)
    (held : ∀ card ∈ (state.zones seat).deck, known card) :
    ∀ change ∈ changes, change.Planned known instruction := by
  simp only [planMill, bind_eq_ok, pure_eq_ok] at planned
  obtain ⟨_, _, rfl⟩ := planned
  intro change member
  obtain ⟨card, newest, rfl⟩ := List.mem_map.mp member
  exact .move rfl (held card (mem_of_mem_newest newest))

/-- A discard of known cards is planned. -/
theorem planDiscard_planned (planned : state.planDiscard count seat = .ok changes)
    (held : ∀ card ∈ (state.zones seat).hand, known card) :
    ∀ change ∈ changes, change.Planned known instruction := by
  simp only [planDiscard, bind_eq_ok, pure_eq_ok] at planned
  obtain ⟨_, _, rfl⟩ := planned
  intro change member
  obtain ⟨card, newest, rfl⟩ := List.mem_map.mp member
  exact .move rfl (held card (mem_of_mem_newest newest))

/-- A search moves cards of the deck and shuffles it. -/
theorem planSearch_planned {filter : CardFilter} (held : ∀ card ∈ (state.zones seat).deck, known card) :
    ∀ change ∈ state.planSearch filter count seat, change.Planned known instruction := by
  intro change member
  rw [planSearch] at member
  split at member
  · simp at member
  rcases List.mem_append.mp member with moved | shuffled
  · obtain ⟨card, found, rfl⟩ := List.mem_map.mp moved
    exact .move rfl (held card (List.mem_reverse.mp (List.mem_filter.mp (List.mem_of_mem_take found)).1))
  · obtain rfl := List.mem_singleton.mp shuffled
    exact .shuffle

/-! Plans for one card -/

theorem planDiscardCard_planned (planned : state.planDiscardCard card = .ok changes)
    (there : known card) : ∀ change ∈ changes, change.Planned known instruction := by
  simp only [planDiscardCard, bind_eq_ok] at planned
  obtain ⟨found, _, rest⟩ := planned
  split at rest
  · obtain rfl := pure_eq_ok.mp rest
    exact List.forall_mem_singleton.mpr (.move rfl there)
  · exact (throw_eq_ok.mp rest).elim

/-- A move of a known card to a pile is planned. -/
theorem planMove_planned {destination : Zone} (pile : destination.isField = false)
    (planned : state.planMove destination card = .ok changes) (there : known card) :
    ∀ change ∈ changes, change.Planned known instruction := by
  simp only [planMove, bind_eq_ok, pure_eq_ok] at planned
  obtain ⟨found, _, rfl⟩ := planned
  split
  · simp
  · exact List.forall_mem_singleton.mpr (.move pile there)

/-- Only an instruction to summon plans a summon. -/
theorem planSummon_planned {position : SummonPosition} (asked : instruction = .specialSummon position)
    (planned : state.planSummon position card = .ok changes) (there : known card) :
    ∀ change ∈ changes, change.Planned known instruction := by
  simp only [planSummon, bind_eq_ok, pure_eq_ok, guard_eq_ok] at planned
  obtain ⟨found, _, _, rfl⟩ := planned
  split
  · simp
  · exact List.forall_mem_singleton.mpr (.summon asked there)

/-- A destruction of a known card is planned. -/
theorem planDestruction_planned (planned : state.planDestruction card = .ok changes)
    (there : known card) : ∀ change ∈ changes, change.Planned known instruction := by
  simp only [planDestruction, bind_eq_ok, pure_eq_ok, guard_eq_ok] at planned
  obtain ⟨found, _, _, rfl⟩ := planned
  exact List.forall_mem_singleton.mpr (.destroy there)

/-- A modifier lasts as long as its plan says. -/
theorem planModifier_planned {source : InstanceId} {alteration : Alteration} {duration : Duration}
    (lasts : instruction.duration? = some duration)
    (planned : state.planModifier source alteration duration card = .ok changes) :
    ∀ change ∈ changes, change.Planned known instruction := by
  simp only [planModifier, bind_eq_ok, pure_eq_ok, guard_eq_ok] at planned
  obtain ⟨found, _, _, _, rfl⟩ := planned
  exact List.forall_mem_singleton.mpr (.grant (.inr lasts))

/-- A negation lasts until its target leaves the field. -/
theorem planNegation_planned {source : InstanceId}
    (planned : state.planNegation source card = .ok changes) :
    ∀ change ∈ changes, change.Planned known instruction := by
  simp only [planNegation, bind_eq_ok, pure_eq_ok, guard_eq_ok] at planned
  obtain ⟨found, _, _, rfl⟩ := planned
  exact List.forall_mem_singleton.mpr (.grant (.inl rfl))

/-- Cards return to their decks, which may be shuffled. -/
theorem planReturn_planned {placement : DeckPlacement} {cards : List InstanceId}
    (planned : state.planReturn placement cards = .ok changes) (all : ∀ card ∈ cards, known card) :
    ∀ change ∈ changes, change.Planned known instruction := by
  simp only [planReturn, bind_eq_ok, pure_eq_ok] at planned
  obtain ⟨found, _, rfl⟩ := planned
  have moves : ∀ change ∈ cards.map fun card => Change.moveCard card .deck (deckPlace placement),
      change.Planned known instruction := by
    intro change member
    obtain ⟨card, listed, rfl⟩ := List.mem_map.mp member
    exact .move rfl (all card listed)
  split
  · intro change member
    rcases List.mem_append.mp member with moved | shuffled
    · exact moves change moved
    · obtain ⟨owner, _, rfl⟩ := List.mem_map.mp shuffled
      exact .shuffle
  · exact moves

/-! Plans for instructions -/

section Resolved

variable {resolved : Resolved}

/-- What holds of the changes for every player holds of a plan for players. -/
theorem planPlayers_forall {holds : Change → Prop} {plan : Seat → Except Violation (List Change)}
    (planned : (resolved.players? >>= planEach plan) = .ok changes)
    (each : ∀ seat own, plan seat = .ok own → ∀ change ∈ own, holds change) :
    ∀ change ∈ changes, holds change := by
  obtain ⟨seats, _, made⟩ := bind_eq_ok.mp planned
  exact planEach_forall made fun seat _ => each seat

/-- What holds of the change for every player holds of a plan with one change for each. -/
theorem mapPlayers_forall {holds : Change → Prop} {make : Seat → Change}
    (planned : (resolved.players? >>= fun seats => pure (seats.map make)) = .ok changes)
    (each : ∀ seat, holds (make seat)) : ∀ change ∈ changes, holds change := by
  obtain ⟨seats, _, made⟩ := bind_eq_ok.mp planned
  obtain rfl := pure_eq_ok.mp made
  intro change member
  obtain ⟨seat, _, rfl⟩ := List.mem_map.mp member
  exact each seat

/-- What holds of the changes for every known card holds of a plan for cards. -/
theorem planCards_forall {holds : Change → Prop} {plan : InstanceId → Except Violation (List Change)}
    (planned : (resolved.cards? >>= planEach plan) = .ok changes)
    (chosen : ∀ cards, resolved.cards? = .ok cards → ∀ card ∈ cards, known card)
    (each : ∀ card own, known card → plan card = .ok own → ∀ change ∈ own, holds change) :
    ∀ change ∈ changes, holds change := by
  obtain ⟨cards, acted, made⟩ := bind_eq_ok.mp planned
  exact planEach_forall made fun card listed own => each card own (chosen cards acted card listed)

/-- Every change of a plan is one that the instruction can plan for cards in zones or cards it acts on. -/
theorem plan_planned {link : ChainLink} (planned : state.plan link instruction resolved = .ok changes)
    (held : ∀ seat zone, ∀ card ∈ (state.zones seat).cards zone, known card)
    (chosen : ∀ cards, resolved.cards? = .ok cards → ∀ card ∈ cards, known card) :
    ∀ change ∈ changes, change.Planned known instruction := by
  cases instruction with
  | draw count =>
    refine planPlayers_forall planned ?_
    intro seat own single
    exact planDraw_planned single (held seat .deck)
  | mill count =>
    refine planPlayers_forall planned ?_
    intro seat own single
    exact planMill_planned single (held seat .deck)
  | discard count =>
    simp only [plan] at planned
    split at planned
    · refine planEach_forall planned ?_
      intro seat _ own single
      exact planDiscard_planned single (held seat .hand)
    · refine planCards_forall planned chosen ?_
      intro card own there single
      exact planDiscardCard_planned single there
  | banish | sendToGraveyard | toHand =>
    refine planCards_forall planned chosen ?_
    intro card own there single
    exact planMove_planned rfl single there
  | search filter count =>
    obtain ⟨seats, _, made⟩ := bind_eq_ok.mp planned
    obtain rfl := pure_eq_ok.mp made
    intro change member
    obtain ⟨seat, _, searched⟩ := List.mem_flatMap.mp member
    exact planSearch_planned (held seat .deck) change searched
  | returnToDeck placement =>
    obtain ⟨cards, acted, made⟩ := bind_eq_ok.mp planned
    exact planReturn_planned made (chosen cards acted)
  | damage amount => exact mapPlayers_forall planned fun seat => .damage
  | gainLife amount => exact mapPlayers_forall planned fun seat => .gain
  | modifyStat stat amount lasts | setStat stat value lasts =>
    refine planCards_forall planned chosen ?_
    intro card own _ single
    exact planModifier_planned rfl single
  | specialSummon position =>
    refine planCards_forall planned chosen ?_
    intro card own there single
    exact planSummon_planned rfl single there
  | destroy =>
    refine planCards_forall planned chosen ?_
    intro card own there single
    exact planDestruction_planned single there
  | negate =>
    simp only [plan] at planned
    split at planned
    · obtain rfl := pure_eq_ok.mp planned
      exact List.forall_mem_singleton.mpr .negateLink
    · refine planCards_forall planned chosen ?_
      intro card own _ single
      exact planNegation_planned single
  | negateAttack =>
    obtain ⟨_, _, made⟩ := bind_eq_ok.mp planned
    obtain rfl := pure_eq_ok.mp made
    exact List.forall_mem_singleton.mpr .negateAttack

/-- The plan of an instruction touches only cards in zones and cards on which the effect acts. -/
theorem plan_within {link : ChainLink} (planned : state.plan link instruction resolved = .ok changes)
    (held : ∀ seat zone, ∀ card ∈ (state.zones seat).cards zone, known card)
    (chosen : ∀ cards, resolved.cards? = .ok cards → ∀ card ∈ cards, known card) :
    ∀ change ∈ changes, change.Within known instruction.duration? := by
  intro change member
  exact (plan_planned planned held chosen change member).within

end Resolved

end GameState

end CardDuel
