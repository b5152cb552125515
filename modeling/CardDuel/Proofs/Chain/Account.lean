/-
This file shows that no link is lost or resolved twice: the links on the chain are numbered from one on,
and they are the links that were added and not resolved yet.
-/

import CardDuel.Proofs.Move.Play
import CardDuel.Proofs.Move.Tale

namespace CardDuel

namespace GameEvent

def isLinkAdded : GameEvent → Bool
  | chainLinkAdded .. => true
  | _ => false

def isLinkResolved : GameEvent → Bool
  | chainLinkResolved .. => true
  | _ => false

end GameEvent

/-- This tells that the links of a chain are numbered from one on. -/
def Chain.Numbered (chain : Chain) : Prop :=
  chain.links.map ChainLink.number = List.range' 1 chain.links.length

namespace Chain.Numbered

variable {chain rest : Chain}

theorem of_bare (numbered : chain.Numbered)
    (same : rest.links.map ChainLink.bare = chain.links.map ChainLink.bare) : rest.Numbered := by
  have numbers := congrArg (List.map ChainLink.number) same
  have count := congrArg List.length same
  rw [List.map_map, List.map_map] at numbers
  rw [List.length_map, List.length_map] at count
  rw [Numbered, count]
  exact numbers.trans numbered

/-- The last link of a numbered chain carries the number of links, and the others stay numbered. -/
theorem pop (numbered : chain.Numbered) {link : ChainLink}
    (popped : chain.pop? = some (link, rest)) :
    rest.Numbered ∧ link.number = rest.links.length + 1 := by
  rw [Numbered, (Chain.pop?_eq_some popped).1, List.map_append, List.length_append,
    List.length_singleton, List.range'_concat, List.map_singleton] at numbered
  obtain ⟨others, last⟩ := List.append_inj' numbered rfl
  refine ⟨others, ?_⟩
  have number := List.singleton_inj.mp last
  omega

/-- The next link gets the next number. -/
theorem concat (numbered : chain.Numbered) (link : ChainLink) (status : ChainStatus)
    (priority : Seat) (passes : UInt8) :
    (⟨chain.links ++ [{ link with number := chain.links.length + 1 }], status, priority,
      passes⟩ : Chain).Numbered := by
  rw [Numbered, List.map_append, List.length_append, List.length_singleton, List.range'_concat,
    show chain.links.map ChainLink.number = _ from numbered]
  simp [Nat.add_comm]

end Chain.Numbered

namespace GameState

/-- This is the number of links that the log tells to be added. -/
def linksAdded (state : GameState) : Nat :=
  state.log.countP fun entry => entry.event.isLinkAdded

/-- This is the number of links that the log tells to be resolved. -/
def linksResolved (state : GameState) : Nat :=
  state.log.countP fun entry => entry.event.isLinkResolved

theorem linksAdded_eq (state : GameState) :
    state.linksAdded = state.tale.countP GameEvent.isLinkAdded := by
  refine (state.countP_tale ?_).symm
  intro event added
  cases event <;> simp [GameEvent.isLinkAdded, GameEvent.isOfEffect] at added ⊢

theorem linksResolved_eq (state : GameState) :
    state.linksResolved = state.tale.countP GameEvent.isLinkResolved := by
  refine (state.countP_tale ?_).symm
  intro event resolved
  cases event <;> simp [GameEvent.isLinkResolved, GameEvent.isOfEffect] at resolved ⊢

/-- This tells that the chain of a running duel holds what was added and not resolved. -/
structure Accounted (state : GameState) : Prop where
  numbered : state.chain.Numbered
  balance : state.outcome = none →
    state.linksAdded = state.linksResolved + state.chain.links.length

variable {rules : Rules} {ways : Placement → Prop} {before after : GameState}

/-- What keeps the links and tells of none keeps the account. -/
theorem Accounted.same (accounted : before.Accounted)
    (links : after.chain.links.map ChainLink.bare = before.chain.links.map ChainLink.bare)
    (tale : after.tale = before.tale) (running : after.outcome = none → before.outcome = none) :
    after.Accounted := by
  have count := congrArg List.length links
  rw [List.length_map, List.length_map] at count
  refine ⟨accounted.numbered.of_bare links, ?_⟩
  intro goesOn
  rw [linksAdded_eq, linksResolved_eq, tale, count, ← linksAdded_eq, ← linksResolved_eq]
  exact accounted.balance (running goesOn)

/-- A use adds one link to the chain and to the log. -/
theorem Accounted.use {catalog : Catalog} {early placed late : GameState} {link : ChainLink}
    {way : Placement} (accounted : before.Accounted) (first : Deeds catalog.MayMake before early)
    (placing : Placing catalog link way
      (early.record (.effectActivated link.source link.effect link.controller)) placed)
    (second : Deeds catalog.MayMake placed late) : (late.used link).Accounted := by
  have frame := use_frame first placing second
  refine ⟨(accounted.numbered.of_bare frame.links).concat link _ _ _, ?_⟩
  intro running
  have count := congrArg List.length frame.links
  rw [List.length_map, List.length_map] at count
  have balance := accounted.balance (frame.outcome.symm.trans running)
  have length : (late.used link).chain.links.length = late.chain.links.length + 1 :=
    List.length_append ..
  rw [linksAdded_eq, linksResolved_eq] at balance ⊢
  rw [use_tale first placing second, length, count]
  simp [GameEvent.isLinkAdded, GameEvent.isLinkResolved, balance]
  omega

/-- A resolution takes one link from the chain and tells of it. -/
theorem Accounted.spent (accounted : before.Accounted) (catalog : Catalog) {link : ChainLink}
    {chain : Chain} (running : before.outcome = none)
    (popped : before.chain.pop? = some (link, chain)) :
    ({ before with chain := chain }.spent catalog link).Accounted := by
  have frame := spent_frame { before with chain := chain } catalog link
  refine ⟨(accounted.numbered.pop popped).1.of_bare frame.links, ?_⟩
  intro _
  have count := congrArg List.length frame.links
  rw [List.length_map, List.length_map] at count
  have length := congrArg List.length (Chain.pop?_eq_some popped).1
  rw [List.length_append, List.length_singleton] at length
  have balance := accounted.balance running
  obtain ⟨aborted, told, notes⟩ := tale_spent { before with chain := chain } catalog link
  have silent : aborted.countP GameEvent.isLinkAdded = 0 ∧
      aborted.countP GameEvent.isLinkResolved = 0 := by
    rcases notes with rfl | ⟨_, _, _, _, rfl⟩
    · exact ⟨rfl, rfl⟩
    · exact ⟨rfl, rfl⟩
  have same : ({ before with chain := chain } : GameState).tale = before.tale := rfl
  rw [linksAdded_eq, linksResolved_eq] at balance ⊢
  rw [told, same, count, List.countP_append, List.countP_append, List.countP_append,
    List.countP_append, silent.1, silent.2, balance, length]
  simp [GameEvent.isLinkAdded, GameEvent.isLinkResolved]
  omega

/-- Every act keeps the account of the links. -/
theorem Act.accounted (act : Act rules ways before after) (accounted : before.Accounted) :
    after.Accounted := by
  cases act with
  | deed deed =>
    have deeds := Deeds.of_deed deed
    exact accounted.same deeds.frame.links deeds.quiet.tale (deeds.frame.outcome.symm.trans ·)
  | aside aside =>
    exact accounted.same (by rw [aside.chain]) aside.tale (aside.outcome.symm.trans ·)
  | note remark =>
    exact accounted.same rfl (tale_record_plain before (GameEvent.isOfEffect_of_isRemark remark)) id
  | enter free phase => exact accounted.same rfl (tale_record_plain _ rfl) id
  | newTurn free seat =>
    exact accounted.same (congrArg _ free.unlinked.symm) (tale_passTurn before seat) id
  | attack aim peaceful there aimed => exact accounted.same rfl (tale_record_plain _ rfl) id
  | conclude waits deeds ends =>
    exact accounted.same deeds.frame.links (conclude_tale deeds ends)
      (deeds.frame.outcome.symm.trans ·)
  | finish running result =>
    exact accounted.same rfl (tale_record_plain _ rfl) fun _ => running
  | use may first placing second => exact accounted.use first placing second
  | answer same => exact accounted.same (by rw [same]) rfl id
  | resolve running popped => exact accounted.spent rules.catalog running popped
  | clear drained priority =>
    refine ⟨rfl, ?_⟩
    intro running
    have balance := accounted.balance running
    rw [drained running] at balance
    exact balance

/-- Every move keeps the account of the links. -/
theorem Move.accounted (move : Move rules ways before after) (accounted : before.Accounted) :
    after.Accounted := by
  cases move with
  | act act => exact act.accounted accounted
  | offer events window => exact accounted.same rfl rfl id
  | drop ended =>
    refine ⟨rfl, ?_⟩
    intro running
    change before.outcome = none at running
    simp [running] at ended

end GameState

namespace DuelSetup

variable {setup : DuelSetup} {requests : List Request} {duel : Duel}

theorem withDecks_accounted (setup : DuelSetup) : setup.withDecks.Accounted := by
  have unlinked : setup.withDecks.chain.links = [] :=
    setup.withDecks_frame.links_eq_nil_iff.mpr rfl
  refine ⟨by simp [Chain.Numbered, unlinked], ?_⟩
  intro _
  rw [GameState.linksAdded, GameState.linksResolved, setup.withDecks_unused.2.1, unlinked]
  rfl

/-- The links of every reached state are accounted for. -/
theorem Run.accounted (run : setup.Run requests duel) : duel.state.Accounted :=
  run.moves.keeps (fun move => move.accounted) setup.withDecks_accounted

end DuelSetup

end CardDuel
