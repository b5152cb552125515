/-
This file tells what waits after an act: a link was there before or was just put on top, and an attack was
there before or was just declared. While a link waits, the turn player and the phase stay.
-/

import CardDuel.Proofs.Move.Tale
import CardDuel.Proofs.Move.Play

namespace CardDuel

namespace GameState

variable {rules : Rules} {ways : Placement → Prop} {before after : GameState} {link : ChainLink} {place : Nat}

/-! Links -/

/-- A link stays at its place while a duel is where it was. -/
theorem Course.link? (course : Course before after)
    (given : after.chain.links[place]? = some link) :
    ∃ old, before.chain.links[place]? = some old ∧ old.bare = link.bare := by
  have bared : (after.chain.links.map ChainLink.bare)[place]? = some link.bare := by
    simp [given]
  rw [course.links, List.getElem?_map] at bared
  exact Option.map_eq_some_iff.mp bared

/-- A link on the chain was there before at its place, or it is a new one on top. -/
theorem Act.link? (act : Act rules ways before after) (given : after.chain.links[place]? = some link) :
    (∃ old, before.chain.links[place]? = some old ∧ old.bare = link.bare) ∨
      ∃ used number, before.MayUse rules.catalog used ∧ link = { used with number := number } ∧
        place = before.chain.links.length := by
  cases act with
  | deed deed => exact .inl (deed.frame.link? given)
  | aside aside => exact .inl ⟨link, aside.chain ▸ given, rfl⟩
  | newTurn free seat => simp [passTurn, record, Chain.idle] at given
  | conclude waits deeds ends => exact .inl (deeds.frame.link? given)
  | @use early placed late used way may first placing second =>
    have frame := use_frame first placing second
    have count := congrArg List.length frame.links
    rw [List.length_map, List.length_map] at count
    change (late.chain.links ++ [_])[place]? = some link at given
    rcases Nat.lt_or_ge place late.chain.links.length with below | above
    · rw [List.getElem?_append_left below] at given
      exact .inl (frame.link? given)
    · rw [List.getElem?_append_right above] at given
      obtain ⟨top, same⟩ := List.getElem?_eq_some_iff.mp given
      rw [List.length_singleton] at top
      exact .inr ⟨used, _, may, by simpa using same.symm, by omega⟩
  | answer same => exact .inl ⟨link, same ▸ given, rfl⟩
  | @resolve taken chain running popped =>
    obtain ⟨old, there, same⟩ :=
      (spent_frame { before with chain := chain } rules.catalog taken).link? given
    have inside := (List.getElem?_eq_some_iff.mp there).1
    refine .inl ⟨old, ?_, same⟩
    rw [(Chain.pop?_eq_some popped).1, List.getElem?_append_left inside]
    exact there
  | clear drained priority => simp [Chain.idle] at given
  | _ => exact .inl ⟨link, given, rfl⟩

/-- Each link after a move was on the chain before, or is a use that the catalog allows. -/
theorem Move.link? (move : Move rules ways before after) (given : after.chain.links[place]? = some link) :
    (∃ old, before.chain.links[place]? = some old ∧ old.bare = link.bare) ∨
      ∃ used number, before.MayUse rules.catalog used ∧ link = { used with number := number } ∧
        place = before.chain.links.length := by
  cases move with
  | act act => exact act.link? given
  | offer events window => exact .inl ⟨link, given, rfl⟩
  | drop ended => simp [clearWaiting, Chain.idle] at given

/-- While links wait, it stays the same phase of the same player's turn. -/
theorem Act.moment (act : Act rules ways before after) (waits : after.chain.links ≠ []) :
    after.turnPlayer = before.turnPlayer ∧ after.phase = before.phase := by
  cases act with
  | deed deed => exact ⟨deed.frame.turnPlayer, deed.frame.phase⟩
  | aside aside => exact ⟨aside.turnPlayer, aside.phase⟩
  | enter free phase => exact absurd free.unlinked waits
  | newTurn free seat => exact absurd rfl waits
  | conclude known deeds ends => exact ⟨deeds.frame.turnPlayer, deeds.frame.phase⟩
  | use may first placing second =>
    have frame := use_frame first placing second
    exact ⟨frame.turnPlayer, frame.phase⟩
  | @resolve link chain running popped =>
    have frame := spent_frame { before with chain := chain } rules.catalog link
    exact ⟨frame.turnPlayer, frame.phase⟩
  | _ => exact ⟨rfl, rfl⟩

/-- Turn player and phase stay as long as a chain waits. -/
theorem Move.moment (move : Move rules ways before after) (waits : after.chain.links ≠ []) :
    after.turnPlayer = before.turnPlayer ∧ after.phase = before.phase := by
  cases move with
  | act act => exact act.moment waits
  | offer events window => exact ⟨rfl, rfl⟩
  | drop ended => exact ⟨rfl, rfl⟩

/-! The end -/

/-- What goes on after an act went on before it. -/
theorem Act.running (act : Act rules ways before after) (goesOn : after.outcome = none) :
    before.outcome = none := by
  cases act with
  | deed deed => exact deed.frame.outcome.symm.trans goesOn
  | aside aside => exact aside.outcome.symm.trans goesOn
  | conclude waits deeds ends => exact deeds.frame.outcome.symm.trans goesOn
  | finish running result => exact running
  | use may first placing second =>
    exact (use_frame first placing second).outcome.symm.trans goesOn
  | @resolve link chain running popped => exact running
  | _ => exact goesOn

/-! Attacks -/

/-- An attack was there before, or it is one of a card on another one or on a player. -/
theorem Act.attack? (act : Act rules ways before after) {attack : PendingAttack}
    (given : after.pendingAttack = some attack) : before.pendingAttack = some attack ∨
      ∃ attacker ∈ before.cards, ∃ target : Option CardInstance,
        (∀ card ∈ target, card ∈ before.cards) ∧ attack = .declare attacker target := by
  have kept (same : after.pendingAttack = before.pendingAttack ∨ after.pendingAttack = none) :
      before.pendingAttack = some attack := by
    rcases same with same | free
    · exact same ▸ given
    · simp [free] at given
  cases act with
  | deed deed => exact .inl (kept deed.frame.attack)
  | aside aside => exact .inl (kept (.inl aside.attack))
  | @attack card attacker target aim peaceful there aimed =>
    exact .inr ⟨attacker, List.mem_of_getElem? there, target, aimed, (Option.some.inj given).symm⟩
  | conclude waits deeds ends => exact .inl (kept (.inr (deeds.frame.attack_eq_none rfl)))
  | use may first placing second => exact .inl (kept (use_frame first placing second).attack)
  | @resolve taken chain running popped =>
    exact .inl (kept (spent_frame { before with chain := chain } rules.catalog taken).attack)
  | _ => exact .inl given

/-- A pending attack was pending before, or is declared now by a monster of the table. -/
theorem Move.attack? (move : Move rules ways before after) {attack : PendingAttack}
    (given : after.pendingAttack = some attack) : before.pendingAttack = some attack ∨
      ∃ attacker ∈ before.cards, ∃ target : Option CardInstance,
        (∀ card ∈ target, card ∈ before.cards) ∧ attack = .declare attacker target := by
  cases move with
  | act act => exact act.attack? given
  | offer events window => exact .inl given
  | drop ended => simp [clearWaiting] at given

end GameState

end CardDuel
