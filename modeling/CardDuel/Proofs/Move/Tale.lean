/-
This file tells what the log says about the uses of effects and their links: only a use and a resolution
add to it.
-/

import CardDuel.Proofs.Move.Basic

namespace CardDuel

namespace GameState

/-- These are the events of the log about uses of effects and about links. -/
def tale (state : GameState) : List GameEvent :=
  (state.log.map LoggedEvent.event).filter GameEvent.isOfEffect

/-- Whatever is counted among the events about effects can be counted in the whole log. -/
theorem countP_tale (state : GameState) {counts : GameEvent → Bool}
    (about : ∀ event, counts event = true → event.isOfEffect = true) :
    state.tale.countP counts = state.log.countP fun entry => counts entry.event := by
  have both : (fun event => counts event && event.isOfEffect) = counts := by
    funext event
    cases counted : counts event with
    | false => rfl
    | true => simp [about event counted]
  rw [tale, List.countP_filter, List.countP_map, both]
  rfl

section Record

variable (state : GameState) {event : GameEvent}

theorem tale_record_plain (plain : event.isOfEffect = false) :
    (state.record event).tale = state.tale := by
  simp [tale, record, plain]

theorem tale_record_effect (effect : event.isOfEffect = true) :
    (state.record event).tale = state.tale ++ [event] := by
  simp [tale, record, effect]

end Record

/-- Quiet changes tell nothing of effects. -/
theorem Quiet.tale {may : Modifier → Prop} {before after : GameState}
    (quiet : Quiet may before after) : after.tale = before.tale := by
  obtain ⟨told, same, table⟩ := quiet.log
  have nothing : (told.map LoggedEvent.event).filter GameEvent.isOfEffect = [] := by
    rw [List.filter_eq_nil_iff]
    intro event member
    obtain ⟨entry, listed, rfl⟩ := List.mem_map.mp member
    simp [GameEvent.isOfEffect_of_isTabled (table entry listed)]
  rw [GameState.tale, same, List.map_append, List.filter_append, nothing, List.append_nil]
  rfl

/-- A link that is put on the chain is told of with its number. -/
theorem tale_used (state : GameState) (link : ChainLink) : (state.used link).tale =
    state.tale ++ [.chainLinkAdded (state.chain.links.length + 1) link.source link.speed.value] :=
  tale_record_effect _ rfl

section Use

variable {catalog : Catalog} {before early placed late : GameState} {link : ChainLink}
  {way : Placement} (first : Deeds catalog.MayMake before early)
  (placing : Placing catalog link way
    (early.record (.effectActivated link.source link.effect link.controller)) placed)
  (second : Deeds catalog.MayMake placed late)

include first placing second

/-- The cost and the placing of a use leave the duel where it is. -/
theorem use_frame : Frame before late :=
  ((first.frame.trans (.record early _)).trans placing.deeds.frame).trans second.frame

/-- A use is told of before its link. -/
theorem use_tale : (late.used link).tale = before.tale ++
    [.effectActivated link.source link.effect link.controller,
      .chainLinkAdded (before.chain.links.length + 1) link.source link.speed.value] := by
  have count := congrArg List.length (use_frame first placing second).links
  rw [List.length_map, List.length_map] at count
  rw [tale_used, count, second.quiet.tale, placing.deeds.quiet.tale, tale_record_effect early rfl,
    first.quiet.tale, List.append_assoc]
  rfl

/-- A use is counted once, for its source and its effect. -/
theorem use_activations : (late.used link).activations =
    before.activations.record link.source link.effect := by
  show late.activations.record link.source link.effect = _
  rw [second.quiet.activations, placing.deeds.quiet.activations]
  exact congrArg (fun activations => activations.record link.source link.effect)
    first.quiet.activations

end Use

/-- The end of an attack is nothing about effects. -/
theorem conclude_tale {may : GameState → Change → Prop} {before late : GameState} {attack : PendingAttack}
    {event : GameEvent} (deeds : Deeds may { before with pendingAttack := none } late)
    (ends : event = .attackCancelled attack.attacker ∨
      event = .battleResolved attack.attacker attack.target) :
    (late.record event).tale = before.tale := by
  have plain : event.isOfEffect = false := by
    rcases ends with rfl | rfl
    · rfl
    · rfl
  exact (tale_record_plain late plain).trans deeds.quiet.tale

theorem tale_passTurn (state : GameState) (seat : Seat) :
    (state.passTurn seat).tale = state.tale := tale_record_plain _ rfl

/-- What happens aside tells nothing of effects. -/
theorem Aside.tale {before after : GameState} (aside : Aside before after) :
    after.tale = before.tale := by
  rw [GameState.tale, aside.log]
  rfl

/-- The effect of a link makes nothing but deeds, or it is aborted and leaves only a note. -/
theorem carryOut_cases (state : GameState) (catalog : Catalog) (link : ChainLink) :
    Deeds catalog.MayMake state (state.carryOut catalog link).1 ∨
      ∃ effect violation, catalog.effect? link.card link.effect = some effect ∧
        effect.root.run catalog link state = .error violation ∧
        (state.carryOut catalog link).1 =
          state.record (.effectAborted link.number link.source violation.message) := by
  rw [carryOut]
  split
  · exact .inl (.refl state)
  · next effect known =>
    split
    · exact .inl (.refl state)
    · split
      · next next run =>
        refine .inl (EffectTree.run_deeds effect.root
          (fun instruction listed _ change within => ⟨.of_plain within.plain, ?_⟩) run)
        intro modifier given
        rcases within.lasting modifier given with leaves | asked
        · exact .inl leaves
        · exact .inr ⟨link.card, link.effect, effect, known, instruction, listed, asked⟩
      · next violation failed => exact .inr ⟨effect, violation, known, failed, rfl⟩

/-- A card is spent without a change of where the duel is. -/
theorem spent_frame (state : GameState) (catalog : Catalog) (link : ChainLink) :
    Frame state (state.spent catalog link) := (state.spent_edits catalog link).frame

/-- A spell or trap that does not stay is sent away by a deed. -/
theorem spent_deeds (state : GameState) (catalog : Catalog) (link : ChainLink) :
    Deeds catalog.MayMake (state.carried catalog link) (state.spent catalog link) :=
  finishActivation_deeds _ catalog link fun current => .plain current _ rfl rfl

/-- A resolution adds its own note, after the note of an abort if there is one. -/
theorem tale_spent (state : GameState) (catalog : Catalog) (link : ChainLink) :
    ∃ aborted : List GameEvent, (state.spent catalog link).tale = state.tale ++ aborted ++
        [.chainLinkResolved link.number link.source (state.carryOut catalog link).2] ∧
      (aborted = [] ∨ ∃ effect violation, catalog.effect? link.card link.effect = some effect ∧
        effect.root.run catalog link state = .error violation ∧
        aborted = [.effectAborted link.number link.source violation.message]) := by
  have told : (state.carried catalog link).tale = (state.carryOut catalog link).1.tale ++
      [.chainLinkResolved link.number link.source (state.carryOut catalog link).2] :=
    tale_record_effect _ rfl
  rw [(spent_deeds state catalog link).quiet.tale, told]
  rcases carryOut_cases state catalog link with deeds | ⟨effect, violation, known, failed, same⟩
  · refine ⟨[], ?_, .inl rfl⟩
    rw [List.append_nil, deeds.quiet.tale]
  · refine ⟨_, ?_, .inr ⟨effect, violation, known, failed, rfl⟩⟩
    rw [same, tale_record_effect state rfl]

/-- A spent card does not count as a use. -/
theorem activations_spent (state : GameState) (catalog : Catalog) (link : ChainLink) :
    (state.spent catalog link).activations = state.activations := by
  refine (spent_deeds state catalog link).quiet.activations.trans ?_
  show (state.carryOut catalog link).1.activations = _
  rcases carryOut_cases state catalog link with deeds | ⟨_, _, _, _, same⟩
  · exact deeds.quiet.activations
  · rw [same]
    rfl

/-! The whole log -/

/-- This tells that all that is newly told of waits if effects can follow it, and no window opens. -/
structure Queued (before after : GameState) : Prop where
  told : ∃ told, after.log = before.log ++ told ∧
    after.pendingEvents = before.pendingEvents ++ triggering told
  window : ResponseWindow.Kept before.window after.window

namespace Queued

variable {before middle after : GameState}

/-- A step without events keeps the queue. -/
theorem untold (log : after.log = before.log) (events : after.pendingEvents = before.pendingEvents)
    (window : ResponseWindow.Kept before.window after.window) : Queued before after :=
  ⟨⟨[], by simp [log], by simp [events]⟩, window⟩

theorem refl (state : GameState) : Queued state state := untold rfl rfl (.refl _)

theorem trans (first : Queued before middle) (second : Queued middle after) :
    Queued before after where
  told := by
    obtain ⟨early, same, waits⟩ := first.told
    obtain ⟨late, sameToo, waitsToo⟩ := second.told
    exact ⟨early ++ late, by simp [sameToo, same], by simp [waitsToo, waits]⟩
  window := first.window.trans second.window

theorem record (state : GameState) (event : GameEvent) : Queued state (state.record event) := by
  refine ⟨⟨[⟨state.log.length.toUInt64, state.turn, event⟩], rfl, ?_⟩, .refl _⟩
  rw [triggering_singleton, GameState.record]
  split <;> simp

theorem then_record (queued : Queued before after) (event : GameEvent) :
    Queued before (after.record event) := queued.trans (.record after event)

/-- One more event is told of, and nothing else is. -/
theorem recorded {event : GameEvent} (log : middle.log = before.log)
    (events : middle.pendingEvents = before.pendingEvents) (window : middle.window = before.window) :
    Queued before (middle.record event) := (untold log events (window ▸ .refl _)).then_record event

/-- The log only grows. -/
theorem log (queued : Queued before after) : before.log <+: after.log := by
  obtain ⟨told, same, _⟩ := queued.told
  exact ⟨told, same.symm⟩

end Queued

/-- What happens on the table waits for effects that follow it. -/
theorem OnTable.queued {may : Modifier → Prop} {before after : GameState}
    (table : OnTable may before after) : Queued before after := by
  obtain ⟨told, same, waits, _⟩ := table.told
  exact ⟨⟨told, same, waits⟩, table.window ▸ .refl _⟩

/-- Deeds wait for effects that follow them. -/
theorem Deeds.queued {may : GameState → Change → Prop} {before after : GameState}
    (deeds : Deeds may before after) : Queued before after := by
  induction deeds with
  | refl => exact .refl before
  | tail _ deed ih =>
    refine ih.trans ?_
    rcases deed.cases with table | ⟨number, chain, _, rfl⟩ | ⟨attack, _, rfl⟩
    · exact table.queued
    · exact .untold rfl rfl (.refl _)
    · exact .recorded rfl rfl rfl

theorem spent_queued (state : GameState) (catalog : Catalog) (link : ChainLink) :
    Queued state (state.spent catalog link) := by
  have carried : Queued state (state.carryOut catalog link).1 := by
    rcases carryOut_cases state catalog link with deeds | ⟨_, _, _, _, same⟩
    · exact deeds.queued
    · rw [same]
      exact .record state _
  exact (carried.then_record _).trans (spent_deeds state catalog link).queued

variable {rules : Rules} {ways : Placement → Prop} {before after : GameState}

/-- Whatever an act tells of waits if effects can follow it. -/
theorem Act.queued (act : Act rules ways before after) : Queued before after := by
  cases act with
  | deed deed => exact (Deeds.of_deed deed).queued
  | aside aside => exact .untold aside.log aside.events aside.window
  | note remark => exact .record before _
  | enter free phase => exact .recorded rfl rfl rfl
  | newTurn free seat => exact .recorded rfl rfl rfl
  | attack aim peaceful there aimed => exact .recorded rfl rfl rfl
  | conclude waits deeds ends =>
    have freed : Queued before { before with pendingAttack := none } := .untold rfl rfl (.refl _)
    exact (freed.trans deeds.queued).then_record _
  | finish running result => exact .recorded rfl rfl rfl
  | use may first placing second =>
    exact (((first.queued.then_record _).trans placing.deeds.queued).trans second.queued).trans
      (.recorded rfl rfl rfl)
  | answer same => exact .untold rfl rfl (.refl _)
  | @resolve link chain running popped =>
    have taken : Queued before { before with chain := chain } := .untold rfl rfl (.refl _)
    exact taken.trans (spent_queued _ rules.catalog link)
  | clear drained priority => exact .untold rfl rfl (.refl _)

/-- Acts wait for effects that follow them. -/
theorem Acts.queued (acts : Acts rules ways before after) : Queued before after := by
  induction acts with
  | refl => exact .refl before
  | tail _ act ih => exact ih.trans act.queued

/-- The log only grows. -/
theorem Move.log (move : Move rules ways before after) : before.log <+: after.log := by
  cases move with
  | act act => exact act.queued.log
  | offer events window => exact List.prefix_rfl
  | drop ended => exact List.prefix_rfl

/-- By moves the log only grows. -/
theorem Moves.log (moves : Moves rules ways before after) : before.log <+: after.log := by
  induction moves with
  | refl => exact List.prefix_rfl
  | tail _ move ih => exact ih.trans move.log

end GameState

end CardDuel
