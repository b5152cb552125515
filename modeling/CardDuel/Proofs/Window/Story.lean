/-
This file notes what happens to response windows: who is asked in them, who passes, who has nothing to
activate, and how they disappear. It also tells in which order this can happen.
-/

import CardDuel.Proofs.Run
import Mathlib.Data.List.Basic

namespace CardDuel

/-- This is something that happens to a response window. -/
inductive WindowNote where
  /-- A window opens at a moment. -/
  | opened (moment : GameState)
  /-- The player who is asked passes. -/
  | passed (player : Seat)
  /-- A player is asked who has nothing to activate at the moment. -/
  | unable (player : Seat) (moment : GameState)
  /-- The first link of a chain comes under the window. -/
  | answered
  /-- The window disappears, and there was no chain. -/
  | closed
  /-- The window disappears because the chain under it resolves. -/
  | resolved
  /-- The duel ends. -/
  | ended

/--
This tells that a player declines an open window: the player passes, or has nothing to activate at the moment
in which priority in the window is with this player.
-/
def WindowNote.Declines (catalog : Catalog) (player : Seat) : WindowNote → Prop
  | passed seat => seat = player
  | unable seat moment => seat = player ∧ moment.chain.links = [] ∧
      moment.window.map ResponseWindow.holder = some player ∧
      moment.legalActivations catalog player = []
  | _ => False

/-- This tells how a response window stands. -/
inductive WindowStatus where
  | absent
  /-- A player is asked in a window in which another one, or the same, was asked first. -/
  | asking (starter player : Seat)
  | answered

/-- This tells that a state is as the status of its window says. -/
def WindowStatus.Holds (state : GameState) : WindowStatus → Prop
  | absent => state.window = none
  | asking starter player => state.chain.links = [] ∧ ∃ window, state.window = some window ∧
      window.holder = player ∧ window.passes = if player = starter then 0 else 1
  | answered => state.chain.links ≠ [] ∧ state.window.isSome = true

/--
This tells how windows come and go, and how the last one stands. A window without a chain disappears only when
both players have declined it, the one whose turn it was as it opened before the other one.
-/
inductive WindowStory (catalog : Catalog) : List WindowNote → WindowStatus → Prop where
  | none : WindowStory catalog [] .absent
  | opens {notes : List WindowNote} {moment : GameState} (story : WindowStory catalog notes .absent)
      (asked : moment.window.map ResponseWindow.holder = some moment.turnPlayer) :
      WindowStory catalog (notes ++ [.opened moment]) (.asking moment.turnPlayer moment.turnPlayer)
  | hands {notes : List WindowNote} {starter : Seat} {note : WindowNote}
      (story : WindowStory catalog notes (.asking starter starter))
      (declines : note.Declines catalog starter) :
      WindowStory catalog (notes ++ [note]) (.asking starter starter.opponent)
  | closes {notes : List WindowNote} {starter : Seat} {note : WindowNote}
      (story : WindowStory catalog notes (.asking starter starter.opponent))
      (declines : note.Declines catalog starter.opponent) :
      WindowStory catalog (notes ++ [note, .closed]) .absent
  | answers {notes : List WindowNote} {starter player : Seat}
      (story : WindowStory catalog notes (.asking starter player)) :
      WindowStory catalog (notes ++ [.answered]) .answered
  | resolves {notes : List WindowNote} (story : WindowStory catalog notes .answered) :
      WindowStory catalog (notes ++ [.resolved]) .absent
  | ends {notes : List WindowNote} {status : WindowStatus} (story : WindowStory catalog notes status) :
      WindowStory catalog (notes ++ [.ended]) .absent

namespace WindowStory

variable {catalog : Catalog} {notes early late : List WindowNote} {starter player : Seat}
  {status : WindowStatus} {note : WindowNote}

/-- Somebody is asked first when the window has just opened. -/
theorem of_asking_first (story : WindowStory catalog notes (.asking starter starter)) :
    ∃ before moment, notes = before ++ [.opened moment] ∧ moment.turnPlayer = starter := by
  generalize asked : WindowStatus.asking starter starter = status at story
  cases story with
  | opens story _ =>
    obtain ⟨rfl, _⟩ := WindowStatus.asking.inj asked
    exact ⟨_, _, rfl, rfl⟩
  | hands story declines =>
    obtain ⟨rfl, same⟩ := WindowStatus.asking.inj asked
    exact absurd same.symm starter.opponent_ne
  | _ => cases asked

/-- The other player is asked when the one who was asked first has declined the window. -/
theorem of_asking_second (story : WindowStory catalog notes (.asking starter starter.opponent)) :
    ∃ before moment note, notes = before ++ [.opened moment, note] ∧ moment.turnPlayer = starter ∧
      note.Declines catalog starter := by
  generalize asked : WindowStatus.asking starter starter.opponent = status at story
  cases story with
  | opens story _ =>
    obtain ⟨rfl, same⟩ := WindowStatus.asking.inj asked
    exact absurd same (Seat.opponent_ne _)
  | @hands _ other note story declines =>
    obtain ⟨rfl, _⟩ := WindowStatus.asking.inj asked
    obtain ⟨before, moment, rfl, same⟩ := story.of_asking_first
    exact ⟨before, moment, note, List.append_assoc .., same, declines⟩
  | _ => cases asked

/-- A window disappears in the last note or in an earlier one. -/
theorem closed_concat (split : notes ++ [note] = early ++ .closed :: late) :
    note = .closed ∧ notes = early ∨ ∃ rest, notes = early ++ .closed :: rest := by
  rcases List.eq_nil_or_concat' late with rfl | ⟨rest, last, rfl⟩
  · obtain ⟨same, last⟩ := List.append_inj' split rfl
    exact .inl ⟨by simpa using last, same⟩
  · rw [← List.cons_append, ← List.append_assoc] at split
    exact .inr ⟨rest, List.append_inj_left' split rfl⟩

/-- A window without a chain disappears only after both players have declined it, in their order. -/
theorem before_closed (story : WindowStory catalog notes status)
    (split : notes = early ++ .closed :: late) :
    ∃ before moment first second, early = before ++ [.opened moment, first, second] ∧
      first.Declines catalog moment.turnPlayer ∧
      second.Declines catalog moment.turnPlayer.opponent := by
  induction story generalizing late with
  | none => simp at split
  | opens _ _ ih =>
    obtain ⟨_, earlier⟩ := (closed_concat split).resolve_left (by simp)
    exact ih earlier
  | hands _ declines ih =>
    obtain ⟨_, earlier⟩ := (closed_concat split).resolve_left (by rintro ⟨rfl, _⟩; exact declines)
    exact ih earlier
  | @closes notes starter note story declines ih =>
    rw [List.append_cons] at split
    rcases closed_concat split with ⟨_, rfl⟩ | ⟨_, both⟩
    · obtain ⟨before, moment, first, rfl, rfl, declined⟩ := story.of_asking_second
      exact ⟨before, moment, first, note, List.append_assoc .., declined, declines⟩
    · obtain ⟨_, earlier⟩ := (closed_concat both).resolve_left (by rintro ⟨rfl, _⟩; exact declines)
      exact ih earlier
  | answers _ ih =>
    obtain ⟨_, earlier⟩ := (closed_concat split).resolve_left (by simp)
    exact ih earlier
  | resolves _ ih =>
    obtain ⟨_, earlier⟩ := (closed_concat split).resolve_left (by simp)
    exact ih earlier
  | ends _ ih =>
    obtain ⟨_, earlier⟩ := (closed_concat split).resolve_left (by simp)
    exact ih earlier

end WindowStory

/-! Notes -/

namespace GameState

/-- These are the notes of passes that are made for players who cannot answer. -/
def advanceNotes (catalog : Catalog) : (passes : Nat) → GameState → List WindowNote
  | 0, _ => []
  | passes + 1, state =>
    match state.window with
    | none => []
    | some window =>
      if state.hasResponse catalog window.holder then []
      else
        .unable window.holder state ::
          match window.pass window.holder with
          | .ok (.priorityTo _, next) =>
            advanceNotes catalog passes { state with window := some next }
          | _ => [.closed]

/-- These are the notes of a window that opens for the pending events. -/
def openingNotes (state : GameState) (catalog : Catalog) : List WindowNote :=
  let gathered := state.gatherTriggers catalog
  .opened gathered ::
    if gathered.chain.isEmpty then advanceNotes catalog maxPasses gathered else [.answered]

/-- These are the notes of a pass in a window without a chain. -/
def passingNotes (state : GameState) (catalog : Catalog) (player : Seat) (window : ResponseWindow) :
    List WindowNote :=
  .passed player ::
    match window.pass player with
    | .ok (.priorityTo _, next) =>
      advanceNotes catalog maxPasses
        ({ state with window := some next }.record (.priorityPassed player))
    | _ => [.closed]

/-- These are the notes of an action without what follows from it. -/
def actionNotes (state : GameState) (rules : Rules) (player : Seat) (action : Action) :
    List WindowNote :=
  match state.window, action with
  | some window, .passPriority =>
    if state.chain.isEmpty then state.passingNotes rules.catalog player window
    else
      match state.chain.pass player rules.config.passRule with
      | .ok (.resolve, _) => [.resolved]
      | _ => []
  | some _, .activateEffect .. => if state.chain.isEmpty then [.answered] else []
  | _, _ => []

/-- These are the notes of what happens by itself until a player has to act or the duel is over. -/
def settlingNotes (catalog : Catalog) : (steps : Nat) → GameState → List WindowNote
  | 0, state => if state.outcome.isSome then [.ended] else []
  | steps + 1, state =>
    if state.outcome.isSome then [.ended]
    else
      match state.settleStep? catalog with
      | some next =>
        (if state.pendingEvents.isEmpty then [] else state.openingNotes catalog) ++
          settlingNotes catalog steps next
      | none => []

/-- These are the notes of an action and of what follows from it. -/
def stepNotes (state : GameState) (rules : Rules) (player : Seat) (action : Action) :
    List WindowNote :=
  match state.dispatch rules player action with
  | .ok acted => state.actionNotes rules player action ++
      settlingNotes rules.catalog maxSettleSteps (acted.sweep rules.catalog)
  | .error _ => []

end GameState

/-- These are the notes of a request that is served. -/
def Duel.windowNotes (duel : Duel) : Request → List WindowNote
  | .act player action => duel.state.stepNotes duel.rules player action
  | .timeout player =>
    match duel.state.timeoutAction player with
    | .ok action => duel.state.stepNotes duel.rules player action
    | .error _ => []

/-- These are the notes of the first turn. -/
def DuelSetup.firstNotes (setup : DuelSetup) : List WindowNote :=
  match (Seat.startingWith setup.firstPlayer).foldlM setup.dealHand setup.withDecks with
  | .ok dealt => GameState.settlingNotes setup.rules.catalog GameState.maxSettleSteps
      (dealt.startTurn setup.rules)
  | .error _ => []

/-- This is a run with the notes of what happens to response windows. -/
inductive DuelSetup.Noted (setup : DuelSetup) : List Request → Duel → List WindowNote → Prop where
  | start {duel : Duel} (built : setup.build = .ok duel) : Noted setup [] duel setup.firstNotes
  | next {requests : List Request} {request : Request} {duel after : Duel} {report : StepReport}
      {notes : List WindowNote} (earlier : Noted setup requests duel notes)
      (served : duel.serve request = .ok (report, after)) :
      Noted setup (requests ++ [request]) after (notes ++ duel.windowNotes request)

end CardDuel
