/-
What the stages of a session are.

* `Act.outcome` : what an act comes to; acts in a row come to what their outcomes come to in a row;
* `Text.drawn` : what comes of drawings;
* `Battle.takeShown`, `Battle.roundShown` : what comes of a turn and of a round at the terminal;
* `outcome_afterTurn`, `outcome_playTurn`, `outcome_openBattle` : what the acts of a battle come to;
* `result_enter`, `result_reply_menu`, `result_reply_turn` : the first stage of a session, and the
  stages after an answer.
-/
import CardBattle.Proofs.Drawn
import CardBattle.Proofs.Told
import CardBattle.Session

namespace CardBattle

open Screen Session Text

/-! ### Outcomes of acts -/

namespace Act

variable {α β : Type}

/-- What an act comes to, apart from its events. -/
def outcome (act : Act α) : Except Failure α := act.run.result

@[simp] lemma outcome_scene (scene : Scene α) :
    (monadLift scene : Act α).outcome = .ok scene.result := rfl

@[simp] lemma outcome_numeral (x : Except NumeralFault α) :
    (monadLift x : Act α).outcome = x.mapError .numeral := rfl

@[simp] lemma outcome_arithmetic (x : Except Double.Fault α) :
    (monadLift x : Act α).outcome = x.mapError .arithmetic := rfl

@[simp] lemma outcome_bind (act : Act α) (f : α → Act β) :
    (act >>= f).outcome = act.outcome >>= fun a => (f a).outcome := by
  rw [outcome, outcome, ExceptT.run_bind, Scene.result_bind]
  cases act.run.result with
  | ok a => rfl
  | error failure => rfl

end Act

@[simp] lemma outcome_note (watched : Draft → Bool) (drafts : List Draft) :
    (Act.note watched drafts).outcome = Draft.noted watched drafts := rfl

/-- What comes of drawing wordings. -/
def Text.drawn (ws : List Wording) : Except Failure Unit :=
  if allWritable ws then .ok () else .error (.numeral .unwritable)

lemma Drawn.mapError_eq {x : Except NumeralFault Unit} {ws : List Wording} (h : Drawn x ws) :
    x.mapError .numeral = drawn ws := by
  rw [drawn]
  split_ifs with hws
  · obtain ⟨_, rfl⟩ := h.exists_eq_ok hws
    rfl
  · rw [h.eq_error (by simpa using hws)]
    rfl

/-- The stage that an act comes to; one that fails ends the session. -/
def stageOf : Except Failure Stage → Stage
  | .ok stage => stage
  | .error failure => .ended (.failed failure)

lemma result_conclude (act : Act Stage) : (conclude act).result = stageOf act.outcome := by
  rw [conclude, Scene.result_bind, Act.outcome]
  cases act.run.result with
  | ok stage => rfl
  | error failure => rfl

/-! ### The acts of a turn -/

lemma outcome_showStanding (b : Battle) : (showStanding b).outcome = drawn b.standingWords := by
  have h : Drawn (sides b >>= fun _ => handTable b.player.cards >>= fun _ => pure ())
      b.standingWords :=
    (drawn_sides b).bind fun _ => (drawn_handTable b.player.cards).map _
  rw [← h.mapError_eq]
  simp only [showStanding, Act.outcome_bind, Act.outcome_scene, Act.outcome_numeral, ok_bind,
    bind_mapError]
  generalize sides b = panels, handTable b.player.cards = table
  rfl

lemma outcome_showTurn (before now : Battle) (label : String) :
    (showTurn before now label).outcome = drawn (before.changeWords now) := by
  have h : Drawn (turnSummary before now label >>= fun _ => pure ()) (before.changeWords now) :=
    (drawn_turnSummary before now label).map _
  rw [← h.mapError_eq, bind_mapError, showTurn, Act.outcome_bind, Act.outcome_numeral]
  generalize turnSummary before now label = summary
  rfl

/-- A decided battle has been played; the player is asked in an undecided one. -/
lemma outcome_afterTurn (b : Battle) :
    (afterTurn b).outcome
      = if b.isOver then .ok (.ended (.played b))
        else drawn b.standingWords >>= fun _ => .ok (.turn b) := by
  rw [afterTurn]
  split_ifs with hover
  · rfl
  · simp only [Act.outcome_bind, Act.outcome_scene, outcome_showStanding]
    rfl

namespace Battle

/-- What comes of a turn at the terminal: it is taken with its notes, and what it changed is
drawn. -/
def takeShown (watched : Draft → Bool) (b : Battle) (turn : Turn) : Except Failure Battle := do
  let next ← b.takeTold watched turn
  drawn (b.changeWords next)
  return next

/-- What comes of a round at the terminal. -/
def roundShown (watched : Draft → Bool) (b : Battle) (cards : List Card) :
    Except Failure Battle := do
  let played ← b.takeShown watched (.player cards)
  if played.isOver then return played
  played.takeShown watched .enemy

end Battle

lemma outcome_enemyHalf (watched : Draft → Bool) (b : Battle) :
    (enemyHalf watched b).outcome
      = b.takeShown watched .enemy >>= fun next => (afterTurn next).outcome := by
  simp only [enemyHalf, Act.outcome_bind, outcome_note, Act.outcome_arithmetic, outcome_showTurn,
    Battle.takeShown, Battle.takeTold, bind_assoc, pure_bind]
  rfl

/-- A turn of the player at the terminal is a round, and what comes after it. -/
lemma outcome_playTurn (watched : Draft → Bool) (b : Battle) (cards : List Card) :
    (playTurn watched b cards).outcome
      = b.roundShown watched cards >>= fun next => (afterTurn next).outcome := by
  simp only [playTurn, Act.outcome_bind, outcome_note, Act.outcome_arithmetic, outcome_showTurn,
    Battle.roundShown, Battle.takeShown, Battle.takeTold, bind_assoc, pure_bind]
  refine bind_congr fun _ => bind_congr fun played => bind_congr fun _ => ?_
  split_ifs with hover
  · rfl
  · simp only [outcome_enemyHalf, Battle.takeShown, Battle.takeTold, bind_assoc, pure_bind]

/-! ### The stages of a session -/

namespace Setup

/-- The first snapshot of a battle whose notes are made. -/
def opened (s : Setup) (foe : Foe) : Except Failure Battle := do
  let b ← s.battle foe
  Draft.noted s.watches (s.openingNotes foe b)
  return b

lemma outcome_openBattle (s : Setup) (foe : Foe) :
    (s.openBattle foe).outcome = s.opened foe >>= fun b => (afterTurn b).outcome := by
  rw [openBattle, opened]
  cases s.battle foe with
  | ok b =>
    simp only [Act.outcome_bind, outcome_note, ok_bind, bind_assoc, pure_bind]
    rfl
  | error failure => rfl

end Setup

lemma result_enter (s : Setup) :
    s.enter.result
      = match s.foe? with
        | some foe => stageOf (s.openBattle foe).outcome
        | none => stageOf ((showMenu Catalog.enemies).outcome >>= fun _ => .ok .menu) := by
  rw [Setup.enter, Scene.result_bind]
  cases s.foe? with
  | some foe => exact result_conclude _
  | none => rw [result_conclude, Act.outcome_bind]; rfl

/-- The stage after an answer to the menu. -/
lemma result_reply_menu (s : Setup) (answer : Answer) :
    (s.reply answer .menu).result
      = match (answerMenu Catalog.enemySlugs answer).result with
        | .again => .menu
        | .left => .ended .left
        | .fault fault => .ended (.failed (.numeral fault))
        | .chosen slug => stageOf (s.openBattle (.listed slug)).outcome := by
  rw [Setup.reply, Scene.result_bind]
  cases (answerMenu Catalog.enemySlugs answer).result with
  | again => rfl
  | left => rfl
  | fault fault => rfl
  | chosen slug => exact result_conclude _

/-- The stage after an answer in the course of a battle. -/
lemma result_reply_turn (s : Setup) (b : Battle) (answer : Answer) :
    (s.reply answer (.turn b)).result
      = match (answerCards b.player.cards answer).result with
        | .left => .ended .left
        | .fault fault => .ended (.failed (.numeral fault))
        | .quit => .ended (.played b)
        | .chosen cards => stageOf (playTurn s.watches b cards).outcome := by
  rw [Setup.reply, result_conclude, replyTurn, Act.outcome_bind, Act.outcome_scene]
  cases (answerCards b.player.cards answer).result with
  | left => rfl
  | fault fault => rfl
  | quit => rfl
  | chosen cards => rfl

end CardBattle
