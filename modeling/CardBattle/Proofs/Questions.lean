/-
A session asks for cards where it waits for them, and nowhere else.

* `Scene.questions` : how often a scene asks for cards;
* `Stage.questions` : once before a stage that waits for cards, and not before another one;
* `questions_enter`, `questions_reply` : so often cards are asked for up to the next stage;
* `questions_session` : in a whole session, once for each snapshot of its prompts.
-/
import CardBattle.Proofs.Prompts
import Mathlib.Tactic

namespace CardBattle

open Screen Session Text

/-! ### Questions of scenes -/

namespace Scene

variable {α β : Type}

/-- How often a scene asks for cards. -/
def questions (scene : Scene α) : ℕ := scene.events.count (.asked cardsPrompt)

@[simp] lemma questions_pure (a : α) : (pure a : Scene α).questions = 0 := rfl

@[simp] lemma questions_bind (scene : Scene α) (f : α → Scene β) :
    (scene >>= f).questions = scene.questions + (f scene.result).questions :=
  List.count_append

@[simp] lemma questions_draw (drawings : List Drawing) : (draw drawings).questions = 0 := by
  refine List.count_eq_zero.mpr fun h => ?_
  obtain ⟨drawing, _, hdrawing⟩ := List.mem_map.mp h
  cases hdrawing

@[simp] lemma questions_note (notes : List Note) : (note notes).questions = 0 := by
  refine List.count_eq_zero.mpr fun h => ?_
  obtain ⟨text, _, htext⟩ := List.mem_map.mp h
  cases htext

end Scene

/-! ### Questions of acts -/

/-- How often cards are asked for before a stage. -/
def Stage.questions : Stage → ℕ
  | .turn _ => 1
  | _ => 0

namespace Act

variable {α β : Type}

/-- An act that does not ask for cards. -/
def Quiet (act : Act α) : Prop := act.run.questions = 0

/-- An act that asks for cards as often as the stage wants that it comes to. -/
def Asks (act : Act Stage) : Prop := act.run.questions = (stageOf act.outcome).questions

lemma questions_run_bind (act : Act α) (f : α → Act β) :
    (act >>= f).run.questions
      = act.run.questions + match act.outcome with
        | .ok a => (f a).run.questions
        | .error _ => 0 := by
  rw [ExceptT.run_bind, Scene.questions_bind, outcome]
  cases act.run.result with
  | ok a => rfl
  | error failure => rfl

lemma Quiet.bind {act : Act α} {f : α → Act β} (h : act.Quiet) (hf : ∀ a, (f a).Quiet) :
    (act >>= f).Quiet := by
  rw [Quiet, questions_run_bind, h]
  cases act.outcome with
  | ok a => exact (Nat.zero_add _).trans (hf a)
  | error failure => rfl

lemma Quiet.asks {act : Act α} {f : α → Act Stage} (h : act.Quiet) (hf : ∀ a, (f a).Asks) :
    (act >>= f).Asks := by
  rw [Asks, questions_run_bind, h, outcome_bind]
  cases act.outcome with
  | ok a => exact (Nat.zero_add _).trans (hf a)
  | error failure => rfl

lemma quiet_scene {scene : Scene α} (h : scene.questions = 0) :
    (monadLift scene : Act α).Quiet := by
  show (scene.events ++ []).count _ = 0
  rwa [List.append_nil]

lemma quiet_numeral (x : Except NumeralFault α) : (monadLift x : Act α).Quiet := rfl

lemma quiet_arithmetic (x : Except Double.Fault α) : (monadLift x : Act α).Quiet := rfl

lemma quiet_draw (drawings : List Drawing) : (monadLift (Scene.draw drawings) : Act Unit).Quiet :=
  quiet_scene (Scene.questions_draw drawings)

lemma quiet_note (watched : Draft → Bool) (drafts : List Draft) : (note watched drafts).Quiet :=
  (quiet_scene (Scene.questions_note _)).bind fun _ => quiet_numeral _

end Act

/-! ### Questions of a turn -/

lemma quiet_showStanding (b : Battle) : (showStanding b).Quiet := by
  refine (Act.quiet_scene rfl).bind fun _ => ?_
  refine (Act.quiet_numeral _).bind fun panels => (Act.quiet_draw _).bind fun _ => ?_
  exact (Act.quiet_numeral _).bind fun table => Act.quiet_draw _

lemma quiet_showTurn (before now : Battle) (label : String) : (showTurn before now label).Quiet :=
  (Act.quiet_numeral _).bind fun _ => Act.quiet_draw _

lemma asks_afterTurn (b : Battle) : (afterTurn b).Asks := by
  rw [afterTurn]
  split_ifs
  · exact (Act.quiet_draw _).asks fun _ => rfl
  · exact (quiet_showStanding b).asks fun _ => rfl

lemma asks_enemyHalf (watched : Draft → Bool) (b : Battle) : (enemyHalf watched b).Asks := by
  refine (Act.quiet_note _ _).asks fun _ => (Act.quiet_arithmetic _).asks fun next => ?_
  exact (quiet_showTurn _ _ _).asks fun _ => asks_afterTurn next

lemma asks_playTurn (watched : Draft → Bool) (b : Battle) (cards : List Card) :
    (playTurn watched b cards).Asks := by
  refine (Act.quiet_note _ _).asks fun _ => (Act.quiet_arithmetic _).asks fun played => ?_
  refine (quiet_showTurn _ _ _).asks fun _ => ?_
  split_ifs
  · exact asks_afterTurn played
  · exact asks_enemyHalf watched played

lemma questions_answerCards (hand : List Card) (answer : Answer) :
    (answerCards hand answer).questions = 0 := by
  rw [answerCards]
  cases answer.line? quitWord with
  | none => rfl
  | some line =>
      dsimp only
      cases readSelection line hand.length with
      | error fault => rfl
      | ok selection? => cases selection? <;> simp

lemma asks_replyTurn (watched : Draft → Bool) (b : Battle) (answer : Answer) :
    (replyTurn watched b answer).Asks := by
  refine (Act.quiet_scene (questions_answerCards _ _)).asks fun reply => ?_
  cases reply with
  | left => rfl
  | fault fault => rfl
  | quit => exact (Act.quiet_scene (Scene.questions_note _)).asks fun _ => rfl
  | chosen cards => exact asks_playTurn watched b cards

/-! ### Questions of a session -/

lemma Act.Asks.conclude {act : Act Stage} (h : act.Asks) :
    (conclude act).questions = (conclude act).result.questions := by
  rw [result_conclude, Session.conclude, Scene.questions_bind]
  refine Eq.trans ?_ h
  cases act.run.result <;> rfl

lemma Setup.asks_openBattle (s : Setup) (foe : Foe) : (s.openBattle foe).Asks := by
  rw [openBattle]
  cases s.battle foe with
  | ok b => exact (Act.quiet_note _ _).asks fun _ => asks_afterTurn b
  | error failure => rfl

/-- The question of the menu is another one. -/
lemma questions_ask_menuPrompt :
    (Scene.ask (menuPrompt Catalog.enemySlugs)).questions = 0 := by
  decide +kernel

lemma questions_answerMenu (answer : Answer) :
    (answerMenu Catalog.enemySlugs answer).questions = 0 := by
  rw [answerMenu]
  cases answer.line? quitWord with
  | none => rfl
  | some line =>
      dsimp only
      cases readMenu Catalog.enemySlugs line with
      | left => simp
      | again => simp [questions_ask_menuPrompt]
      | chosen slug => rfl
      | fault fault => rfl

namespace Setup

variable (s : Setup)

lemma quiet_showMenu : (showMenu Catalog.enemies).Quiet := by
  refine (Act.quiet_numeral _).bind fun table => (Act.quiet_draw _).bind fun _ => ?_
  exact Act.quiet_scene questions_ask_menuPrompt

lemma questions_enter : s.enter.questions = s.enter.result.questions := by
  rw [enter, Scene.questions_bind, Scene.result_bind]
  refine (Nat.zero_add _).trans ?_
  cases s.foe? with
  | some foe => exact (asks_openBattle s foe).conclude
  | none =>
      have hasks : (showMenu Catalog.enemies >>= fun _ => pure Stage.menu).Asks :=
        quiet_showMenu.asks fun _ => rfl
      exact hasks.conclude

/-- From an answer up to the next stage, cards are asked for as that stage wants. -/
lemma questions_reply (answer : Answer) (stage : Stage) :
    (s.reply answer stage).questions = (s.reply answer stage).result.questions := by
  cases stage with
  | ended ending => rfl
  | turn b => exact (asks_replyTurn s.watches b answer).conclude
  | menu =>
      rw [reply, Scene.questions_bind, Scene.result_bind, questions_answerMenu, Nat.zero_add]
      cases (answerMenu Catalog.enemySlugs answer).result with
      | again => rfl
      | left => rfl
      | fault fault => rfl
      | chosen slug => exact (asks_openBattle s (.listed slug)).conclude

lemma questions_lastReply (stage : Stage) : (s.lastReply stage).questions = 0 := by
  have hlast := s.questions_reply .endOfInput stage
  rw [reply_endOfInput_eq] at hlast
  rw [lastReply, Scene.questions_bind, reply_endOfInput_eq, hlast]
  rfl

lemma length_prompts_stages (answers : List Answer) (stage : Stage) :
    ((s.stages answers stage).filterMap Stage.battle?).length
      = stage.questions + ((s.stages answers stage).tail.filterMap Stage.battle?).length := by
  have hhead : (s.stages answers stage).head? = some stage := by
    cases answers <;> cases stage <;> rfl
  rw [← List.cons_head?_tail hhead, List.filterMap_cons]
  cases stage with
  | turn b => exact Nat.add_comm _ 1
  | menu => exact (Nat.zero_add _).symm
  | ended ending => exact (Nat.zero_add _).symm

/-- In the rest of a session cards are asked for once at every later stage that waits for them. -/
lemma questions_proceed (answers : List Answer) (stage : Stage) :
    (s.proceed answers stage).questions
      = ((s.stages answers stage).tail.filterMap Stage.battle?).length := by
  induction answers generalizing stage with
  | nil =>
      have hlast : [(s.reply .endOfInput stage).result].filterMap Stage.battle? = [] := by
        rw [reply_endOfInput_eq]
        rfl
      cases stage with
      | ended ending => rfl
      | menu => exact (s.questions_lastReply _).trans (congrArg List.length hlast).symm
      | turn b => exact (s.questions_lastReply _).trans (congrArg List.length hlast).symm
  | cons answer rest ih =>
      have hrest : (s.reply answer stage).questions
          + (s.proceed rest (s.reply answer stage).result).questions
          = ((s.stages rest (s.reply answer stage).result).filterMap Stage.battle?).length := by
        rw [questions_reply, ih, length_prompts_stages]
      cases stage with
      | ended ending => rfl
      | menu => exact (Scene.questions_bind _ _).trans hrest
      | turn b => exact (Scene.questions_bind _ _).trans hrest

/-- In a whole session cards are asked for once at each snapshot of its prompts. -/
theorem questions_session (answers : List Answer) :
    (s.session answers).questions = (s.prompts answers).length := by
  rw [session, Scene.questions_bind, questions_enter, questions_proceed, prompts,
    length_prompts_stages]

end Setup

end CardBattle
