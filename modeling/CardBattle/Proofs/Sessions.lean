/-
A session plays a battle as the alternation of turns does.

* `Sight` : what a session draws of a battle, how it stands and what a turn changed;
* `Viewing` : the sights of a computation, and what it comes to;
* `Battle.viewed`, `Battle.noted` : the alternation of turns in view, and for its result alone;
  `result_alternateWith_viewed`: both come to the same;
* `Viewing.stages` : the stages of a session that draws the sights of a computation, up to one that
  cannot be drawn;
* `stages_eq_alternateWith` : the stages of a session are those of the alternation in view, under
  the choices that its answers make.
-/
import CardBattle.Battle.Alternation
import CardBattle.Proofs.Requests
import CardBattle.Proofs.Stages
import Mathlib.Tactic

namespace CardBattle

open Session Text

/-! ### Computations in view -/

/-- What a session draws of a battle. -/
inductive Sight where
  /-- How the battle stands, when the player is asked for cards. -/
  | standing (b : Battle)
  /-- What a turn changed. -/
  | change (before now : Battle)
  deriving DecidableEq, Repr

namespace Sight

/-- The wordings in the drawing of a sight. -/
def words : Sight → List Wording
  | .standing b => b.standingWords
  | .change before now => before.changeWords now

/-- Whether a sight can be drawn. -/
def isLegible (sight : Sight) : Bool := allWritable sight.words

/-- The stage that follows a sight: where the player is asked, the session waits. -/
def stage? : Sight → Option Stage
  | .standing b => some (.turn b)
  | .change .. => none

end Sight

/-- The sights of a computation, and what it comes to unless it ends the session. -/
structure Viewing (α : Type) where
  sights : List Sight
  result : Except Ending α
  deriving DecidableEq, Repr

namespace Viewing

instance : Monad Viewing where
  pure a := ⟨[], .ok a⟩
  bind m f :=
    match m.result with
    | .ok a => ⟨m.sights ++ (f a).sights, (f a).result⟩
    | .error ending => ⟨m.sights, .error ending⟩

/-- A sight. -/
def see (sight : Sight) : Viewing Unit := ⟨[sight], .ok ()⟩

variable {α β : Type}

/-- A result that is reached unseen. -/
def unseen (x : Except Ending α) : Viewing α := ⟨[], x⟩

/-- A result that is reached unseen, where a failure ends the session. -/
def attempt (x : Except Failure α) : Viewing α := unseen (x.mapError .failed)

@[simp] lemma result_pure (a : α) : (pure a : Viewing α).result = .ok a := rfl

@[simp] lemma result_see (sight : Sight) : (see sight).result = .ok () := rfl

@[simp] lemma result_unseen (x : Except Ending α) : (unseen x).result = x := rfl

@[simp] lemma result_attempt (x : Except Failure α) :
    (attempt x).result = x.mapError .failed := rfl

@[simp] lemma result_bind (m : Viewing α) (f : α → Viewing β) :
    (m >>= f).result = m.result >>= fun a => (f a).result := by
  show (match m.result with
    | .ok a => Viewing.mk (m.sights ++ (f a).sights) (f a).result
    | .error ending => ⟨m.sights, .error ending⟩).result = _
  cases m.result with
  | ok a => rfl
  | error ending => rfl

end Viewing

/-! ### The alternation of turns in view -/

/-- The cards that an answer asks for, seeing a snapshot; none if it quits. -/
def choice (answer : Answer) (b : Battle) : Except Ending (Option (List Card)) :=
  match (answerCards b.player.cards answer).result with
  | .chosen cards => .ok (some cards)
  | .quit => .ok none
  | .left => .error .left
  | .fault fault => .error (.failed (.numeral fault))

/-- The choice of an answer, once it is seen how the battle stands. -/
def viewChoice (answer : Answer) (b : Battle) : Viewing (Option (List Card)) := do
  Viewing.see (.standing b)
  Viewing.unseen (choice answer b)

namespace Battle

/-- The alternation of turns for its result, with notes of which some drafts are watched. -/
def noted (watched : Draft → Bool) : Course (Except Ending) where
  round b cards := Except.mapError .failed do
    Draft.noted watched (b.roundNotes cards)
    (b.round cards).mapError .arithmetic
  stop b := (Draft.noted watched b.stopNotes).mapError .failed

/-- A turn, with what it changed in view. -/
def viewTurn (watched : Draft → Bool) (b : Battle) (turn : Turn) : Viewing Battle := do
  Viewing.attempt (Draft.noted watched (b.notesOn turn))
  let next ← Viewing.attempt ((b.take turn).mapError .arithmetic)
  Viewing.see (.change b next)
  return next

/-- The alternation of turns in view. -/
def viewed (watched : Draft → Bool) : Course Viewing where
  round b cards := do
    let played ← b.viewTurn watched (.player cards)
    if played.isOver then return played
    played.viewTurn watched .enemy
  stop b := Viewing.attempt (Draft.noted watched b.stopNotes)

end Battle

/-! ### The result of the alternation in view -/

namespace Battle

lemma result_viewTurn (watched : Draft → Bool) (b : Battle) (turn : Turn) :
    (b.viewTurn watched turn).result = Except.mapError .failed (do
      Draft.noted watched (b.notesOn turn)
      (b.take turn).mapError .arithmetic) := by
  simp only [viewTurn, Viewing.result_bind, Viewing.result_attempt, Viewing.result_see,
    Viewing.result_pure, ok_bind, bind_mapError]
  cases Draft.noted watched (b.notesOn turn) with
  | error failure => rfl
  | ok _ => cases b.take turn <;> rfl

/-- A round in view comes to what the round with its notes comes to. -/
lemma result_round_viewed (watched : Draft → Bool) (b : Battle) (cards : List Card) :
    ((viewed watched).round b cards).result = (noted watched).round b cards := by
  simp only [viewed, noted, Viewing.result_bind, result_viewTurn, roundNotes, Draft.noted_append,
    round, take, notesOn]
  cases Draft.noted watched (b.playerTurnNotes cards) with
  | error failure => rfl
  | ok _ =>
      cases b.playerTurn cards with
      | error fault => rfl
      | ok played =>
          simp only [ok_bind, Except.mapError]
          split_ifs with hover
          · rfl
          · exact result_viewTurn watched played .enemy

theorem result_alternateWith_viewed (watched : Draft → Bool) (answers : List Answer) (b : Battle) :
    (b.alternateWith (viewed watched) none (answers.map viewChoice)).result
      = b.alternateWith (noted watched) none (answers.map choice) := by
  induction answers generalizing b with
  | nil =>
      rw [List.map_nil, List.map_nil, alternateWith, alternateWith]
      cases b.asks none <;> rfl
  | cons answer rest ih =>
      rw [List.map_cons, List.map_cons, alternateWith, alternateWith]
      cases b.asks none with
      | false => rfl
      | true =>
          simp only [if_true, Viewing.result_bind, viewChoice, Viewing.result_see,
            Viewing.result_unseen, ok_bind]
          refine bind_congr fun cards? => ?_
          cases cards? with
          | none => rfl
          | some cards =>
              simp only [Viewing.result_bind, result_round_viewed, ih]

end Battle

/-! ### Stages that are drawn -/

/-- The stages of a session that goes on with a result, or ends with its failure. -/
def onward {α : Type} (x : Except Failure α) (next : α → List Stage) : List Stage :=
  match x with
  | .ok a => next a
  | .error failure => [.ended (.failed failure)]

/-- The stages of a session that draws sights, up to one that cannot be drawn, and goes on. -/
def stagesUnder : List Sight → List Stage → List Stage
  | [], rest => rest
  | sight :: sights, rest =>
      onward (drawn sight.words) fun _ => sight.stage?.toList ++ stagesUnder sights rest

lemma stagesUnder_append (first second : List Sight) (rest : List Stage) :
    stagesUnder (first ++ second) rest = stagesUnder first (stagesUnder second rest) := by
  induction first with
  | nil => rfl
  | cons sight sights ih => simp only [List.cons_append, stagesUnder, ih]

/-- The sights that are drawn are those before the first one that cannot be. -/
lemma stagesUnder_eq (sights : List Sight) (rest : List Stage) :
    stagesUnder sights rest
      = (sights.takeWhile (·.isLegible)).filterMap Sight.stage?
        ++ if sights.all (·.isLegible) then rest
          else [.ended (.failed (.numeral .unwritable))] := by
  induction sights with
  | nil => simp [stagesUnder]
  | cons sight sights ih =>
      rw [stagesUnder, ih]
      cases hsight : sight.isLegible with
      | true =>
          rw [Sight.isLegible] at hsight
          cases hstage : sight.stage? <;>
            simp [onward, drawn, hsight, Sight.isLegible, hstage]
      | false =>
          rw [Sight.isLegible] at hsight
          simp [onward, drawn, hsight, Sight.isLegible]

lemma onward_bind {α β : Type} (x : Except Failure α) (f : α → Except Failure β)
    (next : β → List Stage) :
    onward (x >>= f) next = onward x fun a => onward (f a) next := by
  cases x <;> rfl

namespace Viewing

variable {α β : Type}

/-- The stages of a session that draws the sights of a computation and goes on with its result. -/
def stages (m : Viewing α) (next : α → List Stage) : List Stage :=
  stagesUnder m.sights (match m.result with
    | .ok a => next a
    | .error ending => [.ended ending])

lemma stages_bind (m : Viewing α) (f : α → Viewing β) (next : β → List Stage) :
    (m >>= f).stages next = m.stages fun a => (f a).stages next := by
  obtain ⟨sights, result⟩ := m
  cases result with
  | ok a => exact stagesUnder_append sights (f a).sights _
  | error ending => rfl

lemma stages_pure (a : α) (next : α → List Stage) : (pure a : Viewing α).stages next = next a := rfl

lemma stages_see (sight : Sight) (next : Unit → List Stage) :
    (see sight).stages next
      = onward (drawn sight.words) fun _ => sight.stage?.toList ++ next () := rfl

lemma stages_attempt (x : Except Failure α) (next : α → List Stage) :
    (attempt x).stages next = onward x next := by
  cases x <;> rfl

end Viewing

/-! ### The stages of a session -/

namespace Battle

/-- A turn in view is drawn as a turn at the terminal. -/
lemma stages_viewTurn (watched : Draft → Bool) (b : Battle) (turn : Turn)
    (next : Battle → List Stage) :
    (b.viewTurn watched turn).stages next = onward (b.takeShown watched turn) next := by
  simp only [viewTurn, takeShown, takeTold, Viewing.stages_bind, Viewing.stages_see,
    Viewing.stages_pure, Viewing.stages_attempt, onward_bind]
  rfl

/-- A round in view is drawn as a round at the terminal. -/
lemma stages_round_viewed (watched : Draft → Bool) (b : Battle) (cards : List Card)
    (next : Battle → List Stage) :
    ((viewed watched).round b cards).stages next = onward (b.roundShown watched cards) next := by
  simp only [viewed, roundShown, Viewing.stages_bind, stages_viewTurn, onward_bind]
  congr 1
  funext played
  split_ifs with hover
  · rfl
  · exact stages_viewTurn watched played .enemy next

/-- A decided battle is played no further. -/
lemma alternateWith_viewed_of_isOver {watched : Draft → Bool} {b : Battle} (h : b.isOver = true)
    (choices : List (Battle → Viewing (Option (List Card)))) :
    b.alternateWith (viewed watched) none choices = pure b := by
  have hasks : b.asks none = false := by simp [asks, h]
  cases choices <;> simp [alternateWith, hasks]

/-- In an open battle it is drawn how the battle stands, and the first answer makes its choice. -/
lemma stages_alternateWith_viewed {b : Battle} (hopen : b.isOver = false)
    (watched : Draft → Bool) (answer : Answer) (rest : List Answer) (next : Battle → List Stage) :
    (b.alternateWith (viewed watched) none ((answer :: rest).map viewChoice)).stages next
      = onward (drawn b.standingWords) fun _ => .turn b
          :: match choice answer b with
            | .ok none => next b
            | .ok (some cards) =>
                onward (b.roundShown watched cards) fun after =>
                  (after.alternateWith (viewed watched) none (rest.map viewChoice)).stages next
            | .error ending => [.ended ending] := by
  have hasks : b.asks none = true := by simp [asks, hopen, pastCap]
  rw [List.map_cons, alternateWith, if_pos hasks, viewChoice]
  simp only [Viewing.stages_bind, Viewing.stages_see]
  congr 1
  funext _
  show _ :: _ = _
  congr 1
  cases choice answer b with
  | error ending => rfl
  | ok cards? =>
      cases cards? with
      | none => rfl
      | some cards => exact (Viewing.stages_bind _ _ _).trans (stages_round_viewed _ _ _ _)

end Battle

namespace Setup

variable (s : Setup)

lemma stages_ended (answers : List Answer) (ending : Ending) :
    s.stages answers (.ended ending) = [.ended ending] := by
  cases answers <;> rfl

lemma stages_stageOf (answers : List Answer) (x : Except Failure Stage) :
    s.stages answers (stageOf x) = onward x fun stage => s.stages answers stage := by
  cases x with
  | ok stage => rfl
  | error failure => exact s.stages_ended answers _

/-- The end of input quits. -/
lemma choice_endOfInput (b : Battle) : choice .endOfInput b = .ok none := by
  simp [choice, answerCards, Answer.line?, readSelection, isQuit_quitWord]

/-- After an answer in an open battle, the session plays the round of its choice, if it makes one,
and goes on. -/
lemma stages_reply_turn (answers : List Answer) (answer : Answer) (b : Battle) :
    s.stages answers (s.reply answer (.turn b)).result
      = match choice answer b with
        | .ok none => [.ended (.played b)]
        | .ok (some cards) =>
            onward (b.roundShown s.watches cards) fun next =>
              s.stages answers (stageOf (afterTurn next).outcome)
        | .error ending => [.ended ending] := by
  rw [result_reply_turn, choice]
  cases (answerCards b.player.cards answer).result with
  | left => exact s.stages_ended answers _
  | fault fault => exact s.stages_ended answers _
  | quit => exact s.stages_ended answers _
  | chosen cards =>
      dsimp only
      rw [outcome_playTurn, stages_stageOf, onward_bind]
      simp only [stages_stageOf]

/-- The first answer is spent on the cards that are asked for; behind the last one the input has
ended. -/
lemma stages_turn (answers : List Answer) (b : Battle) :
    s.stages answers (.turn b)
      = .turn b
        :: s.stages answers.tail (s.reply (answers.headD .endOfInput) (.turn b)).result := by
  cases answers with
  | nil =>
      rw [stages, List.tail_nil, List.headD_nil, reply_endOfInput_eq, stages_ended]
      exact fun _ => Stage.noConfusion
  | cons answer rest => rfl

lemma stages_afterTurn_of_isOver {b : Battle} (h : b.isOver = true) (answers : List Answer) :
    s.stages answers (stageOf (afterTurn b).outcome) = [.ended (.played b)] := by
  rw [outcome_afterTurn, if_pos h]
  exact s.stages_ended answers _

/-- In an open battle it is drawn how the battle stands, and the first answer makes its choice. -/
lemma stages_afterTurn_of_open {b : Battle} (hopen : b.isOver = false) (answers : List Answer) :
    s.stages answers (stageOf (afterTurn b).outcome)
      = onward (drawn b.standingWords) fun _ => .turn b
          :: match choice (answers.headD .endOfInput) b with
            | .ok none => [.ended (.played b)]
            | .ok (some cards) =>
                onward (b.roundShown s.watches cards) fun after =>
                  s.stages answers.tail (stageOf (afterTurn after).outcome)
            | .error ending => [.ended ending] := by
  rw [outcome_afterTurn, if_neg (by simp [hopen]), stages_stageOf, onward_bind]
  simp only [onward, stages_turn, stages_reply_turn]

/-- From where a battle stands, the stages of a session are those of the alternation in view, under
the choices of its answers; behind them the input has ended, and nothing later is looked at. -/
lemma stages_afterTurn (answers more : List Answer) (b : Battle) :
    s.stages answers (stageOf (afterTurn b).outcome)
      = (b.alternateWith (Battle.viewed s.watches) none
          ((answers ++ .endOfInput :: more).map viewChoice)).stages
            fun last => [.ended (.played last)] := by
  induction answers generalizing b with
  | nil =>
      cases hover : b.isOver with
      | true =>
          rw [s.stages_afterTurn_of_isOver hover, Battle.alternateWith_viewed_of_isOver hover]
          rfl
      | false =>
          rw [s.stages_afterTurn_of_open hover, List.nil_append,
            Battle.stages_alternateWith_viewed hover, List.headD_nil, choice_endOfInput]
  | cons answer rest ih =>
      cases hover : b.isOver with
      | true =>
          rw [s.stages_afterTurn_of_isOver hover, Battle.alternateWith_viewed_of_isOver hover]
          rfl
      | false =>
          rw [s.stages_afterTurn_of_open hover, List.cons_append,
            Battle.stages_alternateWith_viewed hover]
          simp only [List.headD_cons, List.tail_cons, ih]

end Setup

/-! ### Sessions and alternations -/

/-- The ending of a session that plays a battle in view. -/
def Viewing.ending (m : Viewing Battle) : Ending :=
  match m.result with
  | .ok last => .played last
  | .error ending => ending

/-- Requests for cards of the hand are all judged. -/
lemma exists_of_mem_plan {player : Player} {enemy : Enemy} {available : Int} {requests : List Card}
    (h : ∀ request ∈ requests, request ∈ player.cards) {fate : Fate}
    (hfate : fate ∈ plan player enemy available requests) :
    ∃ card ∈ player.cards, ∃ verdict, fate = .judged card verdict := by
  induction requests generalizing available with
  | nil => cases hfate
  | cons request rest ih =>
      rw [plan_cons] at hfate
      rcases List.mem_cons.mp hfate with rfl | hrest
      · rw [fateOf]
        cases hfind : player.find? request.id with
        | none =>
            refine absurd ?_ (Player.find?_eq_none_iff.mp hfind)
            exact List.mem_map_of_mem (h request List.mem_cons_self)
        | some card => exact ⟨card, Player.mem_of_find? hfind, _, rfl⟩
      · exact ih (fun other hother => h other (List.mem_cons_of_mem _ hother)) hrest

/-- A choice is of cards of the hand. -/
lemma mem_of_choice {answer : Answer} {b : Battle} {cards : List Card}
    (h : choice answer b = .ok (some cards)) : ∀ card ∈ cards, card ∈ b.player.cards := by
  rw [choice, answerCards] at h
  cases hline : answer.line? quitWord with
  | none => rw [hline] at h; cases h
  | some line =>
      rw [hline] at h
      cases hread : readSelection line b.player.cards.length with
      | error fault => simp [hread] at h
      | ok selection? =>
          cases selection? with
          | none => simp [hread] at h
          | some selection =>
              obtain rfl : selection.cards b.player.cards = cards := by simpa [hread] using h
              intro card hcard
              obtain ⟨place, _, hplace⟩ := List.mem_filterMap.mp hcard
              exact List.mem_of_getElem? hplace

namespace Setup

/-- A session whose battle is opened plays it as the alternation of turns does, under the choices
that its answers make and that the end of input makes behind them; nothing later is looked at, so
both come to an end. The alternation in view comes to what it does for its result alone. Where all
its sights can be drawn, the session asks for cards in the same snapshots and ends with the last
one, or with what ends the alternation; otherwise it ends where a sight cannot be drawn, and asks in
the same snapshots before. Every card that an answer chooses is in the hand, and none is missed when
the turn is taken. -/
theorem stages_eq_alternateWith (s : Setup) (b : Battle) (answers more : List Answer) :
    let script := answers ++ .endOfInput :: more
    let seen := b.alternateWith (Battle.viewed s.watches) none (script.map viewChoice)
    let ending := if seen.sights.all (·.isLegible) then seen.ending
      else .failed (.numeral .unwritable)
    (∀ foe, s.opened foe = .ok b →
        (conclude (s.openBattle foe)).result = (conclude (afterTurn b)).result)
      ∧ seen.result = b.alternateWith (Battle.noted s.watches) none (script.map choice)
      ∧ s.stages answers (conclude (afterTurn b)).result
        = (seen.sights.takeWhile (·.isLegible)).filterMap Sight.stage? ++ [.ended ending]
      ∧ (s.proceed answers (conclude (afterTurn b)).result).result = ending
      ∧ ∀ current answer cards, choice answer current = .ok (some cards) →
          (∀ card ∈ cards, card ∈ current.player.cards)
            ∧ ∀ fate ∈ current.fates cards,
                ∃ card ∈ current.player.cards, ∃ verdict, fate = .judged card verdict := by
  intro script seen ending
  have hstages : s.stages answers (conclude (afterTurn b)).result
      = (seen.sights.takeWhile (·.isLegible)).filterMap Sight.stage? ++ [.ended ending] := by
    rw [result_conclude, s.stages_afterTurn answers more b, Viewing.stages, stagesUnder_eq]
    congr 1
    simp only [ending, Viewing.ending]
    split_ifs with hlegible
    · cases seen.result <;> rfl
    · rfl
  refine ⟨fun foe hopened => ?_, Battle.result_alternateWith_viewed s.watches script b, hstages,
    ?_, fun current answer cards hchoice => ?_⟩
  · rw [result_conclude, result_conclude, outcome_openBattle, hopened, ok_bind]
  · have hlast := getLast?_stages s answers (conclude (afterTurn b)).result
    rw [hstages, List.getLast?_concat] at hlast
    exact (Stage.ended.inj (Option.some.inj hlast)).symm
  · have hcards := mem_of_choice hchoice
    have hready : ∀ card ∈ cards, card ∈ current.readyPlayer.cards := hcards
    exact ⟨hcards, fun fate hfate => exists_of_mem_plan hready hfate⟩

/-- A session against the forest fire, with some hit points. -/
def facingFire (hitPoints : Int) : Setup :=
  { settings := { startingHitPoints := hitPoints }, enemySlug? := some "forest_fire" }

/-- The start of its battle, with the starter hand. -/
def fire (hitPoints : Int) : Battle :=
  .start Catalog.forestFire { hitPoints, cards := (Catalog.starterHand {}).1 } 3

/-- Fire hoses and streams put the fire out in the second turn of the player; the session ends with
the snapshot that the alternation comes to. -/
theorem stages_eq_alternateWith_fire :
    (facingFire 20).opened (.listed "forest_fire") = .ok (fire 20)
      ∧ (∃ last, (fire 20).alternateWith (Battle.noted (facingFire 20).watches) none
            ([.line "4,2", .line "2", .endOfInput].map choice) = .ok last
          ∧ last.outcome = .playerWins 2
          ∧ ((facingFire 20).proceed [.line "4,2", .line "2"]
              (conclude ((facingFire 20).openBattle (.listed "forest_fire"))).result).result
            = .played last)
      ∧ ∃ cards, choice (.line "4,2") (fire 20) = .ok (some cards)
          ∧ cards.map (·.name) = ["Fire Hoses", "Stream"]
          ∧ ∀ card ∈ cards, card ∈ (fire 20).player.cards := by
  obtain ⟨hopening, hresult, _, hending, hcards⟩ :=
    stages_eq_alternateWith (facingFire 20) (fire 20) [.line "4,2", .line "2"] []
  have hopened : (facingFire 20).opened (.listed "forest_fire") = .ok (fire 20) := by
    decide +kernel
  refine ⟨hopened, ?_, _, rfl, rfl, (hcards (fire 20) (.line "4,2") _ rfl).1⟩
  have hlegible : ((fire 20).alternateWith (Battle.viewed (facingFire 20).watches) none
      ([.line "4,2", .line "2", .endOfInput].map viewChoice)).sights.all (·.isLegible)
      = true := by
    decide +kernel
  have hwins : ((fire 20).alternateWith (Battle.noted (facingFire 20).watches) none
      ([.line "4,2", .line "2", .endOfInput].map choice)).map (·.outcome)
      = .ok (.playerWins 2) := by
    decide +kernel
  obtain ⟨last, hlast, houtcome⟩ := map_eq_ok_iff.mp hwins
  refine ⟨last, hlast, houtcome, ?_⟩
  rw [hopening (.listed "forest_fire") hopened]
  refine hending.trans ((if_pos hlegible).trans ?_)
  rw [Viewing.ending, hresult.trans hlast]

/-- The most hit points that can be written. -/
def mostHitPoints : Int := Nat.pow 10 mostNumeralDigits - 1

/-- With the first aid in the first turn, the alternation reaches the second turn, in which the fire
has taken back what the aid healed. The session ends before, since what was healed cannot be
drawn. -/
theorem session_fire_mostHitPoints :
    (facingFire mostHitPoints).battle (.listed "forest_fire") = .ok (fire mostHitPoints)
      ∧ ((fire mostHitPoints).alternateWith (Battle.noted (facingFire mostHitPoints).watches) none
          ([.line "3", .endOfInput].map choice)).map
            (fun last => (last.turn, last.player.hitPoints))
        = .ok (2, mostHitPoints)
      ∧ ((facingFire mostHitPoints).session [.line "3"]).result
        = .failed (.numeral .unwritable) := by
  decide +kernel

end Setup

end CardBattle
