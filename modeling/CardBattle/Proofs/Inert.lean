/-
Effects that do nothing, and the two kinds of conditions.

* `Effect.isInert` : an effect that waits for a card to be played, or brings an enchantment;
  `fired?_eq_grant_of_isInert`: on no hand does it apply anything but an enchantment;
* `Actors.resolve_of_isInert` : such an effect leaves the actors as they are;
  `run_active`: so a run comes to the same without them;
* `Enemy.awaiting` : an enemy whose declarations all wait for a card to be played;
  `counters_awaiting`: it answers a card just as before;
* `playEvents_separate` : what waits for a played card is of no account where effects are resolved,
  and what does not wait for one is of no account where a card is answered.
-/
import CardBattle.Proofs.Activation
import CardBattle.Proofs.Verdicts
import Mathlib.Tactic

namespace CardBattle

/-! ### Effects that do nothing -/

/-- Whether a trigger waits for a card to be played. -/
def Trigger.awaitsPlay : Trigger → Bool
  | .when condition _ => condition.isPlayEvent
  | _ => false

namespace Effect

/-- Whether an effect waits for a card to be played, or brings an enchantment. -/
def isInert (e : Effect) : Bool :=
  e.trigger.awaitsPlay || (e.payload?.bind Payload.enchantment?).isSome

/-- The effects that do something when they are resolved. -/
def active (es : List Effect) : List Effect := es.filter (!·.isInert)

variable {e : Effect} {es : List Effect}

lemma active_cons_of_isInert (h : e.isInert = true) : active (e :: es) = active es :=
  List.filter_cons_of_neg (by simp [h])

lemma active_cons_of_not (h : e.isInert = false) : active (e :: es) = e :: active es :=
  List.filter_cons_of_pos (by simp [h])

/-- No inert effect removes a card. -/
lemma isDiscard_of_isInert (h : e.isInert = true) : e.isDiscard = false := by
  rw [isInert, payload?] at h
  rw [isDiscard]
  cases htrigger : e.trigger with
  | discard cardId => simp [htrigger, Trigger.awaitsPlay, Trigger.payload?] at h
  | _ => rfl

/-- The only payload that an inert effect applies is an enchantment: what waits for a card to be
played fires on no hand. -/
lemma fired?_eq_grant_of_isInert {hand : List Element} {payload : Payload} (h : e.isInert = true)
    (hfired : e.trigger.fired? hand = some payload) :
    ∃ enchantment, payload = .grant enchantment := by
  have hgrant : payload.enchantment?.isSome = true := by
    rw [isInert, payload?, Trigger.payload?_of_fired? hfired, Bool.or_eq_true] at h
    refine h.resolve_left fun hawaits => ?_
    cases htrigger : e.trigger with
    | «when» condition own =>
        rw [htrigger, Trigger.awaitsPlay] at hawaits
        rw [htrigger, Trigger.fired?,
          Condition.inHand_eq_false_of_isPlayEvent hawaits hand] at hfired
        cases hfired
    | always own => simp [htrigger, Trigger.awaitsPlay] at hawaits
    | discard cardId => simp [htrigger, Trigger.awaitsPlay] at hawaits
  cases payload with
  | grant enchantment => exact ⟨enchantment, rfl⟩
  | _ => cases hgrant

/-- So an actor that enchantments leave as it is stays as it is. -/
lemma getD_map_fired?_of_isInert {ε α : Type} {apply : Payload → Except ε α} {actor : α}
    (hgrant : ∀ enchantment, apply (.grant enchantment) = .ok actor) (h : e.isInert = true)
    (hand : List Element) : ((e.trigger.fired? hand).map apply).getD (.ok actor) = .ok actor := by
  cases hfired : e.trigger.fired? hand with
  | none => rfl
  | some payload =>
      obtain ⟨enchantment, rfl⟩ := fired?_eq_grant_of_isInert h hfired
      exact hgrant enchantment

end Effect

/-! ### Runs without them -/

/-- Notes that come to their end still do if some of their drafts are left out. -/
lemma Draft.ending_notes_of_sublist {watched : Draft → Bool} {ds others : List Draft}
    (hsub : others.Sublist ds) (h : (notes watched ds).2 = .ok ()) :
    (notes watched others).2 = .ok () := by
  rw [ending_notes_eq_ok_iff] at h ⊢
  exact fun d hd => h d (hsub.subset hd)

namespace Actors

variable {e : Effect}

/-- An inert effect leaves the actors as they are, whichever of them it is aimed at. -/
lemma resolve_of_isInert (actors : Actors) (h : e.isInert = true) :
    actors.resolve e = .ok actors := by
  have hplayer : actors.player.receive e.trigger = .ok actors.player := by
    rw [Player.receive_eq (Effect.isDiscard_of_isInert h)]
    exact Effect.getD_map_fired?_of_isInert (fun _ => rfl) h actors.player.elements
  have henemy : actors.enemy.receive actors.player.elements e.trigger = .ok actors.enemy := by
    rw [Enemy.receive_eq]
    exact Effect.getD_map_fired?_of_isInert (fun _ => rfl) h actors.player.elements
  rw [resolve]
  cases e.target with
  | player => simp [hplayer, Except.map]
  | enemy => simp [henemy, Except.map]

/-- A run comes to the same without the inert effects, whether it gives a result or fails. -/
theorem run_active (actors : Actors) (es : List Effect) :
    actors.run (Effect.active es) = actors.run es := by
  induction es generalizing actors with
  | nil => rfl
  | cons e es ih =>
      cases hinert : e.isInert with
      | true =>
          rw [Effect.active_cons_of_isInert hinert, run_cons, resolve_of_isInert actors hinert, ih]
          rfl
      | false =>
          rw [Effect.active_cons_of_not hinert, run_cons, run_cons]
          exact congrArg (actors.resolve e >>= ·) (funext ih)

/-- Without the inert effects nothing new is noted. -/
lemma runNotes_active_sublist (actors : Actors) (es : List Effect) :
    (actors.runNotes (Effect.active es)).Sublist (actors.runNotes es) := by
  induction es generalizing actors with
  | nil => exact List.Sublist.refl _
  | cons e es ih =>
      cases hinert : e.isInert with
      | true =>
          rw [Effect.active_cons_of_isInert hinert, runNotes, resolve_of_isInert actors hinert]
          exact (ih actors).trans (List.sublist_append_right _ _)
      | false =>
          rw [Effect.active_cons_of_not hinert, runNotes, runNotes]
          cases actors.resolve e with
          | error fault => exact List.Sublist.refl _
          | ok next => exact (ih next).append_left _

end Actors

/-! ### Answers to a card -/

namespace Enemy

/-- The enemy without the declarations that do not wait for a card to be played. -/
def awaiting (enemy : Enemy) : Enemy :=
  { enemy with onPlayerCard := enemy.onPlayerCard.filter (·.trigger.awaitsPlay) }

lemma counter?_eq_none_of_not_awaitsPlay {e : Effect} (h : e.trigger.awaitsPlay = false)
    (element : Element) : counter? element e = none := by
  rw [counter?]
  cases htrigger : e.trigger with
  | «when» condition payload =>
      rw [htrigger, Trigger.awaitsPlay] at h
      simp [h]
  | _ => rfl

/-- The declarations that do not wait for a card to be played answer none. -/
lemma counters_awaiting (enemy : Enemy) (element : Element) :
    enemy.awaiting.counters element = enemy.counters element := by
  rw [counters, counters, awaiting, List.filterMap_filter]
  refine List.filterMap_congr fun e _ => ?_
  cases hawaits : e.trigger.awaitsPlay with
  | true => exact if_pos rfl
  | false => exact (counter?_eq_none_of_not_awaitsPlay hawaits element).symm

end Enemy

/-- Whichever declarations of the enemy do not wait for a card to be played, the fate of a request
is the same without them. -/
lemma judge_awaiting (player : Player) (enemy : Enemy) (card : Card) (available : Int) :
    judge player enemy.awaiting card available = judge player enemy card available := by
  simp only [judge, playedEffects, Enemy.counters_awaiting]

/-! ### The two kinds of conditions -/

/-- Where effects are resolved, those that wait for a played card or bring an enchantment are of no
account: without them the run comes to the same, and if all that is told of it could be written, it
still can be. Where a card is answered, the declarations that do not wait for one are of no account:
without them the answers are the same, and so is what is told of them. The answers to any two cards
of one element are the same, whoever plays them and whatever else there is in the hand. -/
theorem playEvents_separate (actors : Actors) (es : List Effect) (enemy : Enemy)
    (element : Element) :
    actors.run (Effect.active es) = actors.run es
      ∧ (∀ watched, (Draft.notes watched (actors.runNotes es)).2 = .ok () →
        (Draft.notes watched (actors.runNotes (Effect.active es))).2 = .ok ())
      ∧ enemy.awaiting.counters element = enemy.counters element
      ∧ enemy.awaiting.counterNotes element = enemy.counterNotes element
      ∧ ∀ player card available, card.element = element →
        judge player enemy.awaiting card available = judge player enemy card available
          ∧ ((judge player enemy card available).isAccepted = true →
            (judge player enemy card available).effects
              = costEffect (player.enchant card).cost
                :: ((player.enchant card).boundEffects ++ enemy.counters element)) := by
  refine ⟨actors.run_active es,
    fun watched => Draft.ending_notes_of_sublist (actors.runNotes_active_sublist es),
    enemy.counters_awaiting element, ?_, fun player card available helement =>
      ⟨judge_awaiting player enemy card available, fun haccepted => ?_⟩⟩
  · rw [Enemy.counterNotes, Enemy.counterNotes, Enemy.counters_awaiting]
  · rw [judge_of_affords enemy (isAccepted_judge_iff.mp haccepted), ← helement,
      ← player.element_enchant card]
    rfl

/-- A meltdown that also declares an attack, a backlash and the loss of a card where a played card
is answered. -/
def raisedMeltdown : Enemy :=
  ((Catalog.meltdown.withPlayerCard (.enemyAttack 3)).withPlayerCard
    (.backlash .wind 4)).withPlayerCard (.onPlayer "Loss" (.discard "gust"))

/-- That meltdown against a player with a gust. -/
def meltdownActors : Actors :=
  ⟨raisedMeltdown, { hitPoints := 20, cards := [Catalog.gust "gust"] }⟩

/-- Effects of which the first, the third, the fifth and the last do nothing. -/
def mixedAnswers : List Effect :=
  [.thorns .wind 2, .backlash .wind 4, .shield 4, .onPlayer "Loss" (.discard "gust"),
    .onEnemy "Shelter" (.when (.lacks .wind) (.grant (.shield 1))), .elementDamage .land 6,
    .backlash .wind 7, .enemyFeeds .wind 1]

/-- The backlash finds a wind card before the gust is lost, and none behind it; the meltdown answers
wind with its thorns and by feeding on it. -/
theorem playEvents_separate_meltdown :
    Effect.active mixedAnswers
        = [.backlash .wind 4, .onPlayer "Loss" (.discard "gust"), .elementDamage .land 6,
          .backlash .wind 7]
      ∧ (meltdownActors.run (Effect.active mixedAnswers)).map
          (fun next => (next.enemy.hitPoints, next.player.hitPoints, next.player.cards))
        = .ok (29, 16, [])
      ∧ (Draft.notes (fun _ => true)
          (meltdownActors.runNotes (Effect.active mixedAnswers))).2 = .ok ()
      ∧ raisedMeltdown.awaiting.onPlayerCard = [.thorns .wind 2, .enemyFeeds .wind 1]
      ∧ raisedMeltdown.awaiting.counters .wind = raisedMeltdown.counters .wind
      ∧ (judge Player.mixedPlayer raisedMeltdown (Catalog.jetBlast "jet") 3).effects
        = costEffect 1
          :: ((Player.mixedPlayer.enchant (Catalog.jetBlast "jet")).boundEffects
            ++ [.onPlayer "Enemy Thorns Attack (Wind Element)" (.always (.damage ⟨2, .wind⟩)),
              .onEnemy "Enemy Feeds On Wind" (.always (.life 1))]) := by
  have htold : (Draft.notes (fun _ => true) (meltdownActors.runNotes mixedAnswers)).2
      = .ok () := by
    decide +kernel
  have hrun : (meltdownActors.run mixedAnswers).map
      (fun next => (next.enemy.hitPoints, next.player.hitPoints, next.player.cards))
      = .ok (29, 16, []) := rfl
  have hjet : (Catalog.jetBlast "jet").element = .wind := rfl
  obtain ⟨hsame, hending, hanswers, _, hplayed⟩ :=
    playEvents_separate meltdownActors mixedAnswers raisedMeltdown .wind
  refine ⟨by decide, ?_, hending _ htold, by decide, hanswers, ?_⟩
  · rw [hsame]
    exact hrun
  · exact (hplayed Player.mixedPlayer (Catalog.jetBlast "jet") 3 hjet).2 rfl

end CardBattle
