/-
What comes of a request to play a card.

* `Player.Affords` : when a player can play a card with some power;
  `isAccepted_judge_iff`: the card is accepted exactly then;
* `Effect.boundTo`, `Effect.answer?` : what becomes of the play effects of a card and of the enemy's
  declarations; `playedEffects_enchant`: the effects of a card that is played are its cost, the
  first and then the second;
* `judgeTold` : a verdict together with what is told of it; `Enemy.Tells`: when that can be written;
* `judgeTold_allOrNothing` : a card is played with all of its effects at its whole cost, or with
  none of them at no cost.
-/
import CardBattle.Catalog.Cards
import CardBattle.Catalog.Enemies
import CardBattle.Proofs.Enchanting
import CardBattle.Proofs.Plan
import CardBattle.Proofs.Told
import Mathlib.Tactic

namespace CardBattle

open Text (NumeralFault Wording isShort number)

/-! ### When a card is played -/

lemma Enchantment.forbids_iff {e : Enchantment} {element : Element} :
    e.forbids element = true ↔ e = .forbidden element := by
  cases e <;> simp [forbids]

namespace Player

variable {player : Player} {card : Card} {available : Int}

/-- Whether a player can play a card with some power: the card is one to be played, no active
enchantment forbids its element, and the power covers its cost under the active enchantments. -/
structure Affords (player : Player) (card : Card) (available : Int) : Prop where
  playable : card.canPlay = true
  allowed : .forbidden card.element ∉ player.activated
  covered : (player.enchant card).cost ≤ available

lemma id_enchant (player : Player) (card : Card) : (player.enchant card).id = card.id := by
  rw [enchant, Card.enchantedBy_eq]

lemma element_enchant (player : Player) (card : Card) :
    (player.enchant card).element = card.element := by
  rw [enchant, Card.enchantedBy_eq]

/-- Under the active enchantments a card can be played if it could be and none of them forbids its
element. -/
lemma canPlay_enchant_iff :
    (player.enchant card).canPlay = true
      ↔ card.canPlay = true ∧ .forbidden card.element ∉ player.activated := by
  rw [enchant, Card.enchantedBy_eq]
  have hforbidden : (!player.activated.any (·.forbids card.element)) = true
      ↔ .forbidden card.element ∉ player.activated := by
    simpa [Enchantment.forbids_iff] using List.forall_mem_ne'
  rw [Bool.and_eq_true, hforbidden]

/-- Enchantments make no cost negative. -/
lemma cost_enchant_nonneg (h : 0 ≤ card.cost) : 0 ≤ (player.enchant card).cost := by
  rw [enchant, Card.enchantedBy_eq]
  exact le_clamped (by decide) h

/-- With more power no less can be played. -/
lemma Affords.mono {more : Int} (h : player.Affords card available) (hmore : available ≤ more) :
    player.Affords card more :=
  ⟨h.playable, h.allowed, h.covered.trans hmore⟩

end Player

variable {player : Player} {enemy : Enemy} {card : Card} {available : Int}

/-- A card that can be played is played, with the effects it then has. -/
lemma judge_of_affords (enemy : Enemy) (h : player.Affords card available) :
    judge player enemy card available
      = .accepted (player.enchant card) (playedEffects enemy (player.enchant card)) :=
  judge_eq_accepted_iff.mpr
    ⟨h.playable, rfl, Player.canPlay_enchant_iff.mpr ⟨h.playable, h.allowed⟩, h.covered, rfl⟩

/-- A card is accepted exactly if it can be played. -/
theorem isAccepted_judge_iff :
    (judge player enemy card available).isAccepted = true ↔ player.Affords card available := by
  constructor
  · intro h
    cases hverdict : judge player enemy card available with
    | accepted working effects =>
        obtain ⟨hcard, rfl, hworking, hcost, _⟩ := judge_eq_accepted_iff.mp hverdict
        exact ⟨hcard, (Player.canPlay_enchant_iff.mp hworking).2, hcost⟩
    | _ => simp [hverdict, Verdict.isAccepted] at h
  · intro h
    rw [judge_of_affords enemy h]
    rfl

/-! ### The effects of a card that is played -/

namespace Effect

/-- What becomes of a play effect of the card of an id: a discard removes that card, whichever one
it named, and any other effect stays as it is. -/
def boundTo (id : String) (e : Effect) : Effect :=
  match e.trigger with
  | .discard _ => ⟨"Discard", .player, .discard id⟩
  | _ => e

/-- What becomes of an enemy's declaration when a card of an element is played: if it waits for just
that, its payload is applied under its name to the side it is aimed at. -/
def answer? (element : Element) (e : Effect) : Option Effect :=
  match e.trigger with
  | .when (.plays own) payload =>
      if own = element then some ⟨e.name, e.target, .always payload⟩ else none
  | _ => none

end Effect

lemma Card.boundEffects_eq (card : Card) :
    card.boundEffects = card.onPlay.map (·.boundTo card.id) := by
  rw [boundEffects]
  refine List.map_congr_left fun e _ => ?_
  rw [Effect.isDiscard, Effect.boundTo]
  cases e.trigger <;> simp [Trigger.isDiscard, Effect.onPlayer]

lemma Enemy.counter?_eq (element : Element) (e : Effect) :
    counter? element e = e.answer? element := by
  rw [counter?, Effect.answer?]
  cases e.trigger with
  | «when» condition payload =>
      cases condition with
      | plays own =>
          rcases eq_or_ne own element with rfl | hother
          · simp [Condition.isPlayEvent, Condition.byPlay]
          · simp [Condition.isPlayEvent, Condition.byPlay, hother, hother.symm]
      | _ => simp [Condition.isPlayEvent]
  | _ => rfl

/-- A card that is played takes its cost from the reserve; then come its play effects under the
active enchantments, and then what the enemy answers. -/
lemma playedEffects_enchant (player : Player) (enemy : Enemy) (card : Card) :
    playedEffects enemy (player.enchant card)
      = ⟨"Power Cost", .player, .always (.power (-(player.enchant card).cost))⟩
        :: ((player.enchant card).onPlay.map (·.boundTo card.id)
          ++ enemy.onPlayerCard.filterMap (·.answer? card.element)) := by
  have hanswers : enemy.counters card.element
      = enemy.onPlayerCard.filterMap (·.answer? card.element) :=
    List.filterMap_congr fun e _ => Enemy.counter?_eq card.element e
  rw [playedEffects, Card.boundEffects_eq, Player.id_enchant, Player.element_enchant, hanswers]
  rfl

/-! ### What is told of a verdict -/

/-- Whether what is told at once of a card that is played can be written: its cost, and each payload
that the enemy answers it with. -/
@[mk_iff]
structure Enemy.Tells (enemy : Enemy) (working : Card) : Prop where
  cost : isShort working.cost = true
  answers : ∀ e ∈ enemy.counters working.element, ∀ payload ∈ e.payload?,
    payload.description.canBeWritten = true

instance (enemy : Enemy) (working : Card) : Decidable (enemy.Tells working) :=
  decidable_of_iff' _ (enemy.tells_iff working)

/-- The verdict on a request, unless what is told of it at once cannot be written. Nobody reads
along, so whatever else is noted need not be written. -/
def judgeTold (player : Player) (enemy : Enemy) (card : Card) (available : Int) :
    Except NumeralFault Verdict :=
  let verdict := judge player enemy card available
  (Draft.notes (fun _ => false) (verdict.notes enemy card)).2.map fun _ => verdict

lemma Text.Wording.canBeWritten_ofText (s : String) : (s : Wording).canBeWritten = true := rfl

/-- What is told of an accepted card can be written if its cost and the answers can be. -/
lemma Verdict.forall_mem_notes_accepted_iff {watched : Draft → Bool} {working : Card}
    {effects : List Effect} :
    (∀ d ∈ (accepted working effects).notes enemy card, d.Tells watched)
      ↔ enemy.Tells working := by
  rw [enemy.tells_iff, notes, List.forall_mem_cons, Enemy.counterNotes, List.forall_mem_filterMap]
  simp [Draft.tells_told_iff, Wording.canBeWritten_append, Text.Wording.canBeWritten_ofText,
    canBeWritten_displayName]

/-- A card that cannot be played has no effects and costs nothing, and that can be told. -/
lemma exists_judgeTold_of_not_affords (enemy : Enemy) (h : ¬ player.Affords card available) :
    ∃ verdict, judgeTold player enemy card available = .ok verdict
      ∧ verdict.effects = [] ∧ verdict.spent = 0 := by
  refine ⟨judge player enemy card available, ?_⟩
  rw [judgeTold]
  cases hverdict : judge player enemy card available with
  | accepted working effects =>
      have haccepted : (judge player enemy card available).isAccepted = true := by
        rw [hverdict]
        rfl
      exact absurd (isAccepted_judge_iff.mp haccepted) h
  | unplayable => exact ⟨rfl, rfl, rfl⟩
  | forbidden => exact ⟨rfl, rfl, rfl⟩
  | unaffordable cost left =>
      have htold : ∀ d ∈ (Verdict.unaffordable cost left).notes enemy card,
          d.Tells fun _ => false :=
        List.forall_mem_singleton.mpr (Draft.tells_kept_unwatched _ _ _)
      rw [Draft.ending_notes_eq_ok_iff.mpr htold]
      exact ⟨rfl, rfl, rfl⟩

/-- A card that can be played is played, if that can be told. -/
lemma judgeTold_of_affords (enemy : Enemy) (h : player.Affords card available) :
    judgeTold player enemy card available
      = if enemy.Tells (player.enchant card) then
          .ok (.accepted (player.enchant card) (playedEffects enemy (player.enchant card)))
        else .error .unwritable := by
  rw [judgeTold, judge_of_affords enemy h]
  split_ifs with htells
  · rw [Draft.ending_notes_eq_ok_iff.mpr (Verdict.forall_mem_notes_accepted_iff.mpr htells)]
    rfl
  · rw [Draft.ending_notes_eq_error (mt Verdict.forall_mem_notes_accepted_iff.mp htells)]
    rfl

/-- A card that cannot be played has no effects and costs nothing. A card that can be played costs
what it does under the active enchantments, which is not negative and which the power covers, and
its effects are just these: that cost, its play effects under the active enchantments, of which each
discard removes the card itself, and the answers of the enemy to its element. With more power it
comes to the same. Only what is told at once of a card that is played, its cost and the answers, may
have too many digits to be written, and then the request fails. -/
theorem judgeTold_allOrNothing (player : Player) (enemy : Enemy) (card : Card) (available : Int)
    (hcost : 0 ≤ card.cost) :
    (¬ player.Affords card available →
        ∃ verdict, judgeTold player enemy card available = .ok verdict
          ∧ verdict.effects = [] ∧ verdict.spent = 0)
      ∧ (player.Affords card available → enemy.Tells (player.enchant card) →
        ∃ verdict, (∀ more, available ≤ more → judgeTold player enemy card more = .ok verdict)
          ∧ verdict.spent = (player.enchant card).cost
          ∧ 0 ≤ verdict.spent ∧ verdict.spent ≤ available
          ∧ verdict.effects
            = ⟨"Power Cost", .player, .always (.power (-verdict.spent))⟩
              :: ((player.enchant card).onPlay.map (·.boundTo card.id)
                ++ enemy.onPlayerCard.filterMap (·.answer? card.element)))
      ∧ (player.Affords card available → ¬ enemy.Tells (player.enchant card) →
        judgeTold player enemy card available = .error .unwritable) := by
  refine ⟨exists_judgeTold_of_not_affords enemy, fun h htells => ?_, fun h htells => ?_⟩
  · refine ⟨.accepted (player.enchant card) (playedEffects enemy (player.enchant card)),
      fun more hmore => ?_, rfl, Player.cost_enchant_nonneg hcost, h.covered,
      playedEffects_enchant player enemy card⟩
    rw [judgeTold_of_affords enemy (h.mono hmore), if_pos htells]
  · rw [judgeTold_of_affords enemy h, if_neg htells]

/-- A wind card strikes at a meltdown, which strikes back and feeds on it. -/
theorem judgeTold_allOrNothing_jetBlast :
    Player.mixedPlayer.Affords (Catalog.jetBlast "jet") 3
      ∧ ∃ verdict, judgeTold Player.mixedPlayer Catalog.meltdown (Catalog.jetBlast "jet") 3
          = .ok verdict
        ∧ verdict.spent = 1
        ∧ verdict.effects
          = [costEffect 1, .elementDamage .wind 6, ⟨"Discard", .player, .discard "jet"⟩,
            Card.extraDamage .wind 3, Card.extraDamage .wind 1,
            .onPlayer "Enemy Thorns Attack (Wind Element)" (.always (.damage ⟨2, .wind⟩)),
            .onEnemy "Enemy Feeds On Wind" (.always (.life 1))] := by
  have haffords : Player.mixedPlayer.Affords (Catalog.jetBlast "jet") 3 :=
    ⟨rfl, by decide, by decide⟩
  have htells : Catalog.meltdown.Tells (Player.mixedPlayer.enchant (Catalog.jetBlast "jet")) := by
    decide +kernel
  obtain ⟨_, hplayed, _⟩ := judgeTold_allOrNothing Player.mixedPlayer Catalog.meltdown
    (Catalog.jetBlast "jet") 3 (by decide)
  obtain ⟨verdict, htold, hspent, _, _, heffects⟩ := hplayed haffords htells
  have hone : verdict.spent = 1 := hspent
  refine ⟨haffords, verdict, htold 3 le_rfl, hone, ?_⟩
  rw [heffects, hone]
  rfl

/-- A tenth of the first number that has too many digits to be written. -/
def dearUnit : Int := Nat.pow 10 (Text.mostNumeralDigits - 1)

/-- A player whose cards all cost two units more. -/
def taxedPlayer : Player := { hitPoints := 20, activated := [.spellCost .neutral (2 * dearUnit)] }

/-- A card that costs nine units. -/
def dearCard : Card := { id := "dear", name := "Dear", element := .wind, cost := 9 * dearUnit }

/-- Twelve units cover the eleven that the card costs, but eleven units cannot be told. -/
theorem judgeTold_dearCard :
    taxedPlayer.Affords dearCard (12 * dearUnit)
      ∧ judgeTold taxedPlayer Catalog.floods dearCard (12 * dearUnit) = .error .unwritable := by
  refine ⟨⟨rfl, by decide, by decide +kernel⟩, ?_⟩
  decide +kernel

end CardBattle
