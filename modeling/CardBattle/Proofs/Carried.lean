/-
What becomes of the parts that a file supplies.

* `EffectDeclaration.losesPayload` : a payload is supplied with a discard, which applies none;
  `AdjustmentDeclaration.losesValue`: a value is supplied that the kind of the slot has no place
  for;
* `EffectDeclaration.ReadAs` : the effect that a declaration becomes is aimed as it says and waits
  for the condition it supplies, and it applies the payload it supplies unless that is lost;
* `AdjustmentDeclaration.ReadAs` : the adjustment that a slot becomes carries the value it supplies
  unless that is lost;
* `CardDeclaration.ReadAs`, `EnemyDeclaration.ReadAs` : so it is for a card and for an enemy, place
  by place, with nothing left out and nothing added;
* `CardDeclaration.exists_toCard_iff`, `EnemyDeclaration.exists_toEnemy_iff` : when a card or an
  enemy is refused instead;
* `readAs_of_read` : so it is for all files that are accepted;
* `parts_lost` : files that are accepted though a part of them is lost.
-/
import CardBattle.Proofs.Conversion
import CardBattle.Proofs.Overflow
import Mathlib.Tactic

namespace CardBattle

/-! ### Numbers and adjustments -/

namespace Double

/-- Whether a number is one of the two zeros. -/
def isZero : Double → Bool
  | .finite _ units => units = 0
  | _ => false

lemma toInt?_of_isZero {x : Double} (h : x.isZero = true) : x.toInt? = some 0 := by
  cases x with
  | finite negative units =>
      obtain rfl : units = 0 := by simpa [isZero] using h
      simp [toInt?, signed]
  | nan => cases h
  | infinite negative => cases h

/-- Nothing is cut off a number that is an integer. -/
lemma trunc_of_toInt? {x : Double} {n : Int} (h : x.toInt? = some n) : x.trunc = .ok n := by
  cases x with
  | finite negative units =>
      rw [toInt?] at h
      split at h
      · exact congrArg Except.ok (Option.some.inj h)
      · cases h
  | nan => cases h
  | infinite negative => cases h

end Double

/-- Whether an adjustment carries a number: as the amount that it takes off, or as its factor. -/
def Adjustment.Carries (adjustment : Adjustment) (value : Double) : Prop :=
  match adjustment with
  | .absolute delta => value.toInt? = some delta
  | .percent multiplier => multiplier = value
  | _ => False

namespace Declaration

open Json (Value)

/-! ### Effects -/

namespace EffectDeclaration

variable {d : EffectDeclaration}

/-- Whether a payload is supplied with a discard, which applies none. -/
def losesPayload (d : EffectDeclaration) : Bool := d.trigger = .discard && d.payload?.isSome

/-- What becomes of a declared effect. -/
structure ReadAs (d : EffectDeclaration) (e : Effect) : Prop where
  target : e.target = d.target
  condition : ∀ condition ∈ d.condition?,
    ∃ payload, e.trigger = .when condition.toCondition payload
  payload : (∀ payload ∈ d.payload?, e.payload? = some payload.toPayload)
    ↔ d.losesPayload = false

lemma Complete.condition?_eq_none (h : d.Complete) (htrigger : d.trigger ≠ .condition) :
    d.condition? = none := by
  have hunbroken := h.unbroken
  rw [broken?] at hunbroken
  cases hcondition : d.condition? with
  | none => rfl
  | some condition => simp [htrigger, hcondition] at hunbroken

/-- Whether the side that an effect is aimed at can receive what it declares. -/
def Receivable (d : EffectDeclaration) : Prop := d.toTrigger.misuse? d.target = none

lemma exists_toEffect_iff : (∃ e, d.toEffect = .ok e) ↔ d.Receivable := by
  simp [toEffect, Effect.declare_eq_ok_iff, Receivable]

/-- A complete declaration becomes an effect that applies all it supplies, or it is a discard. -/
lemma readAs_of_toEffect {e : Effect} (h : d.Complete) (he : d.toEffect = .ok e) : d.ReadAs e := by
  obtain ⟨_, rfl⟩ := Effect.declare_eq_ok_iff.mp he
  cases htrigger : d.trigger with
  | discard =>
      have hdiscard : d.toTrigger = .discard "" := toTrigger_of_discard htrigger
      have hnone : d.condition? = none := h.condition?_eq_none (by simp [htrigger])
      refine ⟨rfl, by simp [hnone], ?_⟩
      cases hpayload : d.payload? with
      | none => simp [losesPayload, hpayload]
      | some payload =>
          simp [losesPayload, htrigger, hpayload, hdiscard, Effect.payload?, Trigger.payload?]
  | condition =>
      obtain ⟨condition, hcondition⟩ := h.exists_condition htrigger
      obtain ⟨payload, hpayload, _⟩ := h.exists_payload (by simp [htrigger])
      have hwhen : d.toTrigger = .when condition.toCondition payload.toPayload := by
        simp [toTrigger, htrigger, hcondition, hpayload]
      refine ⟨rfl, by simp [hcondition, hwhen], ?_⟩
      simp [losesPayload, htrigger, hpayload, hwhen, Effect.payload?, Trigger.payload?]
  | always =>
      obtain ⟨payload, hpayload, _⟩ := h.exists_payload (by simp [htrigger])
      have hnone : d.condition? = none := h.condition?_eq_none (by simp [htrigger])
      have halways : d.toTrigger = .always payload.toPayload := by
        simp [toTrigger, htrigger, hpayload]
      refine ⟨rfl, by simp [hnone], ?_⟩
      simp [losesPayload, htrigger, hpayload, halways, Effect.payload?, Trigger.payload?]

end EffectDeclaration

lemma exists_effectsOf_iff {ds : List EffectDeclaration} :
    (∃ es, effectsOf ds = .ok es) ↔ ∀ d ∈ ds, d.Receivable :=
  exists_mapM_eq_ok_iff.trans
    (forall₂_congr fun _ _ => EffectDeclaration.exists_toEffect_iff)

/-- Declared effects become effects one by one, in order. -/
lemma readAs_of_effectsOf {ds : List EffectDeclaration} {es : List Effect}
    (h : ∀ d ∈ ds, d.Complete) (hes : effectsOf ds = .ok es) :
    List.Forall₂ EffectDeclaration.ReadAs ds es :=
  ((List.forall₂_and_left _ _).mpr ⟨h, mapM_eq_ok_iff.mp hes⟩).imp fun _ _ hboth =>
    EffectDeclaration.readAs_of_toEffect hboth.1 hboth.2

/-! ### Cards and decks -/

lemma readNonNegative_ensures (v : Value) : (readNonNegative v).Ensures fun n => 0 ≤ n := by
  refine (Checked.Ensures.any (readInteger v)).andThen fun n _ => ?_
  split_ifs with hnonneg
  · exact .ok hnonneg
  · exact .fail _ _

namespace CardDeclaration

variable {d : CardDeclaration}

/-- What becomes of a declared card. -/
structure ReadAs (d : CardDeclaration) (card : Card) : Prop where
  gameStart : List.Forall₂ EffectDeclaration.ReadAs d.gameStart card.gameStart
  turnStart : List.Forall₂ EffectDeclaration.ReadAs d.turnStart card.turnStart
  onPlay : List.Forall₂ EffectDeclaration.ReadAs d.onPlay card.onPlay

lemma read_ensures_cost (v : Value) : (read v).Ensures fun d => 0 ≤ d.cost := by
  refine readObject_ensures (fun fields => ?_) v
  refine .seqLeft ?_ _
  iterate 6 refine .seq ?_ (.any _)
  have hcost : (optional fields "power_cost" readNonNegative 1).Ensures fun cost => 0 ≤ cost :=
    optional_ensures fields "power_cost" readNonNegative_ensures (by decide)
  refine .seq (.seq (.map fun _ _ _ _ cost hcost _ _ _ _ _ _ _ _ _ _ _ _ => hcost) (.any _)) hcost

/-- A card whose cost is not negative is declared exactly if its effects are. -/
lemma exists_toCard_iff (h : 0 ≤ d.cost) (id : String) :
    (∃ card, d.toCard id = .ok card) ↔ ∀ e ∈ d.effects, e.Receivable := by
  simp only [effects, List.forall_mem_append, ← exists_effectsOf_iff]
  constructor
  · rintro ⟨card, hcard⟩
    obtain ⟨gameStart, turnStart, onPlay, hstart, hturn, hplay, _⟩ := toCard_eq_ok_iff.mp hcard
    exact ⟨⟨⟨gameStart, hstart⟩, turnStart, hturn⟩, onPlay, hplay⟩
  · rintro ⟨⟨⟨gameStart, hstart⟩, turnStart, hturn⟩, onPlay, hplay⟩
    exact ⟨_, toCard_eq_ok_iff.mpr ⟨gameStart, turnStart, onPlay, hstart, hturn, hplay, h, rfl⟩⟩

lemma readAs_of_toCard {id : String} {card : Card} (h : ∀ e ∈ d.effects, e.Complete)
    (hcard : d.toCard id = .ok card) : d.ReadAs card := by
  obtain ⟨gameStart, turnStart, onPlay, hstart, hturn, hplay, _, rfl⟩ := toCard_eq_ok_iff.mp hcard
  exact
    { gameStart := readAs_of_effectsOf (fun e he => h e (by simp [effects, he])) hstart
      turnStart := readAs_of_effectsOf (fun e he => h e (by simp [effects, he])) hturn
      onPlay := readAs_of_effectsOf (fun e he => h e (by simp [effects, he])) hplay }

end CardDeclaration

/-- Declared cards of a deck become the cards of the player one by one, in order. -/
lemma DeckDeclaration.readAs_of_toPlayer {d : DeckDeclaration} {hitPoints : Int}
    {supply rest : Supply} {player : Player} (h : ∀ card ∈ d.cards, ∀ e ∈ card.effects, e.Complete)
    (hplayer : d.toPlayer hitPoints supply = .ok (player, rest)) :
    List.Forall₂ CardDeclaration.ReadAs d.cards player.cards := by
  obtain ⟨_, hcards⟩ := toCards_of_toPlayer hplayer
  have hdeclared := CardDeclaration.forall₂_of_toCards hcards
  refine ((List.forall₂_and_left _ _).mpr ⟨h, hdeclared⟩).imp ?_
  rintro own card ⟨hcomplete, id, _, hcard⟩
  exact CardDeclaration.readAs_of_toCard hcomplete hcard

/-! ### Enemies -/

namespace AdjustmentDeclaration

variable {d : AdjustmentDeclaration}

/-- Whether a value is supplied that the kind of the slot has no place for: any but zero if the slot
is normal, any but an integer if it takes an amount off. -/
def losesValue (d : AdjustmentDeclaration) : Bool :=
  match d.kind, d.value? with
  | .normal, some value => !value.isZero
  | .absolute, some value => value.toInt?.isNone
  | _, _ => false

/-- What becomes of a declared slot. -/
def ReadAs (d : AdjustmentDeclaration) (adjustment : Adjustment) : Prop :=
  (∀ value ∈ d.value?, value.isZero = false → adjustment.Carries value) ↔ d.losesValue = false

lemma readAs_of_toAdjustment {adjustment : Adjustment} (h : d.toAdjustment = .ok adjustment) :
    d.ReadAs adjustment := by
  rw [toAdjustment] at h
  rw [ReadAs, losesValue]
  cases hvalue : d.value? with
  | none => cases d.kind <;> simp
  | some value =>
      rw [hvalue] at h
      cases hkind : d.kind with
      | normal =>
          rw [hkind] at h
          obtain rfl := Except.ok.inj h
          simp [Adjustment.Carries]
      | absolute =>
          rw [hkind] at h
          obtain ⟨delta, hdelta, rfl⟩ := map_eq_ok_iff.mp h
          cases hint : value.toInt? with
          | none =>
              -- zero is an integer
              have hnonzero : value.isZero = false := by
                cases hzero : value.isZero with
                | false => rfl
                | true => simp [Double.toInt?_of_isZero hzero] at hint
              simp [Adjustment.Carries, hint, hnonzero]
          | some n =>
              rw [Double.trunc_of_toInt? hint] at hdelta
              obtain rfl := Except.ok.inj hdelta
              simp [Adjustment.Carries, hint]
      | percent =>
          rw [hkind] at h
          obtain rfl := Except.ok.inj h
          simp [Adjustment.Carries]

end AdjustmentDeclaration

lemma DefenseDeclaration.readAs_of_toDefense {d : DefenseDeclaration} {defense : Defense}
    (h : d.toDefense = .ok defense) :
    List.Forall₂ AdjustmentDeclaration.ReadAs d.slots defense.slots := by
  obtain ⟨wind, hwind, h⟩ := bind_eq_ok_iff.mp h
  obtain ⟨land, hland, h⟩ := bind_eq_ok_iff.mp h
  obtain ⟨water, hwater, h⟩ := bind_eq_ok_iff.mp h
  obtain ⟨any, hany, h⟩ := bind_eq_ok_iff.mp h
  obtain rfl := Except.ok.inj h
  have hslots : d.slots.mapM AdjustmentDeclaration.toAdjustment = .ok [wind, land, water, any] := by
    simp only [slots, List.mapM_cons, List.mapM_nil, hwind, hland, hwater, hany]
    rfl
  exact (mapM_eq_ok_iff.mp hslots).imp fun _ _ => AdjustmentDeclaration.readAs_of_toAdjustment

namespace EnemyDeclaration

variable {d : EnemyDeclaration}

/-- The effects at the end of the turn of a declared enemy, behind its base attack. -/
def behindAttack (d : EnemyDeclaration) (enemy : Enemy) : List Effect :=
  if d.turnDamage = 0 then enemy.turnEnd else enemy.turnEnd.tail

/-- What becomes of a declared enemy. -/
structure ReadAs (d : EnemyDeclaration) (enemy : Enemy) : Prop where
  defense : List.Forall₂ AdjustmentDeclaration.ReadAs d.defense.slots enemy.defense.slots
  turnStart : List.Forall₂ EffectDeclaration.ReadAs d.turnStart enemy.turnStart
  turnEnd : List.Forall₂ EffectDeclaration.ReadAs d.turnEnd (d.behindAttack enemy)
  playerTurnStart : List.Forall₂ EffectDeclaration.ReadAs d.playerTurnStart enemy.playerTurnStart
  onPlayerCard : List.Forall₂ EffectDeclaration.ReadAs d.onPlayerCard enemy.onPlayerCard
  declared : List.Forall₂ EffectDeclaration.ReadAs d.declared enemy.declared

/-- An enemy is declared exactly if its slots and its effects are. -/
lemma exists_toEnemy_iff :
    (∃ enemy, d.toEnemy = .ok enemy)
      ↔ (∀ slot ∈ d.defense.slots, slot.hasNoAmount = false) ∧ ∀ e ∈ d.effects, e.Receivable := by
  simp only [effects, List.forall_mem_append, ← exists_effectsOf_iff,
    ← DefenseDeclaration.exists_toDefense_iff]
  constructor
  · rintro ⟨enemy, henemy⟩
    obtain ⟨defense, turnStart, turnEnd, playerTurnStart, onPlayerCard, declared, hdefense, hstart,
      hend, hplayer, hcard, hdeclared, _⟩ := toEnemy_eq_ok_iff.mp henemy
    exact ⟨⟨defense, hdefense⟩, ⟨⟨⟨⟨turnStart, hstart⟩, turnEnd, hend⟩, playerTurnStart, hplayer⟩,
      onPlayerCard, hcard⟩, declared, hdeclared⟩
  · rintro ⟨⟨defense, hdefense⟩, ⟨⟨⟨⟨turnStart, hstart⟩, turnEnd, hend⟩, playerTurnStart, hplayer⟩,
      onPlayerCard, hcard⟩, declared, hdeclared⟩
    exact ⟨_, toEnemy_eq_ok_iff.mpr ⟨defense, turnStart, turnEnd, playerTurnStart, onPlayerCard,
      declared, hdefense, hstart, hend, hplayer, hcard, hdeclared, rfl⟩⟩

lemma readAs_of_toEnemy {enemy : Enemy} (h : ∀ e ∈ d.effects, e.Complete)
    (henemy : d.toEnemy = .ok enemy) : d.ReadAs enemy := by
  obtain ⟨defense, turnStart, turnEnd, playerTurnStart, onPlayerCard, declared, hdefense, hstart,
    hend, hplayer, hcard, hdeclared, rfl⟩ := toEnemy_eq_ok_iff.mp henemy
  have heffects {ds : List EffectDeclaration} {es : List Effect} (hds : ds ⊆ d.effects)
      (hes : effectsOf ds = .ok es) : List.Forall₂ EffectDeclaration.ReadAs ds es :=
    readAs_of_effectsOf (fun own hown => h own (hds hown)) hes
  exact
    { defense := DefenseDeclaration.readAs_of_toDefense hdefense
      turnStart := heffects (fun _ hown => by simp [effects, hown]) hstart
      turnEnd := by
        have hown := heffects (fun _ hown => by simp [effects, hown]) hend
        rw [behindAttack, Enemy.create]
        split
        · exact hown
        · exact hown
      playerTurnStart := heffects (fun _ hown => by simp [effects, hown]) hplayer
      onPlayerCard := heffects (fun _ hown => by simp [effects, hown]) hcard
      declared := heffects (fun _ hown => by simp [effects, hown]) hdeclared }

end EnemyDeclaration

/-! ### Files -/

/-- In a file that is accepted each declared effect becomes the effect at its place, and there are
no others but the base attack of an enemy. It is aimed as declared and waits for the condition that
is supplied, and it applies the payload that is supplied, unless that comes with a discard. Each
slot becomes an adjustment that carries the value that is supplied, unless that is zero, or the slot
is normal, or it takes an amount off and the value is no integer. A card or an enemy is refused
instead only where a side cannot receive an effect that is aimed at it, or where a slot has no
amount. -/
theorem readAs_of_read (v : Value) :
    (∀ d, CardDeclaration.read v = .ok d → ∀ id,
        ((∃ card, d.toCard id = .ok card) ↔ ∀ e ∈ d.effects, e.Receivable)
          ∧ ∀ card, d.toCard id = .ok card → d.ReadAs card)
      ∧ (∀ d, DeckDeclaration.read v = .ok d → ∀ hitPoints supply player rest,
          d.toPlayer hitPoints supply = .ok (player, rest) →
            List.Forall₂ CardDeclaration.ReadAs d.cards player.cards)
      ∧ ∀ d, EnemyDeclaration.read v = .ok d →
        ((∃ enemy, d.toEnemy = .ok enemy)
            ↔ (∀ slot ∈ d.defense.slots, slot.hasNoAmount = false) ∧ ∀ e ∈ d.effects, e.Receivable)
          ∧ ∀ enemy, d.toEnemy = .ok enemy → d.ReadAs enemy := by
  -- accepted effects have the parts that their triggers need
  have hcomplete := EffectDeclaration.read_complete
  refine ⟨?_, ?_, ?_⟩
  · intro d hread id
    have hcost := CardDeclaration.read_ensures_cost v d hread
    have heffects := CardDeclaration.read_ensures_effects hcomplete v d hread
    exact ⟨CardDeclaration.exists_toCard_iff hcost id,
      fun card hcard => CardDeclaration.readAs_of_toCard heffects hcard⟩
  · intro d hread hitPoints supply player rest hdeck
    have heffects := DeckDeclaration.read_ensures_effects hcomplete v d hread
    exact DeckDeclaration.readAs_of_toPlayer heffects hdeck
  · intro d hread
    have heffects := EnemyDeclaration.read_ensures_effects hcomplete v d hread
    exact ⟨EnemyDeclaration.exists_toEnemy_iff,
      fun enemy henemy => EnemyDeclaration.readAs_of_toEnemy heffects henemy⟩

/-- The file of a card that leaves the hand when it is played, with a payload of life. -/
def standFile : Value :=
  .object [("name", .text "Last Stand"), ("element", .text "wind"), ("id", .text "stand"),
    ("play", .array [.object [("target", .text "player"), ("trigger", .text "discard"),
      ("effect", .object [("kind", .text "life"), ("amount", .integer 5)])]])]

/-- The card of that file, which heals nobody. -/
def stand : Card :=
  { id := "stand", name := "Last Stand", element := .wind, onPlay := [.discardThis] }

/-- The file of a deck with just that card. -/
def standDeckFile : Value := .object [("cards", .array [standFile])]

/-- The number two and a half. -/
def twoAndHalf : Double := .finite false (5 * Nat.pow 2 (Double.unitBits - 1))

/-- The file of an enemy with a value in a normal slot and a broken amount in an absolute one. -/
def shellFile : Value :=
  .object [("name", .text "Shell"), ("hit_points", .integer 10),
    ("defense", .object
      [("wind", .object [("kind", .text "absolute"), ("value", .number twoAndHalf)]),
        ("any", .object [("value", .integer 5)])])]

/-- The enemy of that file, which takes two off wind damage and nothing off other damage. -/
def shell : Enemy := { name := "Shell", hitPoints := 10, defense := { wind := .absolute 2 } }

/-- Both files are accepted, though the payload of the card is lost and so are both values of the
shell. -/
theorem parts_lost :
    (∃ d, CardDeclaration.read standFile = .ok d ∧ d.toCard "stand" = .ok stand
        ∧ ¬ List.Forall₂ (fun own e => ∀ payload ∈ own.payload?,
          e.payload? = some payload.toPayload) d.onPlay stand.onPlay)
      ∧ ∃ d, EnemyDeclaration.read shellFile = .ok d ∧ d.toEnemy = .ok shell
        ∧ (∃ value ∈ d.defense.wind.value?, value.isZero = false
            ∧ ¬ shell.defense.wind.Carries value)
        ∧ ∃ value ∈ d.defense.any.value?, value.isZero = false
            ∧ ¬ shell.defense.any.Carries value := by
  have hnone : twoAndHalf.toInt? = none := by decide +kernel
  refine ⟨⟨_, rfl, rfl, fun hkept => ?_⟩, _, rfl, ?_, ⟨twoAndHalf, rfl, ?_, ?_⟩, _, rfl, ?_, id⟩
  · have hpayload := (List.forall₂_cons.mp hkept).1 (.life 5) rfl
    cases hpayload
  · decide +kernel
  · decide +kernel
  · simp [shell, Adjustment.Carries, hnone]
  · decide +kernel

/-- The file of a tornado that halves wind damage, takes one more of any damage, and strikes back
when a wind card is played. -/
def tornadoFile : Value :=
  .object [("name", .text "Tornado"), ("hit_points", .integer 10), ("turn_damage", .integer 6),
    ("defense", .object
      [("wind", .object [("kind", .text "percent"), ("value", .number .half)]),
        ("any", .object [("kind", .text "absolute"), ("value", .integer (-1))])]),
    ("player_play_card", .array [.object
      [("target", .text "player"), ("trigger", .text "condition"),
        ("condition", .object [("kind", .text "plays_element"), ("element", .text "wind")]),
        ("effect", .object [("kind", .text "damage"), ("amount", .integer 1)])]])]

/-- The enemy of that file. -/
def tornado : Enemy :=
  { Enemy.create "Tornado" 10 { wind := .percent .half, any := .absolute (-1) } 6 with
    onPlayerCard := [.onPlayer "Condition" (.when (.plays .wind) (.damage ⟨1, .neutral⟩))] }

/-- Of the tornado all parts arrive; of the last stand, alone or in a deck, all but its payload. -/
theorem readAs_of_read_tornado :
    (∃ d, EnemyDeclaration.read tornadoFile = .ok d ∧ d.toEnemy = .ok tornado ∧ d.ReadAs tornado)
      ∧ (∃ d, CardDeclaration.read standFile = .ok d ∧ d.toCard "stand" = .ok stand
        ∧ d.ReadAs stand)
      ∧ ∃ d, DeckDeclaration.read standDeckFile = .ok d
        ∧ d.toPlayer 20 {} = .ok ({ hitPoints := 20, cards := [stand] }, {})
        ∧ List.Forall₂ CardDeclaration.ReadAs d.cards [stand] := by
  obtain ⟨_, _, henemy⟩ := readAs_of_read tornadoFile
  obtain ⟨hcard, _, _⟩ := readAs_of_read standFile
  obtain ⟨_, hdeck, _⟩ := readAs_of_read standDeckFile
  have htornado : ∃ d, EnemyDeclaration.read tornadoFile = .ok d ∧ d.toEnemy = .ok tornado :=
    ⟨_, rfl, by decide +kernel⟩
  obtain ⟨d, hread, hconverted⟩ := htornado
  exact ⟨⟨d, hread, hconverted, (henemy d hread).2 _ hconverted⟩,
    ⟨_, rfl, rfl, (hcard _ rfl "stand").2 _ rfl⟩, _, rfl, rfl, hdeck _ rfl 20 {} _ _ rfl⟩

end Declaration

end CardBattle
