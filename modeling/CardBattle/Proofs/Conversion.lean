/-
What can end the conversion of a text.

In a conversion parts are taken out of declarations, where they may be missing, constructors may
refuse what they are given, and numbers are cut to integers. The strict conversions make each of
these steps a step that may end the conversion.

* `Stop` : everything that can end a conversion; only issues and refused declarations are foreseen;
* `PayloadDeclaration.strictPayload`, `EffectDeclaration.strictEffect`,
  `DeckDeclaration.strictPlayer`, `EnemyDeclaration.strictEnemy` : the strict conversions;
* `EffectDeclaration.Complete` : the parts that a trigger needs are there, and a fraction lies in
  the unit interval; `EffectDeclaration.read_complete`: so it is in files that are accepted;
* `strictPlayer_eq`, `strictEnemy_eq` : the strict conversions of complete declarations are the
  plain ones;
* `AdjustmentDeclaration.hasNoAmount` : the value of an absolute slot is no finite number;
* `conversion_foreseen` : for every text, only such a slot ends a conversion in a way that is not
  foreseen; `isForeseen_of_loadPlayer`, `unforeseen_loadEnemy_iff`: so it is when a deck or an enemy
  is loaded from a file.
-/
import CardBattle.Loading
import CardBattle.Proofs.Accepted
import Mathlib.Tactic

namespace CardBattle

namespace Declaration

open Json (Value)

/-! ### Stops -/

/-- Everything that can end the conversion of a text. -/
inductive Stop where
  /-- The text has not the form of its declaration. -/
  | form (issues : List Issue)
  /-- A constructor refuses what is declared. -/
  | declaration (error : BattleError)
  /-- A number has no integer part. -/
  | arithmetic (fault : Double.Fault)
  /-- A part that is taken out is not there. -/
  | missingPart
  deriving DecidableEq, Repr

namespace Stop

/-- Whether a stop says what is wrong with the text. -/
def isForeseen : Stop → Bool
  | .form _ => true
  | .declaration _ => true
  | _ => false

/-- The stop that a refusal is. -/
def ofRefusal : Refusal → Stop
  | .declaration error => .declaration error
  | .arithmetic fault => .arithmetic fault

end Stop

/-- A part that may be missing. -/
def part {α : Type} : Option α → Except Stop α
  | some a => .ok a
  | none => .error .missingPart

/-! ### Effects -/

/-- The payload that is declared, its fraction checked by the constructor. -/
def PayloadDeclaration.strictPayload : PayloadDeclaration → Except Stop Payload
  | percentDamage fraction => (Payload.percent fraction).mapError .declaration
  | payload => .ok payload.toPayload

lemma PayloadDeclaration.strictPayload_eq {payload : PayloadDeclaration}
    (h : payload.toPayload.hasFraction = true) : payload.strictPayload = .ok payload.toPayload := by
  cases payload with
  | percentDamage fraction =>
      have hfraction : fraction.inUnitInterval = true := h
      rw [strictPayload, Payload.percent, if_pos hfraction]
      rfl
  | _ => rfl

namespace EffectDeclaration

variable {d : EffectDeclaration}

/-- The trigger that an effect declares, from the parts that it needs. -/
def strictTrigger (d : EffectDeclaration) : Except Stop Trigger :=
  match d.trigger with
  | .discard => .ok (.discard "")
  | .condition => do
      let condition ← part d.condition?
      let payload ← (← part d.payload?).strictPayload
      return .when condition.toCondition payload
  | .always => do
      let payload ← (← part d.payload?).strictPayload
      return .always payload

/-- The effect that is declared. -/
def strictEffect (d : EffectDeclaration) : Except Stop Effect := do
  let trigger ← d.strictTrigger
  (Effect.declare d.effectName d.target trigger).mapError .declaration

/-- A declared effect with the parts that its trigger needs, and a fraction in the unit interval if
it has one. -/
structure Complete (d : EffectDeclaration) : Prop where
  unbroken : d.broken? = none
  wellFormed : d.WellFormed

/-- Effects in files that are accepted are complete. -/
lemma read_complete (v : Value) : (read v).Ensures Complete := by
  intro d hd
  refine ⟨?_, read_ensures v d hd⟩
  have hunbroken : (read v).Ensures fun d => d.broken? = none := by
    refine readObject_ensures (fun fields => (Checked.Ensures.any _).andThen fun d _ => ?_) v
    split
    · exact .fail _ _
    · next hrule => exact .ok hrule
  exact hunbroken d hd

lemma Complete.exists_condition (h : d.Complete) (htrigger : d.trigger = .condition) :
    ∃ condition, d.condition? = some condition := by
  have hunbroken := h.unbroken
  rw [broken?, htrigger] at hunbroken
  cases hcondition : d.condition? with
  | none => simp [hcondition] at hunbroken
  | some condition => exact ⟨condition, rfl⟩

lemma Complete.exists_payload (h : d.Complete) (htrigger : d.trigger ≠ .discard) :
    ∃ payload, d.payload? = some payload ∧ payload.strictPayload = .ok payload.toPayload := by
  have hunbroken := h.unbroken
  rw [broken?] at hunbroken
  cases hpayload : d.payload? with
  | none =>
      -- the rule on payloads is the last one, and no rule is broken
      split_ifs at hunbroken with _ _ hrule
      simp [htrigger, hpayload] at hrule
  | some payload =>
      exact ⟨payload, rfl, PayloadDeclaration.strictPayload_eq (h.wellFormed payload hpayload)⟩

lemma strictTrigger_eq (h : d.Complete) : d.strictTrigger = .ok d.toTrigger := by
  rw [strictTrigger, toTrigger]
  cases htrigger : d.trigger with
  | discard => rfl
  | condition =>
      obtain ⟨condition, hcondition⟩ := h.exists_condition htrigger
      obtain ⟨payload, hpayload, hstrict⟩ := h.exists_payload (by simp [htrigger])
      rw [hcondition, hpayload]
      show (payload.strictPayload >>= fun payload =>
        Except.ok (Trigger.when condition.toCondition payload)) = _
      rw [hstrict]
      rfl
  | always =>
      obtain ⟨payload, hpayload, hstrict⟩ := h.exists_payload (by simp [htrigger])
      rw [hpayload]
      show (payload.strictPayload >>= fun payload => Except.ok (Trigger.always payload)) = _
      rw [hstrict]
      rfl

lemma strictEffect_eq (h : d.Complete) : d.strictEffect = d.toEffect.mapError .declaration := by
  rw [strictEffect, strictTrigger_eq h]
  rfl

end EffectDeclaration

/-- The effects that are declared, the first stop ending it. -/
def strictEffects (ds : List EffectDeclaration) : Except Stop (List Effect) :=
  ds.mapM EffectDeclaration.strictEffect

lemma strictEffects_eq {ds : List EffectDeclaration} (h : ∀ d ∈ ds, d.Complete) :
    strictEffects ds = (effectsOf ds).mapError .declaration := by
  induction ds with
  | nil => rfl
  | cons d ds ih =>
      have hrest := ih fun d hd => h d (by simp [hd])
      rw [strictEffects, effectsOf] at hrest
      rw [strictEffects, effectsOf, List.mapM_cons, List.mapM_cons, hrest,
        EffectDeclaration.strictEffect_eq (h d (by simp))]
      simp only [bind_mapError]
      rfl

/-! ### Cards and decks -/

namespace CardDeclaration

/-- The card that is declared, under an id. -/
def strictCard (d : CardDeclaration) (id : String) : Except Stop Card := do
  let gameStart ← strictEffects d.gameStart
  let turnStart ← strictEffects d.turnStart
  let onPlay ← strictEffects d.onPlay
  (Card.declare
    { id, name := d.name, element := d.element, cost := d.cost, text := d.text
      canPlay := d.canPlay, gameStart, turnStart, onPlay }).mapError .declaration

lemma strictCard_eq {d : CardDeclaration} (h : ∀ e ∈ d.effects, e.Complete) (id : String) :
    d.strictCard id = (d.toCard id).mapError .declaration := by
  rw [strictCard, toCard, strictEffects_eq fun e he => h e (by simp [effects, he]),
    strictEffects_eq fun e he => h e (by simp [effects, he]),
    strictEffects_eq fun e he => h e (by simp [effects, he])]
  simp only [bind_mapError]

/-- The cards that are declared, in order. -/
def strictCards : List CardDeclaration → Supply → Except Stop (List Card × Supply)
  | [], supply => .ok ([], supply)
  | d :: rest, supply => do
      let (id, supply) := d.takeId supply
      let card ← d.strictCard id
      let (cards, supply) ← strictCards rest supply
      return (card :: cards, supply)

lemma strictCards_eq {ds : List CardDeclaration} (h : ∀ d ∈ ds, ∀ e ∈ d.effects, e.Complete)
    (supply : Supply) : strictCards ds supply = (toCards ds supply).mapError .declaration := by
  induction ds generalizing supply with
  | nil => rfl
  | cons d ds ih =>
      have hrest := ih fun d hd => h d (by simp [hd])
      simp only [strictCards, toCards, strictCard_eq (h d (by simp)), hrest, bind_mapError]
      rfl

end CardDeclaration

namespace DeckDeclaration

/-- The player that holds the deck, with the given hit points where the deck has none. -/
def strictPlayer (d : DeckDeclaration) (defaultHitPoints : Int) (supply : Supply) :
    Except Stop (Player × Supply) := do
  let (cards, supply) ← CardDeclaration.strictCards d.cards supply
  let player ← (Player.declare
    { hitPoints := d.hitPoints?.getD defaultHitPoints, cards }).mapError .declaration
  return (player, supply)

lemma strictPlayer_eq {d : DeckDeclaration}
    (h : ∀ card ∈ d.cards, ∀ e ∈ card.effects, e.Complete) (hitPoints : Int) (supply : Supply) :
    d.strictPlayer hitPoints supply = (d.toPlayer hitPoints supply).mapError .declaration := by
  simp only [strictPlayer, toPlayer, CardDeclaration.strictCards_eq h, bind_mapError]
  rfl

end DeckDeclaration

/-! ### Enemies -/

namespace AdjustmentDeclaration

/-- Whether the value of an absolute slot is no finite number, so that it has no integer part. -/
def hasNoAmount (d : AdjustmentDeclaration) : Bool :=
  match d.kind, d.value? with
  | .absolute, some value => !value.isFinite
  | _, _ => false

lemma exists_toAdjustment_iff {d : AdjustmentDeclaration} :
    (∃ adjustment, d.toAdjustment = .ok adjustment) ↔ d.hasNoAmount = false := by
  rw [toAdjustment, hasNoAmount]
  cases d.kind with
  | normal => simp
  | percent => cases d.value? <;> simp
  | absolute =>
      cases d.value? with
      | none => simp
      | some value => cases value <;> simp [Double.trunc, Double.isFinite, Except.map]

end AdjustmentDeclaration

namespace DefenseDeclaration

/-- The slots of a defense. -/
def slots (d : DefenseDeclaration) : List AdjustmentDeclaration := [d.wind, d.land, d.water, d.any]

/-- A defense is converted exactly if each of its slots is. -/
lemma exists_toDefense_iff {d : DefenseDeclaration} :
    (∃ defense, d.toDefense = .ok defense) ↔ ∀ slot ∈ d.slots, slot.hasNoAmount = false := by
  have hslots : (∀ slot ∈ d.slots, slot.hasNoAmount = false)
      ↔ (∃ wind, d.wind.toAdjustment = .ok wind) ∧ (∃ land, d.land.toAdjustment = .ok land)
        ∧ (∃ water, d.water.toAdjustment = .ok water)
        ∧ ∃ any, d.any.toAdjustment = .ok any := by
    simp [slots, AdjustmentDeclaration.exists_toAdjustment_iff]
  rw [hslots]
  constructor
  · rintro ⟨defense, h⟩
    obtain ⟨wind, hwind, h⟩ := bind_eq_ok_iff.mp h
    obtain ⟨land, hland, h⟩ := bind_eq_ok_iff.mp h
    obtain ⟨water, hwater, h⟩ := bind_eq_ok_iff.mp h
    obtain ⟨any, hany, _⟩ := bind_eq_ok_iff.mp h
    exact ⟨⟨wind, hwind⟩, ⟨land, hland⟩, ⟨water, hwater⟩, any, hany⟩
  · rintro ⟨⟨wind, hwind⟩, ⟨land, hland⟩, ⟨water, hwater⟩, any, hany⟩
    refine ⟨⟨wind, land, water, any⟩, ?_⟩
    rw [toDefense, hwind, hland, hwater, hany]
    rfl

end DefenseDeclaration

namespace EnemyDeclaration

variable {d : EnemyDeclaration}

/-- An enemy with the declared effects of its occasions. -/
def strictWithEffects (d : EnemyDeclaration) (enemy : Enemy) : Except Stop Enemy := do
  let turnStart ← strictEffects d.turnStart
  let turnEnd ← strictEffects d.turnEnd
  let playerTurnStart ← strictEffects d.playerTurnStart
  let onPlayerCard ← strictEffects d.onPlayerCard
  let declared ← strictEffects d.declared
  return { enemy with
    turnStart := enemy.turnStart ++ turnStart
    turnEnd := enemy.turnEnd ++ turnEnd
    playerTurnStart := enemy.playerTurnStart ++ playerTurnStart
    onPlayerCard := enemy.onPlayerCard ++ onPlayerCard
    declared := enemy.declared ++ declared }

/-- The enemy that is declared. -/
def strictEnemy (d : EnemyDeclaration) : Except Stop Enemy := do
  let defense ← d.defense.toDefense.mapError .arithmetic
  d.strictWithEffects (.create d.name d.hitPoints defense d.turnDamage)

lemma strictWithEffects_eq (h : ∀ e ∈ d.effects, e.Complete) (enemy : Enemy) :
    d.strictWithEffects enemy = (d.withEffects enemy).mapError .declaration := by
  rw [strictWithEffects, withEffects, strictEffects_eq fun e he => h e (by simp [effects, he]),
    strictEffects_eq fun e he => h e (by simp [effects, he]),
    strictEffects_eq fun e he => h e (by simp [effects, he]),
    strictEffects_eq fun e he => h e (by simp [effects, he]),
    strictEffects_eq fun e he => h e (by simp [effects, he])]
  simp only [bind_mapError]
  rfl

lemma strictEnemy_eq (h : ∀ e ∈ d.effects, e.Complete) :
    d.strictEnemy = d.toEnemy.mapError .ofRefusal := by
  rw [strictEnemy, toEnemy, bind_mapError]
  cases d.defense.toDefense with
  | error fault => rfl
  | ok defense =>
      refine (strictWithEffects_eq h _).trans ?_
      show _ = ((d.withEffects _).mapError Refusal.declaration).mapError Stop.ofRefusal
      cases d.withEffects (.create d.name d.hitPoints defense d.turnDamage) <;> rfl

/-- An enemy is refused by arithmetic exactly if one of its slots has no amount. -/
lemma exists_arithmetic_toEnemy_iff :
    (∃ fault, d.toEnemy = .error (.arithmetic fault))
      ↔ ∃ slot ∈ d.defense.slots, slot.hasNoAmount = true := by
  have hok := d.defense.exists_toDefense_iff
  have hall : (∃ slot ∈ d.defense.slots, slot.hasNoAmount = true)
      ↔ ¬ ∃ defense, d.defense.toDefense = .ok defense := by
    rw [hok]
    simp
  rw [hall, toEnemy]
  cases hdefense : d.defense.toDefense with
  | error fault => simp [Except.mapError, bind, Except.bind]
  | ok defense =>
      refine iff_of_false ?_ (by simp)
      rintro ⟨fault, hfault⟩
      cases hrest : d.withEffects (.create d.name d.hitPoints defense d.turnDamage) with
      | error error => simp [hrest, Except.mapError, bind, Except.bind] at hfault
      | ok enemy => simp [hrest, Except.mapError, bind, Except.bind] at hfault

end EnemyDeclaration

/-! ### Texts -/

/-- The enemy of a text. -/
def enemyOfText (text : String) : Except Stop Enemy := do
  let declared ← (ofText EnemyDeclaration.read text).mapError .form
  declared.toEnemy.mapError .ofRefusal

/-- The enemy of a text, converted strictly. -/
def strictEnemyOfText (text : String) : Except Stop Enemy := do
  let declared ← (ofText EnemyDeclaration.read text).mapError .form
  declared.strictEnemy

/-- The player that holds the deck of a text. -/
def playerOfText (text : String) (defaultHitPoints : Int) (supply : Supply) :
    Except Stop (Player × Supply) := do
  let deck ← (ofText DeckDeclaration.read text).mapError .form
  (deck.toPlayer defaultHitPoints supply).mapError .declaration

/-- The player that holds the deck of a text, converted strictly. -/
def strictPlayerOfText (text : String) (defaultHitPoints : Int) (supply : Supply) :
    Except Stop (Player × Supply) := do
  let deck ← (ofText DeckDeclaration.read text).mapError .form
  deck.strictPlayer defaultHitPoints supply

/-- A declaration of a text has been read from a value. -/
lemma exists_read_of_ofText {α : Type} {read : Read α} {text : String} {a : α}
    (h : ofText read text = .ok a) : ∃ v, read v = .ok a := by
  rw [ofText] at h
  split at h
  · next v _ =>
      refine ⟨v, ?_⟩
      cases hread : read v with
      | ok b =>
          rw [hread] at h
          rw [Except.ok.inj h]
      | refused issues =>
          rw [hread] at h
          cases h
  · cases h

lemma strictEnemyOfText_eq (text : String) : strictEnemyOfText text = enemyOfText text := by
  rw [strictEnemyOfText, enemyOfText]
  cases htext : ofText EnemyDeclaration.read text with
  | error issues => rfl
  | ok declared =>
      obtain ⟨v, hread⟩ := exists_read_of_ofText htext
      have hcomplete : ∀ e ∈ declared.effects, e.Complete :=
        EnemyDeclaration.read_ensures_effects EffectDeclaration.read_complete v declared hread
      exact EnemyDeclaration.strictEnemy_eq hcomplete

lemma strictPlayerOfText_eq (text : String) (hitPoints : Int) (supply : Supply) :
    strictPlayerOfText text hitPoints supply = playerOfText text hitPoints supply := by
  rw [strictPlayerOfText, playerOfText]
  cases htext : ofText DeckDeclaration.read text with
  | error issues => rfl
  | ok deck =>
      obtain ⟨v, hread⟩ := exists_read_of_ofText htext
      have hcomplete : ∀ card ∈ deck.cards, ∀ e ∈ card.effects, e.Complete :=
        DeckDeclaration.read_ensures_effects EffectDeclaration.read_complete v deck hread
      exact DeckDeclaration.strictPlayer_eq hcomplete hitPoints supply

/-- The text of a deck is converted, or it has not its form, or what it declares is refused. -/
lemma isForeseen_of_playerOfText {text : String} {hitPoints : Int} {supply : Supply} {stop : Stop}
    (h : playerOfText text hitPoints supply = .error stop) : stop.isForeseen = true := by
  rw [playerOfText] at h
  rcases bind_eq_error_iff.mp h with hform | ⟨deck, _, hplayer⟩
  · obtain ⟨issues, _, rfl⟩ := mapError_eq_error_iff.mp hform
    rfl
  · obtain ⟨error, _, rfl⟩ := mapError_eq_error_iff.mp hplayer
    rfl

/-- The conversion of an enemy's text ends by arithmetic, or the text has not its form, or what it
declares is refused. -/
lemma not_isForeseen_enemyOfText_iff {text : String} {stop : Stop} :
    enemyOfText text = .error stop ∧ stop.isForeseen = false
      ↔ ∃ declared fault, ofText EnemyDeclaration.read text = .ok declared
          ∧ declared.toEnemy = .error (.arithmetic fault) ∧ stop = .arithmetic fault := by
  rw [enemyOfText, bind_eq_error_iff]
  constructor
  · rintro ⟨hform | ⟨declared, hdeclared, hstop⟩, hunforeseen⟩
    · obtain ⟨issues, _, rfl⟩ := mapError_eq_error_iff.mp hform
      cases hunforeseen
    · obtain ⟨refusal, hrefusal, rfl⟩ := mapError_eq_error_iff.mp hstop
      cases refusal with
      | declaration error => cases hunforeseen
      | arithmetic fault =>
          exact ⟨declared, fault, mapError_eq_ok_iff.mp hdeclared, hrefusal, rfl⟩
  · rintro ⟨declared, fault, hdeclared, hrefusal, rfl⟩
    refine ⟨Or.inr ⟨declared, mapError_eq_ok_iff.mpr hdeclared, ?_⟩, rfl⟩
    exact mapError_eq_error_iff.mpr ⟨_, hrefusal, rfl⟩

/-- Taken strictly, where every part that is needed may be missing and every constructor may refuse
what it is given, the conversions of a text come to what they come to. A deck is converted, or the
text has not its form, or what it declares is refused; so it is for an enemy, unless the value of an
absolute slot is infinite or not a number. -/
theorem conversion_foreseen (text : String) :
    strictEnemyOfText text = enemyOfText text
      ∧ (∀ hitPoints supply,
        strictPlayerOfText text hitPoints supply = playerOfText text hitPoints supply)
      ∧ (∀ hitPoints supply, ¬ ∃ stop,
        playerOfText text hitPoints supply = .error stop ∧ stop.isForeseen = false)
      ∧ ((∃ stop, enemyOfText text = .error stop ∧ stop.isForeseen = false)
        ↔ ∃ declared, ofText EnemyDeclaration.read text = .ok declared
            ∧ ∃ slot ∈ declared.defense.slots, slot.hasNoAmount = true) := by
  refine ⟨strictEnemyOfText_eq text, strictPlayerOfText_eq text, ?_, ?_⟩
  · rintro hitPoints supply ⟨stop, hstop, hunforeseen⟩
    rw [isForeseen_of_playerOfText hstop] at hunforeseen
    cases hunforeseen
  · simp only [not_isForeseen_enemyOfText_iff, ← EnemyDeclaration.exists_arithmetic_toEnemy_iff]
    constructor
    · rintro ⟨stop, declared, fault, hdeclared, hfault, _⟩
      exact ⟨declared, hdeclared, fault, hfault⟩
    · rintro ⟨declared, hdeclared, fault, hfault⟩
      exact ⟨_, declared, fault, hdeclared, hfault, rfl⟩

/-- The text of an enemy whose defense takes infinitely much off wind damage. -/
def endlessText : String :=
  "\x7b\"name\": \"Void\", \"hit_points\": 10, \"defense\": " ++
    "\x7b\"wind\": \x7b\"kind\": \"absolute\", \"value\": 1e400\x7d\x7d\x7d"

/-- The text has its form, yet its conversion ends in a way that is not foreseen. -/
theorem conversion_foreseen_endless :
    enemyOfText endlessText = .error (.arithmetic .infiniteToInteger)
      ∧ (Stop.arithmetic .infiniteToInteger).isForeseen = false := by
  decide +kernel

end Declaration

/-! ### Files -/

open Declaration

section Files

variable {files : FileTree} {path text : String}

/-- The deck of a file with a text is loaded, or the text has not its form, or what it declares is
refused. -/
theorem isForeseen_of_loadPlayer (htext : readText files path = .ok text) {hitPoints : Int}
    {supply : Supply} {failure : Failure}
    (h : loadPlayer files path hitPoints supply = .error failure) : failure.isForeseen = true := by
  rw [loadPlayer, loadDeck, loadForm, htext] at h
  rcases bind_eq_error_iff.mp h with hform | ⟨deck, _, hplayer⟩
  · obtain ⟨issues, _, rfl⟩ := mapError_eq_error_iff.mp hform
    rfl
  · obtain ⟨error, _, rfl⟩ := mapError_eq_error_iff.mp hplayer
    rfl

/-- The enemy of a file with a text is loaded, or the text has not its form, or what it declares is
refused, unless the value of an absolute slot is infinite or not a number. -/
theorem unforeseen_loadEnemy_iff (htext : readText files path = .ok text) :
    (∃ failure, loadEnemy files path = .error failure ∧ failure.isForeseen = false)
      ↔ ∃ declared, ofText EnemyDeclaration.read text = .ok declared
          ∧ ∃ slot ∈ declared.defense.slots, slot.hasNoAmount = true := by
  simp only [loadEnemy, loadForm, htext, ← EnemyDeclaration.exists_arithmetic_toEnemy_iff]
  constructor
  · rintro ⟨failure, hfailure, hunforeseen⟩
    rcases bind_eq_error_iff.mp hfailure with hform | ⟨declared, hdeclared, hrest⟩
    · obtain ⟨issues, _, rfl⟩ := mapError_eq_error_iff.mp hform
      cases hunforeseen
    · obtain ⟨refusal, hrefusal, rfl⟩ := mapError_eq_error_iff.mp hrest
      cases refusal with
      | declaration error => cases hunforeseen
      | arithmetic fault => exact ⟨declared, mapError_eq_ok_iff.mp hdeclared, fault, hrefusal⟩
  · rintro ⟨declared, hdeclared, fault, hfault⟩
    refine ⟨.arithmetic fault, bind_eq_error_iff.mpr (Or.inr ⟨declared, ?_, ?_⟩), rfl⟩
    · exact mapError_eq_ok_iff.mpr hdeclared
    · exact mapError_eq_error_iff.mpr ⟨_, hfault, rfl⟩

end Files

end CardBattle
