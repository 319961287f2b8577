/-
What accepted declarations give.

* `Checked.Ensures` : a check lets only values with a property through; combined checks ensure what
  their parts ensure;
* `EffectDeclaration.WellFormed`, `CardDeclaration.WellFormed`, `DeckDeclaration.WellFormed`,
  `EnemyDeclaration.WellFormed` : every fraction that is declared lies in the unit interval;
  `DeckDeclaration.read_ensures` and `EnemyDeclaration.read_ensures`: files that are accepted
  declare no other;
* `CardDeclaration.toCard_eq_ok_iff`, `EnemyDeclaration.toEnemy_eq_ok_iff` : a card and an enemy as
  they are declared; `DeckDeclaration.toPlayer_cases`, `EnemyDeclaration.exists_of_mem_toEnemy`: the
  cards and effects of the player and of the enemy are those of their declarations;
* `DeckDeclaration.wellFormed_toPlayer`, `EnemyDeclaration.wellFormed_toEnemy` : then the player and
  the enemy that are declared are well-formed.
-/
import CardBattle.Declaration.Enemy
import CardBattle.Proofs.Origins
import Mathlib.Tactic

namespace CardBattle

namespace Declaration

open Json (Value Fields)

/-! ### Checks -/

/-- Whether a check lets only values with a property through. -/
def Checked.Ensures {α : Type} (c : Checked α) (P : α → Prop) : Prop := ∀ a, c = .ok a → P a

namespace Checked.Ensures

variable {α β : Type} {c : Checked α} {P Q : α → Prop}

lemma any (c : Checked α) : c.Ensures fun _ => True := fun _ _ => trivial

lemma ok {a : α} (h : P a) : (Checked.ok a).Ensures P := by
  rintro _ ⟨⟩
  exact h

lemma fail (cause : Cause) (P : α → Prop) : (Checked.fail cause).Ensures P := by
  rintro _ ⟨⟩

lemma under (h : c.Ensures P) (step : Step) : (c.under step).Ensures P :=
  fun a ha => h a (under_eq_ok_iff.mp ha)

lemma andThen {next : α → Checked β} {R : β → Prop} (h : c.Ensures Q)
    (hnext : ∀ a, Q a → (next a).Ensures R) : (c.andThen next).Ensures R := by
  intro b hb
  cases c with
  | ok a => exact hnext a (h a rfl) b hb
  | refused issues => cases hb

lemma map {f : α → β} {R : β → Prop} (h : c.Ensures fun a => R (f a)) : (f <$> c).Ensures R := by
  intro b hb
  cases c with
  | ok a =>
      obtain rfl := Checked.ok.inj hb
      exact h a rfl
  | refused issues => cases hb

lemma seq {f : Checked (α → β)} {R : β → Prop} (hf : f.Ensures fun g => ∀ a, Q a → R (g a))
    (h : c.Ensures Q) : (f <*> c).Ensures R := by
  intro b hb
  obtain ⟨g, a, hg, ha, rfl⟩ := seq_eq_ok_iff.mp hb
  exact hf g hg a (h a ha)

lemma seqLeft (h : c.Ensures P) (d : Checked β) : (c <* d).Ensures P :=
  seq (map fun a ha _ _ => h a ha) (any d)

end Checked.Ensures

/-! ### Readers -/

section Readers

variable {α : Type} {P : α → Prop} {read : Read α}

lemma required_ensures (fields : Fields) (name : String) (h : ∀ v, (read v).Ensures P) :
    (required fields name read).Ensures P := by
  refine Checked.Ensures.under ?_ _
  split
  · exact h _
  · exact .fail _ _

lemma optional_ensures (fields : Fields) (name : String) {default : α}
    (h : ∀ v, (read v).Ensures P) (hdefault : P default) :
    (optional fields name read default).Ensures P := by
  refine Checked.Ensures.under ?_ _
  split
  · exact h _
  · exact .ok hdefault

lemma readOptional_ensures (h : ∀ v, (read v).Ensures P) (v : Value) :
    (readOptional read v).Ensures fun x => ∀ a ∈ x, P a := by
  cases v with
  | null => exact .ok (by simp)
  | _ =>
      refine Checked.Ensures.map fun a ha x hx => ?_
      obtain rfl := Option.some.inj hx
      exact h _ a ha

lemma readItems_ensures (h : ∀ v, (read v).Ensures P) (index : Nat) (items : List Value) :
    (readItems read index items).Ensures fun xs => ∀ x ∈ xs, P x := by
  induction items generalizing index with
  | nil => exact .ok (by simp)
  | cons v rest ih =>
      refine .seq (.map fun x hx xs hxs => ?_) (ih (index + 1))
      have hfirst : P x := (h v).under _ x hx
      simpa using ⟨hfirst, hxs⟩

lemma readList_ensures (h : ∀ v, (read v).Ensures P) (v : Value) :
    (readList read v).Ensures fun xs => ∀ x ∈ xs, P x := by
  cases v with
  | array items => exact readItems_ensures h 0 items
  | _ => exact .fail _ _

lemma readFullList_ensures (h : ∀ v, (read v).Ensures P) (v : Value) :
    (readFullList read v).Ensures fun xs => ∀ x ∈ xs, P x := by
  refine (readList_ensures h v).andThen fun xs hxs => ?_
  split
  · exact .fail _ _
  · exact .ok hxs

lemma readObject_ensures {ofFields : Fields → Checked α} (h : ∀ fields, (ofFields fields).Ensures P)
    (v : Value) : (readObject ofFields v).Ensures P := by
  cases v with
  | object fields => exact h fields
  | _ => exact .fail _ _

/-- A tagged object ensures what the readers of all its kinds ensure. -/
lemma readTagged_ensures {table : List (String × (Fields → Checked α))}
    (h : ∀ entry ∈ table, ∀ fields, (entry.2 fields).Ensures P) (v : Value) :
    (readTagged table v).Ensures P := by
  cases v with
  | object fields =>
      rw [readTagged]
      split
      · exact .fail _ _
      · split
        · split
          · next word _ _ read hread =>
              obtain ⟨before, after, hsplit, _⟩ := List.lookup_eq_some_iff.mp hread
              have hentry : (word, read) ∈ table := by simp [hsplit]
              exact (h _ hentry fields).under _
          · exact .fail _ _
        · exact .fail _ _
  | _ => exact .fail _ _

end Readers

/-- A fraction that is read lies in the unit interval. -/
lemma readFraction_ensures (v : Value) :
    (readFraction v).Ensures fun x => x.inUnitInterval = true := by
  refine (Checked.Ensures.any (readNumber v)).andThen fun x _ => ?_
  split_ifs with habove hbelow
  · exact .fail _ _
  · exact .fail _ _
  · refine .ok ?_
    rw [Double.inUnitInterval, Bool.and_eq_true]
    exact ⟨by simpa using hbelow, by simpa using habove⟩

/-! ### Effects -/

lemma amountOnly_ensures {α : Type} {make : Int → α} {P : α → Prop} (h : ∀ n, P (make n))
    (read : Read Int) (fields : Fields) : (amountOnly make read fields).Ensures P :=
  .seqLeft (.map fun n _ => h n) _

/-- Only one kind of payloads reads a fraction. -/
lemma PayloadDeclaration.read_ensures (v : Value) :
    (read v).Ensures fun payload => payload.toPayload.hasFraction = true := by
  refine readTagged_ensures (fun entry hentry fields => ?_) v
  simp only [kinds, List.mem_cons, List.not_mem_nil, or_false] at hentry
  rcases hentry with rfl | rfl | rfl | rfl | rfl | rfl
  · refine .seqLeft (.seq (.map ?_) (.any _)) _
    exact fun amount _ element _ => rfl
  · refine amountOnly_ensures ?_ _ fields
    exact fun amount => rfl
  · refine amountOnly_ensures ?_ _ fields
    exact fun amount => rfl
  · exact .seqLeft (.map (required_ensures fields _ readFraction_ensures)) _
  · refine .seqLeft (.map ?_) _
    exact fun enchantment _ => rfl
  · refine .map ?_
    exact fun _ _ => rfl

namespace EffectDeclaration

/-- A declared effect whose fraction, if it has one, lies in the unit interval. -/
def WellFormed (d : EffectDeclaration) : Prop :=
  ∀ payload ∈ d.payload?, payload.toPayload.hasFraction = true

lemma read_ensures (v : Value) : (read v).Ensures WellFormed := by
  refine readObject_ensures (fun fields => ?_) v
  have hparts : (EffectDeclaration.mk
      <$> optional fields "name" readText ""
      <*> required fields "target" (readWord [("player", .player), ("enemy", .enemy)])
      <*> optional fields "trigger" (readWord TriggerKind.table) .always
      <*> optional fields "condition" (readOptional ConditionDeclaration.read) none
      <*> optional fields "effect" (readOptional PayloadDeclaration.read) none
      <* closed fields ["name", "target", "trigger", "condition", "effect"]).Ensures
        WellFormed := by
    refine .seqLeft (.seq ?_ (optional_ensures fields _
      (readOptional_ensures PayloadDeclaration.read_ensures) (by simp))) _
    exact .seq (.seq (.seq (.map fun _ _ _ _ _ _ _ _ payload? hpayload => hpayload) (.any _))
      (.any _)) (.any _)
  refine hparts.andThen fun d hd => ?_
  split
  · exact .fail _ _
  · exact .ok hd

/-- The trigger that is declared applies the payload that is. -/
lemma exists_payload?_of_toTrigger {d : EffectDeclaration} {payload : Payload}
    (h : payload ∈ d.toTrigger.payload?) : ∃ own ∈ d.payload?, own.toPayload = payload := by
  rw [toTrigger] at h
  split at h
  · next own _ _ hpayload => exact ⟨own, hpayload, Option.some.inj h⟩
  · next own _ hpayload => exact ⟨own, hpayload, Option.some.inj h⟩
  · cases h

lemma wellFormed_toEffect {d : EffectDeclaration} (hd : d.WellFormed) {e : Effect}
    (h : d.toEffect = .ok e) : e.WellFormed := by
  obtain ⟨hmisuse, rfl⟩ := Effect.declare_eq_ok_iff.mp h
  refine ⟨hmisuse, fun payload hpayload => ?_⟩
  obtain ⟨own, hown, rfl⟩ := exists_payload?_of_toTrigger hpayload
  exact hd own hown

end EffectDeclaration

lemma exists_of_mem_effectsOf {ds : List EffectDeclaration} {es : List Effect} {e : Effect}
    (h : effectsOf ds = .ok es) (he : e ∈ es) : ∃ d ∈ ds, d.toEffect = .ok e :=
  exists_of_mem_of_forall₂ (mapM_eq_ok_iff.mp h) e he

/-! ### Cards and decks -/

namespace CardDeclaration

/-- All effects of a declared card. -/
def effects (d : CardDeclaration) : List EffectDeclaration := d.gameStart ++ d.turnStart ++ d.onPlay

/-- A declared card whose effects are well-formed. -/
def WellFormed (d : CardDeclaration) : Prop := ∀ e ∈ d.effects, e.WellFormed

section Effects

variable {P : EffectDeclaration → Prop}

lemma effectList_ensures (h : ∀ v, (EffectDeclaration.read v).Ensures P) (fields : Fields)
    (name : String) : (effectList fields name).Ensures fun es => ∀ e ∈ es, P e :=
  optional_ensures fields name (readList_ensures h) (by simp)

/-- What is ensured of effects, cards ensure of all their effects. -/
lemma read_ensures_effects (h : ∀ v, (EffectDeclaration.read v).Ensures P) (v : Value) :
    (read v).Ensures fun d => ∀ e ∈ d.effects, P e := by
  refine readObject_ensures (fun fields => ?_) v
  refine .seqLeft ?_ _
  refine .seq ?_ (effectList_ensures h fields "play")
  refine .seq ?_ (effectList_ensures h fields "start_turn")
  refine .seq ?_ (effectList_ensures h fields "game_start")
  iterate 5 refine .seq ?_ (.any _)
  refine .map fun _ _ _ _ _ _ _ _ _ _ _ _ gameStart hstart turnStart hturn onPlay hplay => ?_
  intro e he
  simp only [effects, List.mem_append] at he
  rcases he with (he | he) | he
  · exact hstart e he
  · exact hturn e he
  · exact hplay e he

end Effects

/-- A card is declared exactly if each of its lists of effects is and its cost is not negative. -/
lemma toCard_eq_ok_iff {d : CardDeclaration} {id : String} {card : Card} :
    d.toCard id = .ok card
      ↔ ∃ gameStart turnStart onPlay, effectsOf d.gameStart = .ok gameStart
        ∧ effectsOf d.turnStart = .ok turnStart ∧ effectsOf d.onPlay = .ok onPlay ∧ 0 ≤ d.cost
        ∧ card = { id, name := d.name, element := d.element, cost := d.cost, text := d.text
                   canPlay := d.canPlay, gameStart, turnStart, onPlay } := by
  constructor
  · intro h
    obtain ⟨gameStart, hstart, h⟩ := bind_eq_ok_iff.mp h
    obtain ⟨turnStart, hturn, h⟩ := bind_eq_ok_iff.mp h
    obtain ⟨onPlay, hplay, h⟩ := bind_eq_ok_iff.mp h
    obtain ⟨hcost, hcard⟩ := Card.declare_eq_ok_iff.mp h
    exact ⟨gameStart, turnStart, onPlay, hstart, hturn, hplay, hcost, hcard⟩
  · rintro ⟨gameStart, turnStart, onPlay, hstart, hturn, hplay, hcost, rfl⟩
    rw [toCard, hstart, hturn, hplay]
    exact Card.declare_eq_ok_iff.mpr ⟨hcost, rfl⟩

/-- The card that is declared has the id it is given, a cost that is not negative, and the effects
that are declared. -/
lemma toCard_cases {d : CardDeclaration} {id : String} {card : Card} (h : d.toCard id = .ok card) :
    card.id = id ∧ 0 ≤ card.cost
      ∧ ∀ e ∈ card.effects, ∃ own ∈ d.effects, own.toEffect = .ok e := by
  obtain ⟨gameStart, turnStart, onPlay, hstart, hturn, hplay, hcost, rfl⟩ := toCard_eq_ok_iff.mp h
  refine ⟨rfl, hcost, fun e he => ?_⟩
  simp only [Card.effects, List.mem_append] at he
  rcases he with (he | he) | he
  · obtain ⟨own, hown, hdeclared⟩ := exists_of_mem_effectsOf hstart he
    exact ⟨own, by simp [effects, hown], hdeclared⟩
  · obtain ⟨own, hown, hdeclared⟩ := exists_of_mem_effectsOf hturn he
    exact ⟨own, by simp [effects, hown], hdeclared⟩
  · obtain ⟨own, hown, hdeclared⟩ := exists_of_mem_effectsOf hplay he
    exact ⟨own, by simp [effects, hown], hdeclared⟩

lemma wellFormed_toCard {d : CardDeclaration} (hd : d.WellFormed) {id : String} {card : Card}
    (h : d.toCard id = .ok card) : card.WellFormed := by
  obtain ⟨_, hcost, heffects⟩ := toCard_cases h
  refine ⟨hcost, fun e he => ?_⟩
  obtain ⟨own, hown, hdeclared⟩ := heffects e he
  exact EffectDeclaration.wellFormed_toEffect (hd own hown) hdeclared

/-- No card is given an empty id. -/
lemma takeId_ne_empty (d : CardDeclaration) (supply : Supply) : (d.takeId supply).1 ≠ "" := by
  rw [takeId]
  split
  · next id hid =>
      obtain ⟨_, hnonempty⟩ := Option.filter_eq_some_iff.mp hid
      simpa using hnonempty
  · simp [Supply.take, Supply.id]

lemma exists_of_toCards_cons {d : CardDeclaration} {ds : List CardDeclaration}
    {supply rest : Supply} {cards : List Card} (h : toCards (d :: ds) supply = .ok (cards, rest)) :
    ∃ first others, d.toCard (d.takeId supply).1 = .ok first
      ∧ toCards ds (d.takeId supply).2 = .ok (others, rest) ∧ cards = first :: others := by
  obtain ⟨first, hfirst, h⟩ := bind_eq_ok_iff.mp h
  obtain ⟨⟨others, last⟩, hothers, h⟩ := bind_eq_ok_iff.mp h
  obtain ⟨rfl, rfl⟩ := Prod.mk.inj (Except.ok.inj h)
  exact ⟨first, others, hfirst, hothers, rfl⟩

/-- Cards are declared one by one, in order, under ids that are not empty. -/
lemma forall₂_of_toCards {ds : List CardDeclaration} {supply rest : Supply} {cards : List Card}
    (h : toCards ds supply = .ok (cards, rest)) :
    List.Forall₂ (fun d card => ∃ id, id ≠ "" ∧ d.toCard id = .ok card) ds cards := by
  induction ds generalizing supply rest cards with
  | nil =>
      obtain ⟨rfl, _⟩ := Prod.mk.inj (Except.ok.inj h)
      exact .nil
  | cons d ds ih =>
      obtain ⟨first, others, hfirst, hothers, rfl⟩ := exists_of_toCards_cons h
      exact .cons ⟨_, d.takeId_ne_empty supply, hfirst⟩ (ih hothers)

end CardDeclaration

namespace DeckDeclaration

/-- A declared deck whose cards are well-formed. -/
def WellFormed (d : DeckDeclaration) : Prop := ∀ card ∈ d.cards, card.WellFormed

/-- What is ensured of cards, decks ensure of all their cards. -/
lemma read_ensures_cards {P : CardDeclaration → Prop}
    (h : ∀ v, (CardDeclaration.read v).Ensures P) (v : Value) :
    (read v).Ensures fun d => ∀ card ∈ d.cards, P card := by
  refine readObject_ensures (fun fields => ?_) v
  refine .seqLeft ?_ _
  refine .seq ?_ (required_ensures fields "cards" (readFullList_ensures h))
  exact .map fun _ _ cards hcards => hcards

/-- What is ensured of effects, decks ensure of all effects of their cards. -/
lemma read_ensures_effects {P : EffectDeclaration → Prop}
    (h : ∀ v, (EffectDeclaration.read v).Ensures P) (v : Value) :
    (read v).Ensures fun d => ∀ card ∈ d.cards, ∀ e ∈ card.effects, P e :=
  read_ensures_cards (CardDeclaration.read_ensures_effects h) v

/-- Decks in files that are accepted are well-formed. -/
theorem read_ensures (v : Value) : (read v).Ensures WellFormed :=
  read_ensures_effects EffectDeclaration.read_ensures v

/-- The player holds the declared cards, and their ids are distinct. -/
lemma toCards_of_toPlayer {d : DeckDeclaration} {hitPoints : Int} {supply rest : Supply}
    {player : Player} (h : d.toPlayer hitPoints supply = .ok (player, rest)) :
    (player.cards.map (·.id)).Nodup
      ∧ CardDeclaration.toCards d.cards supply = .ok (player.cards, rest) := by
  obtain ⟨⟨cards, last⟩, hcards, h⟩ := bind_eq_ok_iff.mp h
  obtain ⟨declared, hdeclared, h⟩ := bind_eq_ok_iff.mp h
  obtain ⟨rfl, rfl⟩ := Prod.mk.inj (Except.ok.inj h)
  obtain ⟨hnodup, rfl⟩ := Player.declare_eq_ok_iff.mp hdeclared
  exact ⟨hnodup, hcards⟩

/-- The player holds cards that are declared, under ids that are distinct and not empty. -/
lemma toPlayer_cases {d : DeckDeclaration} {hitPoints : Int} {supply rest : Supply}
    {player : Player} (h : d.toPlayer hitPoints supply = .ok (player, rest)) :
    (player.cards.map (·.id)).Nodup
      ∧ ∀ card ∈ player.cards, ∃ own ∈ d.cards, ∃ id, id ≠ "" ∧ own.toCard id = .ok card := by
  obtain ⟨hnodup, hcards⟩ := toCards_of_toPlayer h
  exact ⟨hnodup, exists_of_mem_of_forall₂ (CardDeclaration.forall₂_of_toCards hcards)⟩

/-- The player that holds a well-formed deck is well-formed. -/
theorem wellFormed_toPlayer {d : DeckDeclaration} (hd : d.WellFormed) {hitPoints : Int}
    {supply rest : Supply} {player : Player}
    (h : d.toPlayer hitPoints supply = .ok (player, rest)) : player.WellFormed := by
  obtain ⟨hnodup, hcards⟩ := toPlayer_cases h
  refine ⟨hnodup, fun card hcard => ?_⟩
  obtain ⟨own, hown, _, _, hdeclared⟩ := hcards card hcard
  exact CardDeclaration.wellFormed_toCard (hd own hown) hdeclared

end DeckDeclaration

/-! ### Enemies -/

namespace EnemyDeclaration

/-- All effects of a declared enemy. -/
def effects (d : EnemyDeclaration) : List EffectDeclaration :=
  d.turnStart ++ d.turnEnd ++ d.playerTurnStart ++ d.onPlayerCard ++ d.declared

/-- A declared enemy whose effects are well-formed. -/
def WellFormed (d : EnemyDeclaration) : Prop := ∀ e ∈ d.effects, e.WellFormed

/-- What is ensured of effects, enemies ensure of all their effects. -/
lemma read_ensures_effects {P : EffectDeclaration → Prop}
    (h : ∀ v, (EffectDeclaration.read v).Ensures P) (v : Value) :
    (read v).Ensures fun d => ∀ e ∈ d.effects, P e := by
  refine readObject_ensures (fun fields => ?_) v
  refine .seqLeft ?_ _
  refine .seq ?_ (CardDeclaration.effectList_ensures h fields "enchantments")
  refine .seq ?_ (CardDeclaration.effectList_ensures h fields "player_play_card")
  refine .seq ?_ (CardDeclaration.effectList_ensures h fields "player_start_turn")
  refine .seq ?_ (CardDeclaration.effectList_ensures h fields "end_turn")
  refine .seq ?_ (CardDeclaration.effectList_ensures h fields "start_turn")
  iterate 3 refine .seq ?_ (.any _)
  refine .map fun _ _ _ _ _ _ _ _ turnStart hstart turnEnd hend playerTurnStart hplayer
    onPlayerCard hcard declared hdeclared => ?_
  intro e he
  simp only [effects, List.mem_append] at he
  rcases he with (((he | he) | he) | he) | he
  · exact hstart e he
  · exact hend e he
  · exact hplayer e he
  · exact hcard e he
  · exact hdeclared e he

/-- Enemies in files that are accepted are well-formed. -/
theorem read_ensures (v : Value) : (read v).Ensures WellFormed :=
  read_ensures_effects EffectDeclaration.read_ensures v

/-- An enemy is declared exactly if its defense and each of its lists of effects are. -/
lemma toEnemy_eq_ok_iff {d : EnemyDeclaration} {enemy : Enemy} :
    d.toEnemy = .ok enemy
      ↔ ∃ defense turnStart turnEnd playerTurnStart onPlayerCard declared,
        d.defense.toDefense = .ok defense ∧ effectsOf d.turnStart = .ok turnStart
        ∧ effectsOf d.turnEnd = .ok turnEnd ∧ effectsOf d.playerTurnStart = .ok playerTurnStart
        ∧ effectsOf d.onPlayerCard = .ok onPlayerCard ∧ effectsOf d.declared = .ok declared
        ∧ enemy =
          { Enemy.create d.name d.hitPoints defense d.turnDamage with
            turnStart
            turnEnd := (Enemy.create d.name d.hitPoints defense d.turnDamage).turnEnd ++ turnEnd
            playerTurnStart
            onPlayerCard
            declared } := by
  constructor
  · intro h
    obtain ⟨defense, hdefense, h⟩ := bind_eq_ok_iff.mp h
    have h := mapError_eq_ok_iff.mp h
    obtain ⟨turnStart, hstart, h⟩ := bind_eq_ok_iff.mp h
    obtain ⟨turnEnd, hend, h⟩ := bind_eq_ok_iff.mp h
    obtain ⟨playerTurnStart, hplayer, h⟩ := bind_eq_ok_iff.mp h
    obtain ⟨onPlayerCard, hcard, h⟩ := bind_eq_ok_iff.mp h
    obtain ⟨declared, hdeclared, h⟩ := bind_eq_ok_iff.mp h
    exact ⟨defense, turnStart, turnEnd, playerTurnStart, onPlayerCard, declared,
      mapError_eq_ok_iff.mp hdefense, hstart, hend, hplayer, hcard, hdeclared,
      (Except.ok.inj h).symm⟩
  · rintro ⟨defense, turnStart, turnEnd, playerTurnStart, onPlayerCard, declared, hdefense, hstart,
      hend, hplayer, hcard, hdeclared, rfl⟩
    simp only [toEnemy, hdefense, withEffects, hstart, hend, hplayer, hcard, hdeclared]
    rfl

/-- The enemy that is declared has the effects that are declared, and its base attack. -/
lemma exists_of_mem_toEnemy {d : EnemyDeclaration} {enemy : Enemy} {e : Effect}
    (h : d.toEnemy = .ok enemy) (he : e ∈ enemy.effects) :
    (∃ own ∈ d.effects, own.toEffect = .ok e) ∨ e = .enemyAttack d.turnDamage := by
  obtain ⟨defense, turnStart, turnEnd, playerTurnStart, onPlayerCard, declared, _, hstart, hend,
    hplayer, hcard, hdeclared, rfl⟩ := toEnemy_eq_ok_iff.mp h
  have hdeclares {ds : List EffectDeclaration} {es : List Effect} (hds : ds ⊆ d.effects)
      (hes : effectsOf ds = .ok es) (he : e ∈ es) : ∃ own ∈ d.effects, own.toEffect = .ok e := by
    obtain ⟨own, hown, howned⟩ := exists_of_mem_effectsOf hes he
    exact ⟨own, hds hown, howned⟩
  simp only [Enemy.effects, Enemy.create, List.append_nil, List.mem_append] at he
  rcases he with (((he | he | he) | he) | he) | he
  · exact Or.inl (hdeclares (fun _ hown => by simp [effects, hown]) hstart he)
  · split at he
    · cases he
    · exact Or.inr (List.mem_singleton.mp he)
  · exact Or.inl (hdeclares (fun _ hown => by simp [effects, hown]) hend he)
  · exact Or.inl (hdeclares (fun _ hown => by simp [effects, hown]) hplayer he)
  · exact Or.inl (hdeclares (fun _ hown => by simp [effects, hown]) hcard he)
  · exact Or.inl (hdeclares (fun _ hown => by simp [effects, hown]) hdeclared he)

/-- The enemy that is declared is well-formed if its declaration is. -/
theorem wellFormed_toEnemy {d : EnemyDeclaration} (hd : d.WellFormed) {enemy : Enemy}
    (h : d.toEnemy = .ok enemy) : enemy.WellFormed := by
  intro e he
  rcases exists_of_mem_toEnemy h he with ⟨own, hown, hdeclared⟩ | rfl
  · exact EffectDeclaration.wellFormed_toEffect (hd own hown) hdeclared
  · exact .always rfl rfl rfl

end EnemyDeclaration

end Declaration

end CardBattle
