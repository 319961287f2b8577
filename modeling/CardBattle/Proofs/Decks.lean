/-
Which decks are refused, and why.

* `EffectDeclaration.Misdirects` : a declared effect is aimed at a side that cannot receive it, a
  discard or power at the enemy or a skip at the player; `misuse?_toTrigger_eq_some_iff`: that is
  what is refused of effects that are complete;
* `effectsOf_eq_error_iff` : effects are refused for the first misdirected one;
  `CardDeclaration.toCards_eq_error_iff`: so are cards, for all of their effects in order;
* `CardDeclaration.givenIds`, `CardDeclaration.idsOf` : the ids that cards are given, and all ids
  of the cards; `CardDeclaration.Fresh`: the ids that are handed out are not given;
  `CardDeclaration.nodup_idsOf_iff`: then an id repeats just if one that is given does;
* `CardDeclaration.Becomes` : what becomes of a declared card;
* `DeckDeclaration.Sound` : the effects of a deck are complete and its costs are not negative;
  `DeckDeclaration.read_sound`: so it is in files that are accepted;
* `DeckDeclaration.toPlayer_refusals` : a deck is refused for the first misdirected effect, if there
  is none for the first id that is given again, and else it becomes a player.
-/
import CardBattle.Proofs.Carried
import CardBattle.Proofs.Numerals
import Mathlib.Tactic

namespace CardBattle

/-! ### Repeated ids -/

/-- The first id that repeats an earlier one, behind ids that do not. -/
lemma Card.firstRepeatAfter?_append {before first : List String} (hfirst : first.Nodup)
    (hapart : ∀ id ∈ first, id ∉ before) {id : String} (h : id ∈ first ∨ id ∈ before)
    (rest : List String) : firstRepeatAfter? before (first ++ id :: rest) = some id := by
  induction first generalizing before with
  | nil =>
      have hmem : id ∈ before := h.resolve_left List.not_mem_nil
      rw [List.nil_append, firstRepeatAfter?, if_pos hmem]
  | cons x first ih =>
      obtain ⟨hx, hnodup⟩ := List.nodup_cons.mp hfirst
      obtain ⟨hnew, hothers⟩ := List.forall_mem_cons.mp hapart
      rw [List.cons_append, firstRepeatAfter?, if_neg hnew]
      refine ih hnodup (fun y hy => ?_) ?_
      · have hne : y ≠ x := fun heq => hx (heq ▸ hy)
        simp [hne, hothers y hy]
      · rcases h with hmem | hmem
        · rcases List.mem_cons.mp hmem with rfl | hmem
          · exact Or.inr List.mem_cons_self
          · exact Or.inl hmem
        · exact Or.inr (List.mem_cons_of_mem x hmem)

/-! ### Ids that are handed out -/

namespace Supply

/-- Different numbers have different ids. -/
lemma id_injective : Function.Injective id := by
  intro m n h
  have htexts : "card-".toList ++ (toString m).toList = "card-".toList ++ (toString n).toList := by
    simpa [id] using congrArg String.toList h
  have hnumerals := congrArg Text.numeral? (List.append_cancel_left htexts)
  rw [Text.numeral?_toString, Text.numeral?_toString] at hnumerals
  exact Option.some.inj hnumerals

/-- Whether an id is among so many that a supply hands out next. -/
def Hands (s : Supply) (count : Nat) (id : String) : Prop :=
  ∃ n, s.taken < n ∧ n ≤ s.taken + count ∧ id = Supply.id n

variable {s : Supply} {count more : Nat} {id : String}

lemma not_hands_zero : ¬ s.Hands 0 id := by
  rintro ⟨n, hlow, hhigh, _⟩
  omega

lemma Hands.mono (h : s.Hands count id) (hle : count ≤ more) : s.Hands more id := by
  obtain ⟨n, hlow, hhigh, hid⟩ := h
  exact ⟨n, hlow, by omega, hid⟩

/-- The first id that is handed out, and the others. -/
lemma hands_succ_iff : s.Hands (count + 1) id ↔ id = s.take.1 ∨ s.take.2.Hands count id := by
  constructor
  · rintro ⟨n, hlow, hhigh, rfl⟩
    rcases Nat.eq_or_lt_of_le hlow with rfl | hlater
    · exact Or.inl rfl
    · have hlast : n ≤ s.taken + 1 + count := by omega
      exact Or.inr ⟨n, hlater, hlast, rfl⟩
  · rintro (rfl | ⟨n, hlow, hhigh, rfl⟩)
    · exact ⟨s.taken + 1, by omega, by omega, rfl⟩
    · have hlater : s.taken + 1 < n := hlow
      have hlast : n ≤ s.taken + 1 + count := hhigh
      exact ⟨n, by omega, by omega, rfl⟩

/-- An id is not handed out again. -/
lemma not_hands_take : ¬ s.take.2.Hands count s.take.1 := by
  rintro ⟨n, hlow, _, hsame⟩
  have hlater : s.taken + 1 < n := hlow
  have hnumber : s.taken + 1 = n := id_injective hsame
  omega

end Supply

/-! ### Triggers -/

/-- What is wrong with aiming a trigger at a side. -/
lemma Trigger.misuse?_eq_some_iff {trigger : Trigger} {target : Side} {misuse : Misuse} :
    trigger.misuse? target = some misuse
      ↔ (trigger.isDiscard = true ∧ target = .enemy ∧ misuse = .discard)
        ∨ (∃ amount, trigger.payload? = some (.power amount) ∧ target = .enemy ∧ misuse = .power)
        ∨ (trigger.payload? = some .skipTurn ∧ target = .player ∧ misuse = .skipTurn) := by
  cases trigger with
  | discard cardId => cases target <;> simp [misuse?, payload?, isDiscard, eq_comm]
  | always payload =>
      cases payload <;> cases target <;> simp [misuse?, payload?, isDiscard, eq_comm]
  | «when» condition payload =>
      cases payload <;> cases target <;> simp [misuse?, payload?, isDiscard, eq_comm]

namespace Declaration

open Json (Value)

/-! ### Misdirected effects -/

namespace PayloadDeclaration

variable {d : PayloadDeclaration}

lemma toPayload_eq_power_iff {amount : Int} : d.toPayload = .power amount ↔ d = .power amount := by
  cases d <;> simp [toPayload]

lemma toPayload_eq_skipTurn_iff : d.toPayload = .skipTurn ↔ d = .skipTurn := by
  cases d <;> simp [toPayload]

end PayloadDeclaration

namespace EffectDeclaration

variable {d : EffectDeclaration}

/-- A declared effect is aimed at a side that cannot receive it. A payload counts where a trigger
applies one, which a discard does not. -/
inductive Misdirects (d : EffectDeclaration) : Misuse → Prop where
  | discard (htrigger : d.trigger = .discard) (htarget : d.target ≠ .player) : d.Misdirects .discard
  | power (amount : Int) (htrigger : d.trigger ≠ .discard)
      (hpayload : d.payload? = some (.power amount)) (htarget : d.target ≠ .player) :
      d.Misdirects .power
  | skipTurn (htrigger : d.trigger ≠ .discard) (hpayload : d.payload? = some .skipTurn)
      (htarget : d.target ≠ .enemy) : d.Misdirects .skipTurn

/-- Whether a declared effect is aimed at a side that cannot receive it. -/
def Misdirected (d : EffectDeclaration) : Prop := ∃ misuse, d.Misdirects misuse

/-- The payload that a complete declaration declares is the one that its trigger applies. -/
lemma payload?_toTrigger (h : d.Complete) (htrigger : d.trigger ≠ .discard) :
    d.toTrigger.isDiscard = false
      ∧ d.toTrigger.payload? = d.payload?.map PayloadDeclaration.toPayload := by
  obtain ⟨payload, hpayload, _⟩ := h.exists_payload htrigger
  cases hkind : d.trigger with
  | discard => exact absurd hkind htrigger
  | always => simp [toTrigger, hkind, hpayload, Trigger.isDiscard, Trigger.payload?]
  | condition =>
      obtain ⟨condition, hcondition⟩ := h.exists_condition hkind
      simp [toTrigger, hkind, hcondition, hpayload, Trigger.isDiscard, Trigger.payload?]

/-- What is refused of a complete declaration. -/
lemma misuse?_toTrigger_eq_some_iff (h : d.Complete) {misuse : Misuse} :
    d.toTrigger.misuse? d.target = some misuse ↔ d.Misdirects misuse := by
  have hplayer : d.target ≠ .player ↔ d.target = .enemy := by cases d.target <;> simp
  have henemy : d.target ≠ .enemy ↔ d.target = .player := by cases d.target <;> simp
  rw [Trigger.misuse?_eq_some_iff]
  by_cases htrigger : d.trigger = .discard
  · rw [toTrigger_of_discard htrigger]
    constructor
    · rintro (⟨_, htarget, rfl⟩ | ⟨_, hpayload, _⟩ | ⟨hpayload, _⟩)
      · exact .discard htrigger (hplayer.mpr htarget)
      · cases hpayload
      · cases hpayload
    · rintro (⟨_, htarget⟩ | ⟨_, hother, _, _⟩ | ⟨hother, _, _⟩)
      · exact Or.inl ⟨rfl, hplayer.mp htarget, rfl⟩
      · exact absurd htrigger hother
      · exact absurd htrigger hother
  · obtain ⟨hdiscard, hpayload⟩ := payload?_toTrigger h htrigger
    simp only [hdiscard, hpayload, Option.map_eq_some_iff,
      PayloadDeclaration.toPayload_eq_power_iff, PayloadDeclaration.toPayload_eq_skipTurn_iff,
      exists_eq_right]
    constructor
    · rintro (⟨hfalse, _⟩ | ⟨amount, hpower, htarget, rfl⟩ | ⟨hskip, htarget, rfl⟩)
      · cases hfalse
      · exact .power amount htrigger hpower (hplayer.mpr htarget)
      · exact .skipTurn htrigger hskip (henemy.mpr htarget)
    · rintro (⟨hdiscards, _⟩ | ⟨amount, _, hpower, htarget⟩ | ⟨_, hskip, htarget⟩)
      · exact absurd hdiscards htrigger
      · exact Or.inr (Or.inl ⟨amount, hpower, hplayer.mp htarget, rfl⟩)
      · exact Or.inr (Or.inr ⟨hskip, henemy.mp htarget, rfl⟩)

/-- A complete declaration can be received exactly if it is not misdirected. -/
lemma receivable_iff (h : d.Complete) : d.Receivable ↔ ¬ d.Misdirected := by
  rw [Receivable, Option.eq_none_iff_forall_ne_some, Misdirected, not_exists]
  exact forall_congr' fun misuse => not_congr (misuse?_toTrigger_eq_some_iff h)

/-- A complete declaration is refused for what is misdirected about it. -/
lemma toEffect_eq_error_iff (h : d.Complete) {error : BattleError} :
    d.toEffect = .error error
      ↔ ∃ misuse, d.Misdirects misuse ∧ error = .misdirected d.effectName misuse := by
  simp only [← misuse?_toTrigger_eq_some_iff h, toEffect, Effect.declare]
  cases d.toTrigger.misuse? d.target with
  | none => simp
  | some misuse => simp [eq_comm]

end EffectDeclaration

/-- Complete declarations are refused for the first misdirected one. -/
lemma effectsOf_eq_error_iff {ds : List EffectDeclaration} (h : ∀ d ∈ ds, d.Complete)
    {error : BattleError} :
    effectsOf ds = .error error
      ↔ ∃ before d after misuse, ds = before ++ d :: after ∧ (∀ own ∈ before, ¬ own.Misdirected)
        ∧ d.Misdirects misuse ∧ error = .misdirected d.effectName misuse := by
  rw [effectsOf, mapM_eq_error_iff]
  constructor
  · rintro ⟨before, d, after, rfl, hbefore, hd⟩
    obtain ⟨misuse, hmisuse, herror⟩ :=
      (EffectDeclaration.toEffect_eq_error_iff (h d (by simp))).mp hd
    refine ⟨before, d, after, misuse, rfl, fun own hown => ?_, hmisuse, herror⟩
    have hreceivable := EffectDeclaration.exists_toEffect_iff.mp (hbefore own hown)
    exact (EffectDeclaration.receivable_iff (h own (by simp [hown]))).mp hreceivable
  · rintro ⟨before, d, after, misuse, rfl, hbefore, hmisuse, herror⟩
    refine ⟨before, d, after, rfl, fun own hown => ?_, ?_⟩
    · have hcomplete := h own (by simp [hown])
      exact EffectDeclaration.exists_toEffect_iff.mpr
        ((EffectDeclaration.receivable_iff hcomplete).mpr (hbefore own hown))
    · exact (EffectDeclaration.toEffect_eq_error_iff (h d (by simp))).mpr ⟨misuse, hmisuse, herror⟩

lemma effectsOf_append (ds others : List EffectDeclaration) :
    effectsOf (ds ++ others) = (do
      let es ← effectsOf ds
      let rest ← effectsOf others
      return es ++ rest) :=
  List.mapM_append

/-! ### Cards -/

namespace CardDeclaration

variable {d : CardDeclaration} {ds : List CardDeclaration} {error : BattleError}

/-- A card whose cost is not negative is refused for its effects. -/
lemma toCard_eq_error_iff (h : 0 ≤ d.cost) (id : String) :
    d.toCard id = .error error ↔ effectsOf d.effects = .error error := by
  rw [effects, effectsOf_append, effectsOf_append, toCard]
  cases effectsOf d.gameStart with
  | error failed => simp [bind, Except.bind]
  | ok gameStart =>
      cases effectsOf d.turnStart with
      | error failed => simp [bind, Except.bind]
      | ok turnStart =>
          cases effectsOf d.onPlay with
          | error failed => simp [bind, Except.bind, pure, Except.pure]
          | ok onPlay =>
              have hcost : ¬ d.cost < 0 := not_lt.mpr h
              simp [bind, Except.bind, pure, Except.pure, Card.declare, hcost]

/-- Cards whose costs are not negative are refused for their effects, card by card. -/
lemma toCards_eq_error_iff (h : ∀ d ∈ ds, 0 ≤ d.cost) (supply : Supply) :
    toCards ds supply = .error error ↔ effectsOf (ds.flatMap effects) = .error error := by
  induction ds generalizing supply with
  | nil => exact iff_of_false (by simp [toCards]) (by simp [effectsOf, pure, Except.pure])
  | cons d ds ih =>
      obtain ⟨hcost, hcosts⟩ := List.forall_mem_cons.mp h
      have hfirst : (∃ card, d.toCard (d.takeId supply).1 = .ok card)
          ↔ ∃ es, effectsOf d.effects = .ok es :=
        (exists_toCard_iff hcost _).trans exists_effectsOf_iff.symm
      rw [toCards, List.flatMap_cons, effectsOf_append, bind_eq_error_iff, bind_eq_error_iff,
        toCard_eq_error_iff hcost]
      refine or_congr_right ?_
      simp only [bind_eq_error_iff, pure, Except.pure, reduceCtorEq, and_false, exists_false,
        or_false, exists_and_right, ih hcosts, hfirst]

/-! ### Ids of cards -/

/-- The ids that are given to cards, in order. -/
def givenIds (ds : List CardDeclaration) : List String := ds.filterMap explicitId?

/-- How many cards are given no id. -/
def unnamed (ds : List CardDeclaration) : Nat := ds.countP (·.explicitId?.isNone)

/-- Whether no id that is given to a card is handed out to another one. -/
def Fresh (ds : List CardDeclaration) (supply : Supply) : Prop :=
  ∀ id ∈ givenIds ds, ¬ supply.Hands (unnamed ds) id

/-- The ids of cards, in order. -/
def idsOf : List CardDeclaration → Supply → List String
  | [], _ => []
  | d :: rest, supply => (d.takeId supply).1 :: idsOf rest (d.takeId supply).2

lemma cons_of_given {id : String} (h : d.explicitId? = some id) (ds : List CardDeclaration)
    (supply : Supply) :
    d.takeId supply = (id, supply) ∧ givenIds (d :: ds) = id :: givenIds ds
      ∧ unnamed (d :: ds) = unnamed ds := by
  refine ⟨?_, List.filterMap_cons_some h, ?_⟩
  · rw [takeId, h]
  · simp [unnamed, h]

lemma cons_of_unnamed (h : d.explicitId? = none) (ds : List CardDeclaration)
    (supply : Supply) :
    d.takeId supply = supply.take ∧ givenIds (d :: ds) = givenIds ds
      ∧ unnamed (d :: ds) = unnamed ds + 1 := by
  refine ⟨?_, List.filterMap_cons_none h, ?_⟩
  · rw [takeId, h]
  · simp [unnamed, h]

lemma Fresh.of_cons {supply : Supply} (h : Fresh (d :: ds) supply) :
    Fresh ds (d.takeId supply).2 := by
  intro id hmem hhands
  cases hown : d.explicitId? with
  | some own =>
      obtain ⟨htake, hgiven, hcount⟩ := cons_of_given hown ds supply
      rw [htake] at hhands
      refine h id ?_ (hcount ▸ hhands)
      rw [hgiven]
      exact List.mem_cons_of_mem own hmem
  | none =>
      obtain ⟨htake, hgiven, hcount⟩ := cons_of_unnamed hown ds supply
      rw [htake] at hhands
      refine h id (hgiven ▸ hmem) ?_
      rw [hcount]
      exact Supply.hands_succ_iff.mpr (Or.inr hhands)

lemma Fresh.of_append {others : List CardDeclaration} {supply : Supply}
    (h : Fresh (ds ++ others) supply) : Fresh ds supply := by
  intro id hmem hhands
  refine h id ?_ (hhands.mono ?_)
  · rw [givenIds, List.filterMap_append]
    exact List.mem_append_left _ hmem
  · rw [unnamed, unnamed, List.countP_append]
    omega

/-- The ids of cards are the given ones and those that are handed out. -/
lemma mem_idsOf_iff {supply : Supply} {id : String} :
    id ∈ idsOf ds supply ↔ id ∈ givenIds ds ∨ supply.Hands (unnamed ds) id := by
  induction ds generalizing supply with
  | nil =>
      refine iff_of_false List.not_mem_nil ?_
      rintro (hmem | hhands)
      · exact List.not_mem_nil hmem
      · exact Supply.not_hands_zero hhands
  | cons d ds ih =>
      rw [idsOf, List.mem_cons, ih]
      cases hown : d.explicitId? with
      | some own =>
          obtain ⟨htake, hgiven, hcount⟩ := cons_of_given hown ds supply
          rw [htake, hgiven, hcount, List.mem_cons, or_assoc]
      | none =>
          obtain ⟨htake, hgiven, hcount⟩ := cons_of_unnamed hown ds supply
          rw [htake, hgiven, hcount, Supply.hands_succ_iff, or_left_comm]

/-- An id of cards repeats just if a given one does. -/
lemma nodup_idsOf_iff {supply : Supply} (h : Fresh ds supply) :
    (idsOf ds supply).Nodup ↔ (givenIds ds).Nodup := by
  induction ds generalizing supply with
  | nil => exact iff_of_true List.nodup_nil List.nodup_nil
  | cons d ds ih =>
      rw [idsOf, List.nodup_cons, ih h.of_cons, mem_idsOf_iff]
      cases hown : d.explicitId? with
      | some own =>
          obtain ⟨htake, hgiven, hcount⟩ := cons_of_given hown ds supply
          have hfresh : ¬ supply.Hands (unnamed ds) own :=
            hcount ▸ h own (hgiven ▸ List.mem_cons_self)
          rw [htake, hgiven, List.nodup_cons]
          exact and_congr_left fun _ => not_congr (or_iff_left hfresh)
      | none =>
          obtain ⟨htake, hgiven, hcount⟩ := cons_of_unnamed hown ds supply
          rw [htake, hgiven]
          refine and_iff_right ?_
          rintro (hmem | hagain)
          · refine h supply.take.1 (hgiven ▸ hmem) ?_
            rw [hcount]
            exact Supply.hands_succ_iff.mpr (Or.inl rfl)
          · exact Supply.not_hands_take hagain

/-- The first card that is given an id again. -/
lemma firstRepeat?_idsOf {before after : List CardDeclaration} {supply : Supply} {id : String}
    (hfresh : Fresh (before ++ d :: after) supply) (hnodup : (givenIds before).Nodup)
    (hid : d.explicitId? = some id) (hmem : id ∈ givenIds before) :
    Card.firstRepeat? (idsOf (before ++ d :: after) supply) = some id := by
  have hsplit (ds : List CardDeclaration) (s : Supply) :
      ∃ rest, idsOf (ds ++ d :: after) s = idsOf ds s ++ id :: rest := by
    induction ds generalizing s with
    | nil =>
        refine ⟨idsOf after s, ?_⟩
        show (d.takeId s).1 :: idsOf after (d.takeId s).2 = id :: idsOf after s
        rw [(cons_of_given hid after s).1]
    | cons own ds ih =>
        obtain ⟨rest, hrest⟩ := ih (own.takeId s).2
        exact ⟨rest, by rw [List.cons_append, idsOf, idsOf, hrest]; rfl⟩
  obtain ⟨rest, hrest⟩ := hsplit before supply
  have hdistinct : (idsOf before supply).Nodup := (nodup_idsOf_iff hfresh.of_append).mpr hnodup
  have hmet : id ∈ idsOf before supply := mem_idsOf_iff.mpr (Or.inl hmem)
  rw [hrest, Card.firstRepeat?]
  exact Card.firstRepeatAfter?_append hdistinct (by simp) (Or.inl hmet) rest

/-! ### Cards that are accepted -/

/-- What becomes of a declared card: it has the id that it is given, or one that is handed out. -/
structure Becomes (isHanded : String → Prop) (d : CardDeclaration) (card : Card) : Prop where
  declared : d.toCard card.id = .ok card
  given : ∀ id ∈ d.explicitId?, card.id = id
  handed : d.explicitId? = none → isHanded card.id

/-- Declared cards become cards one by one, in order, under the ids of the cards. -/
lemma becomes_of_toCards {supply rest : Supply} {cards : List Card}
    (h : toCards ds supply = .ok (cards, rest)) :
    cards.map (·.id) = idsOf ds supply
      ∧ List.Forall₂ (Becomes (supply.Hands (unnamed ds))) ds cards := by
  induction ds generalizing supply rest cards with
  | nil =>
      obtain ⟨rfl, _⟩ := Prod.mk.inj (Except.ok.inj h)
      exact ⟨rfl, .nil⟩
  | cons d ds ih =>
      obtain ⟨first, others, hfirst, hothers, rfl⟩ := exists_of_toCards_cons h
      obtain ⟨hid, _, _⟩ := toCard_cases hfirst
      obtain ⟨hids, hcards⟩ := ih hothers
      refine ⟨?_, ?_⟩
      · rw [List.map_cons, hids, idsOf, hid]
      · have hdeclared : d.toCard first.id = .ok first := by rw [hid, hfirst]
        cases hown : d.explicitId? with
        | some own =>
            obtain ⟨htake, _, hcount⟩ := cons_of_given hown ds supply
            rw [htake] at hid hcards
            rw [hcount]
            exact .cons ⟨hdeclared, by simp [hown, hid], by simp [hown]⟩ hcards
        | none =>
            obtain ⟨htake, _, hcount⟩ := cons_of_unnamed hown ds supply
            rw [htake] at hid hcards
            rw [hcount]
            refine .cons ⟨hdeclared, by simp [hown], fun _ => ?_⟩ (hcards.imp fun _ _ hcard => ?_)
            · exact Supply.hands_succ_iff.mpr (Or.inl hid)
            · exact ⟨hcard.declared, hcard.given, fun hnone =>
                Supply.hands_succ_iff.mpr (Or.inr (hcard.handed hnone))⟩

end CardDeclaration

/-! ### Decks -/

namespace DeckDeclaration

open CardDeclaration (givenIds unnamed idsOf Fresh Becomes)

variable {d : DeckDeclaration} {supply : Supply}

/-- All effects of a declared deck: card by card, those at the start of the battle, those at the
start of each turn and those of playing the card. -/
def effects (d : DeckDeclaration) : List EffectDeclaration :=
  d.cards.flatMap CardDeclaration.effects

/-- A deck whose effects are complete and whose costs are not negative. -/
structure Sound (d : DeckDeclaration) : Prop where
  complete : ∀ e ∈ d.effects, e.Complete
  cost : ∀ card ∈ d.cards, 0 ≤ card.cost

/-- Decks in files that are accepted are sound. -/
lemma read_sound (v : Value) : (read v).Ensures Sound := by
  intro d hread
  refine ⟨fun e he => ?_, read_ensures_cards CardDeclaration.read_ensures_cost v d hread⟩
  obtain ⟨card, hcard, hown⟩ := List.mem_flatMap.mp he
  exact read_ensures_effects EffectDeclaration.read_complete v d hread card hcard e hown

namespace Sound

/-- The first misdirected effect is what a deck is refused for, before anything else. -/
lemma toPlayer_of_misdirects (h : d.Sound) {before after : List EffectDeclaration}
    {e : EffectDeclaration} {misuse : Misuse} (hsplit : d.effects = before ++ e :: after)
    (hbefore : ∀ own ∈ before, ¬ own.Misdirected) (he : e.Misdirects misuse) (hitPoints : Int)
    (supply : Supply) :
    d.toPlayer hitPoints supply = .error (.misdirected e.effectName misuse) := by
  have heffects : effectsOf d.effects = .error (.misdirected e.effectName misuse) :=
    (effectsOf_eq_error_iff h.complete).mpr ⟨before, e, after, misuse, hsplit, hbefore, he, rfl⟩
  have hcards := (CardDeclaration.toCards_eq_error_iff h.cost supply).mpr heffects
  rw [toPlayer, hcards]
  rfl

/-- Without misdirected effects the cards are declared, and they make a player unless an id
repeats. -/
lemma toPlayer_of_received (h : d.Sound) (hnone : ∀ e ∈ d.effects, ¬ e.Misdirected)
    (hitPoints : Int) (supply : Supply) :
    ∃ cards rest, List.Forall₂ (Becomes (supply.Hands (unnamed d.cards))) d.cards cards
      ∧ d.toPlayer hitPoints supply = match Card.firstRepeat? (idsOf d.cards supply) with
        | some id => .error (.duplicateCard id none)
        | none => .ok ({ hitPoints := d.hitPoints?.getD hitPoints, cards }, rest) := by
  cases hresult : CardDeclaration.toCards d.cards supply with
  | error failed =>
      have heffects := (CardDeclaration.toCards_eq_error_iff h.cost supply).mp hresult
      obtain ⟨before, e, after, misuse, hsplit, -, he, -⟩ :=
        (effectsOf_eq_error_iff h.complete).mp heffects
      have hmem : e ∈ d.effects := by
        rw [hsplit]
        exact List.mem_append_right before List.mem_cons_self
      exact absurd ⟨misuse, he⟩ (hnone e hmem)
  | ok result =>
      obtain ⟨hids, hcards⟩ := CardDeclaration.becomes_of_toCards hresult
      refine ⟨result.1, result.2, hcards, ?_⟩
      rw [← hids, toPlayer, hresult]
      simp only [bind, Except.bind, Player.declare]
      cases Card.firstRepeat? (result.1.map (·.id)) <;> rfl

/-- A deck is refused for an effect exactly if one of them is misdirected. -/
lemma exists_effectTarget_iff (h : d.Sound) (hitPoints : Int) (supply : Supply) :
    (∃ error, d.toPlayer hitPoints supply = .error error ∧ error.kind = .effectTarget)
      ↔ ∃ e ∈ d.effects, e.Misdirected := by
  constructor
  · rintro ⟨error, herror, hkind⟩
    by_contra hexists
    have hnone : ∀ e ∈ d.effects, ¬ e.Misdirected := fun e he hwrong => hexists ⟨e, he, hwrong⟩
    obtain ⟨cards, rest, _, hplayer⟩ := h.toPlayer_of_received hnone hitPoints supply
    rw [hplayer] at herror
    cases hrepeat : Card.firstRepeat? (idsOf d.cards supply) with
    | none => simp [hrepeat] at herror
    | some id =>
        obtain rfl : BattleError.duplicateCard id none = error := by simpa [hrepeat] using herror
        cases hkind
  · rintro ⟨e, he, hwrong⟩
    cases heffects : effectsOf d.effects with
    | ok es =>
        have hreceivable := exists_effectsOf_iff.mp ⟨es, heffects⟩ e he
        exact absurd hwrong ((EffectDeclaration.receivable_iff (h.complete e he)).mp hreceivable)
    | error failed =>
        obtain ⟨before, first, after, misuse, hsplit, hbefore, hfirst, -⟩ :=
          (effectsOf_eq_error_iff h.complete).mp heffects
        exact ⟨_, h.toPlayer_of_misdirects hsplit hbefore hfirst hitPoints supply, rfl⟩

end Sound

/-- A deck that is accepted as a file is refused exactly if one of its effects is a discard that is
not aimed at the player, power that is not aimed at the player or a skip that is not aimed at the
enemy, and the error names the first such effect. Without such an effect it is refused exactly if an
id is given to two cards, and the error names the id where one is first given again. Otherwise it
becomes a player with its hit points, or those it is given by default, without a reserve and without
enchantments, and its cards are the declared ones, each with the id it is given or, where there is
none, with one that is handed out. Ids that are handed out are taken to be different from the given
ones. -/
theorem toPlayer_refusals {v : Value} (hread : read v = .ok d) (hfresh : Fresh d.cards supply)
    (hitPoints : Int) :
    ((∃ error, d.toPlayer hitPoints supply = .error error ∧ error.kind = .effectTarget)
        ↔ ∃ e ∈ d.effects, e.Misdirected)
      ∧ (∀ before e after misuse, d.effects = before ++ e :: after →
        (∀ own ∈ before, ¬ own.Misdirected) → e.Misdirects misuse →
          d.toPlayer hitPoints supply = .error (.misdirected e.effectName misuse))
      ∧ ((∀ e ∈ d.effects, ¬ e.Misdirected) →
        ((∃ error, d.toPlayer hitPoints supply = .error error ∧ error.kind = .duplicateCard)
            ↔ ¬ (givenIds d.cards).Nodup)
          ∧ (∀ before card after id, d.cards = before ++ card :: after → (givenIds before).Nodup →
            card.explicitId? = some id → id ∈ givenIds before →
              d.toPlayer hitPoints supply = .error (.duplicateCard id none))
          ∧ ((givenIds d.cards).Nodup → ∃ cards rest,
            d.toPlayer hitPoints supply
                = .ok ({ hitPoints := d.hitPoints?.getD hitPoints, cards, reserve := 0,
                         activated := [] }, rest)
              ∧ List.Forall₂ (Becomes (supply.Hands (unnamed d.cards))) d.cards cards)) := by
  have hsound := read_sound v d hread
  refine ⟨hsound.exists_effectTarget_iff hitPoints supply, ?_, fun hnone => ?_⟩
  · intro before e after misuse hsplit hbefore he
    exact hsound.toPlayer_of_misdirects hsplit hbefore he hitPoints supply
  · obtain ⟨cards, rest, hcards, hplayer⟩ := hsound.toPlayer_of_received hnone hitPoints supply
    have hnodup := CardDeclaration.nodup_idsOf_iff hfresh
    refine ⟨?_, ?_, ?_⟩
    · rw [hplayer, ← hnodup, ← Card.firstRepeat?_eq_none_iff]
      cases Card.firstRepeat? (idsOf d.cards supply) with
      | none => simp
      | some id => simp [BattleError.kind]
    · intro before card after id hsplit hdistinct hid hmem
      rw [hsplit] at hfresh hplayer
      rw [hplayer, CardDeclaration.firstRepeat?_idsOf hfresh hdistinct hid hmem]
    · intro hdistinct
      rw [hplayer, Card.firstRepeat?_eq_none_iff.mpr (hnodup.mpr hdistinct)]
      exact ⟨cards, rest, rfl, hcards⟩

/-- The file of a card with an id and with effects of playing it. -/
def gustFile (id : String) (play : List Value) : Value :=
  .object [("name", .text "Gust"), ("element", .text "wind"), ("id", .text id),
    ("play", .array play)]

/-- The file of a deck. -/
def deckFile (cards : List Value) : Value :=
  .object [("hit_points", .integer 30), ("cards", .array cards)]

/-- An effect that damages the enemy, as it is written. -/
def hitFile : Value :=
  .object [("name", .text "Hit"), ("target", .text "enemy"),
    ("effect", .object [("kind", .text "damage"), ("amount", .integer 3)])]

/-- The declaration of that effect. -/
def hit : EffectDeclaration where
  name := "Hit"
  target := .enemy
  trigger := .always
  condition? := none
  payload? := some (.damage 3 .neutral)

/-- An effect that is to bring the enemy power while there is wind, as it is written. -/
def feedFile : Value :=
  .object [("target", .text "enemy"), ("trigger", .text "condition"),
    ("condition", .object [("kind", .text "has_element"), ("element", .text "wind")]),
    ("effect", .object [("kind", .text "power"), ("amount", .integer 2)])]

/-- An effect that is to make the player skip a turn, as it is written. -/
def dozeFile : Value :=
  .object [("name", .text "Doze"), ("target", .text "player"),
    ("effect", .object [("kind", .text "skip_turn")])]

/-- A deck with an id that repeats and with two misdirected effects, as it is written. -/
def fedFile : Value :=
  deckFile [gustFile "gust" [], gustFile "gust" [hitFile, feedFile, dozeFile]]

/-- A deck with an id that repeats behind an empty one, as it is written. -/
def twinFile : Value :=
  deckFile [gustFile "gust" [hitFile], gustFile "" [], gustFile "gust" []]

/-- A deck with two ids and an empty one, as it is written. -/
def squallFile : Value :=
  deckFile [gustFile "gust" [hitFile], gustFile "" [], gustFile "squall" []]

/-- The first deck is refused for the first misdirected effect, the second one for its id, and the
third one makes a player. -/
theorem toPlayer_refusals_gusts :
    (∃ d, read fedFile = .ok d ∧ Fresh d.cards {}
        ∧ d.toPlayer 20 {} = .error (.misdirected "Condition" .power))
      ∧ (∃ d, read twinFile = .ok d ∧ Fresh d.cards {}
        ∧ d.toPlayer 20 {} = .error (.duplicateCard "gust" none))
      ∧ ∃ d, read squallFile = .ok d ∧ Fresh d.cards {}
        ∧ ∃ player rest, d.toPlayer 20 {} = .ok (player, rest) ∧ player.hitPoints = 30
          ∧ player.cards.map (·.id) = ["gust", "card-1", "squall"] := by
  have hreceived : ∀ e ∈ [hit], ¬ e.Misdirected := by
    intro e he
    obtain rfl := List.mem_singleton.mp he
    rintro ⟨misuse, hwrong⟩
    cases hwrong with
    | discard htrigger _ => cases htrigger
    | power _ _ hpayload _ => cases hpayload
    | skipTurn _ hpayload _ => cases hpayload
  have hone {id : String} (hid : id ≠ "card-1") : ¬ Supply.Hands {} 1 id := by
    intro hhands
    rcases Supply.hands_succ_iff.mp hhands with heq | hmore
    · exact hid heq
    · exact Supply.not_hands_zero hmore
  refine ⟨⟨_, rfl, fun id _ => Supply.not_hands_zero, ?_⟩, ⟨_, rfl, ?_⟩, _, rfl, ?_⟩
  · have hread : read fedFile = .ok _ := rfl
    obtain ⟨_, hfirst, _⟩ := toPlayer_refusals hread (fun id _ => Supply.not_hands_zero) 20
    refine hfirst [hit] _ [_] .power rfl hreceived ?_
    exact .power 2 (by decide) rfl (by decide)
  · have hread : read twinFile = .ok _ := rfl
    have hgiven : ∀ id ∈ ["gust", "gust"], id ≠ "card-1" := by decide
    have hfresh : ∀ d, read twinFile = .ok d → Fresh d.cards {} := by
      rintro _ ⟨⟩
      exact fun id hid => hone (hgiven id hid)
    obtain ⟨_, _, hnone⟩ := toPlayer_refusals hread (hfresh _ hread) 20
    obtain ⟨_, htwin, _⟩ := hnone hreceived
    exact ⟨hfresh _ hread, htwin [_, _] _ [] "gust" rfl (by decide) rfl (by decide)⟩
  · have hread : read squallFile = .ok _ := rfl
    have hgiven : ∀ id ∈ ["gust", "squall"], id ≠ "card-1" := by decide
    have hfresh : ∀ d, read squallFile = .ok d → Fresh d.cards {} := by
      rintro _ ⟨⟩
      exact fun id hid => hone (hgiven id hid)
    obtain ⟨_, _, hnone⟩ := toPlayer_refusals hread (hfresh _ hread) 20
    obtain ⟨_, _, hplayer⟩ := hnone hreceived
    obtain ⟨cards, rest, haccepted, hcards⟩ := hplayer (by decide)
    refine ⟨hfresh _ hread, _, rest, haccepted, rfl, ?_⟩
    obtain ⟨first, _, hfirst, hothers, rfl⟩ := List.forall₂_cons_left_iff.mp hcards
    obtain ⟨second, _, hsecond, hlast, rfl⟩ := List.forall₂_cons_left_iff.mp hothers
    obtain ⟨third, _, hthird, hnil, rfl⟩ := List.forall₂_cons_left_iff.mp hlast
    obtain rfl := List.forall₂_nil_left_iff.mp hnil
    have hgust : first.id = "gust" := hfirst.given "gust" rfl
    have hhanded : second.id = "card-1" := by_contra fun hne => hone hne (hsecond.handed rfl)
    have hsquall : third.id = "squall" := hthird.given "squall" rfl
    rw [List.map_cons, List.map_cons, List.map_cons, hgust, hhanded, hsquall, List.map_nil]

end DeckDeclaration

end Declaration

end CardBattle
