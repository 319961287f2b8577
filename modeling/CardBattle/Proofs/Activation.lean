/-
Which enchantments a battle starts with.

* `Effect.granted?` : what a declaration grants a side under the test that decides whether an
  effect is applied (`Trigger.fired?`);
* `Effect.offered?` : what a declaration offers a side, whatever it waits for;
* `activated_start` : the player starts with what is granted to it, the enemy with what is offered
  to it, in the order of the declarations; the two rules agree on the enemy exactly when the
  starting hand meets each condition under which it is offered an enchantment;
* `activated_start_tide` : a battle in which they do not.
-/
import CardBattle.Battle
import CardBattle.Catalog.Cards
import CardBattle.Proofs.Resolution
import Mathlib.Tactic

namespace CardBattle

/-! ### Lists of results -/

section Results

variable {α β : Type} {f g : α → Option β}

lemma filterMap_sublist_filterMap (h : ∀ a, g a = none ∨ g a = f a) (l : List α) :
    (l.filterMap g).Sublist (l.filterMap f) := by
  induction l with
  | nil => exact List.Sublist.refl _
  | cons a l ih =>
      cases hf : f a with
      | none =>
          have hg : g a = none := (h a).elim id (·.trans hf)
          rwa [List.filterMap_cons_none hf, List.filterMap_cons_none hg]
      | some b =>
          rw [List.filterMap_cons_some hf]
          rcases h a with hg | hg
          · rw [List.filterMap_cons_none hg]
            exact ih.cons b
          · rw [List.filterMap_cons_some (hg.trans hf)]
            exact ih.cons_cons b

/-- A list of results that may leave some results of another list out is equal to it exactly when
it leaves none out. -/
lemma filterMap_eq_filterMap_iff (h : ∀ a, g a = none ∨ g a = f a) {l : List α} :
    l.filterMap f = l.filterMap g ↔ ∀ a ∈ l, f a = g a := by
  refine ⟨fun heq => ?_, List.filterMap_congr⟩
  induction l with
  | nil => simp
  | cons a l ih =>
      have hfirst : f a = g a := by
        rcases h a with hg | hg
        · cases hf : f a with
          | none => exact hg.symm
          | some b =>
              -- a result that is left out would make the lists differ in length
              rw [List.filterMap_cons_some hf, List.filterMap_cons_none hg] at heq
              have hlength := congrArg List.length heq
              have hle := (filterMap_sublist_filterMap h l).length_le
              rw [List.length_cons] at hlength
              omega
        · exact hg.symm
      have hrest : l.filterMap f = l.filterMap g := by
        cases hf : f a with
        | none =>
            rwa [List.filterMap_cons_none hf,
              List.filterMap_cons_none (hfirst.symm.trans hf)] at heq
        | some b =>
            rw [List.filterMap_cons_some hf,
              List.filterMap_cons_some (hfirst.symm.trans hf)] at heq
            exact List.tail_eq_of_cons_eq heq
      exact List.forall_mem_cons.mpr ⟨hfirst, ih hrest⟩

end Results

/-! ### Declarations -/

/-- The enchantment that a payload carries. -/
def Payload.enchantment? : Payload → Option Enchantment
  | .grant enchantment => some enchantment
  | _ => none

namespace Effect

/-- The enchantment that a declaration grants a side: it is aimed at the side, and its trigger
fires on the hand. -/
def granted? (side : Side) (hand : List Element) (e : Effect) : Option Enchantment :=
  if e.target = side then (e.trigger.fired? hand).bind Payload.enchantment? else none

/-- The enchantment that a declaration offers a side, whatever its trigger waits for. -/
def offered? (side : Side) (e : Effect) : Option Enchantment :=
  if e.target = side then e.payload?.bind Payload.enchantment? else none

/-- An offer stands unless it waits for a condition that the hand does not meet. -/
lemma granted?_eq_none_or (side : Side) (hand : List Element) (e : Effect) :
    e.granted? side hand = none ∨ e.granted? side hand = e.offered? side := by
  rw [granted?, offered?, payload?]
  split_ifs with htarget
  · cases e.trigger with
    | always payload => exact Or.inr rfl
    | when condition payload =>
        rw [Trigger.fired?]
        split_ifs with hcondition
        · exact Or.inr rfl
        · exact Or.inl rfl
    | discard cardId => exact Or.inl rfl
  · exact Or.inl rfl

/-- What is offered is granted exactly when the hand meets the condition of the offer, if there is
one. -/
lemma offered?_eq_granted?_iff {side : Side} {hand : List Element} {e : Effect} :
    e.offered? side = e.granted? side hand
      ↔ (e.target = side → ∀ condition enchantment,
          e.trigger = .when condition (.grant enchantment) → condition.inHand hand = true) := by
  by_cases htarget : e.target = side
  · rw [granted?, offered?, payload?, if_pos htarget, if_pos htarget]
    cases e.trigger with
    | always payload => simp [Trigger.fired?, Trigger.payload?]
    | when condition payload =>
        cases hcondition : condition.inHand hand with
        | true => cases payload <;> simp_all [Trigger.fired?, Trigger.payload?]
        | false =>
            cases payload <;>
              simp [Trigger.fired?, Trigger.payload?, Payload.enchantment?, htarget, hcondition]
    | discard cardId => simp [Trigger.fired?, Trigger.payload?]
  · simp [granted?, offered?, htarget]

end Effect

/-! ### Activation -/

namespace Actors

/-- A declaration that is aimed at the player activates what it grants. -/
lemma activates?_eq_granted? (actors : Actors) {e : Effect} (h : e.target = .player) :
    actors.activates? e = e.granted? .player actors.player.elements := by
  rw [Effect.granted?, if_pos h, activates?]
  cases e.trigger with
  | always payload => cases payload <;> rfl
  | when condition payload =>
      cases hcondition : condition.inHand actors.player.elements <;> cases payload <;>
        simp [admits, Trigger.fired?, Payload.enchantment?, h, hcondition]
  | discard cardId => rfl

/-- A declaration that is aimed at the enemy activates what it offers: no enemy fails a
condition. -/
lemma activates?_eq_offered? (actors : Actors) {e : Effect} (h : e.target = .enemy) :
    actors.activates? e = e.offered? .enemy := by
  rw [Effect.offered?, if_pos h, activates?, Effect.payload?]
  cases e.trigger with
  | always payload => cases payload <;> rfl
  | when condition payload =>
      cases payload <;>
        simp [admits, Condition.ofEnemy, Trigger.payload?, Payload.enchantment?, h]
  | discard cardId => rfl

lemma activatedFor_eq_filterMap (actors : Actors) {side : Side}
    {f : Effect → Option Enchantment} (h : ∀ e, e.target = side → actors.activates? e = f e)
    (h' : ∀ e, e.target ≠ side → f e = none) (declarations : List Effect) :
    actors.activatedFor side declarations = declarations.filterMap f := by
  rw [activatedFor, List.filterMap_filter]
  refine List.filterMap_congr fun e _ => ?_
  by_cases htarget : e.target = side
  · simp [htarget, h e htarget]
  · simp [htarget, h' e htarget]

end Actors

namespace Battle

/-- The enchantments of a started battle, by the declarations of the enemy and then those of each
card in hand order: the player has what they grant to it, a condition being met by the hand at the
start; the enemy has what they offer to it. So the enemy has just what they grant to it exactly
when the hand meets each condition under which it is offered an enchantment. The test for a grant
is the one by which both actors resolve effects. -/
theorem activated_start (enemy : Enemy) (player : Player) (powerPerTurn : Int) :
    (start enemy player powerPerTurn).player.activated
        = (enemy.declared ++ player.cards.flatMap (·.gameStart)).filterMap
            (Effect.granted? .player player.elements)
      ∧ (start enemy player powerPerTurn).enemy.activated
        = (enemy.declared ++ player.cards.flatMap (·.gameStart)).filterMap
            (Effect.offered? .enemy)
      ∧ ((start enemy player powerPerTurn).enemy.activated
            = (enemy.declared ++ player.cards.flatMap (·.gameStart)).filterMap
                (Effect.granted? .enemy player.elements)
          ↔ ∀ e ∈ enemy.declared ++ player.cards.flatMap (·.gameStart), e.target = .enemy →
              ∀ condition enchantment, e.trigger = .when condition (.grant enchantment) →
                condition.inHand player.elements = true)
      ∧ ∀ trigger : Trigger,
          enemy.receive player.elements trigger
              = ((trigger.fired? player.elements).map enemy.apply).getD (.ok enemy)
            ∧ (trigger.isDiscard = false → player.receive trigger
              = ((trigger.fired? player.elements).map player.apply).getD (.ok player)) := by
  have hplayer := (Actors.mk enemy player).activatedFor_eq_filterMap
    (f := Effect.granted? .player player.elements) (fun _ => Actors.activates?_eq_granted? _)
    (fun e h => by simp [Effect.granted?, h]) (Actors.mk enemy player).declarations
  have henemy := (Actors.mk enemy player).activatedFor_eq_filterMap
    (f := Effect.offered? .enemy) (fun _ => Actors.activates?_eq_offered? _)
    (fun e h => by simp [Effect.offered?, h]) (Actors.mk enemy player).declarations
  refine ⟨hplayer, henemy, ?_, fun trigger => ⟨Enemy.receive_eq _ _, Player.receive_eq⟩⟩
  have hagree := filterMap_eq_filterMap_iff
    (l := enemy.declared ++ player.cards.flatMap (·.gameStart))
    (Effect.granted?_eq_none_or .enemy player.elements)
  simp only [Effect.offered?_eq_granted?_iff] at hagree
  exact (Eq.congr_left henemy).trans hagree

/-- An enemy that is offered one enchantment while the hand holds a water card, and one when a wind
card is played. -/
def tide : Enemy :=
  { name := "Tide", hitPoints := 10
    declared :=
      [.onEnemy "High Tide" (.when (.holds .water) (.grant (.lifePerTurn 2))),
        .onEnemy "Storm Surge" (.when (.plays .wind) (.grant (.lifePerTurn 3)))] }

/-- A player whose only card is of wind. -/
def inlandPlayer : Player := { hitPoints := 20, cards := [Catalog.gust "gust"] }

/-- Against a hand without a water card the tide starts with both enchantments, though neither is
granted. -/
theorem activated_start_tide :
    (start tide inlandPlayer 3).enemy.activated = [.lifePerTurn 2, .lifePerTurn 3]
      ∧ (tide.declared ++ inlandPlayer.cards.flatMap (·.gameStart)).filterMap
          (Effect.granted? .enemy inlandPlayer.elements) = [] :=
  ⟨rfl, rfl⟩

end Battle

end CardBattle
