/-
What resolving effects does to the two actors.

* `Trigger.fired?` : the payload that a trigger applies, given the elements of the hand;
  `Player.receive_eq` and `Enemy.receive_eq`: both actors apply that payload and no other;
* `Player.apply_cases`, `Enemy.apply_cases` : a payload changes the hit points, unless it is
  power for the player or a skip for the enemy;
* `Actors.run_preserves` : what the resolution of each effect preserves, a run preserves.
-/
import CardBattle.Actors
import Mathlib.Tactic

namespace CardBattle

/-! ### Results of computations that may fail -/

section Results

variable {ε α β : Type}

lemma bind_eq_ok_iff {x : Except ε α} {f : α → Except ε β} {b : β} :
    x >>= f = .ok b ↔ ∃ a, x = .ok a ∧ f a = .ok b := by
  cases x with
  | error e => simp [bind, Except.bind]
  | ok a => simp [bind, Except.bind]

/-- Two steps give a result exactly when the first one does and the second one does after it. -/
lemma exists_bind_eq_ok_iff {x : Except ε α} {f : α → Except ε β} :
    (∃ b, x >>= f = .ok b) ↔ (∃ a, x = .ok a) ∧ ∀ a, x = .ok a → ∃ b, f a = .ok b := by
  cases x with
  | error e => simp [bind, Except.bind]
  | ok a => simp [bind, Except.bind]

lemma exists_map_eq_ok_iff {x : Except ε α} {f : α → β} :
    (∃ b, x.map f = .ok b) ↔ ∃ a, x = .ok a := by
  cases x with
  | error e => simp [Except.map]
  | ok a => simp [Except.map]

lemma map_eq_ok_iff {x : Except ε α} {f : α → β} {b : β} :
    x.map f = .ok b ↔ ∃ a, x = .ok a ∧ f a = b := by
  cases x with
  | error e => simp [Except.map]
  | ok a => simp [Except.map]

lemma mapError_eq_ok_iff {ε' : Type} {x : Except ε α} {f : ε → ε'} {a : α} :
    x.mapError f = .ok a ↔ x = .ok a := by
  cases x <;> simp [Except.mapError]

lemma bind_eq_error_iff {x : Except ε α} {f : α → Except ε β} {e : ε} :
    x >>= f = .error e ↔ x = .error e ∨ ∃ a, x = .ok a ∧ f a = .error e := by
  cases x with
  | error e' => simp [bind, Except.bind]
  | ok a => simp [bind, Except.bind]

lemma mapError_eq_error_iff {ε' : Type} {x : Except ε α} {f : ε → ε'} {e : ε'} :
    x.mapError f = .error e ↔ ∃ e', x = .error e' ∧ e = f e' := by
  cases x <;> simp [Except.mapError, eq_comm]

lemma bind_mapError {ε' : Type} (x : Except ε α) (f : α → Except ε β) (g : ε → ε') :
    (x >>= f).mapError g = x.mapError g >>= fun a => (f a).mapError g := by
  cases x <;> rfl

/-- A list is computed when each item is, in order. -/
lemma mapM_eq_ok_iff {f : α → Except ε β} {xs : List α} {ys : List β} :
    xs.mapM f = .ok ys ↔ List.Forall₂ (fun x y => f x = .ok y) xs ys := by
  induction xs generalizing ys with
  | nil => simp [pure, Except.pure, eq_comm]
  | cons x xs ih =>
      rw [List.mapM_cons, bind_eq_ok_iff, List.forall₂_cons_left_iff]
      refine exists_congr fun y => ?_
      rw [bind_eq_ok_iff]
      simp only [ih, pure, Except.pure, Except.ok.injEq]
      constructor
      · rintro ⟨hy, rest, hrest, rfl⟩
        exact ⟨rest, hy, hrest, rfl⟩
      · rintro ⟨rest, hy, hrest, rfl⟩
        exact ⟨hy, rest, hrest, rfl⟩

/-- A list is computed exactly if each of its values is. -/
lemma exists_mapM_eq_ok_iff {f : α → Except ε β} {xs : List α} :
    (∃ ys, xs.mapM f = .ok ys) ↔ ∀ x ∈ xs, ∃ y, f x = .ok y := by
  induction xs with
  | nil => simp [pure, Except.pure]
  | cons x xs ih =>
      rw [List.mapM_cons, exists_bind_eq_ok_iff, List.forall_mem_cons, ← ih]
      refine and_congr_right fun ⟨y, hy⟩ => ⟨fun h => (exists_bind_eq_ok_iff.mp (h y hy)).1, ?_⟩
      rintro ⟨ys, hys⟩ y' _
      exact ⟨y' :: ys, by rw [hys]; rfl⟩

/-- The computation of a list ends at the first item that fails. -/
lemma mapM_eq_error_iff {f : α → Except ε β} {xs : List α} {e : ε} :
    xs.mapM f = .error e
      ↔ ∃ before x after, xs = before ++ x :: after ∧ (∀ a ∈ before, ∃ b, f a = .ok b)
        ∧ f x = .error e := by
  induction xs with
  | nil => simp [pure, Except.pure]
  | cons x xs ih =>
      rw [List.mapM_cons, bind_eq_error_iff]
      constructor
      · rintro (hfirst | ⟨y, hy, hrest⟩)
        · exact ⟨[], x, xs, rfl, by simp, hfirst⟩
        · rcases bind_eq_error_iff.mp hrest with hrest | ⟨ys, _, hys⟩
          · obtain ⟨before, z, after, rfl, hbefore, hz⟩ := ih.mp hrest
            exact ⟨x :: before, z, after, rfl, List.forall_mem_cons.mpr ⟨⟨y, hy⟩, hbefore⟩, hz⟩
          · cases hys
      · rintro ⟨before, z, after, hsplit, hbefore, hz⟩
        cases before with
        | nil =>
            obtain ⟨rfl, rfl⟩ := List.cons.inj hsplit
            exact Or.inl hz
        | cons first before =>
            obtain ⟨rfl, rfl⟩ := List.cons.inj hsplit
            obtain ⟨⟨y, hy⟩, hbefore⟩ := List.forall_mem_cons.mp hbefore
            have hrest := ih.mpr ⟨before, z, after, rfl, hbefore, hz⟩
            exact Or.inr ⟨y, hy, bind_eq_error_iff.mpr (Or.inl hrest)⟩

/-- Each item of a list that is related item by item to another one is related to an item of it. -/
lemma exists_of_mem_of_forall₂ {R : α → β → Prop} {xs : List α} {ys : List β}
    (h : List.Forall₂ R xs ys) : ∀ y ∈ ys, ∃ x ∈ xs, R x y := by
  induction h with
  | nil => simp
  | cons hfirst _ ih =>
      intro y hy
      rcases List.mem_cons.mp hy with rfl | hrest
      · exact ⟨_, by simp, hfirst⟩
      · obtain ⟨x, hx, hxy⟩ := ih y hrest
        exact ⟨x, by simp [hx], hxy⟩

/-- Items in another order give the same results in another order. -/
lemma exists_mapM_of_perm {f : α → Except ε β} {xs others : List α} {ys : List β}
    (hperm : xs.Perm others) (h : xs.mapM f = .ok ys) :
    ∃ zs, others.mapM f = .ok zs ∧ ys.Perm zs := by
  obtain ⟨zs, hzs, hsame⟩ := List.perm_comp_forall₂ hperm.symm (mapM_eq_ok_iff.mp h)
  exact ⟨zs, mapM_eq_ok_iff.mpr hzs, hsame.symm⟩

end Results

/-! ### Triggers that fire -/

/-- The payload that a trigger applies, where the hand holds the given elements. -/
def Trigger.fired? (hand : List Element) : Trigger → Option Payload
  | .always payload => some payload
  | .when condition payload => if condition.inHand hand then some payload else none
  | .discard _ => none

lemma Trigger.payload?_of_fired? {trigger : Trigger} {hand : List Element} {payload : Payload}
    (h : trigger.fired? hand = some payload) : trigger.payload? = some payload := by
  cases trigger with
  | always own => exact h
  | «when» condition own =>
      rw [fired?] at h
      split at h
      · exact h
      · cases h
  | discard cardId => cases h

/-! ### The player -/

namespace Player

variable {player next : Player}

/-- A trigger that is no discard applies the payload that fires, and nothing else. -/
lemma receive_eq {trigger : Trigger} (h : trigger.isDiscard = false) :
    player.receive trigger
      = ((trigger.fired? player.elements).map player.apply).getD (.ok player) := by
  cases trigger with
  | always payload => rfl
  | when condition payload =>
      rw [receive, Trigger.fired?]
      split <;> rfl
  | discard cardId => simp [Trigger.isDiscard] at h

/-- What a trigger does: it removes cards, or the payload that fires is applied, or nothing
happens. -/
lemma receive_cases {trigger : Trigger} (h : player.receive trigger = .ok next) :
    (∃ cardId, trigger = .discard cardId ∧ next = player.discard cardId)
      ∨ (∃ payload, trigger.fired? player.elements = some payload
          ∧ player.apply payload = .ok next)
      ∨ (trigger.isDiscard = false ∧ trigger.fired? player.elements = none
          ∧ next = player) := by
  cases hdiscard : trigger.isDiscard with
  | true =>
      cases trigger with
      | discard cardId => exact Or.inl ⟨cardId, rfl, (Except.ok.inj h).symm⟩
      | always payload => simp [Trigger.isDiscard] at hdiscard
      | «when» condition payload => simp [Trigger.isDiscard] at hdiscard
  | false =>
      rw [receive_eq hdiscard] at h
      cases hfired : trigger.fired? player.elements with
      | none =>
          rw [hfired] at h
          exact Or.inr (Or.inr ⟨rfl, rfl, (Except.ok.inj h).symm⟩)
      | some payload =>
          rw [hfired] at h
          exact Or.inr (Or.inl ⟨payload, rfl, h⟩)

/-- A payload changes the reserve by its power, or it changes the hit points alone. -/
lemma apply_cases {payload : Payload} (h : player.apply payload = .ok next) :
    (∃ amount, payload = .power amount
        ∧ next = { player with reserve := player.reserve + amount })
      ∨ ((∀ amount, payload ≠ .power amount)
        ∧ ∃ hitPoints, next = { player with hitPoints }) := by
  cases payload with
  | power amount => exact Or.inl ⟨amount, rfl, (Except.ok.inj h).symm⟩
  | damage damage => exact Or.inr ⟨by simp, _, (Except.ok.inj h).symm⟩
  | life amount => exact Or.inr ⟨by simp, _, (Except.ok.inj h).symm⟩
  | percentDamage fraction =>
      obtain ⟨damage, _, hnext⟩ := map_eq_ok_iff.mp h
      exact Or.inr ⟨by simp, _, hnext.symm⟩
  | grant enchantment => exact Or.inr ⟨by simp, player.hitPoints, (Except.ok.inj h).symm⟩
  | skipTurn => exact Or.inr ⟨by simp, player.hitPoints, (Except.ok.inj h).symm⟩

end Player

/-! ### The enemy -/

namespace Enemy

variable {enemy next : Enemy}

/-- A trigger applies the payload that fires, and nothing else; a discard fires none. -/
lemma receive_eq (hand : List Element) (trigger : Trigger) :
    enemy.receive hand trigger
      = ((trigger.fired? hand).map enemy.apply).getD (.ok enemy) := by
  cases trigger with
  | always payload => rfl
  | when condition payload =>
      rw [receive, Trigger.fired?, Condition.ofEnemy, Bool.true_and]
      split <;> rfl
  | discard cardId => rfl

/-- What a trigger does: the payload that fires is applied, or nothing happens. -/
lemma receive_cases {hand : List Element} {trigger : Trigger}
    (h : enemy.receive hand trigger = .ok next) :
    (∃ payload, trigger.fired? hand = some payload ∧ enemy.apply payload = .ok next)
      ∨ (trigger.fired? hand = none ∧ next = enemy) := by
  rw [receive_eq] at h
  cases hfired : trigger.fired? hand with
  | none =>
      rw [hfired] at h
      exact Or.inr ⟨rfl, (Except.ok.inj h).symm⟩
  | some payload =>
      rw [hfired] at h
      exact Or.inl ⟨payload, rfl, h⟩

/-- Damage changes the hit points alone. -/
lemma eq_of_takeDamage {damage : Damage} (h : enemy.takeDamage damage = .ok next) :
    ∃ hitPoints, next = { enemy with hitPoints } := by
  obtain ⟨actual, _, hnext⟩ := map_eq_ok_iff.mp h
  exact ⟨_, hnext.symm⟩

/-- A payload marks the next turn as skipped, or it changes the hit points alone. -/
lemma apply_cases {payload : Payload} (h : enemy.apply payload = .ok next) :
    (payload = .skipTurn ∧ next = enemy.markSkipped)
      ∨ (payload ≠ .skipTurn ∧ ∃ hitPoints, next = { enemy with hitPoints }) := by
  cases payload with
  | skipTurn => exact Or.inl ⟨rfl, (Except.ok.inj h).symm⟩
  | damage damage => exact Or.inr ⟨by simp, eq_of_takeDamage h⟩
  | life amount => exact Or.inr ⟨by simp, _, (Except.ok.inj h).symm⟩
  | percentDamage fraction =>
      obtain ⟨damage, _, hdamage⟩ := bind_eq_ok_iff.mp h
      exact Or.inr ⟨by simp, eq_of_takeDamage hdamage⟩
  | power amount => exact Or.inr ⟨by simp, enemy.hitPoints, (Except.ok.inj h).symm⟩
  | grant enchantment => exact Or.inr ⟨by simp, enemy.hitPoints, (Except.ok.inj h).symm⟩

end Enemy

/-! ### Both actors -/

namespace Actors

variable {actors next : Actors}

/-- An effect reaches the actor it is aimed at; the other one stays as it is. -/
lemma resolve_cases {e : Effect} (h : actors.resolve e = .ok next) :
    (e.target = .player ∧ ∃ player, actors.player.receive e.trigger = .ok player
        ∧ next = { actors with player })
      ∨ (e.target = .enemy ∧ ∃ enemy,
          actors.enemy.receive actors.player.elements e.trigger = .ok enemy
            ∧ next = { actors with enemy }) := by
  unfold resolve at h
  split at h
  · next htarget =>
      obtain ⟨player, hplayer, hnext⟩ := map_eq_ok_iff.mp h
      exact Or.inl ⟨htarget, player, hplayer, hnext.symm⟩
  · next htarget =>
      obtain ⟨enemy, henemy, hnext⟩ := map_eq_ok_iff.mp h
      exact Or.inr ⟨htarget, enemy, henemy, hnext.symm⟩

lemma run_cons_eq_ok_iff {e : Effect} {es : List Effect} :
    actors.run (e :: es) = .ok next
      ↔ ∃ mid, actors.resolve e = .ok mid ∧ mid.run es = .ok next := by
  rw [run_cons]
  exact bind_eq_ok_iff

/-- What the resolution of each effect preserves, a run preserves. -/
theorem run_preserves {P : Actors → Prop} {es : List Effect}
    (hstep : ∀ a a' : Actors, ∀ e ∈ es, P a → a.resolve e = .ok a' → P a')
    (hstart : P actors) (h : actors.run es = .ok next) : P next := by
  induction es generalizing actors with
  | nil =>
      rw [run_nil] at h
      exact Except.ok.inj h ▸ hstart
  | cons e es ih =>
      obtain ⟨mid, hmid, hnext⟩ := run_cons_eq_ok_iff.mp h
      have hPmid : P mid := hstep actors mid e (by simp) hstart hmid
      exact ih (fun a a' e' he' => hstep a a' e' (by simp [he'])) hPmid hnext

end Actors

end CardBattle
