/-
Whether damage can heal.

* `absorb_nonneg` : shields never turn damage into healing, whatever their signs are;
* `Adjustment.absorbed` : the amount that a slot takes off before the rest is let through;
* `Adjustment.adjust_cases` : only an amount that is taken off can leave less than nothing;
* `takeDamage_le_iff` : damage heals no player, and it heals no enemy exactly when neither slot
  that it meets takes off more than there is; a slot that blocks all damage changes nothing about
  that;
* `takeDamage_reef` : an enemy that damage heals though it meets a blocking slot.
-/
import CardBattle.Enemy
import CardBattle.Player
import CardBattle.Proofs.Overflow
import Mathlib.Tactic

namespace CardBattle

/-! ### Shields -/

lemma absorb_nonneg {amount : Int} (h : 0 ≤ amount) (shields : List Int) :
    0 ≤ absorb amount shields := by
  induction shields generalizing amount with
  | nil => exact h
  | cons shield shields ih =>
      rw [absorb_cons]
      exact ih (le_max_left 0 (amount - shield))

/-! ### Slots -/

namespace Double

/-- The integer part of a product of numbers that are not negative is not negative. -/
lemma trunc_mul_nonneg {t : Bool} {m n : ℕ} (ht : t = false ∨ n = 0) {r : Int}
    (h : (mul (.finite false m) (.finite t n)).trunc = .ok r) : 0 ≤ r := by
  rw [mul_finite] at h
  split_ifs at h
  · obtain rfl := Except.ok.inj h
    rcases ht with rfl | rfl
    · exact signed_nonneg _
    · cases t <;> simp [signed, roundRatio_zero _ one_pos]
  · simp [trunc] at h

/-- A finite number that is not below zero has no minus sign, or it is a zero. -/
lemma eq_finite_of_nonneg {x : Double} (hfinite : x.isFinite = true) (h : zero.le x = true) :
    ∃ t n, x = .finite t n ∧ (t = false ∨ n = 0) := by
  cases x with
  | nan => simp [isFinite] at hfinite
  | infinite t => simp [isFinite] at hfinite
  | finite t n =>
      have hsigned : signed false 0 ≤ signed t n := by simpa [le, zero] using h
      refine ⟨t, n, rfl, ?_⟩
      cases t with
      | false => exact Or.inl rfl
      | true =>
          simp only [signed, Bool.false_eq_true, ↓reduceIte] at hsigned
          exact Or.inr (by omega)

end Double

namespace Adjustment

/-- The amount that a slot takes off before it lets the rest through. -/
def absorbed : Adjustment → Int
  | .absolute delta => delta
  | _ => 0

/-- Whether a slot lets nothing through. -/
def Blocks : Adjustment → Prop
  | .percent (.finite _ units) => units = 0
  | .cancel => True
  | _ => False

/-- Whether the factor of a slot, if it has one, is finite and not negative. -/
def Scales (a : Adjustment) : Prop :=
  ∀ factor ∈ a.factor?, factor.isFinite = true ∧ Double.zero.le factor = true

instance (a : Adjustment) : Decidable a.Scales :=
  inferInstanceAs (Decidable (∀ factor ∈ a.factor?, _ ∧ _))

variable {a : Adjustment} {raw r : Int}

/-- The integer part of a multiple of an amount. -/
lemma adjust_percent_cases {factor : Double} (h : (percent factor).adjust raw = .ok r) :
    ∃ m, (Double.mul (.finite (raw < 0) m) factor).trunc = .ok r := by
  obtain ⟨x, hx, hproduct⟩ := bind_eq_ok_iff.mp h
  obtain ⟨_, rfl⟩ := Double.ofInt_eq_ok_iff.mp hx
  exact ⟨_, hproduct⟩

/-- Only an amount that is taken off can leave less than nothing: then it leaves the difference. -/
lemma adjust_cases (hscales : a.Scales) (hraw : 0 ≤ raw) (h : a.adjust raw = .ok r) :
    (a.absorbed ≤ raw ∧ 0 ≤ r) ∨ (raw < a.absorbed ∧ r = raw - a.absorbed) := by
  cases a with
  | normal =>
      obtain rfl := Except.ok.inj h
      exact Or.inl ⟨hraw, hraw⟩
  | cancel =>
      obtain rfl := Except.ok.inj h
      exact Or.inl ⟨hraw, le_rfl⟩
  | absolute delta =>
      obtain rfl := Except.ok.inj h
      rcases le_or_gt delta raw with hle | hgt
      · exact Or.inl ⟨hle, by omega⟩
      · exact Or.inr ⟨hgt, rfl⟩
  | percent factor =>
      obtain ⟨hfinite, hnonneg⟩ := hscales factor rfl
      obtain ⟨t, n, rfl, ht⟩ := Double.eq_finite_of_nonneg hfinite hnonneg
      obtain ⟨m, hproduct⟩ := adjust_percent_cases h
      rw [decide_eq_false (not_lt.mpr hraw)] at hproduct
      exact Or.inl ⟨hraw, Double.trunc_mul_nonneg ht hproduct⟩

/-- A slot that blocks lets nothing through, and takes nothing off. -/
lemma Blocks.adjust (hblocks : a.Blocks) (h : a.adjust raw = .ok r) : r = 0 := by
  cases a with
  | normal => exact hblocks.elim
  | absolute delta => exact hblocks.elim
  | cancel => exact (Except.ok.inj h).symm
  | percent factor =>
      cases factor with
      | nan => exact hblocks.elim
      | infinite s => exact hblocks.elim
      | finite t n =>
          obtain rfl : n = 0 := hblocks
          obtain ⟨m, hproduct⟩ := adjust_percent_cases h
          rw [Double.mul_zero_units, Double.trunc_finite, Nat.zero_div] at hproduct
          obtain rfl := Except.ok.inj hproduct
          cases (decide (raw < 0) != t) <;> rfl

end Adjustment

/-! ### Defenses -/

namespace Defense

/-- Whether the factors of all slots are finite and not negative. -/
def Scales (d : Defense) : Prop := ∀ slot ∈ d.slots, slot.Scales

instance (d : Defense) : Decidable d.Scales :=
  inferInstanceAs (Decidable (∀ slot ∈ d.slots, slot.Scales))

/-- The most that a slot which damage of an element meets takes off. -/
def absorbed (d : Defense) (element : Element) : Int :=
  max d.any.absorbed (d.slotFor element).absorbed

/-- Whether damage of an element meets a slot that lets nothing through. -/
def Blocks (d : Defense) (element : Element) : Prop := d.any.Blocks ∨ (d.slotFor element).Blocks

variable {d : Defense} {damage : Damage} {actual : Int}

lemma Scales.slotFor (h : d.Scales) (element : Element) : (d.slotFor element).Scales := by
  rcases d.slotFor_cases element with hmem | hnormal
  · exact h _ hmem
  · rw [hnormal]
    exact fun factor hfactor => by cases hfactor

/-- The amount that gets through is not negative, unless a slot takes off more than there is: then
it is what is missing. -/
lemma resolve_sign_cases (hscales : d.Scales) (hamount : 0 ≤ damage.amount)
    (h : d.resolve damage = .ok actual) :
    (d.absorbed damage.element ≤ damage.amount ∧ 0 ≤ actual)
      ∨ (damage.amount < d.absorbed damage.element
        ∧ actual = damage.amount - d.absorbed damage.element) := by
  obtain ⟨anyBranch, elementBranch, hany, helement, rfl⟩ := resolve_cases h
  have hfirst := Adjustment.adjust_cases (hscales d.any (by simp [slots])) hamount hany
  have hsecond := Adjustment.adjust_cases (hscales.slotFor damage.element) hamount helement
  rw [absorbed]
  omega

/-- Where a slot blocks, nothing gets through unless the other one takes off more than there is. -/
lemma Blocks.resolve (hblocks : d.Blocks damage.element) (h : d.resolve damage = .ok actual) :
    actual ≤ 0 := by
  obtain ⟨anyBranch, elementBranch, hany, helement, rfl⟩ := resolve_cases h
  rcases hblocks with hblocks | hblocks
  · exact (min_le_left _ _).trans (hblocks.adjust hany).le
  · exact (min_le_right _ _).trans (hblocks.adjust helement).le

end Defense

/-! ### Damage to the two actors -/

/-- Damage of an amount that is not negative takes no negative amount from a player, whatever its
shields are. From an enemy whose factors are finite and not negative it takes none exactly when
neither slot that it meets takes off more than there is, and otherwise the enemy gains what is
missing. Where one of the two slots lets nothing through, the enemy keeps its hit points under the
same condition and under no other. -/
theorem takeDamage_le_iff {damage : Damage} (hamount : 0 ≤ damage.amount) :
    (∀ player : Player,
        0 ≤ player.taken damage ∧ (player.takeDamage damage).hitPoints ≤ player.hitPoints)
      ∧ ∀ enemy next : Enemy, enemy.defense.Scales → enemy.takeDamage damage = .ok next →
        (next.hitPoints ≤ enemy.hitPoints
            ↔ enemy.defense.absorbed damage.element ≤ damage.amount)
          ∧ (damage.amount < enemy.defense.absorbed damage.element →
              next.hitPoints
                = enemy.hitPoints + (enemy.defense.absorbed damage.element - damage.amount))
          ∧ (enemy.defense.Blocks damage.element →
              (next.hitPoints = enemy.hitPoints
                ↔ enemy.defense.absorbed damage.element ≤ damage.amount)) := by
  refine ⟨fun player => ?_, fun enemy next hscales hnext => ?_⟩
  · have htaken : 0 ≤ player.taken damage := absorb_nonneg hamount player.shields
    exact ⟨htaken, Int.sub_le_self _ htaken⟩
  · obtain ⟨actual, hactual, rfl⟩ := map_eq_ok_iff.mp hnext
    have hsign := Defense.resolve_sign_cases hscales hamount hactual
    refine ⟨?_, fun hmore => ?_, fun hblocks => ?_⟩
    · show enemy.hitPoints - actual ≤ enemy.hitPoints ↔ _
      omega
    · show enemy.hitPoints - actual = _
      omega
    · have hnone := hblocks.resolve hactual
      show enemy.hitPoints - actual = enemy.hitPoints ↔ _
      omega

/-- An enemy that lets no damage through and takes 5 off wind damage. -/
def reef : Enemy :=
  { name := "Reef", hitPoints := 10, defense := { wind := .absolute 5, any := .percent .zero } }

/-- Wind damage of 3 heals the reef by 2, though it lets no damage through. -/
theorem takeDamage_reef :
    reef.defense.Scales ∧ reef.defense.any = .percent .zero
      ∧ reef.takeDamage ⟨3, .wind⟩ = .ok { reef with hitPoints := 12 } := by
  exact ⟨by decide, rfl, by decide +kernel⟩

/-- Wind damage of 7 leaves the reef as it is. -/
theorem takeDamage_le_iff_reef :
    0 ≤ (Damage.mk 7 .wind).amount ∧ reef.defense.Scales ∧ reef.defense.Blocks .wind
      ∧ ∃ next, reef.takeDamage ⟨7, .wind⟩ = .ok next ∧ next.hitPoints = reef.hitPoints := by
  have hamount : 0 ≤ (Damage.mk 7 .wind).amount := by decide
  have hscales : reef.defense.Scales := by decide
  have hnext : reef.takeDamage ⟨7, .wind⟩ = .ok reef := by decide +kernel
  have hblocks : reef.defense.Blocks .wind := Or.inl rfl
  have hkeeps := ((takeDamage_le_iff hamount).2 reef reef hscales hnext).2.2 hblocks
  exact ⟨hamount, hscales, hblocks, reef, hnext, hkeeps.mpr (by decide)⟩

end CardBattle
