/-
Which integers and products are too large for a binary64 number.

* `roundRatio_lt_two_pow_iff` : a quotient rounds below a power of two exactly when it lies below
  the midpoint of that power and the number before it;
* `Double.overflow` : the least integer that is too large; `Double.ofInt_eq_ok_iff`: an integer has
  a number exactly when its magnitude lies below;
* `Double.mul_finite` : a product of finite numbers is finite exactly when its exact value lies
  below in magnitude;
* `Adjustment.exists_adjust_iff`, `exists_percentOf_iff` : when a slot can be applied to an amount,
  and when a fraction of hit points can be taken.
-/
import CardBattle.Damage
import CardBattle.Proofs.Resolution
import Mathlib.Tactic

namespace CardBattle

/-! ### Bounds on rounding -/

section Rounding

variable {num den j : ℕ}

lemma div_le_roundHalfEven (num den : ℕ) : num / den ≤ roundHalfEven num den := by
  rw [roundHalfEven]
  split_ifs <;> omega

lemma roundHalfEven_le_div_add_one (num den : ℕ) : roundHalfEven num den ≤ num / den + 1 := by
  rw [roundHalfEven]
  split_ifs <;> omega

/-- Below the midpoint above a number a quotient rounds to at most that number. -/
lemma roundHalfEven_le_of_lt (h : 2 * num < (2 * j + 1) * den) : roundHalfEven num den ≤ j := by
  have hden : 0 < den := Nat.pos_of_ne_zero fun hzero => by simp [hzero] at h
  have hdivision := Nat.div_add_mod num den
  rcases lt_trichotomy (num / den) j with hlt | heq | hgt
  · exact (roundHalfEven_le_div_add_one num den).trans hlt
  · have hrest : 2 * (num % den) < den := by
      have hexpand : (2 * j + 1) * den = 2 * (den * (num / den)) + den := by rw [heq]; ring
      omega
    rw [roundHalfEven, if_pos hrest, heq]
  · have habove : den * (j + 1) ≤ den * (num / den) := Nat.mul_le_mul_left den hgt
    have hexpand : 2 * (den * (j + 1)) = (2 * j + 1) * den + den := by ring
    omega

/-- The midpoint above an odd number rounds up, so a quotient rounds to at most that number
exactly when it lies below the midpoint. -/
lemma roundHalfEven_le_iff_of_odd (hden : 0 < den) (hj : j % 2 = 1) :
    roundHalfEven num den ≤ j ↔ 2 * num < (2 * j + 1) * den := by
  refine ⟨fun h => ?_, roundHalfEven_le_of_lt⟩
  have hdivision := Nat.div_add_mod num den
  have hmod := Nat.mod_lt num hden
  rcases ((div_le_roundHalfEven num den).trans h).lt_or_eq with hlt | heq
  · have hbelow : den * (num / den + 1) ≤ den * j := Nat.mul_le_mul_left den hlt
    calc 2 * num < 2 * (den * (num / den + 1)) := by rw [Nat.mul_add]; omega
      _ ≤ 2 * (den * j) := Nat.mul_le_mul_left 2 hbelow
      _ ≤ (2 * j + 1) * den := by linarith
  · have hrest : 2 * (num % den) < den := by
      rw [roundHalfEven, heq] at h
      split_ifs at h <;> omega
    have hexpand : (2 * j + 1) * den = 2 * (den * (num / den)) + den := by rw [heq]; ring
    omega

lemma roundRatio_eq (num den : ℕ) :
    ∃ dropped, dropped = (num / den).log2 + 1 - 53
      ∧ roundRatio num den = roundHalfEven num (den * 2 ^ dropped) * 2 ^ dropped :=
  ⟨_, rfl, rfl⟩

/-- A quotient rounds to no less than the power of two below it. -/
lemma two_pow_log2_le_roundRatio (h : num / den ≠ 0) :
    2 ^ (num / den).log2 ≤ roundRatio num den := by
  obtain ⟨dropped, hdropped, hround⟩ := roundRatio_eq num den
  have hsplit : (num / den).log2 = ((num / den).log2 - dropped) + dropped := by omega
  have hquotient : 2 ^ ((num / den).log2 - dropped) ≤ num / (den * 2 ^ dropped) := by
    rw [← Nat.div_div_eq_div_mul, Nat.le_div_iff_mul_le (Nat.two_pow_pos dropped), ← pow_add,
      ← hsplit]
    exact Nat.log2_self_le h
  calc 2 ^ (num / den).log2 = 2 ^ ((num / den).log2 - dropped) * 2 ^ dropped := by
        rw [← pow_add, ← hsplit]
    _ ≤ roundHalfEven num (den * 2 ^ dropped) * 2 ^ dropped :=
        Nat.mul_le_mul_right _ (hquotient.trans (div_le_roundHalfEven _ _))
    _ = roundRatio num den := hround.symm

/-- A quotient rounds to no more than the power of two above it. -/
lemma roundRatio_le_two_pow_log2 (num den : ℕ) :
    roundRatio num den ≤ 2 ^ ((num / den).log2 + 1) := by
  obtain ⟨dropped, hdropped, hround⟩ := roundRatio_eq num den
  have hsplit : (num / den).log2 + 1 = ((num / den).log2 + 1 - dropped) + dropped := by omega
  have hquotient : num / (den * 2 ^ dropped) < 2 ^ ((num / den).log2 + 1 - dropped) := by
    rw [← Nat.div_div_eq_div_mul, Nat.div_lt_iff_lt_mul (Nat.two_pow_pos dropped), ← pow_add,
      ← hsplit]
    exact Nat.lt_log2_self
  calc roundRatio num den = roundHalfEven num (den * 2 ^ dropped) * 2 ^ dropped := hround
    _ ≤ 2 ^ ((num / den).log2 + 1 - dropped) * 2 ^ dropped :=
        Nat.mul_le_mul_right _ ((roundHalfEven_le_div_add_one _ _).trans hquotient)
    _ = 2 ^ ((num / den).log2 + 1) := by rw [← pow_add, ← hsplit]

/-- Among the quotients from `2 ^ (t + 53)` on and below the double of it, those that round below
the double lie below the midpoint of it and the number before it. -/
lemma roundRatio_lt_two_pow_iff_of_log2_eq (hden : 0 < den) {t : ℕ}
    (h : (num / den).log2 = t + 53) :
    roundRatio num den < 2 ^ (t + 54) ↔ num < (2 ^ 54 - 1) * 2 ^ t * den := by
  obtain ⟨dropped, hdropped, hround⟩ := roundRatio_eq num den
  obtain rfl : dropped = t + 1 := by omega
  have hstep : 0 < den * 2 ^ (t + 1) := Nat.mul_pos hden (Nat.two_pow_pos _)
  have hpow : (2 : ℕ) ^ (t + 54) = 2 ^ 53 * 2 ^ (t + 1) := by
    rw [show t + 54 = 53 + (t + 1) by omega, pow_add]
  have hbelow : roundRatio num den < 2 ^ (t + 54)
      ↔ roundHalfEven num (den * 2 ^ (t + 1)) ≤ 2 ^ 53 - 1 := by
    rw [hround, hpow, Nat.mul_lt_mul_right (Nat.two_pow_pos _)]
    exact Nat.lt_iff_le_pred (Nat.two_pow_pos 53)
  have hmid : (2 * (2 ^ 53 - 1) + 1) * (den * 2 ^ (t + 1))
      = 2 * ((2 ^ 54 - 1) * 2 ^ t * den) := by
    rw [show 2 * (2 ^ 53 - 1) + 1 = 2 ^ 54 - 1 by norm_num, pow_succ]
    generalize 2 ^ 54 - 1 = c
    ring
  rw [hbelow, roundHalfEven_le_iff_of_odd hstep (by norm_num), hmid]
  exact Nat.mul_lt_mul_left (by norm_num)

/-- A quotient rounds below `2 ^ (t + 54)` exactly when it lies below the midpoint of that power
and the number before it. -/
theorem roundRatio_lt_two_pow_iff (hden : 0 < den) (t : ℕ) :
    roundRatio num den < 2 ^ (t + 54) ↔ num < (2 ^ 54 - 1) * 2 ^ t * den := by
  rcases lt_trichotomy (num / den).log2 (t + 53) with hlt | heq | hgt
  · have hround : roundRatio num den ≤ 2 ^ (t + 53) :=
      (roundRatio_le_two_pow_log2 num den).trans (Nat.pow_le_pow_right (by norm_num) hlt)
    have hnum : num < 2 ^ (t + 53) * den := by
      rw [← Nat.div_lt_iff_lt_mul hden]
      exact Nat.lt_log2_self.trans_le (Nat.pow_le_pow_right (by norm_num) hlt)
    have hmid : 2 ^ (t + 53) ≤ (2 ^ 54 - 1) * 2 ^ t := by
      rw [pow_add, mul_comm]
      exact Nat.mul_le_mul_right _ (by norm_num)
    refine iff_of_true (hround.trans_lt ?_) (hnum.trans_le (Nat.mul_le_mul_right den hmid))
    exact Nat.pow_lt_pow_right (by norm_num) (by omega)
  · exact roundRatio_lt_two_pow_iff_of_log2_eq hden heq
  · have hne : num / den ≠ 0 := fun h0 => by simp [h0] at hgt
    have hround : 2 ^ (t + 54) ≤ roundRatio num den :=
      (Nat.pow_le_pow_right (by norm_num) hgt).trans (two_pow_log2_le_roundRatio hne)
    have hquotient : 2 ^ (t + 54) ≤ num / den :=
      (Nat.pow_le_pow_right (by norm_num) hgt).trans (Nat.log2_self_le hne)
    have hmid : (2 ^ 54 - 1) * 2 ^ t ≤ 2 ^ (t + 54) := by
      rw [pow_add, mul_comm (2 ^ t)]
      exact Nat.mul_le_mul_right _ (by norm_num)
    have hnum : (2 ^ 54 - 1) * 2 ^ t * den ≤ num :=
      (Nat.le_div_iff_mul_le hden).mp (hmid.trans hquotient)
    exact iff_of_false (not_lt.mpr hround) (not_lt.mpr hnum)

/-- A natural number whose digits after the first 53 are zero is its own rounding. -/
lemma roundRatio_one_of_dvd {n : ℕ} (h : 2 ^ (n.log2 + 1 - 53) ∣ n) : roundRatio n 1 = n := by
  obtain ⟨dropped, hdropped, hround⟩ := roundRatio_eq n 1
  rw [Nat.div_one] at hdropped
  rw [← hdropped] at h
  rw [hround, one_mul, roundHalfEven_of_dvd (Nat.two_pow_pos _) h, Nat.div_mul_cancel h]

/-- Of a rounded quotient the digits after the first 53 are zero. -/
lemma two_pow_dvd_roundRatio (num den : ℕ) :
    2 ^ ((roundRatio num den).log2 + 1 - 53) ∣ roundRatio num den := by
  obtain ⟨dropped, hdropped, hround⟩ := roundRatio_eq num den
  have hle : roundRatio num den ≤ 2 ^ (dropped + 53) :=
    (roundRatio_le_two_pow_log2 num den).trans
      (Nat.pow_le_pow_right (by norm_num) (by omega))
  rcases hle.lt_or_eq with hlt | heq
  · rcases Nat.eq_zero_or_pos (roundRatio num den) with hzero | hpos
    · simp [hzero]
    · have hlog : (roundRatio num den).log2 < dropped + 53 := (Nat.log2_lt hpos.ne').mpr hlt
      have hdvd : 2 ^ dropped ∣ roundRatio num den := hround ▸ Nat.dvd_mul_left _ _
      exact (pow_dvd_pow 2 (by omega)).trans hdvd
  · rw [heq, Nat.log2_two_pow]
    exact pow_dvd_pow 2 (by omega)

/-- Rounding twice is rounding once. -/
lemma roundRatio_roundRatio (num den : ℕ) :
    roundRatio (roundRatio num den) 1 = roundRatio num den :=
  roundRatio_one_of_dvd (two_pow_dvd_roundRatio num den)

end Rounding

/-! ### Conversions and products -/

namespace Double

/-- The midpoint of the greatest finite number and `2 ^ 1024` is an odd number times `2` to this
power. -/
def midpointBits : ℕ := 1024 - 54

/-- The least integer that is too large for a number: that midpoint. -/
def overflow : ℕ := (Nat.pow 2 54 - 1) * Nat.pow 2 midpointBits

lemma overflow_mul_one : overflow * one = (2 ^ 54 - 1) * 2 ^ (midpointBits + unitBits) := by
  unfold overflow one
  generalize midpointBits = m
  generalize unitBits = u
  rw [pow_add, ← mul_assoc]
  rfl

lemma limit_eq : limit = 2 ^ (midpointBits + unitBits + 54) := by
  have hbits : 1024 + unitBits = midpointBits + unitBits + 54 := by
    rw [midpointBits]
    omega
  unfold limit
  rw [hbits]
  generalize midpointBits = m
  generalize unitBits = u
  rfl

lemma overflow_le_two_pow : overflow ≤ 2 ^ (54 + midpointBits) := by
  unfold overflow
  generalize midpointBits = m
  rw [pow_add]
  exact Nat.mul_le_mul_right _ (Nat.sub_le _ _)

/-- A quotient of units stays finite exactly when it lies below the overflow. -/
lemma roundRatio_lt_limit_iff {num den : ℕ} (hden : 0 < den) :
    roundRatio num den < limit ↔ num < overflow * one * den := by
  rw [limit_eq, overflow_mul_one]
  exact roundRatio_lt_two_pow_iff hden _

lemma roundRatio_one_lt_limit_iff {units : ℕ} :
    roundRatio units 1 < limit ↔ units < overflow * one :=
  (roundRatio_lt_limit_iff Nat.one_pos).trans
    (iff_of_eq (congrArg (units < ·) (Nat.mul_one (overflow * one))))

/-- An integer has a number exactly when its magnitude lies below the overflow; the number is the
rounded one. -/
lemma ofInt_eq_ok_iff {n : Int} {x : Double} :
    ofInt n = .ok x
      ↔ n.natAbs < overflow ∧ x = .finite (n < 0) (roundRatio (n.natAbs * one) 1) := by
  have hround : roundRatio (n.natAbs * one) 1 < limit ↔ n.natAbs < overflow := by
    rw [roundRatio_one_lt_limit_iff]
    exact Nat.mul_lt_mul_right one_pos
  rw [ofInt]
  split_ifs with hlarge
  · have hne : n.natAbs ≠ 0 := fun h0 => by simp [h0] at hlarge
    have hbits : 54 + midpointBits ≤ n.natAbs.log2 := by
      rw [midpointBits]
      omega
    have hover : overflow ≤ n.natAbs :=
      overflow_le_two_pow.trans
        ((Nat.pow_le_pow_right (by norm_num) hbits).trans (Nat.log2_self_le hne))
    simp [not_lt.mpr hover]
  · rw [ofRatio, ofUnits]
    split_ifs with hfinite
    · simp [hround.mp hfinite, eq_comm]
    · simp [mt hround.mpr hfinite]

lemma mul_finite (s t : Bool) (m n : ℕ) :
    mul (.finite s m) (.finite t n)
      = if m * n < overflow * one * one then .finite (s != t) (roundRatio (m * n) one)
        else .infinite (s != t) := by
  rw [mul, ofUnits]
  exact if_congr (roundRatio_lt_limit_iff one_pos) rfl rfl

end Double

/-! ### Slots of a defense -/

namespace Adjustment

/-- The factor of a slot that is a multiple. -/
def factor? : Adjustment → Option Double
  | .percent factor => some factor
  | _ => none

/-- Whether a slot can be applied to an amount. Only a multiple can fail to be: its factor must be
finite, and so must be the number of the amount and the product of the two. -/
def Applies : Adjustment → Int → Prop
  | .percent (.finite _ units), raw =>
      raw.natAbs < Double.overflow
        ∧ roundRatio (raw.natAbs * Double.one) 1 * units
            < Double.overflow * Double.one * Double.one
  | .percent _, _ => False
  | _, _ => True

instance (a : Adjustment) (raw : Int) : Decidable (a.Applies raw) :=
  match a with
  | .percent (.finite _ _) => inferInstanceAs (Decidable (_ ∧ _))
  | .percent (.infinite _) => inferInstanceAs (Decidable False)
  | .percent .nan => inferInstanceAs (Decidable False)
  | .normal => inferInstanceAs (Decidable True)
  | .absolute _ => inferInstanceAs (Decidable True)
  | .cancel => inferInstanceAs (Decidable True)

/-- The product of an amount and a finite factor, cut to an integer. -/
lemma adjust_percent_finite {raw : Int} (h : raw.natAbs < Double.overflow) (s : Bool) (n : ℕ) :
    (percent (.finite s n)).adjust raw
      = (Double.mul (.finite (raw < 0) (roundRatio (raw.natAbs * Double.one) 1))
          (.finite s n)).trunc := by
  simp only [adjust, Double.ofInt_eq_ok_iff.mpr ⟨h, rfl⟩, bind, Except.bind]

/-- No product with a factor that is not finite is an integer. -/
lemma adjust_percent_of_not_isFinite {x : Double} (hx : x.isFinite = false) (raw r : Int) :
    (percent x).adjust raw ≠ .ok r := by
  intro h
  obtain ⟨y, _, hproduct⟩ := bind_eq_ok_iff.mp h
  cases x with
  | finite s n => simp [Double.isFinite] at hx
  | nan => cases y <;> simp [Double.mul, Double.trunc] at hproduct
  | infinite s =>
      cases y with
      | nan => simp [Double.mul, Double.trunc] at hproduct
      | infinite t => simp [Double.mul, Double.trunc] at hproduct
      | finite t n =>
          rw [Double.mul] at hproduct
          split_ifs at hproduct <;> simp [Double.trunc] at hproduct

/-- A slot gives a result exactly when it can be applied. -/
theorem exists_adjust_iff {a : Adjustment} {raw : Int} :
    (∃ r, a.adjust raw = .ok r) ↔ a.Applies raw := by
  cases a with
  | normal => exact iff_of_true ⟨_, rfl⟩ trivial
  | absolute delta => exact iff_of_true ⟨_, rfl⟩ trivial
  | cancel => exact iff_of_true ⟨_, rfl⟩ trivial
  | percent x =>
      cases x with
      | nan => exact iff_of_false (fun ⟨r, hr⟩ => adjust_percent_of_not_isFinite rfl _ r hr) id
      | infinite s =>
          exact iff_of_false (fun ⟨r, hr⟩ => adjust_percent_of_not_isFinite rfl _ r hr) id
      | finite s n =>
          by_cases hraw : raw.natAbs < Double.overflow
          · rw [adjust_percent_finite hraw, Double.mul_finite, Applies]
            split_ifs with hproduct
            · exact iff_of_true ⟨_, rfl⟩ ⟨hraw, hproduct⟩
            · exact iff_of_false (by simp [Double.trunc]) (fun h => hproduct h.2)
          · refine iff_of_false ?_ (fun h => hraw h.1)
            rintro ⟨r, hr⟩
            obtain ⟨y, hy, _⟩ := bind_eq_ok_iff.mp hr
            exact hraw (Double.ofInt_eq_ok_iff.mp hy).1

end Adjustment

namespace Defense

/-- The four slots of a defense. -/
def slots (d : Defense) : List Adjustment := [d.wind, d.land, d.water, d.any]

lemma slotFor_cases (d : Defense) (element : Element) :
    d.slotFor element ∈ d.slots ∨ d.slotFor element = .normal := by
  cases element <;> simp [slotFor, slots]

/-- Whether both slots that a damage event meets can be applied to its amount. -/
def Applies (d : Defense) (damage : Damage) : Prop :=
  d.any.Applies damage.amount ∧ (d.slotFor damage.element).Applies damage.amount

instance (d : Defense) (damage : Damage) : Decidable (d.Applies damage) :=
  inferInstanceAs (Decidable (_ ∧ _))

/-- A damage event comes to the smaller one of what its two slots make of it. -/
lemma resolve_cases {d : Defense} {damage : Damage} {actual : Int}
    (h : d.resolve damage = .ok actual) :
    ∃ anyBranch elementBranch, d.any.adjust damage.amount = .ok anyBranch
      ∧ (d.slotFor damage.element).adjust damage.amount = .ok elementBranch
      ∧ actual = min anyBranch elementBranch := by
  obtain ⟨resolution, hbranches, rfl⟩ := map_eq_ok_iff.mp h
  obtain ⟨anyBranch, hany, hrest⟩ := bind_eq_ok_iff.mp hbranches
  obtain ⟨elementBranch, helement, hresolution⟩ := bind_eq_ok_iff.mp hrest
  obtain rfl := Except.ok.inj hresolution
  exact ⟨anyBranch, elementBranch, hany, helement, rfl⟩

/-- A defense resolves a damage event exactly when both slots can be applied. -/
theorem exists_resolve_iff {d : Defense} {damage : Damage} :
    (∃ r, d.resolve damage = .ok r) ↔ d.Applies damage := by
  rw [Applies, ← Adjustment.exists_adjust_iff, ← Adjustment.exists_adjust_iff]
  constructor
  · rintro ⟨r, hr⟩
    obtain ⟨anyBranch, elementBranch, hany, helement, _⟩ := resolve_cases hr
    exact ⟨⟨anyBranch, hany⟩, elementBranch, helement⟩
  · rintro ⟨⟨anyBranch, hany⟩, elementBranch, helement⟩
    exact ⟨_, resolve_eq hany helement⟩

/-- Slots that are no multiples can be applied to every amount. -/
lemma applies_of_factor?_eq_none {d : Defense} (h : ∀ slot ∈ d.slots, slot.factor? = none)
    (damage : Damage) : d.Applies damage := by
  have hslot : ∀ slot ∈ d.slots, slot.Applies damage.amount := by
    intro slot hslot
    cases slot with
    | percent factor => cases h _ hslot
    | _ => trivial
  refine ⟨hslot d.any (by simp [slots]), ?_⟩
  rcases d.slotFor_cases damage.element with hmem | hnormal
  · exact hslot _ hmem
  · rw [hnormal]
    trivial

end Defense

/-! ### Fractions of hit points -/

/-- A fraction between zero and one is finite and has no more units than the number one; it has no
minus sign, or it is a zero. -/
lemma Double.eq_finite_of_inUnitInterval {x : Double} (h : x.inUnitInterval = true) :
    ∃ s n, x = .finite s n ∧ n ≤ one ∧ (s = false ∨ n = 0) := by
  rw [inUnitInterval, Bool.and_eq_true] at h
  obtain ⟨hzero, hone⟩ := h
  cases x with
  | nan => simp [le] at hone
  | infinite s => cases s <;> simp [le, zero] at hzero hone
  | finite s n =>
      have hn : signed s n ≤ signed false one := by simpa [le] using hone
      have hn' : signed false 0 ≤ signed s n := by simpa [le, zero] using hzero
      cases s <;> simp only [signed, Bool.false_eq_true, ↓reduceIte] at hn hn'
      · exact ⟨false, n, rfl, by omega, Or.inl rfl⟩
      · exact ⟨true, n, rfl, by omega, Or.inr (by omega)⟩

/-- The product of hit points that have a number with a fraction of at most one stays finite, so it
is taken down to an integer. -/
lemma percentOf_finite {hitPoints : Int} {s : Bool} {n : ℕ}
    (hpoints : hitPoints.natAbs < Double.overflow) (hn : n ≤ Double.one) :
    percentOf hitPoints (.finite s n)
      = .ok (Double.signed ((hitPoints < 0) != s)
          (roundRatio (roundRatio (hitPoints.natAbs * Double.one) 1 * n) Double.one)
        / (Double.one : Int)) := by
  generalize hunits : roundRatio (hitPoints.natAbs * Double.one) 1 = units
  have hof : Double.ofInt hitPoints = .ok (.finite (hitPoints < 0) units) :=
    Double.ofInt_eq_ok_iff.mpr ⟨hpoints, by rw [hunits]⟩
  have hbelow : units < Double.overflow * Double.one := by
    have hlimit : roundRatio (hitPoints.natAbs * Double.one) 1 < Double.limit :=
      Double.roundRatio_one_lt_limit_iff.mpr
        ((Nat.mul_lt_mul_right Double.one_pos).mpr hpoints)
    -- the number of the hit points is its own rounding
    rwa [← roundRatio_roundRatio, hunits, Double.roundRatio_one_lt_limit_iff] at hlimit
  have hproduct : units * n < Double.overflow * Double.one * Double.one :=
    calc units * n ≤ units * Double.one := Nat.mul_le_mul_left units hn
      _ < Double.overflow * Double.one * Double.one :=
        Nat.mul_lt_mul_of_pos_right hbelow Double.one_pos
  have hfloor : percentOf hitPoints (.finite s n)
      = (Double.mul (.finite (hitPoints < 0) units) (.finite s n)).floor := by
    simp only [percentOf, hof, bind, Except.bind]
  rw [hfloor, Double.mul_finite, if_pos hproduct]
  rfl

/-- A fraction between zero and one of hit points can be taken exactly when the hit points have a
number. -/
theorem exists_percentOf_iff {fraction : Double} (h : fraction.inUnitInterval = true)
    {hitPoints : Int} :
    (∃ r, percentOf hitPoints fraction = .ok r) ↔ hitPoints.natAbs < Double.overflow := by
  obtain ⟨s, n, rfl, hn, _⟩ := Double.eq_finite_of_inUnitInterval h
  refine ⟨?_, fun hpoints => ⟨_, percentOf_finite hpoints hn⟩⟩
  rintro ⟨r, hr⟩
  obtain ⟨x, hx, _⟩ := bind_eq_ok_iff.mp hr
  exact (Double.ofInt_eq_ok_iff.mp hx).1

end CardBattle
