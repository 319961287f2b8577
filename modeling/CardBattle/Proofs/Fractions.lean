/-
How much of its hit points percent damage takes from an actor.

* `roundRatio_le_of_lt` : a quotient less than half a step above a number rounds to at most that
  number; `roundRatio_mul_le_of_lt`: what a number gains when it is rounded up, it loses when it is
  multiplied by a number below one and rounded again;
* `Double.isRounded` : the numbers that rounding leaves as they are;
* `ComputedWithin` : where the fraction that is computed lies within the hit points, always so up to
  `2 ^ 53` of them (`ComputedWithin.of_natAbs_le`);
* `exists_percentOf_between` : there a fraction of hit points lies between zero and all of them,
  whatever their sign is;
* `exists_percentOf_natAbs_le_iff` : and nowhere else is it no more than all of them;
* `percentDamage_between` : so percent damage brings the hit points of an actor nearer to zero, from
  whichever side;
* `percentDamage_knockedOut` : an actor below zero that percent damage heals.
-/
import CardBattle.Catalog.Enemies
import CardBattle.Proofs.Overflow
import Mathlib.Tactic

namespace CardBattle

/-! ### Rounding to at most a number -/

section Rounding

variable {num den units step m n t : ℕ}

/-- A multiple below another one is below it by one step at least. -/
lemma add_le_of_dvd_of_lt (hm : step ∣ m) (hn : step ∣ n) (h : m < n) : m + step ≤ n := by
  have hsame : m ≡ n [MOD step] :=
    (Nat.modEq_zero_iff_dvd.mpr hm).trans (Nat.modEq_zero_iff_dvd.mpr hn).symm
  exact hsame.add_le_of_lt h

/-- A quotient less than half a step above a number of 53 digits has no more digits. -/
lemma log2_div_le_of_lt (hdvd : 2 ^ t ∣ units) (hbelow : units < 2 ^ (t + 53))
    (h : 2 * num < (2 * units + 2 ^ t) * den) : (num / den).log2 + 1 ≤ t + 53 := by
  have hden : 0 < den := Nat.pos_of_ne_zero fun hzero => by simp [hzero] at h
  have hnext : units + 2 ^ t ≤ 2 ^ (t + 53) :=
    add_le_of_dvd_of_lt hdvd (pow_dvd_pow 2 (by omega)) hbelow
  have hquotient : num / den < units + 2 ^ t := by
    rw [Nat.div_lt_iff_lt_mul hden]
    have hhalf : 0 ≤ 2 ^ t * den := Nat.zero_le _
    linarith
  rcases Nat.eq_zero_or_pos (num / den) with hzero | hpos
  · simp [hzero]
  · exact (Nat.log2_lt hpos.ne').mpr (hquotient.trans_le hnext)

/-- Below the midpoint of a number and the next one a quotient rounds to at most that number. -/
lemma roundRatio_le_of_lt (hunits : roundRatio units 1 = units)
    (h : 2 * num < (2 * units + 2 ^ (units.log2 + 1 - 53)) * den) : roundRatio num den ≤ units := by
  obtain ⟨dropped, hdropped, hround⟩ := roundRatio_eq num den
  have hdvd := two_pow_dvd_roundRatio units 1
  rw [hunits] at hdvd
  generalize hstep : units.log2 + 1 - 53 = t at h hdvd
  have hbelow : units < 2 ^ (t + 53) :=
    Nat.lt_log2_self.trans_le (Nat.pow_le_pow_right (by norm_num) (by omega))
  have hlog := log2_div_le_of_lt hdvd hbelow h
  rcases (show dropped ≤ t by omega).lt_or_eq with hfiner | rfl
  · -- the quotient has fewer digits, so not even the next power of two is above the number
    have hne : units ≠ 0 := fun hzero => by simp [hzero] at hstep; omega
    calc roundRatio num den ≤ 2 ^ ((num / den).log2 + 1) := roundRatio_le_two_pow_log2 num den
      _ ≤ 2 ^ units.log2 := Nat.pow_le_pow_right (by norm_num) (by omega)
      _ ≤ units := Nat.log2_self_le hne
  · obtain ⟨j, hj⟩ := hdvd
    have hmid : 2 * num < (2 * j + 1) * (den * 2 ^ dropped) :=
      calc 2 * num < (2 * units + 2 ^ dropped) * den := h
        _ = (2 * j + 1) * (den * 2 ^ dropped) := by rw [hj]; ring
    calc roundRatio num den = roundHalfEven num (den * 2 ^ dropped) * 2 ^ dropped := hround
      _ ≤ j * 2 ^ dropped := Nat.mul_le_mul_right _ (roundHalfEven_le_of_lt hmid)
      _ = units := by rw [hj, mul_comm]

/-- A quotient of at most a number rounds to at most that number. -/
lemma roundRatio_le_of_le (hunits : roundRatio units 1 = units) (hden : 0 < den)
    (h : num ≤ units * den) : roundRatio num den ≤ units := by
  refine roundRatio_le_of_lt hunits ?_
  have hstep : 0 < 2 ^ (units.log2 + 1 - 53) * den := Nat.mul_pos (Nat.two_pow_pos _) hden
  linarith

/-- A multiple of a number rounds to that number when it is divided again. -/
lemma roundRatio_mul_self (hunits : roundRatio units 1 = units) (hden : 0 < den) :
    roundRatio (units * den) den = units := by
  obtain ⟨dropped, hdropped, hround⟩ := roundRatio_eq (units * den) den
  have hdvd := two_pow_dvd_roundRatio units 1
  rw [Nat.mul_div_cancel units hden] at hdropped
  rw [hunits, ← hdropped, dvd_iff_exists_eq_mul_left] at hdvd
  obtain ⟨j, rfl⟩ := hdvd
  have hstep : 0 < den * 2 ^ dropped := Nat.mul_pos hden (Nat.two_pow_pos dropped)
  rw [hround, show j * 2 ^ dropped * den = j * (den * 2 ^ dropped) by ring,
    roundHalfEven_of_dvd hstep (Nat.dvd_mul_left _ j), Nat.mul_div_cancel j hstep]

/-- A natural number that is rounded up has more than 53 digits, and it becomes the next multiple of
the step that its first 53 digits leave. -/
lemma exists_dropped_of_lt_roundRatio (h : m < roundRatio m 1) :
    ∃ dropped, m.log2 = dropped + 52 ∧ roundRatio m 1 = (m / 2 ^ dropped + 1) * 2 ^ dropped := by
  obtain ⟨dropped, hdropped, hround⟩ := roundRatio_eq m 1
  rw [Nat.div_one] at hdropped
  rw [one_mul] at hround
  have hpos : dropped ≠ 0 := fun hzero => by
    have hexact : roundRatio m 1 = m :=
      roundRatio_one_of_dvd (by rw [← hdropped, hzero, pow_zero]; exact one_dvd m)
    omega
  have hbelow : m / 2 ^ dropped * 2 ^ dropped ≤ m := Nat.div_mul_le_self _ _
  have hup : roundHalfEven m (2 ^ dropped) = m / 2 ^ dropped + 1 := by
    refine (roundHalfEven_le_div_add_one m (2 ^ dropped)).antisymm (Nat.succ_le_of_lt ?_)
    exact Nat.lt_of_mul_lt_mul_right (hbelow.trans_lt (hround ▸ h))
  exact ⟨dropped, by omega, by rw [hround, hup]⟩

/-- A natural number that is rounded up lies above the number before, of which the first digit has
its place 52 places above the last one. -/
lemma exists_below_of_lt_roundRatio (h : m < roundRatio m 1) :
    ∃ below, roundRatio below 1 = below ∧ below ≤ m
      ∧ roundRatio m 1 = below + 2 ^ (below.log2 + 1 - 53)
      ∧ 2 ^ 52 * 2 ^ (below.log2 + 1 - 53) ≤ below := by
  obtain ⟨dropped, hlog, hround⟩ := exists_dropped_of_lt_roundRatio h
  have hne : m ≠ 0 := fun hzero => by simp [hzero] at hlog
  have hbelow : m / 2 ^ dropped * 2 ^ dropped ≤ m := Nat.div_mul_le_self _ _
  have hfirst : 2 ^ (dropped + 52) ≤ m / 2 ^ dropped * 2 ^ dropped := by
    rw [add_comm, pow_add]
    refine Nat.mul_le_mul_right _ ((Nat.le_div_iff_mul_le (Nat.two_pow_pos dropped)).mpr ?_)
    rw [← pow_add, add_comm, ← hlog]
    exact Nat.log2_self_le hne
  have hsame : (m / 2 ^ dropped * 2 ^ dropped).log2 = dropped + 52 := by
    refine (Nat.log2_eq_iff ((Nat.two_pow_pos _).trans_le hfirst).ne').mpr ⟨hfirst, ?_⟩
    exact hbelow.trans_lt (hlog ▸ Nat.lt_log2_self)
  have hlast : (m / 2 ^ dropped * 2 ^ dropped).log2 + 1 - 53 = dropped := by omega
  refine ⟨m / 2 ^ dropped * 2 ^ dropped, roundRatio_one_of_dvd ?_, hbelow, ?_, ?_⟩
  · rw [hlast]
    exact Nat.dvd_mul_left _ _
  · rw [hlast, hround]
    ring
  · rwa [hlast, ← pow_add, add_comm]

/-- A number below a power of two is below it by at least what its last digit stands for. -/
lemma add_two_pow_le_of_lt (hn : roundRatio n 1 = n) (h : n < 2 ^ (t + 53)) :
    n + 2 ^ t ≤ 2 ^ (t + 53) := by
  rcases lt_or_ge n (2 ^ (t + 52)) with hlow | hhigh
  · have hstep : 2 ^ t ≤ 2 ^ (t + 52) := Nat.pow_le_pow_right (by norm_num) (by omega)
    calc n + 2 ^ t ≤ 2 ^ (t + 52) + 2 ^ (t + 52) := Nat.add_le_add hlow.le hstep
      _ = 2 ^ (t + 53) := by ring
  · have hlog : n.log2 = t + 52 :=
      (Nat.log2_eq_iff ((Nat.two_pow_pos _).trans_le hhigh).ne').mpr ⟨hhigh, h⟩
    have hdvd := two_pow_dvd_roundRatio n 1
    rw [hn, hlog, show t + 52 + 1 - 53 = t by omega] at hdvd
    exact add_le_of_dvd_of_lt hdvd (pow_dvd_pow 2 (by omega)) h

/-- A natural number that is rounded up and then multiplied by a number below one rounds to no more
than it was. -/
lemma roundRatio_mul_le_of_lt (hup : m < roundRatio m 1) (hn : roundRatio n 1 = n)
    (h : n < 2 ^ (t + 53)) : roundRatio (roundRatio m 1 * n) (2 ^ (t + 53)) ≤ m := by
  obtain ⟨below, hbelow, hle, hnext, hfirst⟩ := exists_below_of_lt_roundRatio hup
  refine (roundRatio_le_of_lt hbelow ?_).trans hle
  rw [hnext]
  have hstep : 0 < 2 ^ (below.log2 + 1 - 53) := Nat.two_pow_pos _
  generalize 2 ^ (below.log2 + 1 - 53) = step at hfirst hstep ⊢
  have hgap := add_two_pow_le_of_lt hn h
  -- half a step is less than what the gap below one takes off a number of 53 digits
  have hmargin : step * 2 ^ (t + 53) < 2 * ((below + step) * 2 ^ t) :=
    calc step * 2 ^ (t + 53) = 2 * (2 ^ 52 * step * 2 ^ t) := by ring
      _ < 2 * ((below + step) * 2 ^ t) := by
        refine Nat.mul_lt_mul_of_pos_left ?_ (by norm_num)
        exact Nat.mul_lt_mul_of_pos_right (by omega) (Nat.two_pow_pos t)
  have hproduct : (below + step) * (n + 2 ^ t) ≤ (below + step) * 2 ^ (t + 53) :=
    Nat.mul_le_mul_left _ hgap
  linarith

end Rounding

/-! ### Numbers of hit points -/

namespace Double

/-- Whether rounding leaves a number as it is, as it does with all numbers that operations give. -/
def isRounded : Double → Bool
  | .finite _ units => roundRatio units 1 = units
  | _ => true

/-- The number nearest to a quotient is rounded. -/
lemma isRounded_ofRatio (negative : Bool) (num den : ℕ) :
    (ofRatio negative num den).isRounded = true := by
  unfold ofRatio ofUnits
  generalize limit = bound
  split
  · exact decide_eq_true (roundRatio_roundRatio (num * one) den)
  · rfl

/-- The units of the number nearest to an integer, without its sign. -/
def magnitude (n : Int) : ℕ := roundRatio (n.natAbs * one) 1

lemma one_eq : one = 2 ^ (1021 + 53) := by
  unfold one
  rw [show unitBits = 1021 + 53 from rfl]
  generalize 1021 + 53 = bits
  rfl

variable {hitPoints : Int} {n : ℕ}

lemma roundRatio_magnitude (hitPoints : Int) :
    roundRatio (magnitude hitPoints) 1 = magnitude hitPoints :=
  roundRatio_roundRatio _ _

/-- An integer of at most 53 digits is its own number. -/
lemma magnitude_of_natAbs_le (h : hitPoints.natAbs ≤ 2 ^ 53) :
    magnitude hitPoints = hitPoints.natAbs * one := by
  rw [magnitude, one_eq]
  generalize 1021 + 53 = bits
  generalize hitPoints.natAbs = k at h
  refine roundRatio_one_of_dvd ?_
  rcases h.lt_or_eq with hlt | rfl
  · refine (pow_dvd_pow 2 ?_).trans (Nat.dvd_mul_left _ k)
    rcases Nat.eq_zero_or_pos k with rfl | hpos
    · simp
    · have hbelow : k * 2 ^ bits < 2 ^ (53 + bits) := by
        rw [pow_add]
        exact Nat.mul_lt_mul_of_pos_right hlt (Nat.two_pow_pos bits)
      have hlog := (Nat.log2_lt (Nat.mul_pos hpos (Nat.two_pow_pos bits)).ne').mpr hbelow
      omega
  · rw [← pow_add, Nat.log2_two_pow]
    exact pow_dvd_pow 2 (by omega)

/-- The number of an integer is a whole one. -/
lemma one_dvd_magnitude (hitPoints : Int) : one ∣ magnitude hitPoints := by
  rw [magnitude, one_eq]
  generalize 1021 + 53 = bits
  generalize hitPoints.natAbs = k
  obtain ⟨dropped, hdropped, hround⟩ := roundRatio_eq (k * 2 ^ bits) 1
  rw [Nat.div_one] at hdropped
  rcases le_total dropped bits with hexact | hlarge
  · have hdvd : 2 ^ dropped ∣ k * 2 ^ bits := (pow_dvd_pow 2 hexact).trans (Nat.dvd_mul_left _ k)
    rw [roundRatio_one_of_dvd (hdropped ▸ hdvd)]
    exact Nat.dvd_mul_left _ k
  · rw [hround]
    exact (pow_dvd_pow 2 hlarge).trans (Nat.dvd_mul_left _ _)

/-- The number of an integer other than zero is not below one. -/
lemma one_le_magnitude (h : hitPoints ≠ 0) : one ≤ magnitude hitPoints := by
  have hne : hitPoints.natAbs * one / 1 ≠ 0 := by
    rw [Nat.div_one]
    exact (Nat.mul_pos (Int.natAbs_pos.mpr h) one_pos).ne'
  have hpos : 0 < magnitude hitPoints :=
    (Nat.two_pow_pos _).trans_le (two_pow_log2_le_roundRatio hne)
  exact Nat.le_of_dvd hpos (one_dvd_magnitude hitPoints)

/-- A fraction of hit points is not above them, unless all of them are taken and their number is. -/
lemma roundRatio_magnitude_mul_le (hn : roundRatio n 1 = n) (hle : n ≤ one)
    (hall : n = one → magnitude hitPoints ≤ hitPoints.natAbs * one) :
    roundRatio (magnitude hitPoints * n) one ≤ hitPoints.natAbs * one := by
  by_cases hraised : magnitude hitPoints ≤ hitPoints.natAbs * one
  · refine (roundRatio_le_of_le (roundRatio_magnitude hitPoints) one_pos ?_).trans hraised
    exact Nat.mul_le_mul_left _ hle
  · have hlt : n < one := hle.lt_of_ne fun heq => hraised (hall heq)
    rw [one_eq] at hlt
    have hproduct := roundRatio_mul_le_of_lt (not_le.mp hraised) hn hlt
    rwa [← one_eq] at hproduct

/-- Of hit points other than zero only the fraction zero has no units. -/
lemma roundRatio_magnitude_mul_eq_zero_iff (h : hitPoints ≠ 0) :
    roundRatio (magnitude hitPoints * n) one = 0 ↔ n = 0 := by
  constructor
  · intro hzero
    by_contra hne
    have hproduct : one ≤ magnitude hitPoints * n :=
      (one_le_magnitude h).trans (Nat.le_mul_of_pos_right _ (Nat.pos_of_ne_zero hne))
    have hquotient : magnitude hitPoints * n / one ≠ 0 := (Nat.div_pos hproduct one_pos).ne'
    have hpos := two_pow_log2_le_roundRatio hquotient
    rw [hzero] at hpos
    exact absurd hpos (not_le.mpr (Nat.two_pow_pos _))
  · rintro rfl
    rw [Nat.mul_zero, roundRatio_zero one one_pos]

end Double

/-! ### Fractions of hit points -/

/-- Whether a fraction of hit points is computed within them: the hit points have a number, and that
is not above them where all of them are taken. -/
structure ComputedWithin (hitPoints : Int) (fraction : Double) : Prop where
  fits : hitPoints.natAbs < Double.overflow
  unraised : fraction = .finite false Double.one →
    Double.magnitude hitPoints ≤ hitPoints.natAbs * Double.one

variable {hitPoints : Int} {fraction : Double}

/-- Hit points of at most 53 digits are their own number. -/
lemma ComputedWithin.of_natAbs_le (h : hitPoints.natAbs ≤ 2 ^ 53) (fraction : Double) :
    ComputedWithin hitPoints fraction where
  fits := h.trans_lt (by decide +kernel)
  unraised _ := (Double.magnitude_of_natAbs_le h).le

namespace Double

/-- A sign that only a zero has changes no other sign. -/
lemma signed_bne_of_or {s t : Bool} {units : ℕ} (h : s = false ∨ units = 0) :
    signed (t != s) units = signed t units := by
  rcases h with rfl | rfl
  · rw [Bool.bne_false]
  · cases (t != s) <;> cases t <;> rfl

lemma le_zero_iff {s : Bool} {n : ℕ} (hsign : s = false ∨ n = 0) :
    (finite s n).le zero = true ↔ n = 0 := by
  have hsigned : signed s n = n := by
    rcases hsign with rfl | rfl
    · rfl
    · cases s <;> rfl
  change decide (signed s n ≤ signed false 0) = true ↔ n = 0
  rw [hsigned, decide_eq_true_iff]
  simp [signed]

lemma natAbs_signed (s : Bool) (units : ℕ) : (signed s units).natAbs = units := by
  cases s <;> simp [signed]

lemma signed_mul_ediv {scale : ℕ} (hscale : 0 < scale) (s : Bool) (units : ℕ) :
    signed s (scale * units) / (scale : Int) = signed s units := by
  have hne : (scale : Int) ≠ 0 := by exact_mod_cast hscale.ne'
  have hproduct : signed s (scale * units) = scale * signed s units := by
    cases s <;> simp [signed]
  rw [hproduct, Int.mul_ediv_cancel_left _ hne]

/-- The greatest integer not above a quotient that has the sign of some hit points, and no greater
magnitude, lies between zero and the hit points; below zero it is zero for zero alone. -/
lemma signed_div_between {units scale : ℕ} (hscale : 0 < scale)
    (h : units ≤ hitPoints.natAbs * scale) :
    (0 ≤ hitPoints → 0 ≤ signed (hitPoints < 0) units / (scale : Int)
        ∧ signed (hitPoints < 0) units / (scale : Int) ≤ hitPoints)
      ∧ (hitPoints < 0 → hitPoints ≤ signed (hitPoints < 0) units / (scale : Int)
        ∧ signed (hitPoints < 0) units / (scale : Int) ≤ 0
        ∧ (signed (hitPoints < 0) units / (scale : Int) = 0 ↔ units = 0)) := by
  zify at h hscale
  refine ⟨fun hpos => ?_, fun hneg => ?_⟩
  · have hsigned : signed (hitPoints < 0) units = units := by simp [signed, not_lt.mpr hpos]
    rw [abs_of_nonneg hpos] at h
    rw [hsigned]
    exact ⟨Int.ediv_nonneg (Int.natCast_nonneg units) hscale.le, Int.ediv_le_of_le_mul hscale h⟩
  · have hsigned : signed (hitPoints < 0) units = -units := by simp [signed, hneg]
    rw [abs_of_neg hneg] at h
    rw [hsigned]
    refine ⟨Int.le_ediv_of_mul_le hscale (by linarith), Int.ediv_le_of_le_mul hscale (by simp), ?_⟩
    rcases Nat.eq_zero_or_pos units with rfl | hunits
    · simp
    · have hbelow : -(units : Int) / scale < 0 := Int.ediv_neg_of_neg_of_pos (by omega) hscale
      exact iff_of_false hbelow.ne hunits.ne'

end Double

/-- A fraction of hit points lies between zero and all of them, on whichever side of zero they are;
of hit points below zero it is below zero, unless the fraction is zero. -/
lemma exists_percentOf_between (hrounded : fraction.isRounded = true)
    (hunit : fraction.inUnitInterval = true) (h : ComputedWithin hitPoints fraction) :
    ∃ taken, percentOf hitPoints fraction = .ok taken
      ∧ (0 ≤ hitPoints → 0 ≤ taken ∧ taken ≤ hitPoints)
      ∧ (hitPoints < 0 → hitPoints ≤ taken ∧ taken ≤ 0
          ∧ (taken = 0 ↔ fraction.le .zero = true)) := by
  obtain ⟨s, n, rfl, hn, hsign⟩ := Double.eq_finite_of_inUnitInterval hunit
  have hzero : n = 0 → roundRatio (Double.magnitude hitPoints * n) Double.one = 0 := by
    rintro rfl
    rw [Nat.mul_zero, roundRatio_zero _ Double.one_pos]
  have htaken : percentOf hitPoints (.finite s n)
      = .ok (Double.signed (hitPoints < 0)
        (roundRatio (Double.magnitude hitPoints * n) Double.one) / (Double.one : Int)) := by
    rw [percentOf_finite h.fits hn, ← Double.magnitude,
      Double.signed_bne_of_or (hsign.imp_right hzero)]
  have hwithin : roundRatio (Double.magnitude hitPoints * n) Double.one
      ≤ hitPoints.natAbs * Double.one := by
    refine Double.roundRatio_magnitude_mul_le (of_decide_eq_true hrounded) hn fun hall =>
      h.unraised ?_
    rw [hall, hsign.resolve_right (by rw [hall]; exact Double.one_pos.ne')]
  obtain ⟨habove, hbelow⟩ := Double.signed_div_between Double.one_pos hwithin
  refine ⟨_, htaken, habove, fun hneg => ?_⟩
  obtain ⟨hle, hnonpos, hnone⟩ := hbelow hneg
  rw [Double.roundRatio_magnitude_mul_eq_zero_iff hneg.ne] at hnone
  exact ⟨hle, hnonpos, hnone.trans (Double.le_zero_iff hsign).symm⟩

/-- All of the hit points are computed as their number. -/
lemma exists_percentOf_one (h : hitPoints.natAbs < Double.overflow) :
    ∃ taken, percentOf hitPoints (.finite false Double.one) = .ok taken
      ∧ taken.natAbs * Double.one = Double.magnitude hitPoints := by
  obtain ⟨whole, hwhole⟩ := Double.one_dvd_magnitude hitPoints
  have hall : roundRatio (Double.magnitude hitPoints * Double.one) Double.one
      = Double.one * whole := by
    rw [roundRatio_mul_self (Double.roundRatio_magnitude hitPoints) Double.one_pos, hwhole]
  refine ⟨Double.signed (hitPoints < 0) whole, ?_, ?_⟩
  · rw [percentOf_finite h le_rfl, ← Double.magnitude, hall, Bool.bne_false,
      Double.signed_mul_ediv Double.one_pos]
  · rw [Double.natAbs_signed, hwhole, mul_comm]

/-- The fractions that are computed within the hit points are those that take no more than all of
them. -/
theorem exists_percentOf_natAbs_le_iff (hrounded : fraction.isRounded = true)
    (hunit : fraction.inUnitInterval = true) :
    (∃ taken, percentOf hitPoints fraction = .ok taken ∧ taken.natAbs ≤ hitPoints.natAbs)
      ↔ ComputedWithin hitPoints fraction := by
  constructor
  · rintro ⟨taken, htaken, hle⟩
    have hfits := (exists_percentOf_iff hunit).mp ⟨taken, htaken⟩
    refine ⟨hfits, ?_⟩
    rintro rfl
    obtain ⟨all, hall, hnumber⟩ := exists_percentOf_one hfits
    obtain rfl : taken = all := by simpa [hall] using htaken.symm
    rw [← hnumber]
    exact Nat.mul_le_mul_right Double.one hle
  · intro h
    obtain ⟨taken, htaken, habove, hbelow⟩ := exists_percentOf_between hrounded hunit h
    refine ⟨taken, htaken, ?_⟩
    rcases le_or_gt 0 hitPoints with hpos | hneg
    · have := habove hpos
      omega
    · have := hbelow hneg
      omega

/-! ### Percent damage -/

/-- Without shields a player takes a fraction of its hit points as it is. -/
lemma Player.apply_percentDamage {player : Player} {taken : Int} (hshields : player.shields = [])
    (h : percentOf player.hitPoints fraction = .ok taken) :
    player.apply (.percentDamage fraction)
      = .ok { player with hitPoints := player.hitPoints - taken } := by
  have hdamage : player.fractionDamage fraction = .ok ⟨taken, .neutral⟩ := by
    rw [fractionDamage, h]
    rfl
  have htaken : player.taken ⟨taken, .neutral⟩ = taken := by rw [Player.taken, hshields, absorb_nil]
  rw [apply, hdamage, Except.map, takeDamage, htaken]

/-- An enemy whose slot for any damage is normal takes a fraction of its hit points as it is. -/
lemma Enemy.apply_percentDamage {enemy : Enemy} {taken : Int} (hany : enemy.defense.any = .normal)
    (h : percentOf enemy.hitPoints fraction = .ok taken) :
    enemy.apply (.percentDamage fraction)
      = .ok { enemy with hitPoints := enemy.hitPoints - taken } := by
  have hdamage : enemy.fractionDamage fraction = .ok ⟨taken, .neutral⟩ := by
    rw [fractionDamage, h]
    rfl
  have hactual : enemy.defense.resolve ⟨taken, .neutral⟩ = .ok (min taken taken) :=
    Defense.resolve_eq (by rw [hany]; rfl) rfl
  rw [apply, hdamage]
  change enemy.takeDamage ⟨taken, .neutral⟩ = _
  rw [takeDamage, hactual, min_self]
  rfl

/-- Percent damage takes an amount between zero and all hit points, on whichever side of zero they
are, from a player without shields and from an enemy whose slot for any damage is normal. So hit
points that are not negative never rise, and do not fall below zero. Negative ones, of which it
takes a negative amount, never fall and do not rise above zero; and they do rise, unless the
fraction is zero. -/
theorem percentDamage_between (hrounded : fraction.isRounded = true)
    (hunit : fraction.inUnitInterval = true) (h : ComputedWithin hitPoints fraction) :
    ∃ taken, percentOf hitPoints fraction = .ok taken
      ∧ (0 ≤ hitPoints → 0 ≤ taken ∧ taken ≤ hitPoints)
      ∧ (hitPoints < 0 → hitPoints ≤ taken ∧ taken ≤ 0
          ∧ (taken = 0 ↔ fraction.le .zero = true))
      ∧ (∀ player : Player, player.hitPoints = hitPoints → player.shields = [] →
          player.apply (.percentDamage fraction)
            = .ok { player with hitPoints := hitPoints - taken })
      ∧ (∀ enemy : Enemy, enemy.hitPoints = hitPoints → enemy.defense.any = .normal →
          enemy.apply (.percentDamage fraction)
            = .ok { enemy with hitPoints := hitPoints - taken }) := by
  obtain ⟨taken, htaken, habove, hbelow⟩ := exists_percentOf_between hrounded hunit h
  refine ⟨taken, htaken, habove, hbelow, ?_, ?_⟩
  · rintro player rfl hshields
    exact Player.apply_percentDamage hshields htaken
  · rintro enemy rfl hany
    exact Enemy.apply_percentDamage hany htaken

/-- The greatest number below one. -/
def almostOne : Double := .ofRatio false (2 ^ 53 - 1) (2 ^ 53)

/-- The number of `2 ^ 53 + 3` hit points is one above them, yet the greatest fraction below one of
them is no more than they are. Of -5 hit points that fraction is negative, so the player and the
drought are healed, but not above zero. -/
theorem percentDamage_between_almostOne :
    almostOne.isRounded = true ∧ almostOne.inUnitInterval = true
      ∧ ComputedWithin (2 ^ 53 + 3) almostOne ∧ ComputedWithin (-5) almostOne
      ∧ (∃ taken, percentOf (2 ^ 53 + 3) almostOne = .ok taken ∧ 0 ≤ taken ∧ taken ≤ 2 ^ 53 + 3)
      ∧ ∃ taken, ({ hitPoints := -5 } : Player).apply (.percentDamage almostOne)
            = .ok { hitPoints := -5 - taken }
          ∧ Catalog.drought.defense.any = .normal
          ∧ ({ Catalog.drought with hitPoints := -5 }).apply (.percentDamage almostOne)
            = .ok { Catalog.drought with hitPoints := -5 - taken }
          ∧ -5 ≤ taken ∧ taken < 0 := by
  have hrounded : almostOne.isRounded = true := Double.isRounded_ofRatio _ _ _
  have hunit : almostOne.inUnitInterval = true := by decide +kernel
  have hpart : almostOne ≠ .finite false Double.one := by decide +kernel
  have hraised : ComputedWithin (2 ^ 53 + 3) almostOne :=
    ⟨by decide +kernel, fun hall => absurd hall hpart⟩
  have hsmall : ComputedWithin (-5) almostOne := .of_natAbs_le (by decide) almostOne
  obtain ⟨most, hmost, habove, _⟩ := percentDamage_between hrounded hunit hraised
  obtain ⟨taken, _, _, hbelow, hplayer, henemy⟩ := percentDamage_between hrounded hunit hsmall
  obtain ⟨hle, hnonpos, hnone⟩ := hbelow (by decide)
  have hsome : taken ≠ 0 := fun hzero => absurd (hnone.mp hzero) (by decide +kernel)
  refine ⟨hrounded, hunit, hraised, hsmall, ⟨most, hmost, habove (by decide)⟩, taken, ?_, rfl, ?_,
    hle, hnonpos.lt_of_ne hsome⟩
  · exact hplayer _ rfl rfl
  · exact henemy _ rfl rfl

/-- The greatest integer not above the half of -5 hit points is -3, and damage of -3 heals a player
who is knocked out, up to -2. All of `2 ^ 53 + 3` hit points are computed as one more than they are,
and of `2 ^ 1024` hit points no fraction is computed. -/
theorem percentDamage_knockedOut :
    Double.half.isRounded = true ∧ Double.half.inUnitInterval = true
      ∧ ({ hitPoints := -5 } : Player).apply (.percentDamage .half) = .ok { hitPoints := -2 }
      ∧ percentOf (2 ^ 53 + 3) (.finite false Double.one) = .ok (2 ^ 53 + 4)
      ∧ percentOf (2 ^ 1024) .half = .error .integerTooLarge := by
  decide +kernel

end CardBattle
