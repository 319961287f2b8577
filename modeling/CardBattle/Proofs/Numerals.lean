/-
Numerals made of digits alone.

* `Text.isDecimal` : a digit with a place value; `isDigitLike_eq`: which characters are digits;
* `Text.numeral?` : the number that a text of decimal digits stands for;
  `ofDigits_eq`: its digits are worth what they are to the base of ten;
* `Text.leadingDigits?_eq` : the digits that open a text without underscores, and the rest;
* `Text.digitFault?` : what keeps a text of digits from being read;
  `readInteger_of_digits`: if nothing does, it is read as the numeral it is;
* `Text.numeral?_toString` : what a number is written as stands for it.
-/
import CardBattle.Text.Numeral
import Mathlib.Data.List.TakeWhile
import Mathlib.Data.Nat.Digits.Defs
import Mathlib.Tactic

namespace CardBattle.Text

variable {c : Char} {cs : List Char}

/-! ### Digits and other characters -/

/-- Characters of some ranges are in none of some others that do not meet these. -/
lemma inRanges_eq_false {ranges others : List (Nat × Nat)}
    (hapart : ∀ r ∈ ranges, ∀ s ∈ others, r.2 < s.1 ∨ s.2 < r.1) (h : inRanges ranges c = true) :
    inRanges others c = false := by
  obtain ⟨r, hr, hrlow, hrhigh⟩ := (inRanges_iff ranges c).mp h
  refine Bool.eq_false_iff.mpr fun hother => ?_
  obtain ⟨s, hs, hslow, hshigh⟩ := (inRanges_iff others c).mp hother
  have := hapart r hr s hs
  omega

/-- Whether a character is a digit with a place value. -/
def isDecimal (c : Char) : Bool := (digitValue? c).isSome

lemma isDecimal_eq (c : Char) : isDecimal c = inRanges decimalRanges c := by
  rw [isDecimal, digitValue?, Option.isSome_map, List.isSome_find?]
  rfl

lemma isDigitLike_eq (c : Char) :
    isDigitLike c = inRanges (decimalRanges ++ ornamentRanges) c := by
  have hdecimal := isDecimal_eq c
  rw [isDecimal] at hdecimal
  rw [isDigitLike, hdecimal, inRanges, inRanges, inRanges, List.any_append]

lemma isDigitLike_of_isDecimal (h : isDecimal c = true) : isDigitLike c = true := by
  obtain ⟨n, hn⟩ := Option.isSome_iff_exists.mp h
  exact isDigitLike_of_digitValue? hn

/-- No digit is blank. -/
lemma isBlank_of_isDigitLike (h : isDigitLike c = true) : isBlank c = false := by
  rw [isDigitLike_eq] at h
  exact inRanges_eq_false (by decide +kernel) h

lemma ne_of_isDigitLike {other : Char} (hother : isDigitLike other = false)
    (h : isDigitLike c = true) : c ≠ other := by
  rintro rfl
  rw [h] at hother
  cases hother

/-! ### The value of a numeral -/

/-- Digits are worth what they are to the base of ten, the last one being the unit. -/
lemma ofDigits_eq (digits : List Nat) : ofDigits digits = Nat.ofDigits 10 digits.reverse := by
  induction digits using List.reverseRecOn with
  | nil => rfl
  | append_singleton digits d ih =>
      have hlast : ofDigits (digits ++ [d]) = 10 * ofDigits digits + d := by
        simp [ofDigits]
      rw [hlast, ih, List.reverse_append, List.reverse_singleton, List.singleton_append,
        Nat.ofDigits_cons, add_comm]

/-- The number that a text of decimal digits of any script stands for, nothing for any other
text. -/
def numeral? (cs : List Char) : Option Nat :=
  if cs ≠ [] ∧ cs.all isDecimal then
    some (Nat.ofDigits 10 (cs.filterMap digitValue?).reverse)
  else none

lemma length_filterMap_digitValue? (h : cs.all isDecimal = true) :
    (cs.filterMap digitValue?).length = cs.length := by
  rw [List.length_filterMap_eq_countP]
  exact List.countP_eq_length.mpr (List.all_eq_true.mp h)

/-! ### Reading digits -/

/-- Without underscores the digits that open a text are read up to the first character that is no
decimal digit. -/
lemma leadingDigits?_eq (h : '_' ∉ cs) :
    leadingDigits? false cs
      = some ((cs.takeWhile isDecimal).filterMap digitValue?, cs.dropWhile isDecimal) := by
  induction cs with
  | nil => rfl
  | cons c cs ih =>
      obtain ⟨hfirst, hrest⟩ := not_or.mp (mt List.mem_cons.mpr h)
      rw [leadingDigits?, List.takeWhile_cons, List.dropWhile_cons, isDecimal]
      cases hvalue : digitValue? c with
      | none => simp [Ne.symm hfirst]
      | some d => simp [ih hrest, hvalue]

/-- A text without underscores and sign is a numeral if it is all decimal digits, and not too
many. -/
lemma readNatural_eq (whole : List Char) (hempty : cs ≠ []) (h : '_' ∉ cs) :
    readNatural whole cs
      = if mostNumeralDigits < (cs.takeWhile isDecimal).length then
          .error (.tooManyDigits (cs.takeWhile isDecimal).length)
        else if cs.all isDecimal then
          .ok (Nat.ofDigits 10 (cs.filterMap digitValue?).reverse)
        else .error (.notANumeral whole) := by
  have hlength : ((cs.takeWhile isDecimal).filterMap digitValue?).length
      = (cs.takeWhile isDecimal).length :=
    length_filterMap_digitValue? List.all_takeWhile
  have hopening : ∀ rest, cs ≠ '_' :: rest := fun rest heq => h (by simp [heq])
  rw [readNatural.eq_def]
  split
  · next rest => exact absurd rfl (hopening rest)
  · rw [leadingDigits?_eq h]
    simp only [hlength, ofDigits_eq]
    by_cases hall : cs.all isDecimal = true
    · have hdigits := List.all_eq_true.mp hall
      have hsome : cs.filterMap digitValue? ≠ [] := fun hnone => by
        have hfew := length_filterMap_digitValue? hall
        rw [hnone] at hfew
        exact hempty (List.eq_nil_of_length_eq_zero hfew.symm)
      rw [List.takeWhile_eq_self_iff.mpr hdigits, List.dropWhile_eq_nil_iff.mpr hdigits]
      simp [hall, hsome]
    · have hleft : cs.dropWhile isDecimal ≠ [] := fun hnone =>
        hall (List.all_eq_true.mpr (List.dropWhile_eq_nil_iff.mp hnone))
      simp [hall, hleft]

/-- What keeps a text of digits from being read as a number: too many decimal digits that open it,
or a digit without a place value. -/
def digitFault? (cs : List Char) : Option NumeralFault :=
  if mostNumeralDigits < (cs.takeWhile isDecimal).length then
    some (.tooManyDigits (cs.takeWhile isDecimal).length)
  else if cs.all isDecimal then none
  else some (.notANumeral cs)

lemma trimNumeral_of_digits (h : ∀ c ∈ cs, isDigitLike c = true) : trimNumeral cs = cs := by
  have hkept {ds : List Char} (hds : ∀ c ∈ ds, isDigitLike c = true) :
      ds.dropWhile isNumeralMargin = ds := by
    refine List.dropWhile_eq_self_iff.mpr fun hpos => ?_
    have hmargin := isBlank_of_isDigitLike (hds ds[0] (List.getElem_mem hpos))
    simp [isNumeralMargin, hmargin]
  rw [trimNumeral, hkept h, hkept (by simpa using h), List.reverse_reverse]

/-- A text of digits is read as the numeral it is, unless something keeps it from that. -/
lemma readInteger_of_digits (hempty : cs ≠ []) (h : ∀ c ∈ cs, isDigitLike c = true) :
    readInteger cs = match digitFault? cs with
      | some fault => .error fault
      | none => .ok (Nat.ofDigits 10 (cs.filterMap digitValue?).reverse : Nat) := by
  have hother (other : Char) (hdigit : isDigitLike other = false) : other ∉ cs := fun hmem =>
    ne_of_isDigitLike hdigit (h other hmem) rfl
  rw [readInteger, trimNumeral_of_digits h]
  split
  · exact absurd (by simp) (hother '-' (by decide))
  · exact absurd (by simp) (hother '+' (by decide))
  · rw [readNatural_eq cs hempty (hother '_' (by decide)), digitFault?]
    split_ifs <;> rfl

/-! ### Numbers that are written -/

/-- The digits of a number are worth the number. -/
lemma ofDigits_toDigits (n : Nat) :
    Nat.ofDigits 10 ((Nat.toDigits 10 n).filterMap digitValue?).reverse = n := by
  have hdigit : ∀ d < 10, digitValue? (Nat.digitChar d) = some d := by decide
  induction n using Nat.strong_induction_on with
  | _ n ih =>
      rcases Nat.lt_or_ge n 10 with hlt | hge
      · rw [Nat.toDigits_of_lt_base hlt]
        simp [hdigit n hlt]
      · have hlast : n % 10 < 10 := Nat.mod_lt n (by omega)
        rw [Nat.toDigits_of_base_le (by omega) hge, List.filterMap_append, List.reverse_append,
          List.filterMap_cons_some (hdigit _ hlast), List.filterMap_nil, List.reverse_singleton,
          List.singleton_append, Nat.ofDigits_cons, ih (n / 10) (by omega)]
        omega

lemma toNat_of_isDigit (h : c.isDigit = true) : 48 ≤ c.toNat ∧ c.toNat ≤ 57 := by
  simpa [Char.isDigit, UInt32.le_iff_toNat_le] using h

lemma isDecimal_of_isDigit (h : c.isDigit = true) : isDecimal c = true := by
  rw [isDecimal_eq, inRanges_iff]
  exact ⟨(48, 57), by decide, toNat_of_isDigit h⟩

lemma isDigit_of_mem_toString {n : Nat} (h : c ∈ (toString n).toList) : c.isDigit = true := by
  rw [Nat.toString_eq_repr, Nat.toList_repr] at h
  exact Nat.isDigit_of_mem_toDigits (by omega) (by omega) h

/-- What a number is written as stands for the number. -/
lemma numeral?_toString (n : Nat) : numeral? (toString n).toList = some n := by
  have hall : (toString n).toList.all isDecimal = true :=
    List.all_eq_true.mpr fun c hc => isDecimal_of_isDigit (isDigit_of_mem_toString hc)
  rw [Nat.toString_eq_repr, Nat.toList_repr] at hall ⊢
  rw [numeral?, if_pos ⟨Nat.toDigits_ne_nil, hall⟩, ofDigits_toDigits]

/-- A number below a power of ten has at most so many digits. -/
lemma length_toString_le {n k : Nat} (hk : 0 < k) (h : n < Nat.pow 10 k) :
    (toString n).toList.length ≤ k := by
  rw [Nat.toString_eq_repr, Nat.toList_repr]
  exact (Nat.length_toDigits_le_iff (by omega) hk).mpr h

end CardBattle.Text
