/-
What becomes of a line on which the player types card numbers.

* `placeOf?` : the place in the hand that a token names, as a numeral counted from one;
  `placeOf?_eq_some_iff`: which tokens name a place;
* `faultOf?` : why a token stops the reading of its line; `faultOf?_eq_none_iff`: only a token of
  digits does, by a digit without a place value or by too many digits;
  `readPlace_eq`: any other token names a place or none;
* `Selection.sorted` : the places that tokens name, and the tokens that name none;
  `selectionOf_eq`: tokens are sorted into these, or the first one that cannot be read is to blame;
* `readSelection_partition` : a line ends the game, or it is sorted token by token, or it fails.
-/
import CardBattle.CardNumbers
import CardBattle.Proofs.Numerals
import CardBattle.Proofs.Resolution
import Mathlib.Tactic

namespace CardBattle

variable {token : List Char}

/-! ### Tokens -/

/-- The place that a token names in a hand of so many cards: a numeral from one to their number
names the place before it. -/
def placeOf? (handSize : Nat) (token : List Char) : Option Nat :=
  (Text.numeral? token).bind fun n => if 1 ≤ n ∧ n ≤ handSize then some (n - 1) else none

/-- Why a token stops the reading of its line. -/
def faultOf? (token : List Char) : Option Text.NumeralFault :=
  if looksLikeNumber token then Text.digitFault? token else none

/-- Whether a token can be told to be a place or none: if it is made of digits alone, they are
decimal digits, and not too many. -/
def Readable (token : List Char) : Prop :=
  looksLikeNumber token = true →
    token.all Text.isDecimal = true ∧ token.length ≤ Text.mostNumeralDigits

instance (token : List Char) : Decidable (Readable token) :=
  inferInstanceAs (Decidable (looksLikeNumber token = true → _))

lemma looksLikeNumber_iff :
    looksLikeNumber token = true ↔ token ≠ [] ∧ ∀ c ∈ token, Text.isDigitLike c = true := by
  simp [looksLikeNumber]

/-- A place is named by the numerals of the number that follows it, if it lies in the hand. -/
lemma placeOf?_eq_some_iff {handSize place : Nat} :
    placeOf? handSize token = some place
      ↔ Text.numeral? token = some (place + 1) ∧ place < handSize := by
  rw [placeOf?, Option.bind_eq_some_iff]
  constructor
  · rintro ⟨n, hn, hplace⟩
    split_ifs at hplace with hrange
    have hsucc : place + 1 = n := by
      have := Option.some.inj hplace
      omega
    exact ⟨hsucc ▸ hn, by omega⟩
  · rintro ⟨hn, hlt⟩
    exact ⟨place + 1, hn, if_pos ⟨by omega, by omega⟩⟩

lemma numeral?_of_not_looksLikeNumber (h : ¬ looksLikeNumber token = true) :
    Text.numeral? token = none := by
  refine if_neg fun hnumeral => h (looksLikeNumber_iff.mpr ⟨hnumeral.1, fun c hc => ?_⟩)
  exact Text.isDigitLike_of_isDecimal (List.all_eq_true.mp hnumeral.2 c hc)

/-- A token stops the reading of its line just if it cannot be told to be a place or none. -/
lemma faultOf?_eq_none_iff : faultOf? token = none ↔ Readable token := by
  rw [faultOf?, Readable, Text.digitFault?]
  by_cases hlooks : looksLikeNumber token = true
  · simp only [hlooks, if_true, true_imp_iff]
    split_ifs with hmany hall
    · refine iff_of_false (by simp) fun h => ?_
      have hle := (List.takeWhile_prefix (l := token) Text.isDecimal).length_le
      have hfew := h.2
      omega
    · rw [List.takeWhile_eq_self_iff.mpr (List.all_eq_true.mp hall)] at hmany
      exact iff_of_true rfl ⟨hall, not_lt.mp hmany⟩
    · exact iff_of_false (by simp) fun h => hall h.1
  · simp [hlooks]

/-- A token is read as the place that it names, if it names one, unless it stops the reading. -/
lemma readPlace_eq (handSize : Nat) (token : List Char) :
    readPlace handSize token = match faultOf? token with
      | some fault => .error fault
      | none => .ok (placeOf? handSize token) := by
  by_cases hlooks : looksLikeNumber token = true
  · obtain ⟨hempty, hdigits⟩ := looksLikeNumber_iff.mp hlooks
    rw [readPlace, if_pos hlooks, Text.readInteger_of_digits hempty hdigits, faultOf?,
      if_pos hlooks]
    cases hfault : Text.digitFault? token with
    | some fault => rfl
    | none =>
        have hreadable := faultOf?_eq_none_iff.mp (by rw [faultOf?, if_pos hlooks, hfault])
        have hnumeral : Text.numeral? token
            = some (Nat.ofDigits 10 (token.filterMap Text.digitValue?).reverse) :=
          if_pos ⟨hempty, (hreadable hlooks).1⟩
        simp only [Except.map, placeOf?, hnumeral, Option.bind_some]
        congr 1
        exact if_congr (by omega) (congrArg some (by omega)) rfl
  · rw [readPlace, if_neg hlooks, faultOf?, if_neg hlooks, placeOf?,
      numeral?_of_not_looksLikeNumber hlooks]
    rfl

/-! ### Lines -/

namespace Selection

/-- The places that tokens name, and the tokens that name none, both in order. -/
def sorted (handSize : Nat) (tokens : List (List Char)) : Selection where
  places := tokens.filterMap (placeOf? handSize)
  rejected := (tokens.filter fun token => (placeOf? handSize token).isNone).map String.ofList

lemma sorted_cons (handSize : Nat) (token : List Char) (tokens : List (List Char)) :
    sorted handSize (token :: tokens)
      = (sorted handSize tokens).put token (placeOf? handSize token) := by
  rw [sorted, List.filterMap_cons, List.filter_cons]
  cases placeOf? handSize token <;> rfl

/-- Every token is sorted to one side, and to one side only. -/
lemma length_sorted (handSize : Nat) (tokens : List (List Char)) :
    (sorted handSize tokens).places.length + (sorted handSize tokens).rejected.length
      = tokens.length := by
  induction tokens with
  | nil => rfl
  | cons token tokens ih =>
      rw [sorted_cons, List.length_cons, ← ih]
      cases placeOf? handSize token with
      | some place => exact Nat.add_right_comm _ 1 _
      | none => rfl

end Selection

/-- Tokens are sorted, unless one of them stops the reading; then it fails with the first such
token. -/
lemma selectionOf_eq (handSize : Nat) (tokens : List (List Char)) :
    selectionOf handSize tokens = match tokens.findSome? faultOf? with
      | some fault => .error fault
      | none => .ok (Selection.sorted handSize tokens) := by
  induction tokens with
  | nil => rfl
  | cons token tokens ih =>
      rw [selectionOf, readPlace_eq, ih, List.findSome?_cons, Selection.sorted_cons]
      cases faultOf? token with
      | some fault => rfl
      | none => cases tokens.findSome? faultOf? <;> rfl

/-- Tokens that can all be told to be a place or none are sorted, each to one side, and the places
lie in the hand. -/
lemma exists_selectionOf_of_readable (handSize : Nat) {tokens : List (List Char)}
    (h : ∀ token ∈ tokens, Readable token) :
    ∃ s, selectionOf handSize tokens = .ok s
      ∧ s.places = tokens.filterMap (placeOf? handSize)
      ∧ s.rejected
        = (tokens.filter fun token => (placeOf? handSize token).isNone).map String.ofList
      ∧ s.places.length + s.rejected.length = tokens.length
      ∧ ∀ place ∈ s.places, place < handSize := by
  have hfaultless : tokens.findSome? faultOf? = none :=
    List.findSome?_eq_none_iff.mpr fun token htoken => faultOf?_eq_none_iff.mpr (h token htoken)
  have hselection : selectionOf handSize tokens = .ok (Selection.sorted handSize tokens) := by
    rw [selectionOf_eq, hfaultless]
  exact ⟨Selection.sorted handSize tokens, hselection, rfl, rfl,
    Selection.length_sorted handSize tokens, mem_places hselection⟩

/-- A line that is no word to end the game is read token by token. -/
lemma readSelection_of_goes {line : String} (handSize : Nat)
    (hgoes : String.ofList (commandOf line) ∉ quitWords) :
    readSelection line handSize
      = (selectionOf handSize (tokensOf (commandOf line))).map some :=
  if_neg (by simpa [isQuit] using hgoes)

lemma readSelection_eq_none_iff {line : String} {handSize : Nat} :
    readSelection line handSize = .ok none ↔ String.ofList (commandOf line) ∈ quitWords := by
  refine ⟨fun hnone => ?_, fun hquit => if_pos (by simpa [isQuit] using hquit)⟩
  by_contra hgoes
  rw [readSelection_of_goes handSize hgoes] at hnone
  obtain ⟨s, _, hs⟩ := map_eq_ok_iff.mp hnone
  cases hs

/-- Only the words for that end the game, with any blanks around them and in any case. On any other
line every token between commas, blank ones apart, lands on one side and one side only, in order and
as often as it stands there: with the places if it is a decimal numeral that names one in the hand,
and with the rejected tokens otherwise. That holds as long as every token of digits alone is made of
decimal digits, of which there are not too many; the first token for which it is otherwise makes the
reading fail. -/
theorem readSelection_partition (line : String) (handSize : Nat) :
    (readSelection line handSize = .ok none ↔ String.ofList (commandOf line) ∈ quitWords)
      ∧ (String.ofList (commandOf line) ∉ quitWords →
        (∀ token ∈ tokensOf (commandOf line), Readable token) →
          ∃ s, readSelection line handSize = .ok (some s)
            ∧ s.places = (tokensOf (commandOf line)).filterMap (placeOf? handSize)
            ∧ s.rejected = ((tokensOf (commandOf line)).filter fun token =>
                (placeOf? handSize token).isNone).map String.ofList
            ∧ s.places.length + s.rejected.length = (tokensOf (commandOf line)).length
            ∧ ∀ place ∈ s.places, place < handSize)
      ∧ (String.ofList (commandOf line) ∉ quitWords →
        ∀ fault, (tokensOf (commandOf line)).findSome? faultOf? = some fault →
          readSelection line handSize = .error fault) := by
  refine ⟨readSelection_eq_none_iff, fun hgoes hreadable => ?_, fun hgoes fault hfault => ?_⟩
  · obtain ⟨s, hs, hsorted⟩ := exists_selectionOf_of_readable handSize hreadable
    refine ⟨s, ?_, hsorted⟩
    rw [readSelection_of_goes handSize hgoes, hs]
    rfl
  · rw [readSelection_of_goes handSize hgoes, selectionOf_eq, hfault]
    rfl

/-- A line to quit; a line with blanks, empty tokens, signs and underscores, a place named twice and
one in digits of another script; and a line with a digit without a place value. -/
theorem readSelection_partition_mixed :
    readSelection " QUIT " 3 = .ok none
      ∧ (∃ s, readSelection " 2, ,X1,٣,2,,0,+1,1_0,9 " 3 = .ok (some s)
        ∧ s.places = [1, 2, 1] ∧ s.rejected = ["x1", "0", "+1", "1_0", "9"])
      ∧ readSelection "1,x,3²,²" 3 = .error (.notANumeral ['3', '²']) := by
  have htokens : tokensOf (commandOf " 2, ,X1,٣,2,,0,+1,1_0,9 ")
      = [['2'], ['x', '1'], ['٣'], ['2'], ['0'], ['+', '1'], ['1', '_', '0'], ['9']] := by
    decide +kernel
  have hdigits : tokensOf (commandOf "1,x,3²,²") = [['1'], ['x'], ['3', '²'], ['²']] := by
    decide +kernel
  obtain ⟨hquits, _, _⟩ := readSelection_partition " QUIT " 3
  obtain ⟨_, hsorted, _⟩ := readSelection_partition " 2, ,X1,٣,2,,0,+1,1_0,9 " 3
  obtain ⟨_, _, hfails⟩ := readSelection_partition "1,x,3²,²" 3
  rw [htokens] at hsorted
  rw [hdigits] at hfails
  obtain ⟨s, hs, hplaces, hrejected, _, _⟩ := hsorted (by decide +kernel) (by decide)
  have hquit : readSelection " QUIT " 3 = .ok none := hquits.mpr (by decide +kernel)
  have hfail := hfails (by decide +kernel) (.notANumeral ['3', '²']) (by decide)
  exact ⟨hquit, ⟨s, hs, hplaces.trans (by decide), hrejected.trans (by decide)⟩, hfail⟩

/-- A raised two is a digit, but it has no place value. -/
theorem readSelection_superscript :
    readSelection "²" 4 = .error (.notANumeral ['²']) := by
  decide +kernel

end CardBattle
