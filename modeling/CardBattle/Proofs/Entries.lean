/-
Card numbers as they are typed.

* `Text.trim_padded`, `Text.exists_trim` : the blanks around a text; `Text.lower_eq_self`: blanks,
  commas and digits have no case;
* `tokensOf_append_comma` : the tokens on both sides of a comma; `tokensOf_trim`: the blanks around
  a line do not matter to its tokens;
* `TypedPlace` : what is typed between two commas, blanks around the numeral of a place or blanks
  alone; `joinedLine`: the line of some of these; `tokensOf_joinedLine`: its tokens are the
  numerals;
* `readSelection_joinedLine` : the line is read as the places that were typed, and the player gets
  the cards there.
-/
import CardBattle.Proofs.Selections
import CardBattle.Session
import Mathlib.Tactic

namespace CardBattle

/-! ### Blanks around a text -/

namespace Text

variable {before after cs : List Char}

lemma trimStart_eq_nil (h : ∀ c ∈ cs, isBlank c = true) : trimStart cs = [] :=
  List.dropWhile_eq_nil_iff.mpr h

lemma trimStart_append (h : ∀ c ∈ before, isBlank c = true) (cs : List Char) :
    trimStart (before ++ cs) = trimStart cs :=
  List.dropWhile_append_of_pos h

/-- Blanks in front of a text do not matter to its trim. -/
lemma trim_append_left (h : ∀ c ∈ before, isBlank c = true) (cs : List Char) :
    trim (before ++ cs) = trim cs := by
  simp only [trim, trimStart_append h]

/-- Blanks behind a text do not matter to its trim. -/
lemma trim_append_right (h : ∀ c ∈ after, isBlank c = true) (cs : List Char) :
    trim (cs ++ after) = trim cs := by
  have hreverse : ∀ c ∈ after.reverse, isBlank c = true := fun c hc => h c (by simpa using hc)
  by_cases hempty : trimStart cs = []
  · have hboth : trimStart (cs ++ after) = [] := by
      rw [trimStart] at hempty
      rw [trimStart, List.dropWhile_append, hempty, List.isEmpty_nil, if_pos rfl]
      exact trimStart_eq_nil h
    rw [trim, trim, hboth, hempty]
  · have hboth : trimStart (cs ++ after) = trimStart cs ++ after := by
      have hsome : (cs.dropWhile isBlank).isEmpty = false := List.isEmpty_eq_false_iff.mpr hempty
      rw [trimStart, List.dropWhile_append, hsome]
      rfl
    rw [trim, trim, hboth, List.reverse_append, trimStart_append hreverse]

/-- A text without blanks is left where it stands between blanks. -/
lemma trim_padded (hbefore : ∀ c ∈ before, isBlank c = true) (hcs : ∀ c ∈ cs, isBlank c = false)
    (hafter : ∀ c ∈ after, isBlank c = true) : trim (before ++ cs ++ after) = cs := by
  rw [trim_append_right hafter, trim_append_left hbefore]
  refine trim_eq_self (fun c hc => hcs c ?_) fun c hc => hcs c ?_
  · exact List.mem_of_mem_head? hc
  · exact List.mem_of_mem_getLast? hc

/-- Only blanks are taken off a text, at its two ends. -/
lemma exists_trim (cs : List Char) :
    ∃ before after, (∀ c ∈ before, isBlank c = true) ∧ (∀ c ∈ after, isBlank c = true)
      ∧ cs = before ++ trim cs ++ after := by
  have hstart : cs = cs.takeWhile isBlank ++ trimStart cs := List.takeWhile_append_dropWhile.symm
  have hend : trimStart cs = trim cs ++ ((trimStart cs).reverse.takeWhile isBlank).reverse := by
    have hreverse : (trimStart cs).reverse = (trimStart cs).reverse.takeWhile isBlank
        ++ trimStart (trimStart cs).reverse := List.takeWhile_append_dropWhile.symm
    calc trimStart cs = (trimStart cs).reverse.reverse := (List.reverse_reverse _).symm
      _ = ((trimStart cs).reverse.takeWhile isBlank ++ trimStart (trimStart cs).reverse).reverse :=
          congrArg List.reverse hreverse
      _ = trim cs ++ ((trimStart cs).reverse.takeWhile isBlank).reverse := List.reverse_append
  refine ⟨cs.takeWhile isBlank, ((trimStart cs).reverse.takeWhile isBlank).reverse, ?_, ?_, ?_⟩
  · exact fun c hc => List.mem_takeWhile_imp hc
  · exact fun c hc => List.mem_takeWhile_imp (List.mem_reverse.mp hc)
  · rw [List.append_assoc, ← hend]
    exact hstart

lemma mem_of_mem_trim {c : Char} (h : c ∈ trim cs) : c ∈ cs := by
  obtain ⟨before, after, _, _, hcs⟩ := exists_trim cs
  rw [hcs]
  simp [h]

/-! ### Characters without case -/

/-- The code points of blanks, of the comma and of the digits. -/
def plainRanges : List (Nat × Nat) := blankRanges ++ [(44, 44), (48, 57)]

/-- Whether a character is a blank, a comma or a digit. -/
def isPlain (c : Char) : Bool := inRanges plainRanges c

lemma isPlain_of_isBlank {c : Char} (h : isBlank c = true) : isPlain c = true := by
  rw [isPlain, plainRanges, inRanges, List.any_append]
  rw [isBlank, inRanges] at h
  rw [h, Bool.true_or]

lemma isPlain_of_isDigit {c : Char} (h : c.isDigit = true) : isPlain c = true :=
  (inRanges_iff _ c).mpr ⟨(48, 57), by decide, toNat_of_isDigit h⟩

/-- Plain characters are their own lower case. -/
lemma lowerLetter_of_isPlain {c : Char} (h : isPlain c = true) : lowerLetter c = [c] := by
  have hapart : ∀ r ∈ plainRanges, ∀ s ∈ lowerStretches, r.2 < s.1 ∨ s.2.1 < r.1 := by
    decide +kernel
  obtain ⟨r, hr, hlow, hhigh⟩ := (inRanges_iff _ c).mp h
  have hdotted : c ≠ 'İ' := by
    rintro rfl
    cases h
  have hnone : shifted? lowerStretches c = none := by
    rw [shifted?, Option.map_eq_none_iff, List.find?_eq_none]
    rintro ⟨first, last, distance, image⟩ hs hfound
    simp only [Bool.and_eq_true, decide_eq_true_eq] at hfound
    have hside := hapart r hr _ hs
    simp only at hside
    omega
  rw [lowerLetter, if_neg hdotted, hnone, Option.getD_none]

/-- A text of plain characters is its own lower case. -/
lemma lower_eq_self (h : ∀ c ∈ cs, isPlain c = true) : lower cs = cs := by
  have hafter (before : List Char) : lowerAfter before cs = cs := by
    induction cs generalizing before with
    | nil => rfl
    | cons c rest ih =>
        have hfirst := h c List.mem_cons_self
        have hsigma : c ≠ 'Σ' := by
          rintro rfl
          cases hfirst
        rw [lowerAfter, if_neg hsigma, lowerLetter_of_isPlain hfirst,
          ih fun c hc => h c (List.mem_cons_of_mem _ hc)]
        rfl
  exact hafter []

end Text

open Text

/-! ### Tokens of a line -/

/-- The tokens on both sides of a comma are the tokens of the two sides. -/
lemma tokensOf_append_comma (first rest : List Char) :
    tokensOf (first ++ ',' :: rest) = tokensOf first ++ tokensOf rest := by
  simp only [tokensOf, List.splitOn_append_cons_self, List.map_append, List.filter_append]

lemma tokensOf_of_notMem {cs : List Char} (h : ',' ∉ cs) :
    tokensOf cs = [trim cs].filter (!·.isEmpty) := by
  rw [tokensOf, List.splitOn_eq_singleton h, List.map_singleton]

lemma notMem_of_isBlank {cs : List Char} (h : ∀ c ∈ cs, isBlank c = true) : ',' ∉ cs := by
  intro hcomma
  cases h ',' hcomma

/-- Blanks in front of a line do not matter to its tokens. -/
lemma tokensOf_append_left {before : List Char} (h : ∀ c ∈ before, isBlank c = true)
    (cs : List Char) : tokensOf (before ++ cs) = tokensOf cs := by
  have hfree {cs : List Char} (hcs : ',' ∉ cs) : tokensOf (before ++ cs) = tokensOf cs := by
    have hboth : ',' ∉ before ++ cs := by simp [notMem_of_isBlank h, hcs]
    rw [tokensOf_of_notMem hboth, tokensOf_of_notMem hcs, trim_append_left h]
  by_cases hcomma : ',' ∈ cs
  · obtain ⟨first, rest, rfl, hfirst⟩ := List.eq_append_cons_of_mem hcomma
    rw [← List.append_assoc, tokensOf_append_comma, tokensOf_append_comma, hfree hfirst]
  · exact hfree hcomma

/-- Blanks behind a line do not matter to its tokens. -/
lemma tokensOf_append_right {after : List Char} (h : ∀ c ∈ after, isBlank c = true)
    (cs : List Char) : tokensOf (cs ++ after) = tokensOf cs := by
  -- the first comma leaves a shorter line
  induction hlength : cs.length using Nat.strong_induction_on generalizing cs with
  | _ n ih =>
      by_cases hcomma : ',' ∈ cs
      · obtain ⟨first, rest, rfl, _⟩ := List.eq_append_cons_of_mem hcomma
        have hshorter : rest.length < n := by
          rw [← hlength, List.length_append, List.length_cons]
          omega
        rw [List.append_assoc, List.cons_append, tokensOf_append_comma, tokensOf_append_comma,
          ih rest.length hshorter rest rfl]
      · have hboth : ',' ∉ cs ++ after := by simp [notMem_of_isBlank h, hcomma]
        rw [tokensOf_of_notMem hboth, tokensOf_of_notMem hcomma, trim_append_right h]

/-- The blanks around a line do not matter to its tokens. -/
lemma tokensOf_trim (cs : List Char) : tokensOf (trim cs) = tokensOf cs := by
  obtain ⟨before, after, hbefore, hafter, hcs⟩ := exists_trim cs
  calc tokensOf (trim cs) = tokensOf (before ++ trim cs) := (tokensOf_append_left hbefore _).symm
    _ = tokensOf (before ++ trim cs ++ after) := (tokensOf_append_right hafter _).symm
    _ = tokensOf cs := by rw [← hcs]

lemma tokensOf_intercalate (pieces : List (List Char)) :
    tokensOf ([','].intercalate pieces) = pieces.flatMap tokensOf := by
  induction pieces with
  | nil => rfl
  | cons piece rest ih =>
      cases rest with
      | nil => rw [List.intercalate_singleton, List.flatMap_singleton]
      | cons next rest =>
          rw [List.intercalate_cons_cons, List.append_assoc, List.singleton_append,
            tokensOf_append_comma, ih]
          rfl

/-- A line of plain characters is no word to end the game. -/
lemma notMem_quitWords {cs : List Char} (h : ∀ c ∈ cs, isPlain c = true) :
    String.ofList cs ∉ quitWords := by
  have hletter : ∀ word ∈ quitWords, word.toList.all isPlain = false := by decide
  intro hquit
  have hsome := hletter _ hquit
  rw [String.toList_ofList, List.all_eq_true.mpr h] at hsome
  cases hsome

/-! ### Typed places -/

/-- What is typed between two commas: blanks around the numeral of a place, or blanks alone. -/
structure TypedPlace where
  before : List Char := []
  place? : Option Nat := none
  after : List Char := []
  all_before : before.all isBlank = true := by rfl
  all_after : after.all isBlank = true := by rfl

/-- The numeral of a place, counted from one. -/
def placeNumeral (place : Nat) : List Char := (toString (place + 1)).toList

namespace TypedPlace

variable (e : TypedPlace)

/-- The numeral between two commas, nothing if there are only blanks. -/
def numeral (e : TypedPlace) : List Char := (e.place?.map placeNumeral).getD []

/-- The characters between two commas. -/
def text (e : TypedPlace) : List Char := e.before ++ e.numeral ++ e.after

lemma isBlank_of_mem_before {c : Char} (h : c ∈ e.before) : isBlank c = true :=
  List.all_eq_true.mp e.all_before c h

lemma isBlank_of_mem_after {c : Char} (h : c ∈ e.after) : isBlank c = true :=
  List.all_eq_true.mp e.all_after c h

lemma isDigit_of_mem_numeral {c : Char} (h : c ∈ e.numeral) : c.isDigit = true := by
  rw [numeral] at h
  cases hplace : e.place? with
  | none => simp [hplace] at h
  | some place =>
      rw [hplace] at h
      exact isDigit_of_mem_toString h

lemma isPlain_of_mem_text {c : Char} (h : c ∈ e.text) : isPlain c = true := by
  rw [text, List.mem_append, List.mem_append] at h
  rcases h with (hbefore | hnumeral) | hafter
  · exact isPlain_of_isBlank (e.isBlank_of_mem_before hbefore)
  · exact isPlain_of_isDigit (e.isDigit_of_mem_numeral hnumeral)
  · exact isPlain_of_isBlank (e.isBlank_of_mem_after hafter)

/-- The blanks around a numeral are taken off, and the numeral is left. -/
lemma trim_text : trim e.text = e.numeral := by
  refine trim_padded (fun _ => e.isBlank_of_mem_before) (fun c hc => ?_)
    fun _ => e.isBlank_of_mem_after
  have hdecimal := isDecimal_of_isDigit (e.isDigit_of_mem_numeral hc)
  exact isBlank_of_isDigitLike (isDigitLike_of_isDecimal hdecimal)

/-- The one token between two commas is the numeral there; blanks alone are none. -/
lemma tokensOf_text : tokensOf e.text = (e.place?.map placeNumeral).toList := by
  have hcomma : ',' ∉ e.text := by
    rw [text, List.mem_append, List.mem_append]
    rintro ((hbefore | hnumeral) | hafter)
    · exact notMem_of_isBlank (fun _ => e.isBlank_of_mem_before) hbefore
    · cases e.isDigit_of_mem_numeral hnumeral
    · exact notMem_of_isBlank (fun _ => e.isBlank_of_mem_after) hafter
  rw [tokensOf_of_notMem hcomma, trim_text, numeral]
  cases e.place? with
  | none => rfl
  | some place =>
      have hsome : placeNumeral place ≠ [] := by
        simp [placeNumeral, Nat.toString_eq_repr, Nat.toDigits_ne_nil]
      simp [hsome]

end TypedPlace

/-- The places that are typed, in order. -/
def typedPlaces (typed : List TypedPlace) : List Nat := typed.filterMap (·.place?)

/-- The line that is typed, with commas between the places. -/
def joinedLine (typed : List TypedPlace) : String :=
  String.ofList ([','].intercalate (typed.map TypedPlace.text))

lemma isPlain_of_mem_joinedLine {typed : List TypedPlace} {c : Char}
    (h : c ∈ (joinedLine typed).toList) : isPlain c = true := by
  rw [joinedLine, String.toList_ofList] at h
  induction typed with
  | nil => simp at h
  | cons e rest ih =>
      cases rest with
      | nil => exact e.isPlain_of_mem_text (by simpa using h)
      | cons next rest =>
          rw [List.map_cons, List.map_cons, List.intercalate_cons_cons, List.append_assoc,
            List.mem_append, List.singleton_append, List.mem_cons] at h
          rcases h with hfirst | rfl | hrest
          · exact e.isPlain_of_mem_text hfirst
          · decide
          · exact ih (by simpa using hrest)

/-- The blanks around a typed line are all that is taken off it. -/
lemma commandOf_joinedLine (typed : List TypedPlace) :
    commandOf (joinedLine typed) = trim (joinedLine typed).toList :=
  lower_eq_self fun _ hc => isPlain_of_mem_joinedLine (mem_of_mem_trim hc)

/-- The tokens of a typed line are the numerals of its places. -/
lemma tokensOf_joinedLine (typed : List TypedPlace) :
    tokensOf (commandOf (joinedLine typed)) = (typedPlaces typed).map placeNumeral := by
  rw [commandOf_joinedLine, tokensOf_trim, joinedLine, String.toList_ofList, tokensOf_intercalate,
    typedPlaces, List.map_filterMap, List.flatMap_map]
  induction typed with
  | nil => rfl
  | cons e rest ih =>
      rw [List.flatMap_cons, ih, e.tokensOf_text]
      cases hplace : e.place? with
      | none => simp [hplace]
      | some place => simp [hplace]

/-! ### Reading a typed line -/

/-- The numeral of a place in the hand names the place. -/
lemma placeOf?_placeNumeral {handSize place : Nat} (h : place < handSize) :
    placeOf? handSize (placeNumeral place) = some place :=
  placeOf?_eq_some_iff.mpr ⟨numeral?_toString (place + 1), h⟩

/-- The numeral of a place in a hand that is not too large has no more digits than can be read. -/
lemma readable_placeNumeral {handSize place : Nat}
    (hsize : handSize < Nat.pow 10 mostNumeralDigits) (h : place < handSize) :
    Readable (placeNumeral place) := by
  intro _
  have hall : (placeNumeral place).all isDecimal = true :=
    List.all_eq_true.mpr fun c hc => isDecimal_of_isDigit (isDigit_of_mem_toString hc)
  have hfew : (placeNumeral place).length ≤ mostNumeralDigits :=
    length_toString_le (by decide) (by omega)
  exact ⟨hall, hfew⟩

/-- Numerals of places in the hand are read as these places, and none is rejected. -/
lemma selectionOf_placeNumerals {handSize : Nat} {places : List Nat}
    (hsize : handSize < Nat.pow 10 mostNumeralDigits)
    (hplaces : ∀ place ∈ places, place < handSize) :
    selectionOf handSize (places.map placeNumeral) = .ok { places } := by
  have hreadable : ∀ token ∈ places.map placeNumeral, Readable token := by
    intro token htoken
    obtain ⟨place, hplace, rfl⟩ := List.mem_map.mp htoken
    exact readable_placeNumeral hsize (hplaces place hplace)
  obtain ⟨s, hs, hnamed, hrejected, -, -⟩ := exists_selectionOf_of_readable handSize hreadable
  have hall : s.places = places := by
    rw [hnamed, List.filterMap_map]
    have hid : ∀ place ∈ places, (placeOf? handSize ∘ placeNumeral) place = some place :=
      fun place hplace => placeOf?_placeNumeral (hplaces place hplace)
    rw [List.filterMap_congr hid, List.filterMap_some]
  have hnone : s.rejected = [] := by
    rw [hrejected, List.map_eq_nil_iff, List.filter_eq_nil_iff]
    intro token htoken
    obtain ⟨place, hplace, rfl⟩ := List.mem_map.mp htoken
    simp [placeOf?_placeNumeral (hplaces place hplace)]
  rw [hs, ← hall, ← hnone]

/-- Places in the hand are all filled by cards. -/
lemma forall₂_cards {hand : List Card} {s : Selection}
    (h : ∀ place ∈ s.places, place < hand.length) :
    List.Forall₂ (fun place card => hand[place]? = some card) s.places (s.cards hand) := by
  rw [Selection.cards]
  generalize s.places = places at h
  induction places with
  | nil => exact .nil
  | cons place rest ih =>
      have hplace := List.getElem?_eq_getElem (h place List.mem_cons_self)
      rw [List.filterMap_cons_some hplace]
      exact .cons hplace (ih fun place hmem => h place (List.mem_cons_of_mem _ hmem))

/-- Typing the numbers of cards selects these cards. A line is made of the numerals of places in the
hand, counted from one, with commas between them, blanks around them and empty entries among them,
as many as there are; it ends no game, and it is read as just these places, in order and as often as
they stand there, with nothing rejected. The player is shown nothing and plays the cards there. -/
theorem readSelection_joinedLine {typed : List TypedPlace} {handSize : Nat}
    (hsize : handSize < Nat.pow 10 mostNumeralDigits)
    (hplaces : ∀ place ∈ typedPlaces typed, place < handSize) :
    readSelection (joinedLine typed) handSize
        = .ok (some { places := typedPlaces typed, rejected := [] })
      ∧ ∀ hand : List Card, hand.length = handSize →
        ∃ cards, Session.answerCards hand (.line (joinedLine typed))
            = { result := .chosen cards, events := [] }
          ∧ List.Forall₂ (fun place card => hand[place]? = some card)
            (typedPlaces typed) cards := by
  have hgoes : String.ofList (commandOf (joinedLine typed)) ∉ quitWords := by
    refine notMem_quitWords fun c hc => ?_
    rw [commandOf_joinedLine] at hc
    exact isPlain_of_mem_joinedLine (mem_of_mem_trim hc)
  have hread : readSelection (joinedLine typed) handSize
      = .ok (some { places := typedPlaces typed }) := by
    rw [readSelection_of_goes handSize hgoes, tokensOf_joinedLine,
      selectionOf_placeNumerals hsize hplaces]
    rfl
  refine ⟨hread, ?_⟩
  rintro hand rfl
  refine ⟨_, ?_, forall₂_cards (s := { places := typedPlaces typed }) hplaces⟩
  simp only [Session.answerCards, Answer.line?, hread]
  rfl

/-- What somebody types who picks the second card, the third and the second again: blanks, a tab and
an empty entry stand among the numerals. -/
def secondThirdSecond : List TypedPlace :=
  [{ before := [' '], place? := some 1 }, { before := [' '] },
   { before := ['\t'], place? := some 2, after := [' '] }, { place? := some 1 }]

/-- Three cards by name. -/
def threeCards : List Card :=
  ["spark", "ember", "flame"].map fun name => { id := name, name, element := .wind }

/-- The line is read as the three places, and the player gets the cards there. -/
theorem readSelection_joinedLine_spaced :
    joinedLine secondThirdSecond = " 2, ,\t3 ,2"
      ∧ (3 < Nat.pow 10 mostNumeralDigits ∧ ∀ place ∈ typedPlaces secondThirdSecond, place < 3)
      ∧ readSelection " 2, ,\t3 ,2" 3 = .ok (some { places := [1, 2, 1], rejected := [] })
      ∧ ∃ cards, (Session.answerCards threeCards (.line " 2, ,\t3 ,2")).result = .chosen cards
          ∧ cards.map (·.name) = ["ember", "flame", "ember"] := by
  have hline : joinedLine secondThirdSecond = " 2, ,\t3 ,2" := by decide
  have hpow (k : Nat) (hk : k ≠ 0) : 3 < Nat.pow 10 k := by
    have : 10 ≤ Nat.pow 10 k := Nat.le_self_pow hk 10
    omega
  have hsize : 3 < Nat.pow 10 mostNumeralDigits := hpow mostNumeralDigits (by decide)
  have hplaces : ∀ place ∈ typedPlaces secondThirdSecond, place < 3 := by decide
  obtain ⟨hread, hanswer⟩ := readSelection_joinedLine hsize hplaces
  obtain ⟨cards, hcards, hfilled⟩ := hanswer threeCards rfl
  rw [hline] at hread hcards
  refine ⟨hline, ⟨hsize, hplaces⟩, hread, cards, congrArg Scene.result hcards, ?_⟩
  obtain ⟨_, _, hfirst, hrest, rfl⟩ := List.forall₂_cons_left_iff.mp hfilled
  obtain ⟨_, _, hsecond, hlast, rfl⟩ := List.forall₂_cons_left_iff.mp hrest
  obtain ⟨_, _, hthird, hnone, rfl⟩ := List.forall₂_cons_left_iff.mp hlast
  cases hfirst
  cases hsecond
  cases hthird
  cases hnone
  rfl

end CardBattle
