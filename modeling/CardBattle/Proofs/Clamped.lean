/-
Changes that are added one after another while the total is kept above a floor.

* `clamped` : the total after such changes;
* `clampedSums` : what the total can come to, all changes added to the start, or the changes behind
  some point added to the floor;
* `isGreatest_clamped` : the total is the greatest of these;
* `clamped_of_nonpos` : where no change raises the total, the floor matters at the end alone;
* `clamped_insert_le` : one more change that does not raise the total leaves it lower or as it was,
  if it was not below the floor before that change; `NeverRaised`: a total that starts one higher
  ends one higher exactly if the floor raises the lower one nowhere.
-/
import Mathlib.Tactic

namespace CardBattle

variable {floor start change : Int} {changes : List Int}

/-- A total after changes, raised to the floor after each of them. -/
def clamped (floor start : Int) (changes : List Int) : Int :=
  changes.foldl (fun total change => max floor (total + change)) start

@[simp] lemma clamped_nil (floor start : Int) : clamped floor start [] = start := rfl

@[simp] lemma clamped_cons (floor start change : Int) (changes : List Int) :
    clamped floor start (change :: changes) = clamped floor (max floor (start + change)) changes :=
  rfl

lemma clamped_append (floor start : Int) (first second : List Int) :
    clamped floor start (first ++ second) = clamped floor (clamped floor start first) second :=
  List.foldl_append

/-- The sums that a total can come to: the start with all changes, or the floor with the changes
behind one of them. -/
def clampedSums (floor start : Int) (changes : List Int) : Set Int :=
  {x | x = start + changes.sum
    ∨ ∃ k, 1 ≤ k ∧ k ≤ changes.length ∧ x = floor + (changes.drop k).sum}

/-- A total is never below a sum that it can come to. -/
lemma le_clamped_of_mem {x : Int} (h : x ∈ clampedSums floor start changes) :
    x ≤ clamped floor start changes := by
  induction changes generalizing start x with
  | nil =>
      rcases h with rfl | ⟨k, hpos, hle, _⟩
      · simp
      · rw [List.length_nil] at hle
        omega
  | cons change rest ih =>
      have hlater : max floor (start + change) + rest.sum
          ≤ clamped floor (max floor (start + change)) rest := ih (Or.inl rfl)
      rw [clamped_cons]
      rcases h with rfl | ⟨k, hpos, hle, rfl⟩
      · rw [List.sum_cons]
        omega
      · obtain ⟨j, rfl⟩ : ∃ j, k = j + 1 := ⟨k - 1, by omega⟩
        rw [List.drop_succ_cons]
        rcases Nat.eq_zero_or_pos j with rfl | hj
        · rw [List.drop_zero]
          omega
        · rw [List.length_cons] at hle
          exact ih (Or.inr ⟨j, hj, by omega, rfl⟩)

/-- A total is one of the sums that it can come to. -/
lemma clamped_mem (floor start : Int) (changes : List Int) :
    clamped floor start changes ∈ clampedSums floor start changes := by
  induction changes generalizing start with
  | nil => exact Or.inl (by simp)
  | cons change rest ih =>
      rw [clamped_cons]
      rcases ih (max floor (start + change)) with hall | ⟨k, hpos, hle, hrest⟩
      · rw [hall]
        rcases max_choice floor (start + change) with hfloor | hstart
        · exact Or.inr ⟨1, le_rfl, by simp, by rw [hfloor, List.drop_one, List.tail_cons]⟩
        · exact Or.inl (by rw [hstart, List.sum_cons, add_assoc])
      · refine Or.inr ⟨k + 1, by omega, by simpa using hle, ?_⟩
        rw [hrest, List.drop_succ_cons]

/-- A total is the greatest of the sums that it can come to. -/
theorem isGreatest_clamped (floor start : Int) (changes : List Int) :
    IsGreatest (clampedSums floor start changes) (clamped floor start changes) :=
  ⟨clamped_mem floor start changes, fun _ => le_clamped_of_mem⟩

/-- After a change a total is not below the floor. -/
lemma floor_le_clamped (h : changes ≠ []) : floor ≤ clamped floor start changes := by
  have hlast : floor + (changes.drop changes.length).sum ≤ clamped floor start changes :=
    le_clamped_of_mem (Or.inr ⟨_, List.length_pos_iff.mpr h, le_rfl, rfl⟩)
  simpa using hlast

/-- A total that starts at a bound or above it stays there, if the floor is not below the bound. -/
lemma le_clamped {bound : Int} (hfloor : bound ≤ floor) (hstart : bound ≤ start) :
    bound ≤ clamped floor start changes := by
  rcases eq_or_ne changes [] with rfl | h
  · exact hstart
  · exact hfloor.trans (floor_le_clamped h)

/-- Where no change raises the total, the floor matters at the end alone. -/
lemma clamped_of_nonpos (h : changes ≠ []) (hchanges : ∀ change ∈ changes, change ≤ 0) :
    clamped floor start changes = max floor (start + changes.sum) := by
  have hraised : max floor (clamped floor start changes) = max floor (start + changes.sum) := by
    clear h
    induction changes generalizing start with
    | nil => simp
    | cons change rest ih =>
        obtain ⟨_, hrest⟩ := List.forall_mem_cons.mp hchanges
        have hsum : rest.sum ≤ 0 := by simpa using List.sum_le_card_nsmul rest 0 hrest
        rw [clamped_cons, ih hrest, List.sum_cons]
        omega
  rw [← hraised, max_eq_right (floor_le_clamped h)]

/-! ### Totals compared -/

/-- A total that starts no lower ends no lower. -/
lemma clamped_mono {higher : Int} (h : start ≤ higher) :
    clamped floor start changes ≤ clamped floor higher changes := by
  induction changes generalizing start higher with
  | nil => exact h
  | cons change rest ih =>
      have hnext : max floor (start + change) ≤ max floor (higher + change) := by omega
      exact ih hnext

/-- One more change that does not raise the total leaves it lower or as it was, if it was not below
the floor before that change. -/
lemma clamped_insert_le {first rest : List Int} (hchange : change ≤ 0)
    (hfirst : floor ≤ clamped floor start first) :
    clamped floor start (first ++ change :: rest) ≤ clamped floor start (first ++ rest) := by
  rw [clamped_append, clamped_append, clamped_cons]
  exact clamped_mono (by omega)

/-- Whether the floor raises a total nowhere: after each change, all changes so far leave it at the
floor or above. -/
def NeverRaised (floor start : Int) (changes : List Int) : Prop :=
  ∀ k, 1 ≤ k → k ≤ changes.length → floor ≤ start + (changes.take k).sum

lemma neverRaised_cons_iff :
    NeverRaised floor start (change :: changes)
      ↔ floor ≤ start + change ∧ NeverRaised floor (start + change) changes := by
  constructor
  · intro h
    refine ⟨by simpa using h 1 le_rfl (by simp), fun k hpos hle => ?_⟩
    have hnext := h (k + 1) (by omega) (by simpa using hle)
    rwa [List.take_succ_cons, List.sum_cons, ← add_assoc] at hnext
  · rintro ⟨hfirst, hrest⟩ k hpos hle
    obtain ⟨j, rfl⟩ : ∃ j, k = j + 1 := ⟨k - 1, by omega⟩
    rw [List.take_succ_cons, List.sum_cons, ← add_assoc]
    rcases Nat.eq_zero_or_pos j with rfl | hj
    · simpa using hfirst
    · exact hrest j hj (by simpa using hle)

/-- Where the floor raises a total nowhere, one that starts one higher ends one higher. -/
lemma clamped_add_one (h : NeverRaised floor start changes) :
    clamped floor (start + 1) changes = clamped floor start changes + 1 := by
  induction changes generalizing start with
  | nil => rfl
  | cons change rest ih =>
      obtain ⟨hfirst, hrest⟩ := neverRaised_cons_iff.mp h
      have hlower : max floor (start + change) = start + change := max_eq_right hfirst
      have hhigher : max floor (start + 1 + change) = start + change + 1 := by omega
      rw [clamped_cons, clamped_cons, hlower, hhigher, ih hrest]

/-- Where the floor raises it, one that starts one higher ends as it does. -/
lemma clamped_add_one_of_not (h : ¬ NeverRaised floor start changes) :
    clamped floor (start + 1) changes = clamped floor start changes := by
  induction changes generalizing start with
  | nil => exact absurd (fun k hpos hle => absurd (hpos.trans hle) (by simp)) h
  | cons change rest ih =>
      rw [clamped_cons, clamped_cons]
      by_cases hfirst : floor ≤ start + change
      · have hrest : ¬ NeverRaised floor (start + change) rest := fun hrest =>
          h (neverRaised_cons_iff.mpr ⟨hfirst, hrest⟩)
        have hhigher : max floor (start + 1 + change) = start + change + 1 := by omega
        rw [max_eq_right hfirst, hhigher, ih hrest]
      · -- the floor raises both totals to itself
        have hsame : max floor (start + 1 + change) = max floor (start + change) := by omega
        rw [hsame]

end CardBattle
