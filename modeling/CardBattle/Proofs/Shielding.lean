/-
What shields let through, in closed form.

* `absorb_eq_clamped` : shields in sequence are changes of an amount that is kept above zero;
* `isGreatest_absorb` : so what they let through is the greatest of the sums that it can come to;
* `absorb_of_nonneg` : where no shield is negative, it is what their total leaves of the amount, at
  least zero; `absorb_insert_le`: one more of them never lets more through;
* `taken_closedForm` : so only the total of the shields of a player counts, not their order, not
  what else is active between them, and not into how many parts one of them is split.
-/
import CardBattle.Proofs.Absorption
import CardBattle.Proofs.Clamped
import Mathlib.Tactic

namespace CardBattle

/-! ### Shields in sequence -/

section Shields

variable {amount shield : Int} {shields first rest : List Int}

/-- Shields are changes of the amount, each result raised to zero. -/
lemma absorb_eq_clamped (amount : Int) (shields : List Int) :
    absorb amount shields = clamped 0 amount (shields.map fun shield => -shield) := by
  simp only [absorb, clamped, List.foldl_map, sub_eq_add_neg]

/-- What shields let through is the greatest of the amount less all shields and of what each later
part of them leaves of zero. -/
theorem isGreatest_absorb (amount : Int) (shields : List Int) :
    IsGreatest {x | x = amount - shields.sum
        ∨ ∃ k, 1 ≤ k ∧ k ≤ shields.length ∧ x = -(shields.drop k).sum} (absorb amount shields) := by
  have hsums : clampedSums 0 amount (shields.map fun shield => -shield)
      = {x | x = amount - shields.sum
          ∨ ∃ k, 1 ≤ k ∧ k ≤ shields.length ∧ x = -(shields.drop k).sum} := by
    simp only [clampedSums, ← List.map_drop, ← List.sum_neg, List.length_map, zero_add,
      sub_eq_add_neg]
  rw [absorb_eq_clamped, ← hsums]
  exact isGreatest_clamped 0 amount _

/-- Shields that are not negative leave of an amount what is above their total, at least zero. -/
lemma absorb_of_nonneg (h : shields ≠ [] ∨ 0 ≤ amount) (hshields : ∀ shield ∈ shields, 0 ≤ shield) :
    absorb amount shields = max 0 (amount - shields.sum) := by
  rcases eq_or_ne shields [] with rfl | hne
  · have hamount : 0 ≤ amount := h.resolve_left (· rfl)
    rw [absorb_nil, List.sum_nil, sub_zero, max_eq_right hamount]
  · have hlower : ∀ change ∈ shields.map fun shield => -shield, change ≤ 0 :=
      List.forall_mem_map.mpr fun shield hshield =>
        Int.neg_nonpos_of_nonneg (hshields shield hshield)
    rw [absorb_eq_clamped, clamped_of_nonpos (by simpa using hne) hlower, ← List.sum_neg,
      sub_eq_add_neg]

/-- Shields that are not negative, in the place of one of their total, change nothing. -/
lemma absorb_split {parts : List Int} (hne : parts ≠ []) (hparts : ∀ part ∈ parts, 0 ≤ part) :
    absorb amount (first ++ parts ++ rest) = absorb amount (first ++ parts.sum :: rest) := by
  rw [List.append_assoc, absorb_append, absorb_append, absorb_append, absorb_cons,
    absorb_of_nonneg (Or.inl hne) hparts]

/-- One more shield that is not negative lets no more through of an amount that is not negative,
whatever the others are. -/
lemma absorb_insert_le (hamount : 0 ≤ amount) (hshield : 0 ≤ shield) :
    absorb amount (first ++ shield :: rest) ≤ absorb amount (first ++ rest) := by
  have hfirst : 0 ≤ clamped 0 amount (first.map fun shield => -shield) :=
    le_clamped le_rfl hamount
  rw [absorb_eq_clamped, absorb_eq_clamped, List.map_append, List.map_append, List.map_cons]
  exact clamped_insert_le (by omega) hfirst

end Shields

/-! ### Shields of a player -/

/-- Whether an enchantment is a shield. -/
def Enchantment.isShield (e : Enchantment) : Bool := e.shield?.isSome

namespace Player

variable {player other : Player} {damage : Damage} {es first rest : List Enchantment}

/-- The player with other active enchantments. -/
def activating (player : Player) (es : List Enchantment) : Player := { player with activated := es }

@[simp] lemma shields_activating (player : Player) (es : List Enchantment) :
    (player.activating es).shields = es.filterMap (·.shield?) := rfl

/-- Only shields count among the active enchantments. -/
lemma shields_eq_filter (player : Player) :
    player.shields = (player.activated.filter (·.isShield)).filterMap (·.shield?) := by
  rw [List.filterMap_filter, shields]
  congr 1
  funext e
  cases h : e.shield? <;> simp [Enchantment.isShield, h]

/-- Where no shield is negative, players whose shields have the same total take the same, unless one
of them has none and the amount is negative. -/
lemma taken_eq_of_sum_eq (h : (player.shields ≠ [] ∧ other.shields ≠ []) ∨ 0 ≤ damage.amount)
    (hplayer : ∀ shield ∈ player.shields, 0 ≤ shield)
    (hother : ∀ shield ∈ other.shields, 0 ≤ shield)
    (hsum : other.shields.sum = player.shields.sum) :
    other.taken damage = player.taken damage := by
  rw [taken, taken, absorb_of_nonneg (h.imp_left (·.2)) hother,
    absorb_of_nonneg (h.imp_left (·.1)) hplayer, hsum]

/-- Where no shield is negative, the order of the active enchantments does not matter. -/
lemma taken_activating_of_perm (hshields : ∀ shield ∈ player.shields, 0 ≤ shield)
    (hperm : es.Perm player.activated) :
    (player.activating es).taken damage = player.taken damage := by
  have hsame : (player.activating es).shields.Perm player.shields := hperm.filterMap _
  rcases eq_or_ne player.shields [] with hnone | hsome
  · rw [hnone, List.perm_nil] at hsame
    rw [taken, taken, hsame, hnone]
  · refine taken_eq_of_sum_eq (Or.inl ⟨hsome, ?_⟩) hshields ?_ hsame.sum_eq
    · exact fun hnone => hsome (List.nil_perm.mp (hnone ▸ hsame))
    · exact fun shield hshield => hshields shield (hsame.mem_iff.mp hshield)

/-- What stands between the shields does not matter. -/
lemma taken_activating_of_filter_eq
    (hsame : es.filter (·.isShield) = player.activated.filter (·.isShield)) :
    (player.activating es).taken damage = player.taken damage := by
  rw [taken, taken, shields_eq_filter (player.activating es), shields_eq_filter player]
  exact congrArg (absorb damage.amount ·) (congrArg (List.filterMap _ ·) hsame)

/-- A shield may be split into several that are not negative, whatever the other shields are. -/
lemma taken_activating_split {parts : List Int} (hne : parts ≠ [])
    (hparts : ∀ part ∈ parts, 0 ≤ part)
    (hsplit : player.activated = first ++ .shield parts.sum :: rest) :
    (player.activating (first ++ parts.map .shield ++ rest)).taken damage
      = player.taken damage := by
  have hmap : (parts.map Enchantment.shield).filterMap (·.shield?) = parts := by
    simp [List.filterMap_map, Enchantment.shield?]
  have hwhole : player.shields
      = first.filterMap (·.shield?) ++ parts.sum :: rest.filterMap (·.shield?) := by
    simp [shields, hsplit, Enchantment.shield?]
  rw [taken, taken, shields_activating, hwhole, List.filterMap_append, List.filterMap_append, hmap,
    absorb_split hne hparts]

/-- One more shield that is not negative lets no more through of an amount that is not negative,
whatever the other shields are. -/
lemma taken_activating_insert_le {shield : Int} (hamount : 0 ≤ damage.amount) (hshield : 0 ≤ shield)
    (hsplit : player.activated = first ++ rest) :
    (player.activating (first ++ .shield shield :: rest)).taken damage ≤ player.taken damage := by
  have hmore : (player.activating (first ++ .shield shield :: rest)).shields
      = first.filterMap (·.shield?) ++ shield :: rest.filterMap (·.shield?) := by
    simp [Enchantment.shield?]
  have hfewer : player.shields = first.filterMap (·.shield?) ++ rest.filterMap (·.shield?) := by
    simp [shields, hsplit]
  rw [taken, taken, hmore, hfewer]
  exact absorb_insert_le hamount hshield

/-- Shields let through the greatest of the amount less all of them and of what each later part of
them leaves of zero; where none of them is negative, this is the amount less their total, at least
zero, but a negative amount without shields stays as it is. So of the shields of a player, if none
is negative, only the total counts. In particular their order among the active enchantments does not
matter; neither does, whatever their signs, what else is active between them, nor whether one of
them is split into several that are not negative. And one more that is not negative, at any place,
never lets more through of an amount that is not negative, and never less than nothing. -/
theorem taken_closedForm (damage : Damage) :
    (∀ shields : List Int,
      IsGreatest {x | x = damage.amount - shields.sum
          ∨ ∃ k, 1 ≤ k ∧ k ≤ shields.length ∧ x = -(shields.drop k).sum}
        (absorb damage.amount shields)
      ∧ ((shields ≠ [] ∨ 0 ≤ damage.amount) → (∀ shield ∈ shields, 0 ≤ shield) →
          absorb damage.amount shields = max 0 (damage.amount - shields.sum)))
    ∧ ∀ player : Player,
      ((∀ shield ∈ player.shields, 0 ≤ shield) →
        (∀ other : Player, (∀ shield ∈ other.shields, 0 ≤ shield) →
          ((player.shields ≠ [] ∧ other.shields ≠ []) ∨ 0 ≤ damage.amount) →
          other.shields.sum = player.shields.sum → other.taken damage = player.taken damage)
        ∧ ∀ es, es.Perm player.activated →
          (player.activating es).taken damage = player.taken damage)
      ∧ (∀ es, es.filter (·.isShield) = player.activated.filter (·.isShield) →
          (player.activating es).taken damage = player.taken damage)
      ∧ (∀ first rest parts, parts ≠ [] → (∀ part ∈ parts, 0 ≤ part) →
          player.activated = first ++ .shield parts.sum :: rest →
          (player.activating (first ++ parts.map .shield ++ rest)).taken damage
            = player.taken damage)
      ∧ (∀ first rest shield, 0 ≤ damage.amount → 0 ≤ shield → player.activated = first ++ rest →
          0 ≤ (player.activating (first ++ .shield shield :: rest)).taken damage
          ∧ (player.activating (first ++ .shield shield :: rest)).taken damage
              ≤ player.taken damage) := by
  refine ⟨fun shields => ⟨isGreatest_absorb damage.amount shields, absorb_of_nonneg⟩,
    fun player => ⟨fun hshields => ⟨fun other hother h hsum => ?_, fun es hperm => ?_⟩,
      fun es hsame => ?_, fun first rest parts hne hparts hsplit => ?_,
      fun first rest shield hamount hshield hsplit => ⟨?_, ?_⟩⟩⟩
  · exact taken_eq_of_sum_eq h hshields hother hsum
  · exact taken_activating_of_perm hshields hperm
  · exact taken_activating_of_filter_eq hsame
  · exact taken_activating_split hne hparts hsplit
  · exact absorb_nonneg hamount _
  · exact taken_activating_insert_le hamount hshield hsplit

/-- A player with shields of 2, 0 and 3 among other enchantments. -/
def shieldedPlayer : Player where
  hitPoints := 20
  activated := [.shield 2, .powerPerTurn 1, .shield 0, .lifePerTurn 1, .shield 3]

/-- Of 9 damage the shields let 4 through. So does a single one of 5, and so do they from the last
to the first, without the other enchantments, and with the shield of 3 split into 2 and 1; one more
shield of 7 in front of them lets no more through. -/
theorem taken_closedForm_shielded :
    (∀ shield ∈ shieldedPlayer.shields, 0 ≤ shield)
      ∧ shieldedPlayer.taken ⟨9, .wind⟩ = max 0 (9 - [2, 0, 3].sum)
      ∧ (shieldedPlayer.activating [.shield 5]).taken ⟨9, .wind⟩ = shieldedPlayer.taken ⟨9, .wind⟩
      ∧ (shieldedPlayer.activating shieldedPlayer.activated.reverse).taken ⟨9, .wind⟩
        = shieldedPlayer.taken ⟨9, .wind⟩
      ∧ (shieldedPlayer.activating [.shield 2, .shield 0, .shield 3]).taken ⟨9, .wind⟩
        = shieldedPlayer.taken ⟨9, .wind⟩
      ∧ (shieldedPlayer.activating
          ([.shield 2, .powerPerTurn 1, .shield 0, .lifePerTurn 1] ++ [2, 1].map .shield
            ++ [])).taken ⟨9, .wind⟩
        = shieldedPlayer.taken ⟨9, .wind⟩
      ∧ (shieldedPlayer.activating ([] ++ .shield 7 :: shieldedPlayer.activated)).taken ⟨9, .wind⟩
        ≤ shieldedPlayer.taken ⟨9, .wind⟩ := by
  have hshields : ∀ shield ∈ shieldedPlayer.shields, 0 ≤ shield := by decide
  obtain ⟨hamounts, hplayers⟩ := taken_closedForm ⟨9, .wind⟩
  obtain ⟨htotal, hbetween, hsplit, hmore⟩ := hplayers shieldedPlayer
  refine ⟨hshields, (hamounts [2, 0, 3]).2 (Or.inl (by decide)) (by decide), ?_, ?_, ?_, ?_, ?_⟩
  · exact (htotal hshields).1 _ (by decide) (Or.inl (by decide)) (by decide)
  · exact (htotal hshields).2 _ (List.reverse_perm _)
  · exact hbetween _ rfl
  · exact hsplit _ _ [2, 1] (by decide) (by decide) rfl
  · exact (hmore [] _ 7 (by decide) (by decide) rfl).2

/-- Shields of both signs let through another amount in another order. -/
example : absorb 4 [6, -3] = 3 ∧ absorb 4 [-3, 6] = 1 := by decide

end Player

end CardBattle
