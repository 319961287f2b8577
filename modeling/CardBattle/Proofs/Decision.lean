/-
When a battle is decided, for whom and on which turn.

* `Ruled` : the outcome of a snapshot is the one that the hit points give, on some turn;
  `Ruled.take` preserves it along every turn;
* `openEnemyTurns` : the turns of the enemy that a sequence takes while the battle is undecided;
* `decider?` : the turn of a sequence that decides the battle;
* `turn_takeAll` : the turn number counts the former; `turn?_takeAll`: the outcome carries the
  number of the latter;
* `takeAll_decision` : all of this in every snapshot that a started battle reaches.
-/
import CardBattle.Catalog.Cards
import CardBattle.Catalog.Enemies
import CardBattle.Proofs.Turns
import Mathlib.Tactic

namespace CardBattle

/-! ### The outcome that hit points give -/

namespace Outcome

variable {enemyHitPoints playerHitPoints turn : Int}

lemma exists_decide_eq_enemyWins_iff :
    (∃ t, decide enemyHitPoints playerHitPoints turn = .enemyWins t) ↔ playerHitPoints ≤ 0 := by
  unfold decide
  split_ifs with hplayer henemy <;> simp [hplayer]

lemma exists_decide_eq_playerWins_iff :
    (∃ t, decide enemyHitPoints playerHitPoints turn = .playerWins t)
      ↔ 0 < playerHitPoints ∧ enemyHitPoints ≤ 0 := by
  unfold decide
  split_ifs with hplayer henemy
  · simp [not_lt.mpr hplayer]
  · simp [not_le.mp hplayer, henemy]
  · simp [henemy]

lemma turn?_decide_of_isOver
    (h : (decide enemyHitPoints playerHitPoints turn).isOver = true) :
    (decide enemyHitPoints playerHitPoints turn).turn? = some turn := by
  unfold decide at h ⊢
  split_ifs at h ⊢ with hplayer henemy
  · rfl
  · rfl
  · exact absurd h Bool.false_ne_true

lemma eq_undecided_of_not_isOver {outcome : Outcome} (h : outcome.isOver = false) :
    outcome = .undecided := by
  cases outcome with
  | undecided => rfl
  | playerWins t => simp [isOver] at h
  | enemyWins t => simp [isOver] at h

end Outcome

/-- The number that a turn puts on an outcome, where the count of turns stands at `count` after
it: a turn of the enemy has moved the count on by then. -/
def Turn.stamp (count : Int) : Turn → Int
  | .player _ => count
  | .enemy => count - 1

namespace Battle

variable {b next : Battle}

/-! ### The rule of the outcome -/

/-- The outcome of a snapshot is the one that its hit points give, on some turn. -/
def Ruled (b : Battle) : Prop :=
  ∃ turn, b.outcome = .decide b.enemy.hitPoints b.player.hitPoints turn

lemma start_ruled {enemy : Enemy} {player : Player} (henemy : 0 < enemy.hitPoints)
    (hplayer : 0 < player.hitPoints) (powerPerTurn : Int) :
    (start enemy player powerPerTurn).Ruled :=
  ⟨1, (Outcome.decide_eq_undecided_iff.mpr ⟨hplayer, henemy⟩).symm⟩

/-- Every turn leaves the outcome that the hit points give, decided on the turn it was taken. -/
lemma outcome_take (hopen : b.isOver = false) {turn : Turn} (h : b.take turn = .ok next) :
    next.outcome = .decide next.enemy.hitPoints next.player.hitPoints b.turn := by
  cases turn with
  | player requests =>
      obtain ⟨after, _, rfl⟩ := playerTurn_cases hopen h
      rfl
  | enemy =>
      obtain ⟨_, after, _, _, rfl⟩ := enemyTurn_cases hopen h
      rfl

lemma Ruled.take (hruled : b.Ruled) {turn : Turn} (h : b.take turn = .ok next) : next.Ruled := by
  cases hover : b.isOver with
  | true =>
      rw [take_of_isOver hover] at h
      exact Except.ok.inj h ▸ hruled
  | false => exact ⟨b.turn, outcome_take hover h⟩

/-! ### The turn number -/

/-- The turns of the enemy, among turns in order, that find the battle undecided. -/
def openEnemyTurns (b : Battle) : List Turn → Nat
  | [] => 0
  | turn :: rest =>
      match b.take turn with
      | .error _ => 0
      | .ok next =>
          (if b.isOver = false ∧ turn = .enemy then 1 else 0) + next.openEnemyTurns rest

/-- The turn, among turns in order, that finds the battle undecided and decides it. -/
def decider? (b : Battle) : List Turn → Option Turn
  | [] => none
  | turn :: rest =>
      match b.take turn with
      | .error _ => none
      | .ok next =>
          if b.isOver = false ∧ next.isOver = true then some turn else next.decider? rest

/-- A turn of an undecided battle moves the count on if it is the enemy's. -/
lemma turn_take (hopen : b.isOver = false) {turn : Turn} (h : b.take turn = .ok next) :
    next.turn = b.turn + if turn = .enemy then 1 else 0 := by
  cases turn with
  | player requests =>
      have hturn : next.turn = b.turn := turn_playerTurn h
      simp [hturn]
  | enemy => exact turn_enemyTurn hopen h

/-- A turn that decides a battle puts its own number on the outcome. -/
lemma turn?_take (hopen : b.isOver = false) {turn : Turn} (h : b.take turn = .ok next)
    (hover : next.isOver = true) : next.outcome.turn? = some (turn.stamp next.turn) := by
  have houtcome := outcome_take hopen h
  have hnumber : next.outcome.turn? = some b.turn := by
    rw [isOver, houtcome] at hover
    rw [houtcome]
    exact Outcome.turn?_decide_of_isOver hover
  have hturn := turn_take hopen h
  rw [hnumber]
  cases turn with
  | player requests => simp [Turn.stamp, hturn]
  | enemy => simp [Turn.stamp, hturn]

/-- The count of turns grows by the turns of the enemy that find the battle undecided. -/
theorem turn_takeAll {turns : List Turn} (h : b.takeAll turns = .ok next) :
    next.turn = b.turn + b.openEnemyTurns turns := by
  induction turns generalizing b with
  | nil =>
      rw [takeAll_nil] at h
      simp [Except.ok.inj h, openEnemyTurns]
  | cons turn turns ih =>
      obtain ⟨mid, hmid, hnext⟩ := takeAll_cons_eq_ok_iff.mp h
      have hrest := ih hnext
      simp only [openEnemyTurns, hmid]
      cases hover : b.isOver with
      | true =>
          rw [take_of_isOver hover] at hmid
          obtain rfl := Except.ok.inj hmid
          simpa using hrest
      | false =>
          have hturn := turn_take hover hmid
          by_cases henemy : turn = .enemy
          · rw [if_pos henemy] at hturn
            rw [if_pos ⟨rfl, henemy⟩]
            omega
          · rw [if_neg henemy] at hturn
            rw [if_neg (fun hand => henemy hand.2)]
            omega

/-- The outcome carries the number of the turn that decided the battle, and none if there is no
such turn. -/
theorem turn?_takeAll {turns : List Turn} (hopen : b.isOver = false)
    (h : b.takeAll turns = .ok next) :
    next.outcome.turn? = (b.decider? turns).map (Turn.stamp next.turn) := by
  induction turns generalizing b with
  | nil =>
      rw [takeAll_nil] at h
      obtain rfl := Except.ok.inj h
      simp [decider?, Outcome.eq_undecided_of_not_isOver hopen, Outcome.turn?]
  | cons turn turns ih =>
      obtain ⟨mid, hmid, hnext⟩ := takeAll_cons_eq_ok_iff.mp h
      simp only [decider?, hmid]
      cases hover : mid.isOver with
      | true =>
          -- the rest of the turns leaves the decided battle alone
          rw [takeAll_of_isOver hover] at hnext
          obtain rfl := Except.ok.inj hnext
          simpa [hopen] using turn?_take hopen hmid hover
      | false => simpa using ih hover hnext

/-! ### Started battles -/

/-- In every snapshot that a started battle reaches, the outcome is the one of the hit points, a
simultaneous knock-out being a win of the enemy; the count of turns is one more than the turns of
the enemy that found the battle undecided; the outcome carries the number of the turn that decided
it; and a decided battle stays as it is. -/
theorem takeAll_decision {enemy : Enemy} {player : Player} {powerPerTurn : Int}
    {turns : List Turn} (henemy : 0 < enemy.hitPoints) (hplayer : 0 < player.hitPoints)
    (h : (start enemy player powerPerTurn).takeAll turns = .ok b) :
    (b.isOver = false →
        0 < b.enemy.hitPoints ∧ 0 < b.player.hitPoints ∧ b.outcome.turn? = none)
      ∧ ((∃ t, b.outcome = .enemyWins t) ↔ b.player.hitPoints ≤ 0)
      ∧ ((∃ t, b.outcome = .playerWins t) ↔ 0 < b.player.hitPoints ∧ b.enemy.hitPoints ≤ 0)
      ∧ b.turn = 1 + (start enemy player powerPerTurn).openEnemyTurns turns
      ∧ b.outcome.turn?
          = ((start enemy player powerPerTurn).decider? turns).map (Turn.stamp b.turn)
      ∧ (b.isOver = true → ∀ more, b.takeAll more = .ok b) := by
  obtain ⟨t, hruled⟩ : b.Ruled :=
    takeAll_preserves (fun _ _ _ hb hstep => hb.take hstep)
      (start_ruled henemy hplayer powerPerTurn) h
  refine ⟨fun hopen => ?_, ?_, ?_, turn_takeAll h, turn?_takeAll rfl h, takeAll_of_isOver⟩
  · have hundecided := Outcome.eq_undecided_of_not_isOver hopen
    obtain ⟨hp, he⟩ := Outcome.decide_eq_undecided_iff.mp (hruled.symm.trans hundecided)
    exact ⟨he, hp, by rw [hundecided]; rfl⟩
  · rw [hruled]
    exact Outcome.exists_decide_eq_enemyWins_iff
  · rw [hruled]
    exact Outcome.exists_decide_eq_playerWins_iff

/-- A player with one card and no more hit points than a volcano takes in a turn. -/
def lonePlayer : Player := { hitPoints := 8, cards := [Catalog.gust "gust"] }

/-- The volcano decides the battle on its first turn, and no later turn counts. -/
theorem takeAll_decision_volcano :
    0 < Catalog.volcano.hitPoints ∧ 0 < lonePlayer.hitPoints
      ∧ ∃ b, (start Catalog.volcano lonePlayer 3).takeAll
            [.player lonePlayer.cards, .enemy, .player lonePlayer.cards, .enemy] = .ok b
          ∧ b.enemy.hitPoints = 2 ∧ b.player.hitPoints ≤ 0
          ∧ b.turn = 2 ∧ b.outcome.turn? = some 1 ∧ ∀ more, b.takeAll more = .ok b := by
  have henemy : 0 < Catalog.volcano.hitPoints := by decide
  have hplayer : 0 < lonePlayer.hitPoints := by decide
  have hrun : (start Catalog.volcano lonePlayer 3).takeAll
      [.player lonePlayer.cards, .enemy, .player lonePlayer.cards, .enemy] = .ok _ := rfl
  refine ⟨henemy, hplayer, _, hrun, rfl, ?_⟩
  obtain ⟨_, hlost, _, hcount, hnumber, hstays⟩ := takeAll_decision henemy hplayer hrun
  exact ⟨hlost.mp ⟨1, rfl⟩, hcount, hnumber, hstays rfl⟩

end Battle

end CardBattle
