/-
Turns of the two sides, taken in any order.

* `Turn` : a turn of the player under a list of requests, or a turn of the enemy;
* `Battle.take`, `Battle.takeAll` : the snapshot after a turn, and after a list of turns;
* `playerTurn_cases`, `enemyTurn_cases` : what the actors go through in a turn of an undecided
  battle;
* `takeAll_of_isOver` : no sequence of turns changes a decided battle;
* `takeAll_preserves` : what each turn preserves, a sequence of turns preserves.
-/
import CardBattle.Battle
import CardBattle.Proofs.Resolution
import Mathlib.Tactic

namespace CardBattle

/-- A turn of one of the two sides. -/
inductive Turn where
  | player (requests : List Card)
  | enemy
  deriving DecidableEq, Repr

namespace Battle

variable {b next : Battle}

/-! ### Single turns -/

/-- The snapshot after a turn. -/
def take (b : Battle) : Turn → Except Double.Fault Battle
  | .player requests => b.playerTurn requests
  | .enemy => b.enemyTurn

lemma take_of_isOver (h : b.isOver = true) (turn : Turn) : b.take turn = .ok b := by
  cases turn with
  | player requests => exact playerTurn_of_isOver h requests
  | enemy => exact enemyTurn_of_isOver h

/-- In a turn of the player the effects of the turn are resolved, from the power of the turn in
reserve. -/
lemma playerTurn_cases {requests : List Card} (hopen : b.isOver = false)
    (h : b.playerTurn requests = .ok next) :
    ∃ after, (Actors.mk b.enemy b.readyPlayer).run (b.playerTurnEffects requests) = .ok after
      ∧ next = b.settled after := by
  rw [playerTurn, if_neg (by simp [hopen])] at h
  obtain ⟨after, hrun, hnext⟩ := map_eq_ok_iff.mp h
  exact ⟨after, hrun, hnext.symm⟩

/-- The effects that the enemy resolves after its queue: none where its turn is skipped. -/
def phaseEffects (enemy : Enemy) : List Effect :=
  if enemy.skipsNext then [] else enemyPhaseEffects enemy

lemma enemyPhase_eq_run (actors : Actors) :
    enemyPhase actors = actors.run (phaseEffects actors.enemy) := by
  rw [enemyPhase, phaseEffects]
  split
  · exact (Actors.run_nil actors).symm
  · rfl

/-- In a turn of the enemy the queue is resolved, then the effects of the enemy's phase. -/
lemma enemyTurn_cases (hopen : b.isOver = false) (h : b.enemyTurn = .ok next) :
    ∃ queued after, b.actors.run b.enemy.oneShot = .ok queued
      ∧ queued.run (phaseEffects queued.enemy) = .ok after ∧ next = b.closed after := by
  rw [enemyTurn, if_neg (by simp [hopen])] at h
  obtain ⟨queued, hqueue, hrest⟩ := bind_eq_ok_iff.mp h
  obtain ⟨after, hphase, hnext⟩ := bind_eq_ok_iff.mp hrest
  rw [enemyPhase_eq_run] at hphase
  exact ⟨queued, after, hqueue, hphase, (Except.ok.inj hnext).symm⟩

/-! ### Sequences of turns -/

/-- The snapshot after turns, in order. -/
def takeAll (b : Battle) (turns : List Turn) : Except Double.Fault Battle := turns.foldlM take b

@[simp] lemma takeAll_nil (b : Battle) : b.takeAll [] = .ok b := rfl

lemma takeAll_cons (b : Battle) (turn : Turn) (turns : List Turn) :
    b.takeAll (turn :: turns) = b.take turn >>= fun next => next.takeAll turns := rfl

lemma takeAll_cons_eq_ok_iff {turn : Turn} {turns : List Turn} :
    b.takeAll (turn :: turns) = .ok next
      ↔ ∃ mid, b.take turn = .ok mid ∧ mid.takeAll turns = .ok next := by
  rw [takeAll_cons]
  exact bind_eq_ok_iff

/-- No sequence of turns changes a decided battle. -/
lemma takeAll_of_isOver (h : b.isOver = true) (turns : List Turn) : b.takeAll turns = .ok b := by
  induction turns with
  | nil => rfl
  | cons turn turns ih =>
      rw [takeAll_cons, take_of_isOver h]
      exact ih

/-- What each turn preserves, a sequence of turns preserves. -/
theorem takeAll_preserves {P : Battle → Prop} {turns : List Turn}
    (hstep : ∀ b b' : Battle, ∀ turn, P b → b.take turn = .ok b' → P b')
    (hstart : P b) (h : b.takeAll turns = .ok next) : P next := by
  induction turns generalizing b with
  | nil =>
      rw [takeAll_nil] at h
      exact Except.ok.inj h ▸ hstart
  | cons turn turns ih =>
      obtain ⟨mid, hmid, hnext⟩ := takeAll_cons_eq_ok_iff.mp h
      exact ih (hstep b mid turn hstart hmid) hnext

end Battle

end CardBattle
