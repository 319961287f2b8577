/-
Skipped turns of the enemy.

* `Enemy.Marked` : a later enemy has one more mark in its queue for each of so many skips, and its
  flag is raised if there is one;
* `Actors.skipCount` : the skips that fire while effects are resolved; `marked_run`: a run queues a
  mark for each of them;
* `Battle.pendingSkips` : the skips that have fired in turns of the player since the last turn that
  the enemy took; `pending_takeAll`: they are what is queued;
* `takeAll_skips` : a turn of the enemy is skipped exactly when a skip is pending, and it leaves
  none pending, whatever fires in it.
-/
import CardBattle.Proofs.Decision
import Mathlib.Tactic

namespace CardBattle

/-! ### Marks -/

namespace Enemy

variable {first second third enemy next : Enemy} {m n : ℕ}

/-- The queue of `after` is that of `before` with `n` marks behind it, and the flag of `after` is
raised if it was before or there is a mark. -/
structure Marked (before after : Enemy) (n : ℕ) : Prop where
  oneShot : after.oneShot = before.oneShot ++ List.replicate n skipMark
  skipsNext : after.skipsNext = (before.skipsNext || decide (0 < n))

lemma Marked.refl (enemy : Enemy) : enemy.Marked enemy 0 := ⟨by simp, by simp⟩

lemma Marked.trans (h : first.Marked second m) (h' : second.Marked third n) :
    first.Marked third (m + n) where
  oneShot := by rw [h'.oneShot, h.oneShot, List.append_assoc, List.replicate_append_replicate]
  skipsNext := by
    rw [h'.skipsNext, h.skipsNext, Bool.or_assoc, ← Bool.decide_or]
    congr 2
    exact propext (by omega)

/-- A trigger queues a mark if it fires a skip, and nothing otherwise. -/
lemma marked_receive {hand : List Element} {trigger : Trigger}
    (h : enemy.receive hand trigger = .ok next) :
    enemy.Marked next (if trigger.fired? hand = some .skipTurn then 1 else 0) := by
  rcases receive_cases h with ⟨payload, hfired, happly⟩ | ⟨hfired, rfl⟩
  · rcases apply_cases happly with ⟨rfl, rfl⟩ | ⟨hpayload, hitPoints, rfl⟩
    · rw [if_pos hfired]
      exact ⟨rfl, by simp [markSkipped]⟩
    · rw [if_neg (by simpa [hfired] using hpayload)]
      exact ⟨by simp, by simp⟩
  · rw [if_neg (by simp [hfired])]
    exact Marked.refl _

/-- Nothing but `n` marks is queued, and the flag is raised exactly when there is one. -/
structure Pending (enemy : Enemy) (n : ℕ) : Prop where
  oneShot : enemy.oneShot = List.replicate n skipMark
  skipsNext : enemy.skipsNext = decide (0 < n)

lemma pending_settle (enemy : Enemy) : enemy.settle.Pending 0 := ⟨rfl, rfl⟩

lemma Pending.skipsNext_iff (h : enemy.Pending n) :
    enemy.skipsNext = true ↔ enemy.oneShot ≠ [] := by
  rw [h.skipsNext, h.oneShot, decide_eq_true_iff, Nat.pos_iff_ne_zero]
  simp

/-- What is queued later is pending with what was pending before. -/
lemma Pending.marked (h : enemy.Pending m) (hmarked : enemy.Marked next n) :
    next.Pending (m + n) := by
  have hfirst : enemy.settle.Marked enemy m := ⟨h.oneShot, h.skipsNext⟩
  have hboth := hfirst.trans hmarked
  exact ⟨hboth.oneShot, hboth.skipsNext⟩

end Enemy

/-! ### Skips that fire -/

namespace Actors

variable {actors next : Actors}

/-- Whether an effect, where it is resolved, makes the enemy skip its next turn. -/
def Skips (actors : Actors) (e : Effect) : Prop :=
  e.target = .enemy ∧ e.trigger.fired? actors.player.elements = some .skipTurn

instance (actors : Actors) (e : Effect) : Decidable (actors.Skips e) :=
  inferInstanceAs (Decidable (_ ∧ _))

/-- How many effects make the enemy skip, each one read where the earlier ones have been
resolved. -/
def skipCount (actors : Actors) : List Effect → ℕ
  | [] => 0
  | e :: rest =>
      (if actors.Skips e then 1 else 0)
        + match actors.resolve e with
          | .error _ => 0
          | .ok next => next.skipCount rest

lemma marked_resolve {e : Effect} (h : actors.resolve e = .ok next) :
    actors.enemy.Marked next.enemy (if actors.Skips e then 1 else 0) := by
  rcases resolve_cases h with ⟨htarget, player, _, rfl⟩ | ⟨htarget, enemy, henemy, rfl⟩
  · rw [if_neg (by simp [Skips, htarget])]
    exact Enemy.Marked.refl _
  · simpa [Skips, htarget] using Enemy.marked_receive henemy

/-- A run queues a mark for each skip that fires. -/
theorem marked_run {es : List Effect} (h : actors.run es = .ok next) :
    actors.enemy.Marked next.enemy (actors.skipCount es) := by
  induction es generalizing actors with
  | nil =>
      rw [run_nil] at h
      exact Except.ok.inj h ▸ Enemy.Marked.refl _
  | cons e es ih =>
      obtain ⟨mid, hmid, hrest⟩ := run_cons_eq_ok_iff.mp h
      rw [skipCount, hmid]
      exact (marked_resolve hmid).trans (ih hrest)

/-- The marks of a queue raise the flag and queue themselves again; what outlasts the turn of the
enemy stays as it is. -/
lemma run_replicate_skipMark (actors : Actors) (n : ℕ) :
    ∃ enemy, actors.run (List.replicate n Enemy.skipMark) = .ok { actors with enemy }
      ∧ enemy.settle = actors.enemy.settle
      ∧ enemy.skipsNext = (actors.enemy.skipsNext || decide (0 < n)) := by
  induction n generalizing actors with
  | zero => exact ⟨actors.enemy, rfl, rfl, by simp⟩
  | succ n ih =>
      obtain ⟨enemy, hrun, hsettle, hskips⟩ := ih { actors with enemy := actors.enemy.markSkipped }
      have hfirst : actors.resolve Enemy.skipMark
          = .ok { actors with enemy := actors.enemy.markSkipped } := rfl
      refine ⟨enemy, ?_, hsettle, ?_⟩
      · rw [List.replicate_succ, run_cons, hfirst]
        exact hrun
      · simp [hskips, Enemy.markSkipped]

end Actors

/-! ### Turns -/

namespace Battle

variable {b next : Battle} {n : ℕ}

/-- The skips that fire in a turn of the player. -/
def playerSkips (b : Battle) (requests : List Card) : ℕ :=
  (Actors.mk b.enemy b.readyPlayer).skipCount (b.playerTurnEffects requests)

/-- The skips that are pending after a turn, where `n` were before it: a turn of the player adds
those that fire in it, a turn that the enemy takes leaves none. -/
def pendingAfter (b : Battle) (n : ℕ) (turn : Turn) : ℕ :=
  if b.isOver then n
  else
    match turn with
    | .player requests => n + b.playerSkips requests
    | .enemy => 0

/-- The skips that have fired in turns of the player since the last turn that the enemy took; `n`
of them had before the first of the turns. -/
def pendingSkips (b : Battle) (n : ℕ) : List Turn → ℕ
  | [] => n
  | turn :: rest =>
      match b.take turn with
      | .error _ => n
      | .ok next => next.pendingSkips (b.pendingAfter n turn) rest

/-- A turn that the enemy takes leaves nothing pending. -/
lemma pending_enemyTurn (hopen : b.isOver = false) (h : b.enemyTurn = .ok next) :
    next.enemy.Pending 0 := by
  obtain ⟨_, after, _, _, rfl⟩ := enemyTurn_cases hopen h
  exact after.enemy.pending_settle

lemma pending_take (hpending : b.enemy.Pending n) {turn : Turn} (h : b.take turn = .ok next) :
    next.enemy.Pending (b.pendingAfter n turn) := by
  cases hover : b.isOver with
  | true =>
      rw [take_of_isOver hover] at h
      obtain rfl := Except.ok.inj h
      simpa [pendingAfter, hover] using hpending
  | false =>
      cases turn with
      | player requests =>
          obtain ⟨after, hrun, rfl⟩ := playerTurn_cases hover h
          rw [pendingAfter, if_neg (by simp [hover])]
          exact hpending.marked (Actors.marked_run hrun)
      | enemy =>
          rw [pendingAfter, if_neg (by simp [hover])]
          exact pending_enemyTurn hover h

/-- In every snapshot the skips that have fired in turns of the player since the last turn of the
enemy are pending. -/
theorem pending_takeAll (hpending : b.enemy.Pending n) {turns : List Turn}
    (h : b.takeAll turns = .ok next) : next.enemy.Pending (b.pendingSkips n turns) := by
  induction turns generalizing b n with
  | nil =>
      rw [takeAll_nil] at h
      exact Except.ok.inj h ▸ hpending
  | cons turn turns ih =>
      obtain ⟨mid, hmid, hnext⟩ := takeAll_cons_eq_ok_iff.mp h
      rw [pendingSkips, hmid]
      exact ih (pending_take hpending hmid) hnext

/-- Where skips are pending, the turn of the enemy moves the count of turns on and clears them, and
nothing else happens. -/
lemma enemyTurn_of_pending (hruled : b.Ruled) (hopen : b.isOver = false)
    (hpending : b.enemy.Pending n) (hpos : 0 < n) :
    b.enemyTurn = .ok { b with enemy := b.enemy.settle, turn := b.turn + 1 } := by
  obtain ⟨enemy, hrun, hsettle, hskips⟩ := b.actors.run_replicate_skipMark n
  have hqueue : b.actors.run b.enemy.oneShot = .ok { b.actors with enemy } := by
    rw [hpending.oneShot, hrun]
  have hskipped : enemy.skipsNext = true := by simp [hskips, hpos]
  have hphase : enemyPhase { b.actors with enemy } = .ok { b.actors with enemy } := by
    simp [enemyPhase, hskipped]
  have hhitPoints : enemy.settle.hitPoints = b.enemy.settle.hitPoints :=
    congrArg Enemy.hitPoints hsettle
  -- both sides still stand, so the outcome stays open
  have houtcome : Outcome.decide b.enemy.hitPoints b.player.hitPoints b.turn = b.outcome := by
    obtain ⟨t, hb⟩ := hruled
    have hundecided := Outcome.eq_undecided_of_not_isOver hopen
    have hstanding := Outcome.decide_eq_undecided_iff.mp (hb.symm.trans hundecided)
    rw [hundecided]
    exact Outcome.decide_eq_undecided_iff.mpr hstanding
  have hclosed : b.closed { b.actors with enemy }
      = { b with enemy := b.enemy.settle, turn := b.turn + 1 } := by
    have hdecided : Outcome.decide enemy.hitPoints b.player.hitPoints b.turn = b.outcome :=
      hhitPoints ▸ houtcome
    rw [closed, settled, hsettle]
    exact congrArg (fun outcome =>
      { b with enemy := b.enemy.settle, turn := b.turn + 1, outcome }) hdecided
  rw [enemyTurn, if_neg (by simp [hopen]), hqueue]
  show (enemyPhase { b.actors with enemy } >>= fun after => .ok (b.closed after)) = _
  rw [hphase]
  exact congrArg Except.ok hclosed

/-- Where no skip is pending, the turn of the enemy is its whole phase. -/
lemma enemyTurn_of_pending_zero (hopen : b.isOver = false) (hpending : b.enemy.Pending 0) :
    b.enemyTurn = (b.actors.run (enemyPhaseEffects b.enemy)).map b.closed := by
  have hqueue : b.actors.run b.enemy.oneShot = .ok b.actors := by
    rw [hpending.oneShot]
    rfl
  have hphase : enemyPhase b.actors = b.actors.run (enemyPhaseEffects b.enemy) := by
    have hskips : b.actors.enemy.skipsNext = false := hpending.skipsNext
    rw [enemyPhase, if_neg (by simp [hskips])]
    rfl
  rw [enemyTurn, if_neg (by simp [hopen]), hqueue]
  show (enemyPhase b.actors >>= fun after => .ok (b.closed after)) = _
  rw [hphase]
  cases b.actors.run (enemyPhaseEffects b.enemy) <;> rfl

/-- In every snapshot that a started battle reaches, the queue holds a mark for each skip that has
fired in a turn of the player since the last turn of the enemy, nothing else, and the flag is
raised exactly when it is not empty. A turn that the enemy takes is skipped if there is such a
skip, however many there are: then it moves the count of turns on, clears the flag and the queue,
and changes nothing else. Otherwise it is the whole phase of the enemy. Either way the flag and the
queue are clear after it, whatever fired in it, and the next turn of the enemy is a whole phase. -/
theorem takeAll_skips {enemy : Enemy} {player : Player} {powerPerTurn : Int} {turns : List Turn}
    (henemy : 0 < enemy.hitPoints) (hplayer : 0 < player.hitPoints)
    (hflag : enemy.skipsNext = false) (hqueue : enemy.oneShot = [])
    (h : (start enemy player powerPerTurn).takeAll turns = .ok b) :
    b.enemy.oneShot
        = List.replicate ((start enemy player powerPerTurn).pendingSkips 0 turns) Enemy.skipMark
      ∧ (b.enemy.skipsNext = true ↔ b.enemy.oneShot ≠ [])
      ∧ (b.isOver = false →
          b.enemyTurn
            = if 0 < (start enemy player powerPerTurn).pendingSkips 0 turns then
                .ok { b with enemy := b.enemy.settle, turn := b.turn + 1 }
              else (b.actors.run (enemyPhaseEffects b.enemy)).map b.closed)
      ∧ ∀ next, b.isOver = false → b.enemyTurn = .ok next →
          next.enemy.skipsNext = false ∧ next.enemy.oneShot = []
            ∧ (next.isOver = false →
                next.enemyTurn
                  = (next.actors.run (enemyPhaseEffects next.enemy)).map next.closed) := by
  have hpending : b.enemy.Pending ((start enemy player powerPerTurn).pendingSkips 0 turns) :=
    pending_takeAll ⟨hqueue, hflag⟩ h
  have hruled : b.Ruled :=
    takeAll_preserves (fun _ _ _ hb hstep => hb.take hstep)
      (start_ruled henemy hplayer powerPerTurn) h
  refine ⟨hpending.oneShot, hpending.skipsNext_iff, fun hopen => ?_, fun next hopen hnext => ?_⟩
  · split_ifs with hpos
    · exact enemyTurn_of_pending hruled hopen hpending hpos
    · rw [Nat.eq_zero_of_not_pos hpos] at hpending
      exact enemyTurn_of_pending_zero hopen hpending
  · have hclear := pending_enemyTurn hopen hnext
    exact ⟨hclear.skipsNext, hclear.oneShot, fun hopen' => enemyTurn_of_pending_zero hopen' hclear⟩

/-- An enemy that attacks and then makes itself skip a turn. -/
def drowsyEnemy : Enemy := Catalog.floods.withTurnEnd .skipTurn

/-- A player with two cards that make the enemy skip a turn. -/
def delayingPlayer : Player :=
  { hitPoints := 20, cards := [Catalog.timeSlip "slip", Catalog.timeSlip "slide"] }

/-- Two skips in one turn cost the enemy one turn. In the next one it attacks, and its own skip
does not keep it from attacking in the one after. -/
theorem takeAll_skips_drowsy :
    0 < drowsyEnemy.hitPoints ∧ 0 < delayingPlayer.hitPoints
      ∧ drowsyEnemy.skipsNext = false ∧ drowsyEnemy.oneShot = []
      ∧ ∃ b next,
          (start drowsyEnemy delayingPlayer 6).takeAll [.player delayingPlayer.cards] = .ok b
          ∧ b.enemy.oneShot = [Enemy.skipMark, Enemy.skipMark]
          ∧ b.enemyTurn = .ok { b with enemy := b.enemy.settle, turn := b.turn + 1 }
          ∧ (start drowsyEnemy delayingPlayer 6).takeAll
              [.player delayingPlayer.cards, .enemy, .enemy] = .ok next
          ∧ next.player.hitPoints = 15 ∧ next.enemy.oneShot = []
          ∧ next.enemyTurn = (next.actors.run (enemyPhaseEffects next.enemy)).map next.closed := by
  have henemy : 0 < drowsyEnemy.hitPoints := by decide
  have hplayer : 0 < delayingPlayer.hitPoints := by decide
  have hrun : (start drowsyEnemy delayingPlayer 6).takeAll [.player delayingPlayer.cards]
      = .ok _ := rfl
  have hrun' : (start drowsyEnemy delayingPlayer 6).takeAll
      [.player delayingPlayer.cards, .enemy, .enemy] = .ok _ := rfl
  obtain ⟨hqueue, _, hskipped, _⟩ := takeAll_skips henemy hplayer rfl rfl hrun
  obtain ⟨hqueue', _, hphase, _⟩ := takeAll_skips henemy hplayer rfl rfl hrun'
  exact ⟨henemy, hplayer, rfl, rfl, _, _, hrun, hqueue, hskipped rfl, hrun', rfl, hqueue',
    hphase rfl⟩

end Battle

end CardBattle
