/-
Effects aimed at one side, and effects aimed at the other.

* `Effect.aimedAt` : the effects of a list that are aimed at a side, in order;
* `Enemy.receiveAll`, `Player.receiveAll` : an actor after the triggers of effects, while the other
  one stays as it is; of the player the enemy reads the elements of the hand, and the player reads
  nothing of the enemy;
* `Player.elements_receive` : only a discard changes the elements of the hand;
* `run_eq_ok_iff_receiveAll` : a run without discards gives each actor what the effects aimed at it
  give that actor alone; `runNotes_perm_receiveAllNotes`: its notes are those on the one and those
  on the other;
* `run_streams` : so the two streams of such a run may be resolved apart, and interleaved anew.
-/
import CardBattle.Catalog.Cards
import CardBattle.Catalog.Enemies
import CardBattle.Proofs.Resolution
import CardBattle.Proofs.Told
import Mathlib.Tactic

namespace CardBattle

/-! ### Effects aimed at a side -/

namespace Effect

variable {side other : Side} {es : List Effect} {e : Effect}

/-- The effects that are aimed at a side, in order. -/
def aimedAt (side : Side) (es : List Effect) : List Effect := es.filter (·.target = side)

lemma mem_aimedAt : e ∈ aimedAt side es ↔ e ∈ es ∧ e.target = side := by
  simp [aimedAt]

lemma aimedAt_cons_self (h : e.target = side) : aimedAt side (e :: es) = e :: aimedAt side es := by
  simp [aimedAt, h]

lemma aimedAt_cons_of_ne (h : e.target ≠ side) : aimedAt side (e :: es) = aimedAt side es := by
  simp [aimedAt, h]

lemma aimedAt_aimedAt (side : Side) (es : List Effect) :
    aimedAt side (aimedAt side es) = aimedAt side es := by
  simp [aimedAt]

/-- No effect is aimed at both sides. -/
lemma aimedAt_aimedAt_of_ne (h : side ≠ other) (es : List Effect) :
    aimedAt side (aimedAt other es) = [] := by
  refine List.filter_eq_nil_iff.mpr fun e he => ?_
  rw [(mem_aimedAt.mp he).2]
  simpa using h.symm

/-- Lists with the same effects for each side have the same effects. -/
lemma mem_of_mem_interleaving {others : List Effect}
    (h : ∀ side, aimedAt side others = aimedAt side es) (he : e ∈ others) : e ∈ es := by
  have haimed : e ∈ aimedAt e.target others := mem_aimedAt.mpr ⟨he, rfl⟩
  rw [h] at haimed
  exact (mem_aimedAt.mp haimed).1

end Effect

/-! ### One actor alone -/

/-- The enemy after the triggers of effects, where the hand holds the given elements. -/
def Enemy.receiveAll (enemy : Enemy) (hand : List Element) (es : List Effect) :
    Except Double.Fault Enemy :=
  es.foldlM (fun enemy e => enemy.receive hand e.trigger) enemy

/-- The player after the triggers of effects. -/
def Player.receiveAll (player : Player) (es : List Effect) : Except Double.Fault Player :=
  es.foldlM (fun player e => player.receive e.trigger) player

/-- The notes on the enemy's share of a run, up to the effect that fails if one does. -/
def Enemy.receiveAllNotes (enemy : Enemy) (hand : List Element) : List Effect → List Draft
  | [] => []
  | e :: rest =>
      .told .debug .battle ("Resolve " ++ e.description) :: enemy.receiveNotes hand e.trigger
        ++ match enemy.receive hand e.trigger with
          | .error _ => []
          | .ok next => next.receiveAllNotes hand rest

/-- The notes on the player's share of a run, up to the effect that fails if one does. -/
def Player.receiveAllNotes (player : Player) : List Effect → List Draft
  | [] => []
  | e :: rest =>
      .told .debug .battle ("Resolve " ++ e.description) :: player.receiveNotes e.trigger
        ++ match player.receive e.trigger with
          | .error _ => []
          | .ok next => next.receiveAllNotes rest

lemma Enemy.receiveAll_cons_eq_ok_iff {enemy next : Enemy} {hand : List Element} {e : Effect}
    {es : List Effect} :
    enemy.receiveAll hand (e :: es) = .ok next
      ↔ ∃ mid, enemy.receive hand e.trigger = .ok mid ∧ mid.receiveAll hand es = .ok next := by
  rw [receiveAll, List.foldlM_cons]
  exact bind_eq_ok_iff

lemma Player.receiveAll_cons_eq_ok_iff {player next : Player} {e : Effect} {es : List Effect} :
    player.receiveAll (e :: es) = .ok next
      ↔ ∃ mid, player.receive e.trigger = .ok mid ∧ mid.receiveAll es = .ok next := by
  rw [receiveAll, List.foldlM_cons]
  exact bind_eq_ok_iff

/-- A trigger that is no discard leaves the elements of the hand as they are. -/
lemma Player.elements_receive {player next : Player} {trigger : Trigger}
    (hdiscard : trigger.isDiscard = false) (h : player.receive trigger = .ok next) :
    next.elements = player.elements := by
  rcases receive_cases h with ⟨cardId, rfl, _⟩ | ⟨payload, _, happly⟩ | ⟨_, _, rfl⟩
  · cases hdiscard
  · rcases apply_cases happly with ⟨amount, _, rfl⟩ | ⟨_, hitPoints, rfl⟩
    · rfl
    · rfl
  · rfl

/-! ### Both actors -/

namespace Actors

open Effect (aimedAt)

variable {actors next : Actors} {es : List Effect}

lemma resolve_eq_ok_iff_of_player {e : Effect} (h : e.target = .player) :
    actors.resolve e = .ok next
      ↔ ∃ player, actors.player.receive e.trigger = .ok player ∧ { actors with player } = next := by
  rw [resolve, h]
  exact map_eq_ok_iff

lemma resolve_eq_ok_iff_of_enemy {e : Effect} (h : e.target = .enemy) :
    actors.resolve e = .ok next
      ↔ ∃ enemy, actors.enemy.receive actors.player.elements e.trigger = .ok enemy
          ∧ { actors with enemy } = next := by
  rw [resolve, h]
  exact map_eq_ok_iff

/-- A run without discards gives each actor what the effects aimed at it give that actor alone,
against the other one as it was. -/
theorem run_eq_ok_iff_receiveAll (hkept : ∀ e ∈ es, e.isDiscard = false) :
    actors.run es = .ok next
      ↔ actors.enemy.receiveAll actors.player.elements (aimedAt .enemy es) = .ok next.enemy
        ∧ actors.player.receiveAll (aimedAt .player es) = .ok next.player := by
  induction es generalizing actors with
  | nil =>
      obtain ⟨enemy, player⟩ := actors
      obtain ⟨enemy', player'⟩ := next
      simp [aimedAt, Enemy.receiveAll, Player.receiveAll, pure, Except.pure]
  | cons e rest ih =>
      have hrest : ∀ e ∈ rest, e.isDiscard = false := fun e he =>
        hkept e (List.mem_cons_of_mem _ he)
      rw [run_cons_eq_ok_iff]
      cases htarget : e.target with
      | player =>
          rw [Effect.aimedAt_cons_self htarget, Effect.aimedAt_cons_of_ne (by simp [htarget]),
            Player.receiveAll_cons_eq_ok_iff]
          simp only [resolve_eq_ok_iff_of_player htarget]
          constructor
          · rintro ⟨_, ⟨player, hplayer, rfl⟩, hnext⟩
            obtain ⟨henemy, hothers⟩ := (ih hrest).mp hnext
            have hhand := Player.elements_receive (hkept e List.mem_cons_self) hplayer
            exact ⟨hhand ▸ henemy, player, hplayer, hothers⟩
          · rintro ⟨henemy, player, hplayer, hothers⟩
            have hhand := Player.elements_receive (hkept e List.mem_cons_self) hplayer
            exact ⟨_, ⟨player, hplayer, rfl⟩, (ih hrest).mpr ⟨hhand.symm ▸ henemy, hothers⟩⟩
      | enemy =>
          rw [Effect.aimedAt_cons_self htarget, Effect.aimedAt_cons_of_ne (by simp [htarget]),
            Enemy.receiveAll_cons_eq_ok_iff]
          simp only [resolve_eq_ok_iff_of_enemy htarget]
          constructor
          · rintro ⟨_, ⟨enemy, henemy, rfl⟩, hnext⟩
            obtain ⟨hothers, hplayer⟩ := (ih hrest).mp hnext
            exact ⟨⟨enemy, henemy, hothers⟩, hplayer⟩
          · rintro ⟨⟨enemy, henemy, hothers⟩, hplayer⟩
            exact ⟨_, ⟨enemy, henemy, rfl⟩, (ih hrest).mpr ⟨hothers, hplayer⟩⟩

/-- The notes on a run without discards that gives a result are those on the effects aimed at the
enemy and those on the effects aimed at the player, shuffled. -/
lemma runNotes_perm_receiveAllNotes (hkept : ∀ e ∈ es, e.isDiscard = false)
    (h : actors.run es = .ok next) :
    (actors.runNotes es).Perm
      (actors.enemy.receiveAllNotes actors.player.elements (aimedAt .enemy es)
        ++ actors.player.receiveAllNotes (aimedAt .player es)) := by
  induction es generalizing actors with
  | nil => exact List.Perm.refl _
  | cons e rest ih =>
      have hrest : ∀ e ∈ rest, e.isDiscard = false := fun e he =>
        hkept e (List.mem_cons_of_mem _ he)
      obtain ⟨mid, hstep, hothers⟩ := run_cons_eq_ok_iff.mp h
      have hshuffled := (ih hrest hothers).append_left (actors.stepNotes e)
      rw [runNotes, hstep]
      cases htarget : e.target with
      | player =>
          obtain ⟨player, hplayer, rfl⟩ := (resolve_eq_ok_iff_of_player htarget).mp hstep
          have hhand := Player.elements_receive (hkept e List.mem_cons_self) hplayer
          have hnotes : actors.resolveNotes e = actors.player.receiveNotes e.trigger := by
            rw [resolveNotes, htarget]
          rw [Effect.aimedAt_cons_self htarget, Effect.aimedAt_cons_of_ne (by simp [htarget]),
            Player.receiveAllNotes, hplayer, ← hnotes]
          dsimp only at hshuffled
          rw [hhand] at hshuffled
          -- the notes on this effect pass over those on the enemy's share
          exact hshuffled.trans (List.perm_append_comm_assoc _ _ _)
      | enemy =>
          obtain ⟨enemy, henemy, rfl⟩ := (resolve_eq_ok_iff_of_enemy htarget).mp hstep
          have hnotes : actors.resolveNotes e
              = actors.enemy.receiveNotes actors.player.elements e.trigger := by
            rw [resolveNotes, htarget]
          rw [Effect.aimedAt_cons_self htarget, Effect.aimedAt_cons_of_ne (by simp [htarget]),
            Enemy.receiveAllNotes, henemy, ← hnotes, List.append_assoc]
          exact hshuffled

/-- Interleavings of the same two streams have the same notes, in another order. -/
lemma runNotes_perm_of_interleaving {others : List Effect} (hkept : ∀ e ∈ es, e.isDiscard = false)
    (hothers : ∀ side, aimedAt side others = aimedAt side es) (h : actors.run es = .ok next)
    (h' : actors.run others = .ok next) : (actors.runNotes others).Perm (actors.runNotes es) := by
  have hkept' : ∀ e ∈ others, e.isDiscard = false := fun e he =>
    hkept e (Effect.mem_of_mem_interleaving hothers he)
  have hshuffled := runNotes_perm_receiveAllNotes hkept' h'
  rw [hothers, hothers] at hshuffled
  exact hshuffled.trans (runNotes_perm_receiveAllNotes hkept h).symm

/-- Where effects without discards give a result, the enemy of the result is the one that the
effects aimed at the enemy give against the player as it was, and the player is the one that the
effects aimed at the player give against the enemy as it was. So every interleaving of those two
streams gives the same result. The notes are those on the two streams, in another order, so it does
not depend on the interleaving either whether all of them can be written. -/
theorem run_streams (hkept : ∀ e ∈ es, e.isDiscard = false) (h : actors.run es = .ok next) :
    actors.run (aimedAt .enemy es) = .ok { actors with enemy := next.enemy }
      ∧ actors.run (aimedAt .player es) = .ok { actors with player := next.player }
      ∧ (∀ others, (∀ side, aimedAt side others = aimedAt side es) →
          actors.run others = .ok next)
      ∧ (actors.runNotes es).Perm
          (actors.runNotes (aimedAt .enemy es) ++ actors.runNotes (aimedAt .player es))
      ∧ ∀ watched others, (∀ side, aimedAt side others = aimedAt side es) →
          actors.runTold watched others = actors.runTold watched es := by
  obtain ⟨henemy, hplayer⟩ := (run_eq_ok_iff_receiveAll hkept).mp h
  have hkeptAimed (side : Side) : ∀ e ∈ aimedAt side es, e.isDiscard = false := fun e he =>
    hkept e (Effect.mem_aimedAt.mp he).1
  have henemyRun : actors.run (aimedAt .enemy es) = .ok { actors with enemy := next.enemy } := by
    rw [run_eq_ok_iff_receiveAll (hkeptAimed .enemy), Effect.aimedAt_aimedAt,
      Effect.aimedAt_aimedAt_of_ne (by simp)]
    exact ⟨henemy, rfl⟩
  have hplayerRun :
      actors.run (aimedAt .player es) = .ok { actors with player := next.player } := by
    rw [run_eq_ok_iff_receiveAll (hkeptAimed .player), Effect.aimedAt_aimedAt,
      Effect.aimedAt_aimedAt_of_ne (by simp)]
    exact ⟨rfl, hplayer⟩
  have hinterleaved : ∀ others, (∀ side, aimedAt side others = aimedAt side es) →
      actors.run others = .ok next := by
    intro others hothers
    have hkeptOthers : ∀ e ∈ others, e.isDiscard = false := fun e he =>
      hkept e (Effect.mem_of_mem_interleaving hothers he)
    rw [run_eq_ok_iff_receiveAll hkeptOthers, hothers, hothers]
    exact ⟨henemy, hplayer⟩
  refine ⟨henemyRun, hplayerRun, hinterleaved, ?_, fun watched others hothers => ?_⟩
  · have hofEnemy := runNotes_perm_receiveAllNotes (hkeptAimed .enemy) henemyRun
    have hofPlayer := runNotes_perm_receiveAllNotes (hkeptAimed .player) hplayerRun
    rw [Effect.aimedAt_aimedAt, Effect.aimedAt_aimedAt_of_ne (by simp), Player.receiveAllNotes,
      List.append_nil] at hofEnemy
    rw [Effect.aimedAt_aimedAt, Effect.aimedAt_aimedAt_of_ne (by simp), Enemy.receiveAllNotes,
      List.nil_append] at hofPlayer
    exact (runNotes_perm_receiveAllNotes hkept h).trans (hofEnemy.append hofPlayer).symm
  · have hshuffled := runNotes_perm_of_interleaving hkept hothers h (hinterleaved others hothers)
    rw [runTold, runTold, Draft.noted_of_perm hshuffled, hinterleaved others hothers, h]

/-- A drought against a player with a wind card and no land card. -/
def droughtActors : Actors := ⟨Catalog.drought, { hitPoints := 20, cards := [Catalog.gust "gust"] }⟩

/-- Effects for both sides, in turns; three of them ask about the hand. -/
def mixedEffects : List Effect :=
  [.elementDamage .water 6, .backlash .wind 4, .fractionDamage .half,
    .onPlayer "Shade" (.when (.lacks .land) (.power 2)), .skipTurn, .enemyAttack 3,
    .onEnemy "Dust" (.when (.holds .wind) (.life 5)), .heal 8]

/-- The drought loses 5 of its 25 hit points and half of the rest before it gains 5 again, whether
the effects are resolved in turns or the player's are resolved first, even if every note is read. -/
theorem run_streams_drought :
    (∀ e ∈ mixedEffects, e.isDiscard = false)
      ∧ ∃ next, droughtActors.run mixedEffects = .ok next
        ∧ droughtActors.run (aimedAt .enemy mixedEffects)
            = .ok { droughtActors with enemy := next.enemy }
        ∧ droughtActors.run (aimedAt .player mixedEffects)
            = .ok { droughtActors with player := next.player }
        ∧ droughtActors.run (aimedAt .player mixedEffects ++ aimedAt .enemy mixedEffects) = .ok next
        ∧ droughtActors.runTold (fun _ => true)
            (aimedAt .player mixedEffects ++ aimedAt .enemy mixedEffects) = .ok next
        ∧ next.enemy.hitPoints = 15 ∧ next.enemy.skipsNext = true
        ∧ next.player.hitPoints = 21 ∧ next.player.reserve = 2 := by
  have hkept : ∀ e ∈ mixedEffects, e.isDiscard = false := by decide
  have hrun : droughtActors.run mixedEffects
      = .ok ⟨{ Catalog.drought.markSkipped with hitPoints := 15 },
          { droughtActors.player with hitPoints := 21, reserve := 2 }⟩ := by
    decide +kernel
  obtain ⟨henemy, hplayer, hothers, _, htold⟩ := run_streams hkept hrun
  have hparted : ∀ side, aimedAt side (aimedAt .player mixedEffects ++ aimedAt .enemy mixedEffects)
      = aimedAt side mixedEffects := by
    intro side
    cases side <;> rfl
  have hread : droughtActors.runTold (fun _ => true) mixedEffects
      = (droughtActors.run mixedEffects).mapError .arithmetic := by
    decide +kernel
  rw [hrun] at hread
  exact ⟨hkept, _, hrun, henemy, hplayer, hothers _ hparted,
    (htold _ _ hparted).trans hread, rfl, rfl, rfl, rfl⟩

/-- With a discard the order of the two streams matters: the dust finds the wind card, or not. -/
example :
    (droughtActors.run [.onEnemy "Dust" (.when (.holds .wind) (.life 5)),
        .onPlayer "Discard" (.discard "gust")]).map (·.enemy.hitPoints) = .ok 30
      ∧ (droughtActors.run [.onPlayer "Discard" (.discard "gust"),
        .onEnemy "Dust" (.when (.holds .wind) (.life 5))]).map (·.enemy.hitPoints) = .ok 25 := by
  decide

end Actors

end CardBattle
