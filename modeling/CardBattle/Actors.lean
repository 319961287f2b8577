/-
The two actors, and effects resolved one after another.

* `Actors.resolve` : the pair after one effect; the actor it is not aimed at stays as it is;
* `Actors.run` : the pair after a list of effects, each one seeing what the earlier ones left.

Main statements: `run_append`, `resolve_player_side` and `resolve_enemy_side`.
-/
import CardBattle.Enemy
import CardBattle.Player

namespace CardBattle

/-- The enemy and the player. -/
structure Actors where
  enemy : Enemy
  player : Player
  deriving DecidableEq, Repr

namespace Actors

/-- The pair after one effect. -/
def resolve (actors : Actors) (e : Effect) : Except Double.Fault Actors :=
  match e.target with
  | .player => (actors.player.receive e.trigger).map fun player => { actors with player }
  | .enemy =>
      (actors.enemy.receive actors.player.elements e.trigger).map fun enemy =>
        { actors with enemy }

/-- The pair after effects, left to right. -/
def run (actors : Actors) (effects : List Effect) : Except Double.Fault Actors :=
  effects.foldlM resolve actors

@[simp] theorem run_nil (actors : Actors) : actors.run [] = .ok actors := rfl

@[simp] theorem run_cons (actors : Actors) (e : Effect) (es : List Effect) :
    actors.run (e :: es) = actors.resolve e >>= fun next => next.run es := rfl

theorem run_append (actors : Actors) (first second : List Effect) :
    actors.run (first ++ second) = actors.run first >>= fun next => next.run second := by
  simp [run, List.foldlM_append]

theorem resolve_player_side {actors next : Actors} {e : Effect} (h : e.target = .player)
    (hnext : actors.resolve e = .ok next) : next.enemy = actors.enemy := by
  simp only [resolve, h] at hnext
  cases hp : actors.player.receive e.trigger with
  | error f => simp [hp, Except.map] at hnext
  | ok p => simp [hp, Except.map] at hnext; simp [← hnext]

theorem resolve_enemy_side {actors next : Actors} {e : Effect} (h : e.target = .enemy)
    (hnext : actors.resolve e = .ok next) : next.player = actors.player := by
  simp only [resolve, h] at hnext
  cases hp : actors.enemy.receive actors.player.elements e.trigger with
  | error f => simp [hp, Except.map] at hnext
  | ok p => simp [hp, Except.map] at hnext; simp [← hnext]

end Actors

end CardBattle
