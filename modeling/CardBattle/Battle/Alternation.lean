/-
Whole battles: the two sides take turns.

* `Choice` : the cards that the player asks for, seeing a snapshot, or none to stop;
* `Battle.round` : a turn of each side;
* `Battle.alternate` : rounds under a list of choices, one for each round, and a cap on the turn
  number where there is one;
* `Battle.alternateWith` : the same where choices and rounds have effects of their own;
* `Battle.playUpTo` : rounds under a cap, where the choice may depend on how many came before.

Main statements: `alternate_of_isOver`; `alternateWith_eq_alternate`, without effects the two agree.
-/
import CardBattle.Battle

namespace CardBattle

/-- The cards that the player asks for, seeing a snapshot; `none` stops the battle. -/
abbrev Choice := Battle → Option (List Card)

namespace Battle

/-- Whether the cap on the turn number is passed. -/
def pastCap (cap? : Option Int) (b : Battle) : Bool :=
  match cap? with
  | some cap => cap < b.turn
  | none => false

/-- Whether the player is asked for cards. -/
def asks (cap? : Option Int) (b : Battle) : Bool := !(b.isOver || b.pastCap cap?)

/-- A turn of the player, and a turn of the enemy unless the battle is decided by then. -/
def round (b : Battle) (cards : List Card) : Except Double.Fault Battle := do
  let played ← b.playerTurn cards
  if played.isOver then return played
  played.enemyTurn

/-- Rounds until the battle is decided, the cap is passed, a choice is to stop, or no choice is
left. -/
def alternate (cap? : Option Int) : List Choice → Battle → Except Double.Fault Battle
  | [], b => .ok b
  | choose :: rest, b =>
      if b.asks cap? then
        match choose b with
        | none => .ok b
        | some cards => do alternate cap? rest (← b.round cards)
      else .ok b

/-! ### Choices and rounds with effects -/

/-- How a battle is played where choices and rounds have effects. -/
structure Course (m : Type → Type) where
  /-- A round under chosen cards. -/
  round : Battle → List Card → m Battle
  /-- What comes of a battle that is stopped undecided. -/
  stop : Battle → m Unit

/-- Rounds until the battle is decided, the cap is passed, a choice is to stop, or no choice is
left. A choice is taken only where the player is asked for cards. -/
def alternateWith {m : Type → Type} [Monad m] (course : Course m) (cap? : Option Int) :
    List (Battle → m (Option (List Card))) → Battle → m Battle
  | [], b => do
      if b.asks cap? then course.stop b
      return b
  | choose :: rest, b => do
      if b.asks cap? then
        match ← choose b with
        | none => do
            course.stop b
            return b
        | some cards => do alternateWith course cap? rest (← course.round b cards)
      else return b

/-- A battle played for its snapshots alone. -/
def silent : Course (Except Double.Fault) := { round := Battle.round, stop := fun _ => .ok () }

theorem alternateWith_eq_alternate (cap? : Option Int) (choices : List Choice) (b : Battle) :
    alternateWith silent cap? (choices.map fun choose b => .ok (choose b)) b =
      alternate cap? choices b := by
  induction choices generalizing b with
  | nil =>
      rw [List.map_nil, alternateWith, alternate]
      cases b.asks cap? <;> rfl
  | cons choose rest ih =>
      rw [List.map_cons, alternateWith, alternate]
      cases hasks : b.asks cap? with
      | false => simp [pure, Except.pure]
      | true =>
          cases hchoice : choose b with
          | none => simp [silent, bind, Except.bind, pure, Except.pure]
          | some cards => simp [silent, bind, Except.bind, ← ih]

/-! ### Caps -/

/-- The turns that a cap leaves. -/
def turnsLeft (cap : Int) (b : Battle) : Nat := (cap + 1 - b.turn).toNat

/-- Rounds up to a cap; `choose k` is the choice after `k` earlier ones. -/
def playUpTo (cap : Int) (choose : Nat → Choice) (b : Battle) : Except Double.Fault Battle :=
  alternate (some cap) ((List.range (turnsLeft cap b)).map choose) b

theorem alternate_of_isOver {b : Battle} (h : b.isOver = true) (cap? : Option Int)
    (choices : List Choice) : alternate cap? choices b = .ok b := by
  cases choices <;> simp [alternate, asks, h]

end Battle

end CardBattle
