/-
Which notes are kept.

* `Threshold` : everything, or the notes from a level up;
* `Threshold.ofName?` : the threshold of a name.

Main statement: `keeps_mono`, what is kept at a level is kept at every graver one.
-/
import CardBattle.Journal

namespace CardBattle

/-- Everything, or the notes from a level up. -/
inductive Threshold where
  | all
  | atLeast (level : Level)
  deriving DecidableEq, Repr

namespace Threshold

/-- The name of a threshold. -/
def name : Threshold → String
  | .all => "NOTSET"
  | .atLeast level => level.name

/-- Further names of thresholds. -/
def otherNames : List (String × Threshold) :=
  [("NOTSET", .all), ("FATAL", .atLeast .critical), ("WARN", .atLeast .warning)]

/-- The threshold of a name. -/
def ofName? (name : String) : Option Threshold :=
  match Level.ofName? name with
  | some level => some (.atLeast level)
  | none => otherNames.lookup name

/-- Whether notes of a level are kept. -/
def keeps : Threshold → Level → Bool
  | .all, _ => true
  | .atLeast least, level => least.rank ≤ level.rank

theorem keeps_mono {t : Threshold} {a b : Level} (hab : a.rank ≤ b.rank)
    (ha : t.keeps a = true) : t.keeps b = true := by
  cases t with
  | all => rfl
  | atLeast least =>
      simp only [keeps, decide_eq_true_eq] at ha ⊢
      exact Nat.le_trans ha hab

end Threshold

end CardBattle
