/-
Battles of files that are accepted.

* `Battle.wellFormed_of_read` : such a battle is well-formed;
* `takeAll_of_read` : its turns refuse no declaration, and they give a result exactly when the
  numbers they meet are not too large; in a steady battle they always do;
* `takeAll_echo` : a battle of accepted files in which a turn gives no result.
-/
import CardBattle.Proofs.Accepted
import CardBattle.Proofs.Guarded
import Mathlib.Tactic

namespace CardBattle.Battle

open Declaration (EnemyDeclaration DeckDeclaration)
open Json (Value)

section Read

variable {enemyFile deckFile : Value} {declaredEnemy : EnemyDeclaration}
  {declaredDeck : DeckDeclaration} {enemy : Enemy} {player : Player} {hitPoints : Int}
  {supply rest : Supply}

/-- A battle of accepted files is well-formed. -/
lemma wellFormed_of_read (hreadEnemy : EnemyDeclaration.read enemyFile = .ok declaredEnemy)
    (henemy : declaredEnemy.toEnemy = .ok enemy)
    (hreadDeck : DeckDeclaration.read deckFile = .ok declaredDeck)
    (hplayer : declaredDeck.toPlayer hitPoints supply = .ok (player, rest)) (powerPerTurn : Int) :
    (start enemy player powerPerTurn).WellFormed := by
  have hdeclaredEnemy : declaredEnemy.WellFormed :=
    EnemyDeclaration.read_ensures enemyFile declaredEnemy hreadEnemy
  have hdeclaredDeck : declaredDeck.WellFormed :=
    DeckDeclaration.read_ensures deckFile declaredDeck hreadDeck
  exact .start (EnemyDeclaration.wellFormed_toEnemy hdeclaredEnemy henemy)
    (DeckDeclaration.wellFormed_toPlayer hdeclaredDeck hplayer) powerPerTurn

/-- In a battle of files that are accepted, no turn refuses a declaration, whatever is requested.
The turns give a result exactly when the numbers that they meet are not too large: the hit points
of which a fraction is taken, the amounts that meet a multiple of the enemy's defense, and the
products of the two. Where no fraction is declared and no multiple makes declared damage too large,
they always do. -/
theorem takeAll_of_read (hreadEnemy : EnemyDeclaration.read enemyFile = .ok declaredEnemy)
    (henemy : declaredEnemy.toEnemy = .ok enemy)
    (hreadDeck : DeckDeclaration.read deckFile = .ok declaredDeck)
    (hplayer : declaredDeck.toPlayer hitPoints supply = .ok (player, rest)) (powerPerTurn : Int)
    (turns : List Turn) :
    (start enemy player powerPerTurn).guardedTakeAll turns
        = ((start enemy player powerPerTurn).takeAll turns).mapError .arithmetic
      ∧ ((∃ b, (start enemy player powerPerTurn).takeAll turns = .ok b)
          ↔ (start enemy player powerPerTurn).AdmitsAll turns)
      ∧ ((start enemy player powerPerTurn).Steady →
          ∃ b, (start enemy player powerPerTurn).takeAll turns = .ok b) := by
  have hwf := wellFormed_of_read hreadEnemy henemy hreadDeck hplayer powerPerTurn
  exact ⟨guardedTakeAll_eq hwf turns, exists_takeAll_iff hwf,
    fun hsteady => exists_takeAll_of_steady hwf hsteady turns⟩

end Read

/-! ### An enemy that multiplies damage -/

/-- The file of an enemy with 20 hit points whose defense multiplies all damage by a factor. -/
def echoFile (factor : Double) : Value :=
  .object [("name", .text "Echo"), ("hit_points", .integer 20),
    ("defense", .object
      [("any", .object [("kind", .text "percent"), ("value", .number factor)])])]

/-- The enemy of that file. -/
def echo (factor : Double) : Enemy :=
  { name := "Echo", hitPoints := 20, defense := { any := .percent factor } }

lemma exists_read_echoFile (factor : Double) :
    ∃ declared, EnemyDeclaration.read (echoFile factor) = .ok declared
      ∧ declared.toEnemy = .ok (echo factor) :=
  ⟨_, rfl, rfl⟩

/-- The file of a deck with one card, which deals 10 neutral damage to the enemy. -/
def blastFile : Value :=
  .object [("cards", .array [.object
    [("name", .text "Blast"), ("element", .text "wind"), ("id", .text "blast"),
      ("play", .array [.object [("target", .text "enemy"),
        ("effect", .object [("kind", .text "damage"), ("amount", .integer 10)])]])]])]

/-- The player that holds that deck. -/
def blaster : Player where
  hitPoints := 20
  cards :=
    [{ id := "blast", name := "Blast", element := .wind
       onPlay := [.onEnemy "Always" (.always (.damage ⟨10, .neutral⟩))] }]

lemma exists_read_blastFile :
    ∃ declared, DeckDeclaration.read blastFile = .ok declared
      ∧ declared.toPlayer 20 {} = .ok (blaster, {}) :=
  ⟨_, rfl, rfl⟩

/-- Both files are accepted and give their enemy and their player, yet playing the card gives no
result: ten times the factor `2 ^ 1023` is too large. -/
theorem takeAll_echo :
    (∃ declared, EnemyDeclaration.read (echoFile (.finite false (Nat.pow 2 1023 * Double.one)))
        = .ok declared
      ∧ declared.toEnemy = .ok (echo (.finite false (Nat.pow 2 1023 * Double.one))))
    ∧ (∃ declared, DeckDeclaration.read blastFile = .ok declared
      ∧ declared.toPlayer 20 {} = .ok (blaster, {}))
    ∧ (start (echo (.finite false (Nat.pow 2 1023 * Double.one))) blaster 3).takeAll
        [.player blaster.cards] = .error .infiniteToInteger := by
  refine ⟨exists_read_echoFile _, exists_read_blastFile, ?_⟩
  decide +kernel

/-- Where the factor is one half, the battle is steady, and the card takes 5 hit points. -/
theorem takeAll_of_read_echo :
    (∃ declared, EnemyDeclaration.read (echoFile .half) = .ok declared
      ∧ declared.toEnemy = .ok (echo .half))
    ∧ (∃ declared, DeckDeclaration.read blastFile = .ok declared
      ∧ declared.toPlayer 20 {} = .ok (blaster, {}))
    ∧ (start (echo .half) blaster 3).Steady
    ∧ ∃ b, (start (echo .half) blaster 3).takeAll [.player blaster.cards, .enemy] = .ok b
      ∧ b.enemy.hitPoints = 15 := by
  obtain ⟨declaredEnemy, hreadEnemy, henemy⟩ := exists_read_echoFile .half
  obtain ⟨declaredDeck, hreadDeck, hplayer⟩ := exists_read_blastFile
  have hsteady : (start (echo .half) blaster 3).Steady := by
    refine ⟨by decide +kernel, fun element amount hmem => ?_⟩
    have hnone : (start (echo .half) blaster 3).player.activated = [] := rfl
    rw [hnone] at hmem
    cases hmem
  obtain ⟨b, hb⟩ := (takeAll_of_read hreadEnemy henemy hreadDeck hplayer 3
    [.player blaster.cards, .enemy]).2.2 hsteady
  have hpoints : ((start (echo .half) blaster 3).takeAll [.player blaster.cards, .enemy]).map
      (·.enemy.hitPoints) = .ok 15 := by
    decide +kernel
  rw [hb] at hpoints
  exact ⟨⟨declaredEnemy, hreadEnemy, henemy⟩, ⟨declaredDeck, hreadDeck, hplayer⟩, hsteady, b, hb,
    Except.ok.inj hpoints⟩

end CardBattle.Battle
