/-
When a drawing of a battle comes about.

* `Drawn` : a drawing comes about exactly where all of some wordings can be written; drawings that
  are put together need the wordings of their parts;
* `Battle.standingWords`, `Battle.changeWords` : the wordings in the drawing of how a battle
  stands, and of what a turn changed;
* `drawn_sides`, `drawn_handTable`, `drawn_turnSummary` : these drawings come about exactly where
  their wordings can be written.
-/
import CardBattle.Screen.Standing
import CardBattle.Screen.Summary
import Mathlib.Tactic

namespace CardBattle

open Text (NumeralFault Wording number signed)

/-! ### Drawings -/

/-- Whether wordings can all be written. -/
def Text.allWritable (ws : List Wording) : Bool := ws.all (·.canBeWritten)

open Text (allWritable)

lemma Text.allWritable_append (ws vs : List Wording) :
    allWritable (ws ++ vs) = (allWritable ws && allWritable vs) :=
  List.all_append

/-- A drawing comes about where all wordings can be written, and fails otherwise. -/
structure Drawn {α : Type} (x : Except NumeralFault α) (ws : List Wording) : Prop where
  exists_eq_ok : allWritable ws = true → ∃ a, x = .ok a
  eq_error : allWritable ws = false → x = .error .unwritable

namespace Drawn

variable {α β σ : Type} {x : Except NumeralFault α} {ws vs : List Wording}

lemma ok (a : α) : Drawn (.ok a) [] := ⟨fun _ => ⟨a, rfl⟩, fun h => by cases h⟩

lemma written (w : Wording) : Drawn w.written [w] where
  exists_eq_ok h := ⟨w.render, by simpa [Wording.written, allWritable] using h⟩
  eq_error h := by simpa [Wording.written, allWritable] using h

/-- A drawing in two parts needs the wordings of both. -/
lemma bind {f : α → Except NumeralFault β} (hx : Drawn x ws) (hf : ∀ a, Drawn (f a) vs) :
    Drawn (x >>= f) (ws ++ vs) where
  exists_eq_ok h := by
    rw [Text.allWritable_append, Bool.and_eq_true] at h
    obtain ⟨a, rfl⟩ := hx.exists_eq_ok h.1
    exact (hf a).exists_eq_ok h.2
  eq_error h := by
    rw [Text.allWritable_append] at h
    cases hws : allWritable ws with
    | true =>
        obtain ⟨a, rfl⟩ := hx.exists_eq_ok hws
        exact (hf a).eq_error (by simpa [hws] using h)
    | false => rw [hx.eq_error hws]; rfl

lemma map (hx : Drawn x ws) (f : α → β) : Drawn (x >>= fun a => pure (f a)) ws := by
  have h : Drawn (x >>= fun a => pure (f a)) (ws ++ []) := hx.bind fun a => ok (f a)
  rwa [List.append_nil] at h

lemma mapM {f : α → Except NumeralFault β} {words : α → List Wording}
    (hf : ∀ a, Drawn (f a) (words a)) (as : List α) : Drawn (as.mapM f) (as.flatMap words) := by
  induction as with
  | nil => exact ok []
  | cons a rest ih =>
      rw [List.mapM_cons, List.flatMap_cons]
      exact (hf a).bind fun first => ih.map (first :: ·)

lemma foldlM {f : σ → α → Except NumeralFault σ} {words : α → List Wording}
    (hf : ∀ s a, Drawn (f s a) (words a)) (as : List α) (s : σ) :
    Drawn (as.foldlM f s) (as.flatMap words) := by
  induction as generalizing s with
  | nil => exact ok s
  | cons a rest ih =>
      rw [List.foldlM_cons, List.flatMap_cons]
      exact (hf s a).bind fun next => ih next

end Drawn

namespace Screen

lemma drawn_ofWording (w : Wording) (style : Style) : Drawn (StyledText.ofWording w style) [w] := by
  rw [StyledText.ofWording]
  exact (Drawn.written w).map _

lemma drawn_ofParts (parts : List Part) :
    Drawn (StyledText.ofParts parts) (parts.map (·.words)) := by
  rw [List.map_eq_flatMap, StyledText.ofParts]
  exact Drawn.foldlM (fun _ part => (Drawn.written part.words).map _) parts _

end Screen

/-! ### How a battle stands -/

open Screen

namespace Battle

/-- The wordings in the drawing of how a battle stands: the lines on both sides, and the numbers
and costs of the cards. -/
def standingWords (b : Battle) : List Wording :=
  (playerLines b ++ enemyLines b.enemy).map (·.words)
    ++ (b.player.cards.zipIdx 1).flatMap fun (card, place) => [number place, number card.cost]

/-- The wordings in the drawing of what a turn changed: each value as it is now, and its change. -/
def changeWords (before now : Battle) : List Wording :=
  [number now.player.hitPoints, signed (now.player.hitPoints - before.player.hitPoints),
    number now.player.reserve, signed (now.player.reserve - before.player.reserve),
    number now.enemy.hitPoints, signed (now.enemy.hitPoints - before.enemy.hitPoints)]

end Battle

namespace Screen

lemma drawn_sides (b : Battle) :
    Drawn (sides b) ((playerLines b ++ enemyLines b.enemy).map (·.words)) := by
  rw [List.map_append, sides, playerPanel, enemyPanel]
  refine Drawn.bind ((drawn_ofParts (playerLines b)).map _) fun player => ?_
  exact Drawn.map ((drawn_ofParts (enemyLines b.enemy)).map _) _

lemma drawn_handTable (hand : List Card) :
    Drawn (handTable hand) ((hand.zipIdx 1).flatMap fun (card, place) =>
      [number place, number card.cost]) := by
  rw [handTable]
  refine Drawn.map (Drawn.mapM (fun entry => ?_) _) _
  obtain ⟨card, place⟩ := entry
  show Drawn (cardRow place card) _
  rw [cardRow]
  refine Drawn.bind (drawn_ofWording (number place) _) fun first => ?_
  exact (drawn_ofWording (number card.cost) _).map _

lemma drawn_changeRow (name : String) (before now : Int) :
    Drawn (changeRow name before now) [number now, signed (now - before)] := by
  rw [changeRow]
  refine Drawn.bind (drawn_ofWording (number now) _) fun first => ?_
  exact (drawn_ofWording (signed (now - before)) _).map _

lemma drawn_turnSummary (before now : Battle) (label : String) :
    Drawn (turnSummary before now label) (before.changeWords now) := by
  rw [turnSummary, changeTable]
  refine Drawn.map (Drawn.bind (drawn_changeRow _ _ _) fun hitPoints => ?_) _
  refine Drawn.bind (drawn_changeRow _ _ _) fun reserve => ?_
  exact (drawn_changeRow _ _ _).map _

end Screen

end CardBattle
