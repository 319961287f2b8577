/-
Battles that start again.

* `Battle.activated` : the activated enchantments of both sides; `activated_start_congr`: at a start
  they depend on nothing but what the enemy declares and the cards of the hand;
* `Player.holding` : a player left with those cards of its hand that another hand still holds;
* `Battle.Continues` : a snapshot declares what an enemy declared, and its hand is what is left of
  the hand of a player; turns and restarts keep that, whatever else they change;
* `Battle.restart`, `Battle.playRounds` : the battle that starts from a snapshot, and rounds of
  turns, each of which starts from what the round before it left;
* `activated_restart` : so a restart activates what the first two actors, with the hand reduced to
  what is left of it, would start with; nothing of what was active before is added to it.
-/
import CardBattle.Catalog.Cards
import CardBattle.Journal.Battle
import CardBattle.Proofs.Frame
import CardBattle.Proofs.Hand
import Mathlib.Tactic

namespace CardBattle

/-! ### What activation depends on -/

section Activation

variable {actors actors' : Actors}

lemma Actors.activates?_congr (h : actors'.player.cards = actors.player.cards) :
    actors'.activates? = actors.activates? := by
  have helements : actors'.player.elements = actors.player.elements := by
    rw [Player.elements, h, Player.elements]
  have hadmits : actors'.admits = actors.admits := by
    funext side condition
    cases side with
    | player => simp only [Actors.admits, helements]
    | enemy => rfl
  funext e
  simp only [Actors.activates?, hadmits]

/-- Two pairs with the same declarations of the enemy and the same hand activate the same. -/
lemma Actors.activatedFor_congr (hdeclared : actors'.enemy.declared = actors.enemy.declared)
    (hcards : actors'.player.cards = actors.player.cards) (side : Side) :
    actors'.activatedFor side actors'.declarations
      = actors.activatedFor side actors.declarations := by
  have hdeclarations : actors'.declarations = actors.declarations := by
    rw [Actors.declarations, hdeclared, hcards, Actors.declarations]
  rw [Actors.activatedFor, Actors.activates?_congr hcards, hdeclarations, Actors.activatedFor]

end Activation

namespace Battle

/-- The activated enchantments of the enemy and of the player. -/
def activated (b : Battle) : List Enchantment × List Enchantment :=
  (b.enemy.activated, b.player.activated)

lemma activated_start_congr {enemy enemy' : Enemy} {player player' : Player}
    (hdeclared : enemy'.declared = enemy.declared) (hcards : player'.cards = player.cards)
    (n n' : Int) : (start enemy' player' n').activated = (start enemy player n).activated := by
  have hsame (side : Side) :
      (Actors.mk enemy' player').activatedFor side (Actors.mk enemy' player').declarations
        = (Actors.mk enemy player).activatedFor side (Actors.mk enemy player).declarations :=
    Actors.activatedFor_congr hdeclared hcards side
  exact Prod.ext (hsame .enemy) (hsame .player)

/-- What is noted on a start is the activated enchantments, and no more. -/
lemma startNotes_congr {b b' : Battle} (h : b'.activated = b.activated) :
    b'.startNotes = b.startNotes := by
  obtain ⟨henemy, hplayer⟩ := Prod.mk.inj h
  rw [startNotes, henemy, hplayer, startNotes]

lemma Keeps.activated {b next : Battle} (h : b.Keeps next) : next.activated = b.activated :=
  Prod.ext h.actors.enemy.activated h.actors.player.activated

end Battle

/-! ### What is left of a hand -/

/-- The player with those cards of its hand that another hand still holds. -/
def Player.holding (player : Player) (hand : List Card) : Player :=
  { player with cards := player.cards.filter (· ∈ hand) }

lemma filter_mem_filter {α : Type} [DecidableEq α] (p : α → Bool) (l : List α) :
    l.filter (· ∈ l.filter p) = l.filter p :=
  List.filter_congr fun a ha => by simp [ha]

lemma filter_mem_filter_mem {α : Type} [DecidableEq α] {first second third : List α}
    (h : second = first.filter (· ∈ second)) (h' : third = second.filter (· ∈ third)) :
    third = first.filter (· ∈ third) := by
  have hsubset : ∀ a ∈ third, a ∈ second := by
    intro a ha
    rw [h'] at ha
    exact List.mem_of_mem_filter ha
  calc third = (first.filter (· ∈ second)).filter (· ∈ third) := by rw [← h, ← h']
    _ = first.filter (· ∈ third) := by
        rw [List.filter_filter]
        exact List.filter_congr fun a _ => by simpa using hsubset a

lemma Actors.cards_run_eq_filter_mem {actors next : Actors} {es : List Effect}
    (h : actors.run es = .ok next) :
    next.player.cards = actors.player.cards.filter (· ∈ next.player.cards) := by
  rw [cards_run h]
  exact (filter_mem_filter _ _).symm

namespace Battle

variable {b next : Battle} {enemy : Enemy} {player : Player}

/-- A turn leaves some cards of the hand, with all their copies, in their order. -/
lemma cards_take {turn : Turn} (h : b.take turn = .ok next) :
    next.player.cards = b.player.cards.filter (· ∈ next.player.cards) := by
  cases hover : b.isOver with
  | true =>
      rw [take_of_isOver hover] at h
      obtain rfl := Except.ok.inj h
      exact (List.filter_eq_self.mpr fun _ hcard => decide_eq_true hcard).symm
  | false =>
      cases turn with
      | player requests =>
          obtain ⟨after, hrun, rfl⟩ := playerTurn_cases hover h
          exact Actors.cards_run_eq_filter_mem hrun
      | enemy =>
          obtain ⟨queued, after, hqueue, hphase, rfl⟩ := enemyTurn_cases hover h
          exact filter_mem_filter_mem (Actors.cards_run_eq_filter_mem hqueue)
            (Actors.cards_run_eq_filter_mem hphase)

/-! ### Snapshots that continue a battle -/

/-- The snapshot declares what the enemy declares, and its hand is left of the player's hand. -/
structure Continues (enemy : Enemy) (player : Player) (b : Battle) : Prop where
  declared : b.enemy.declared = enemy.declared
  cards : b.player.cards = player.cards.filter (· ∈ b.player.cards)

namespace Continues

lemma start (enemy : Enemy) (player : Player) (n : Int) :
    Continues enemy player (start enemy player n) where
  declared := rfl
  cards := (List.filter_eq_self.mpr fun _ hcard => decide_eq_true hcard).symm

lemma take {turn : Turn} (hb : Continues enemy player b) (h : b.take turn = .ok next) :
    Continues enemy player next where
  declared := (keeps_take h).actors.enemy.declared.trans hb.declared
  cards := filter_mem_filter_mem hb.cards (cards_take h)

lemma takeAll {turns : List Turn} (hb : Continues enemy player b)
    (h : b.takeAll turns = .ok next) : Continues enemy player next :=
  takeAll_preserves (fun _ _ _ hkept hstep => hkept.take hstep) hb h

/-- Where no card has left the hand, it is the hand of the player. -/
lemma cards_eq (hb : Continues enemy player b) (h : ∀ card ∈ player.cards, card ∈ b.player.cards) :
    b.player.cards = player.cards := by
  rw [hb.cards]
  exact List.filter_eq_self.mpr fun _ hcard => decide_eq_true (h _ hcard)

end Continues

/-! ### Restarts -/

/-- The battle that starts from the actors of a snapshot. -/
def restart (b : Battle) (powerPerTurn : Int) : Battle := start b.enemy b.player powerPerTurn

/-- The snapshot after rounds: in each the battle starts again, under the power of a turn of that
round, and turns are taken. -/
def playRounds (b : Battle) (rounds : List (Int × List Turn)) : Except Double.Fault Battle :=
  rounds.foldlM (fun b round => (b.restart round.1).takeAll round.2) b

lemma playRounds_cons_eq_ok_iff {n : Int} {turns : List Turn} {rounds : List (Int × List Turn)} :
    b.playRounds ((n, turns) :: rounds) = .ok next
      ↔ ∃ mid, (b.restart n).takeAll turns = .ok mid ∧ mid.playRounds rounds = .ok next := by
  rw [playRounds, List.foldlM_cons]
  exact bind_eq_ok_iff

namespace Continues

/-- A restart keeps the declarations and the hand. -/
lemma restart (hb : Continues enemy player b) (n : Int) : Continues enemy player (b.restart n) :=
  ⟨hb.declared, hb.cards⟩

lemma playRounds {rounds : List (Int × List Turn)} (hb : Continues enemy player b)
    (h : b.playRounds rounds = .ok next) : Continues enemy player next := by
  induction rounds generalizing b with
  | nil => exact Except.ok.inj h ▸ hb
  | cons round rounds ih =>
      obtain ⟨mid, hmid, hrest⟩ := playRounds_cons_eq_ok_iff.mp h
      exact ih ((hb.restart round.1).takeAll hmid) hrest

/-- A restart activates what the enemy and the player, with what is left of its hand, would start
with. -/
lemma activated_restart (hb : Continues enemy player b) (n : Int) :
    (b.restart n).activated
      = (Battle.start enemy (player.holding b.player.cards) n).activated :=
  activated_start_congr hb.declared hb.cards n n

end Continues

/-- Where the hand is the one at the start, a restart changes no activated list. -/
lemma activated_restart_of_cards_eq {n : Int} {turns : List Turn} (m : Int)
    (h : (start enemy player n).takeAll turns = .ok b) (hcards : b.player.cards = player.cards) :
    (b.restart m).activated = b.activated := by
  have hkept := keeps_takeAll h
  rw [hkept.activated]
  exact activated_start_congr hkept.actors.enemy.declared hcards n m

/-- The activated enchantments are read off the declarations of the enemy and the hand at a start,
and off nothing else. A battle that starts again from a snapshot activates on both sides what the
first two actors would start with, were the hand reduced to the cards that are left, and notes the
same; so it is what the snapshot has, if no card has left the hand. A battle that has just started
is its own restart. What was active before a start does not matter to it, and however many rounds of
turns are played, each from a restart, nothing of theirs is added at the next one. -/
theorem restart_activated {powerPerTurn : Int} {turns : List Turn}
    (h : (start enemy player powerPerTurn).takeAll turns = .ok b) (n : Int) :
    (b.restart n).activated = (start enemy (player.holding b.player.cards) n).activated
      ∧ (b.restart n).startNotes = (start enemy (player.holding b.player.cards) n).startNotes
      ∧ ((∀ card ∈ player.cards, card ∈ b.player.cards) → (b.restart n).activated = b.activated)
      ∧ (start enemy player powerPerTurn).restart powerPerTurn = start enemy player powerPerTurn
      ∧ (∀ ofEnemy ofPlayer, start { enemy with activated := ofEnemy }
          { player with activated := ofPlayer } n = start enemy player n)
      ∧ ∀ rounds last, b.playRounds rounds = .ok last →
          (last.restart n).activated
            = (start enemy (player.holding last.player.cards) n).activated := by
  have hb : Continues enemy player b := (Continues.start enemy player powerPerTurn).takeAll h
  have hreduced := hb.activated_restart n
  refine ⟨hreduced, startNotes_congr hreduced, ?_, rfl, fun _ _ => rfl, ?_⟩
  · intro hall
    exact activated_restart_of_cards_eq n h (hb.cards_eq hall)
  · intro rounds last hlast
    have hlast : Continues enemy player last := hb.playRounds hlast
    exact hlast.activated_restart n

/-- A suit that shields and leaves the hand when it is played. -/
def suit : Card :=
  { id := "suit", name := "Suit", element := .water, cost := 0
    gameStart := [.shield 2], onPlay := [.discardThis] }

/-- An enemy that grants power to a hand without a water card. -/
def drought : Enemy :=
  { name := "Drought", hitPoints := 10
    declared := [.onPlayer "Thirst" (.when (.lacks .water) (.grant (.powerPerTurn 1)))] }

/-- A player with the suit and a card of wind, and with a stale enchantment. -/
def suitedPlayer : Player :=
  { hitPoints := 20, cards := [suit, Catalog.gust "gust"], activated := [.shield 9] }

/-- The shield of the played suit lasts to the end of the battle. A restart has it no more, and has
the power that the suit held back; a second restart adds nothing. -/
theorem restart_activated_drought :
    ∃ b, (start drought suitedPlayer 3).takeAll [.player [suit], .enemy] = .ok b
      ∧ b.activated = ([], [.shield 2]) ∧ (b.restart 4).activated = ([], [.powerPerTurn 1])
      ∧ (b.restart 4).activated
          = (start drought (suitedPlayer.holding [Catalog.gust "gust"]) 4).activated
      ∧ ((start drought suitedPlayer 3).restart 4).activated
          = (start drought suitedPlayer 3).activated
      ∧ (((b.restart 4).restart 5).restart 4).activated = (b.restart 4).activated := by
  have hrun : (start drought suitedPlayer 3).takeAll [.player [suit], .enemy] = .ok _ := rfl
  have hnone : (start drought suitedPlayer 3).takeAll [] = .ok _ := rfl
  obtain ⟨hreduced, _, _, _, _, hrounds⟩ := restart_activated hrun 4
  obtain ⟨_, _, hsame, _, _, _⟩ := restart_activated hnone 4
  have hagain := hrounds [(4, []), (5, [])] _ rfl
  exact ⟨_, hrun, rfl, rfl, hreduced, hsame fun _ hcard => hcard, hagain.trans hreduced.symm⟩

end Battle

end CardBattle
