/-
Battles under a cap on the turn number.

* `Battle.Plays` : how rounds go under choices, with no bound on their number: the snapshots in
  which the player is asked, and what comes of the battle; `Plays.unique`: they go one way only;
* `round_cases` : a round moves the turn number on by one, unless the player's turn decides the
  battle;
* `exists_plays_alternate` : under a cap as many choices as it leaves turns are enough for any
  battle;
* `Plays.length_le`, `Plays.open_of_asked`, `Plays.ending`, `Plays.turn_le`, `Plays.exists_ok` : how
  often and in which snapshots the player is asked, and where the rounds end;
  `playUpTo_ends`: all of this for rounds up to a cap;
* `Plays.paused` : rounds that stop under a lower cap go on as if they had not stopped;
  `playUpTo_resumed`: so it is for rounds up to two caps.
-/
import CardBattle.Battle.Alternation
import CardBattle.Catalog.Cards
import CardBattle.Proofs.Turns
import Mathlib.Tactic

namespace CardBattle

namespace Battle

variable {b next last : Battle} {cap : Int} {cap? : Option Int} {choose : Nat → Choice}

/-! ### Rounds without a bound -/

/-- How rounds go from a snapshot, where `k` choices were made before: the snapshots in which the
player is asked, in order, and what comes of the battle. -/
inductive Plays (cap? : Option Int) (choose : Nat → Choice) :
    Nat → Battle → List Battle → Except Double.Fault Battle → Prop
  /-- The player is asked no more. -/
  | closed {k : Nat} {b : Battle} (hasks : b.asks cap? = false) :
      Plays cap? choose k b [] (.ok b)
  /-- The player is asked, and stops the battle. -/
  | stopped {k : Nat} {b : Battle} (hasks : b.asks cap? = true) (hchoice : choose k b = none) :
      Plays cap? choose k b [b] (.ok b)
  /-- The player is asked, and the round with the cards it chooses fails. -/
  | failed {k : Nat} {b : Battle} {cards : List Card} {fault : Double.Fault}
      (hasks : b.asks cap? = true) (hchoice : choose k b = some cards)
      (hround : b.round cards = .error fault) : Plays cap? choose k b [b] (.error fault)
  /-- The player is asked, and the battle goes on after the round. -/
  | played {k : Nat} {b next : Battle} {cards : List Card} {asked : List Battle}
      {result : Except Double.Fault Battle} (hasks : b.asks cap? = true)
      (hchoice : choose k b = some cards) (hround : b.round cards = .ok next)
      (hrest : Plays cap? choose (k + 1) next asked result) :
      Plays cap? choose k b (b :: asked) result

namespace Plays

variable {k : Nat} {asked others : List Battle} {result other : Except Double.Fault Battle}

/-- Where the player is asked no more, nothing comes after. -/
lemma eq_of_not_asks (h : Plays cap? choose k b asked result) (hasks : b.asks cap? = false) :
    asked = [] ∧ result = .ok b := by
  cases h with
  | closed _ => exact ⟨rfl, rfl⟩
  | stopped hasks' _ => simp [hasks] at hasks'
  | failed hasks' _ _ => simp [hasks] at hasks'
  | played hasks' _ _ _ => simp [hasks] at hasks'

/-- Choices determine how rounds go. -/
lemma unique (h : Plays cap? choose k b asked result) (h' : Plays cap? choose k b others other) :
    others = asked ∧ other = result := by
  induction h generalizing others other with
  | closed hasks => exact h'.eq_of_not_asks hasks
  | stopped hasks hchoice =>
      cases h' with
      | closed hasks' => simp [hasks] at hasks'
      | stopped _ _ => exact ⟨rfl, rfl⟩
      | failed _ hchoice' _ => simp [hchoice] at hchoice'
      | played _ hchoice' _ _ => simp [hchoice] at hchoice'
  | failed hasks hchoice hround =>
      cases h' with
      | closed hasks' => simp [hasks] at hasks'
      | stopped _ hchoice' => simp [hchoice] at hchoice'
      | failed _ hchoice' hround' =>
          obtain rfl := Option.some.inj (hchoice.symm.trans hchoice')
          exact ⟨rfl, hround'.symm.trans hround⟩
      | played _ hchoice' hround' _ =>
          obtain rfl := Option.some.inj (hchoice.symm.trans hchoice')
          cases hround.symm.trans hround'
  | played hasks hchoice hround _ ih =>
      cases h' with
      | closed hasks' => simp [hasks] at hasks'
      | stopped _ hchoice' => simp [hchoice] at hchoice'
      | failed _ hchoice' hround' =>
          obtain rfl := Option.some.inj (hchoice.symm.trans hchoice')
          cases hround.symm.trans hround'
      | played _ hchoice' hround' hrest' =>
          obtain rfl := Option.some.inj (hchoice.symm.trans hchoice')
          obtain rfl := Except.ok.inj (hround.symm.trans hround')
          obtain ⟨rfl, rfl⟩ := ih hrest'
          exact ⟨rfl, rfl⟩

end Plays

/-! ### Turn numbers under a cap -/

/-- A round moves the turn number on by one, unless the player's turn decides the battle. -/
lemma round_cases {cards : List Card} (h : b.round cards = .ok next) :
    (next.isOver = true ∧ next.turn = b.turn) ∨ next.turn = b.turn + 1 := by
  obtain ⟨played, hplayer, hrest⟩ := bind_eq_ok_iff.mp h
  have hturn : played.turn = b.turn := turn_playerTurn hplayer
  cases hover : played.isOver with
  | true =>
      rw [hover] at hrest
      obtain rfl := Except.ok.inj hrest
      exact Or.inl ⟨hover, hturn⟩
  | false =>
      rw [hover] at hrest
      have henemy : next.turn = played.turn + 1 := turn_enemyTurn hover hrest
      exact Or.inr (by omega)

lemma asks_iff : b.asks (some cap) = true ↔ b.isOver = false ∧ b.turn ≤ cap := by
  simp [asks, pastCap]

/-- A round leaves the cap one turn less, if the player is asked after it. -/
lemma turnsLeft_round {cards : List Card} (hasks : b.asks (some cap) = true)
    (h : b.round cards = .ok next) (hnext : next.asks (some cap) = true) :
    turnsLeft cap next + 1 = turnsLeft cap b := by
  obtain ⟨_, hturn⟩ := asks_iff.mp hasks
  obtain ⟨hopen, _⟩ := asks_iff.mp hnext
  rcases round_cases h with ⟨hover, _⟩ | hcount
  · simp [hopen] at hover
  · rw [turnsLeft, turnsLeft, hcount]
    omega

/-- As many choices as a cap leaves turns are enough: with them, or with more, rounds go as they go
without a bound on their number. -/
lemma exists_plays_alternate (n k : Nat)
    (henough : b.asks (some cap) = true → turnsLeft cap b ≤ n) :
    ∃ asked, Plays (some cap) choose k b asked
      (b.alternate (some cap) ((List.range' k n).map choose)) := by
  induction n generalizing k b with
  | zero =>
      have hasks : b.asks (some cap) = false := by
        by_contra hasks
        rw [Bool.not_eq_false] at hasks
        have hnone := henough hasks
        obtain ⟨_, hturn⟩ := asks_iff.mp hasks
        rw [turnsLeft] at hnone
        omega
      exact ⟨[], .closed hasks⟩
  | succ n ih =>
      rw [List.range'_succ, List.map_cons, alternate]
      cases hasks : b.asks (some cap) with
      | false => exact ⟨[], .closed hasks⟩
      | true =>
          rw [if_pos rfl]
          cases hchoice : choose k b with
          | none => exact ⟨[b], .stopped hasks hchoice⟩
          | some cards =>
              show ∃ asked, Plays (some cap) choose k b asked (b.round cards >>= fun next =>
                next.alternate (some cap) ((List.range' (k + 1) n).map choose))
              cases hround : b.round cards with
              | error fault => exact ⟨[b], .failed hasks hchoice hround⟩
              | ok next =>
                  have hleft : next.asks (some cap) = true → turnsLeft cap next ≤ n := by
                    intro hnext
                    have hone := turnsLeft_round hasks hround hnext
                    have hall := henough hasks
                    omega
                  obtain ⟨asked, hrest⟩ := ih (k + 1) hleft
                  exact ⟨b :: asked, .played hasks hchoice hround hrest⟩

/-- Rounds up to a cap go as they go without a bound on their number. -/
lemma exists_plays_playUpTo (cap : Int) (choose : Nat → Choice) (b : Battle) :
    ∃ asked, Plays (some cap) choose 0 b asked (b.playUpTo cap choose) := by
  rw [playUpTo, List.range_eq_range']
  exact exists_plays_alternate (turnsLeft cap b) 0 fun _ => le_rfl

/-- What comes of rounds under a cap is what comes of rounds up to it. -/
lemma Plays.eq_playUpTo {asked : List Battle} {result : Except Double.Fault Battle}
    (h : Plays (some cap) choose 0 b asked result) : b.playUpTo cap choose = result := by
  obtain ⟨_, hplays⟩ := exists_plays_playUpTo cap choose b
  exact (h.unique hplays).2

/-! ### Where the player is asked, and where rounds end -/

namespace Plays

variable {k : Nat} {asked : List Battle} {result : Except Double.Fault Battle}

/-- The player is asked at most once in each turn that the cap leaves. -/
lemma length_le (h : Plays (some cap) choose k b asked result) :
    asked.length ≤ turnsLeft cap b := by
  have hone {b : Battle} (hasks : b.asks (some cap) = true) : 1 ≤ turnsLeft cap b := by
    obtain ⟨_, hturn⟩ := asks_iff.mp hasks
    rw [turnsLeft]
    omega
  induction h with
  | closed _ => exact Nat.zero_le _
  | stopped hasks _ => exact hone hasks
  | failed hasks _ _ => exact hone hasks
  | @played _ b next _ asked _ hasks _ hround hrest ih =>
      cases hnext : next.asks (some cap) with
      | false =>
          obtain ⟨rfl, _⟩ := hrest.eq_of_not_asks hnext
          exact hone hasks
      | true =>
          have hless := turnsLeft_round hasks hround hnext
          rw [List.length_cons]
          omega

/-- Every snapshot in which the player is asked is undecided, and its turn number counts the
questions before it. -/
lemma open_of_asked (h : Plays (some cap) choose k b asked result) {i : Nat} {s : Battle}
    (hs : asked[i]? = some s) : s.isOver = false ∧ s.turn = b.turn + i := by
  have hfirst {b : Battle} (hasks : b.asks (some cap) = true) :
      b.isOver = false ∧ b.turn = b.turn + (0 : Nat) :=
    ⟨(asks_iff.mp hasks).1, by omega⟩
  induction h generalizing i with
  | closed _ => simp at hs
  | stopped hasks _ =>
      obtain ⟨rfl, rfl⟩ : i = 0 ∧ _ = s := by simpa [List.getElem?_singleton] using hs
      exact hfirst hasks
  | failed hasks _ _ =>
      obtain ⟨rfl, rfl⟩ : i = 0 ∧ _ = s := by simpa [List.getElem?_singleton] using hs
      exact hfirst hasks
  | @played _ b next _ asked _ hasks _ hround hrest ih =>
      cases i with
      | zero =>
          obtain rfl : b = s := by simpa using hs
          exact hfirst hasks
      | succ i =>
          rw [List.getElem?_cons_succ] at hs
          obtain ⟨hopen, hturn⟩ := ih hs
          -- a question after the round means that the round has not decided the battle
          have hnext : next.asks (some cap) = true := by
            by_contra hclosed
            rw [Bool.not_eq_true] at hclosed
            obtain ⟨rfl, _⟩ := hrest.eq_of_not_asks hclosed
            simp at hs
          have hcount : next.turn = b.turn + 1 := by
            rcases round_cases hround with ⟨hover, _⟩ | hcount
            · simp [(asks_iff.mp hnext).1] at hover
            · exact hcount
          exact ⟨hopen, by push_cast; omega⟩

/-- Rounds end when the battle is decided, when the cap is passed, or when the last choice is to
stop. -/
lemma ending (h : Plays (some cap) choose k b asked result) (hlast : result = .ok last) :
    last.isOver = true ∨ cap < last.turn
      ∨ ∃ i, asked.length = i + 1 ∧ asked[i]? = some last ∧ choose (k + i) last = none := by
  induction h with
  | closed hasks =>
      obtain rfl := Except.ok.inj hlast
      simp only [asks, pastCap, Bool.not_eq_false', Bool.or_eq_true, decide_eq_true_eq] at hasks
      rcases hasks with hover | hpast
      · exact Or.inl hover
      · exact Or.inr (Or.inl hpast)
  | stopped _ hchoice =>
      obtain rfl := Except.ok.inj hlast
      exact Or.inr (Or.inr ⟨0, rfl, rfl, hchoice⟩)
  | failed _ _ _ => cases hlast
  | @played k _ _ _ _ _ _ _ _ _ ih =>
      rcases ih hlast with hover | hpast | ⟨i, hlength, hi, hchoice⟩
      · exact Or.inl hover
      · exact Or.inr (Or.inl hpast)
      · refine Or.inr (Or.inr ⟨i + 1, by rw [List.length_cons, hlength], hi, ?_⟩)
        rwa [show k + (i + 1) = k + 1 + i from by omega]

/-- The turn number gets at most one past the cap. -/
lemma turn_le (h : Plays (some cap) choose k b asked result) (hlast : result = .ok last) :
    last.turn ≤ max b.turn (cap + 1) := by
  induction h with
  | closed _ =>
      obtain rfl := Except.ok.inj hlast
      exact le_max_left _ _
  | stopped _ _ =>
      obtain rfl := Except.ok.inj hlast
      exact le_max_left _ _
  | failed _ _ _ => cases hlast
  | played hasks _ hround _ ih =>
      obtain ⟨_, hturn⟩ := asks_iff.mp hasks
      have hrest := ih hlast
      rcases round_cases hround with ⟨_, hcount⟩ | hcount
      · rwa [hcount] at hrest
      · rw [hcount] at hrest
        omega

/-- Where no round fails, the battle comes to a snapshot. -/
lemma exists_ok (h : Plays (some cap) choose k b asked result)
    (hrounds : ∀ i s cards, asked[i]? = some s → choose (k + i) s = some cards →
      ∃ next, s.round cards = .ok next) : ∃ last, result = .ok last := by
  induction h with
  | closed _ => exact ⟨_, rfl⟩
  | stopped _ _ => exact ⟨_, rfl⟩
  | failed _ hchoice hround =>
      obtain ⟨next, hnext⟩ := hrounds 0 _ _ rfl hchoice
      cases hround.symm.trans hnext
  | @played k _ _ _ _ _ _ _ _ _ ih =>
      refine ih fun i s cards hs hchoice => hrounds (i + 1) s cards hs ?_
      rwa [show k + (i + 1) = k + 1 + i from by omega]

end Plays

/-- Under a cap on the turn number rounds come to an end, whatever is chosen in each of them. They
go one way only, and the player is asked no more often than the cap leaves turns, each time in an
undecided snapshot whose turn number counts the questions before it. If none of the rounds fails,
the last snapshot is decided, or past the cap, or the last answer was to stop in it, and its turn
number is at most one past the cap, or it is that of the first snapshot. -/
theorem playUpTo_ends (cap : Int) (choose : Nat → Choice) (b : Battle) :
    ∃ asked, Plays (some cap) choose 0 b asked (b.playUpTo cap choose)
      ∧ (∀ others result, Plays (some cap) choose 0 b others result →
          others = asked ∧ result = b.playUpTo cap choose)
      ∧ (asked.length : Int) ≤ max 0 (cap + 1 - b.turn)
      ∧ (∀ (i : Nat) (s : Battle), asked[i]? = some s → s.isOver = false ∧ s.turn = b.turn + i)
      ∧ ((∀ (i : Nat) (s : Battle) (cards : List Card), asked[i]? = some s →
            choose i s = some cards → ∃ next, s.round cards = .ok next) →
          ∃ last, b.playUpTo cap choose = .ok last
            ∧ (last.isOver = true ∨ cap < last.turn
              ∨ ∃ i, asked.length = i + 1 ∧ asked[i]? = some last ∧ choose i last = none)
            ∧ last.turn ≤ max b.turn (cap + 1)) := by
  obtain ⟨asked, hplays⟩ := exists_plays_playUpTo cap choose b
  have hlength := hplays.length_le
  rw [turnsLeft] at hlength
  refine ⟨asked, hplays, fun _ _ h => hplays.unique h, by omega,
    fun _ _ hs => hplays.open_of_asked hs, fun hrounds => ?_⟩
  obtain ⟨last, hlast⟩ := hplays.exists_ok (by simpa using hrounds)
  exact ⟨last, hlast, by simpa using hplays.ending hlast, hplays.turn_le hlast⟩

/-- A player with a gust against an enemy that takes a hit point in each turn. -/
def siege : Battle :=
  .start (.create "Siege" 10 {} 1) { hitPoints := 20, cards := [Catalog.gust "gust"] } 3

/-- The siege in a later turn. -/
def siegeIn (turn enemyHitPoints playerHitPoints reserve : Int) : Battle :=
  { siege with
    enemy := { siege.enemy with hitPoints := enemyHitPoints }
    player := { siege.player with hitPoints := playerHitPoints, reserve }
    turn }

/-- The choice of the whole hand for two rounds, and to stop then. -/
def twoRounds (k : Nat) (b : Battle) : Option (List Card) :=
  if k < 2 then some b.player.cards else none

/-- After two gusts the player is asked a third time, in the third turn, and stops. -/
theorem playUpTo_ends_siege :
    ∃ asked, Plays (some 5) twoRounds 0 siege asked (siege.playUpTo 5 twoRounds)
      ∧ asked = [siege, siegeIn 2 7 19 2, siegeIn 3 4 18 4]
      ∧ siege.playUpTo 5 twoRounds = .ok (siegeIn 3 4 18 4)
      ∧ ∃ last, siege.playUpTo 5 twoRounds = .ok last ∧ last.turn ≤ 6
        ∧ twoRounds 2 last = none := by
  have hfirst : siege.round siege.player.cards = .ok (siegeIn 2 7 19 2) := by decide +kernel
  have hsecond : (siegeIn 2 7 19 2).round siege.player.cards = .ok (siegeIn 3 4 18 4) := by
    decide +kernel
  have hown : Plays (some 5) twoRounds 0 siege [siege, siegeIn 2 7 19 2, siegeIn 3 4 18 4]
      (.ok (siegeIn 3 4 18 4)) :=
    .played rfl rfl hfirst (.played rfl rfl hsecond (.stopped rfl rfl))
  obtain ⟨asked, hplays, hunique, _, _, hends⟩ := playUpTo_ends 5 twoRounds siege
  obtain ⟨rfl, hresult⟩ := hunique _ _ hown
  obtain ⟨last, hlast, _, hturn⟩ := hends (by
    intro i s cards hs hcards
    match i, hs, hcards with
    | 0, rfl, rfl => exact ⟨_, hfirst⟩
    | 1, rfl, rfl => exact ⟨_, hsecond⟩)
  exact ⟨_, hplays, rfl, hresult.symm, last, hlast, hturn, rfl⟩

/-! ### Battles that are paused -/

section Paused

variable {choose : Choice} {asked : List Battle} {result : Except Double.Fault Battle}

/-- Where choices depend on the snapshot alone, it does not matter how many were made before. -/
lemma Plays.recount {k : Nat} (h : Plays cap? (fun _ => choose) k b asked result) (j : Nat) :
    Plays cap? (fun _ => choose) j b asked result := by
  induction h generalizing j with
  | closed hasks => exact .closed hasks
  | stopped hasks hchoice => exact .stopped hasks hchoice
  | failed hasks hchoice hround => exact .failed hasks hchoice hround
  | played hasks hchoice hround _ ih => exact .played hasks hchoice hround (ih (j + 1))

/-- Rounds that end under a cap end under a lower one as well, and go on from there as if they had
not ended. -/
lemma Plays.paused {k m : Int} (hle : k ≤ m) {j : Nat}
    (h : Plays (some m) (fun _ => choose) j b asked result) (hlast : result = .ok last) :
    ∃ mid before after, Plays (some k) (fun _ => choose) j b before (.ok mid)
      ∧ Plays (some m) (fun _ => choose) j mid after (.ok last) := by
  induction h with
  | @closed j b hasks =>
      have hlow : b.asks (some k) = false := by
        by_contra hopen
        rw [Bool.not_eq_false] at hopen
        obtain ⟨hundecided, hturn⟩ := asks_iff.mp hopen
        have hhigh : b.asks (some m) = true := asks_iff.mpr ⟨hundecided, by omega⟩
        simp [hasks] at hhigh
      obtain rfl := Except.ok.inj hlast
      exact ⟨b, [], [], .closed hlow, .closed hasks⟩
  | @stopped j b hasks hchoice =>
      obtain rfl := Except.ok.inj hlast
      cases hlow : b.asks (some k) with
      | false => exact ⟨b, [], [b], .closed hlow, .stopped hasks hchoice⟩
      | true => exact ⟨b, [b], [b], .stopped hlow hchoice, .stopped hasks hchoice⟩
  | failed _ _ _ => cases hlast
  | @played j b next cards asked result hasks hchoice hround hrest ih =>
      subst hlast
      cases hlow : b.asks (some k) with
      | false =>
          exact ⟨b, [], b :: asked, .closed hlow, .played hasks hchoice hround hrest⟩
      | true =>
          obtain ⟨mid, before, after, hbefore, hafter⟩ := ih rfl
          exact ⟨mid, b :: before, after, .played hlow hchoice hround hbefore, hafter.recount j⟩

end Paused

/-- Where choices depend on the snapshot alone, rounds up to a cap may be paused at any lower cap:
however the first rounds end, the rounds from there up to the cap come to the same snapshot. In
particular they add nothing to what they have come to. -/
theorem playUpTo_resumed {k m : Int} (hle : k ≤ m) (choose : Choice)
    (h : b.playUpTo m (fun _ => choose) = .ok last) :
    (∃ mid, b.playUpTo k (fun _ => choose) = .ok mid
        ∧ mid.playUpTo m (fun _ => choose) = .ok last)
      ∧ last.playUpTo m (fun _ => choose) = .ok last := by
  obtain ⟨asked, hplays⟩ := exists_plays_playUpTo m (fun _ => choose) b
  refine ⟨?_, ?_⟩
  · obtain ⟨mid, _, _, hbefore, hafter⟩ := hplays.paused hle h
    exact ⟨mid, hbefore.eq_playUpTo, hafter.eq_playUpTo⟩
  · obtain ⟨mid, _, _, hbefore, hafter⟩ := hplays.paused le_rfl h
    have hmid : mid = last := Except.ok.inj (hbefore.eq_playUpTo.symm.trans h)
    rw [hmid] at hafter
    exact hafter.eq_playUpTo

/-- The siege, paused after its second turn, is won in the fourth one, as it is without a pause. -/
theorem playUpTo_resumed_siege :
    (2 : Int) ≤ 9 ∧ ∃ last, siege.playUpTo 9 (fun _ b => some b.player.cards) = .ok last
      ∧ last.outcome = .playerWins 4
      ∧ siege.playUpTo 2 (fun _ b => some b.player.cards) = .ok (siegeIn 3 4 18 4)
      ∧ (siegeIn 3 4 18 4).playUpTo 9 (fun _ b => some b.player.cards) = .ok last
      ∧ last.playUpTo 9 (fun _ b => some b.player.cards) = .ok last := by
  have hle : (2 : Int) ≤ 9 := by omega
  have hwhole : siege.playUpTo 9 (fun _ b => some b.player.cards) = .ok _ := rfl
  have hpaused : siege.playUpTo 2 (fun _ b => some b.player.cards) = .ok (siegeIn 3 4 18 4) := by
    decide +kernel
  obtain ⟨⟨mid, hmid, hrest⟩, hagain⟩ := playUpTo_resumed hle (fun b => some b.player.cards) hwhole
  obtain rfl := Except.ok.inj (hpaused.symm.trans hmid)
  exact ⟨hle, _, hwhole, rfl, hpaused, hrest, hagain⟩

end Battle

end CardBattle
