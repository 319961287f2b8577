/-
What holds whenever a session asks for cards.

* `loadPlayer_cases`, `hitPoints_pos_of_loadEnemy` : files that are accepted give players with
  distinct ids, and nobody without hit points;
* `Battle.PlayableOn` : a snapshot of which a given turn can be played; `PlayableOn.round`: a round
  that does not decide the battle leads to the next such snapshot;
* `Setup.playableOn_battle` : under usable settings a battle starts so, wherever its two sides come
  from;
* `Setup.prompts` : the snapshots in which a session asks for cards;
* `launch_prompts` : each of them can be played, on the turn of its place.
-/
import CardBattle.Launch
import CardBattle.Proofs.Accepted
import CardBattle.Proofs.Conversion
import CardBattle.Proofs.Decision
import CardBattle.Proofs.Frame
import CardBattle.Proofs.Stages
import Mathlib.Tactic

namespace CardBattle

open Declaration

/-! ### The two sides -/

namespace Declaration

lemma readPositive_ensures (v : Json.Value) : (readPositive v).Ensures fun n => 0 < n := by
  refine (Checked.Ensures.any (readInteger v)).andThen fun n _ => ?_
  split_ifs with hpos
  · exact .ok hpos
  · exact .fail _ _

/-- Enemies in files that are accepted have hit points. -/
lemma EnemyDeclaration.read_ensures_hitPoints (v : Json.Value) :
    (EnemyDeclaration.read v).Ensures fun d => 0 < d.hitPoints := by
  refine readObject_ensures (fun fields => ?_) v
  refine .seqLeft ?_ _
  iterate 7 refine .seq ?_ (.any _)
  refine .seq ?_ (required_ensures fields "hit_points" readPositive_ensures)
  exact .map fun _ _ _ hpos _ _ _ _ _ _ _ _ _ _ _ _ _ _ => hpos

/-- Decks in files that are accepted leave out the hit points, or have some. -/
lemma DeckDeclaration.read_ensures_hitPoints (v : Json.Value) :
    (DeckDeclaration.read v).Ensures fun d => ∀ n ∈ d.hitPoints?, 0 < n := by
  refine readObject_ensures (fun fields => ?_) v
  refine .seqLeft ?_ _
  refine .seq ?_ (.any _)
  have hpos : (optional fields "hit_points" (readOptional readPositive) none).Ensures
      fun hitPoints? => ∀ n ∈ hitPoints?, 0 < n :=
    optional_ensures fields "hit_points" (readOptional_ensures readPositive_ensures) (by simp)
  exact .map fun hitPoints? hread _ _ => hpos hitPoints? hread

end Declaration

/-- What is loaded from a file has what its reader ensures. -/
lemma loadForm_ensures {α : Type} {form : Form} {read : Read α} {P : α → Prop}
    (hread : ∀ v, (read v).Ensures P) {files : FileTree} {path : String} {a : α}
    (h : loadForm form read files path = .ok a) : P a := by
  obtain ⟨text, _, h⟩ := bind_eq_ok_iff.mp h
  obtain ⟨v, hv⟩ := exists_read_of_ofText (mapError_eq_ok_iff.mp h)
  exact hread v a hv

/-- The enemy of a file has hit points. -/
lemma hitPoints_pos_of_loadEnemy {files : FileTree} {path : String} {enemy : Enemy}
    (h : loadEnemy files path = .ok enemy) : 0 < enemy.hitPoints := by
  obtain ⟨d, hload, h⟩ := bind_eq_ok_iff.mp h
  have hpos : 0 < d.hitPoints := loadForm_ensures EnemyDeclaration.read_ensures_hitPoints hload
  obtain ⟨defense, _, h⟩ := bind_eq_ok_iff.mp (mapError_eq_ok_iff.mp h)
  have heffects := mapError_eq_ok_iff.mp h
  iterate 5 obtain ⟨_, _, heffects⟩ := bind_eq_ok_iff.mp heffects
  obtain rfl := Except.ok.inj heffects
  exact hpos

/-- The player of a file has hit points, where the default is above zero, and distinct cards. -/
lemma loadPlayer_cases {files : FileTree} {path : String} {hitPoints : Int} {supply rest : Supply}
    {player : Player} (hdefault : 0 < hitPoints)
    (h : loadPlayer files path hitPoints supply = .ok (player, rest)) :
    0 < player.hitPoints ∧ (player.cards.map (·.id)).Nodup := by
  obtain ⟨d, hload, h⟩ := bind_eq_ok_iff.mp h
  have hpos : ∀ n ∈ d.hitPoints?, 0 < n :=
    loadForm_ensures DeckDeclaration.read_ensures_hitPoints hload
  have hplayer := mapError_eq_ok_iff.mp h
  refine ⟨?_, (DeckDeclaration.toPlayer_cases hplayer).1⟩
  obtain ⟨_, _, h⟩ := bind_eq_ok_iff.mp hplayer
  obtain ⟨declared, hdeclared, h⟩ := bind_eq_ok_iff.mp h
  obtain ⟨rfl, _⟩ := Prod.mk.inj (Except.ok.inj h)
  obtain ⟨_, rfl⟩ := Player.declare_eq_ok_iff.mp hdeclared
  cases hgiven : d.hitPoints? with
  | none => exact hdefault
  | some n => exact hpos n hgiven

/-- Every listed enemy has hit points. -/
lemma Catalog.hitPoints_pos {slug : String} {enemy : Enemy} (h : Catalog.enemy slug = .ok enemy) :
    0 < enemy.hitPoints := by
  have hall : ∀ entry ∈ Catalog.enemies, 0 < entry.2.hitPoints := by decide
  obtain ⟨before, after, hsplit, _⟩ := List.lookup_eq_some_iff.mp (enemy_eq_ok_iff.mp h)
  exact hall (slug, enemy) (by simp [hsplit])

/-! ### Snapshots of which a turn can be played -/

namespace Battle

/-- A snapshot of which a given turn can be played: the battle is undecided, both sides have hit
points, no power is taken by a turn, and the cards of the hand are told apart by their ids. -/
structure PlayableOn (b : Battle) (turn : Int) : Prop where
  powerPerTurn : 0 ≤ b.powerPerTurn
  isOver : b.isOver = false
  turn_eq : b.turn = turn
  player : 0 < b.player.hitPoints
  enemy : 0 < b.enemy.hitPoints
  nodup_ids : (b.player.cards.map (·.id)).Nodup

variable {b next : Battle} {turn : Int}

lemma start_playableOn {enemy : Enemy} {player : Player} {powerPerTurn : Int}
    (hpower : 0 ≤ powerPerTurn) (hplayer : 0 < player.hitPoints) (henemy : 0 < enemy.hitPoints)
    (hnodup : (player.cards.map (·.id)).Nodup) :
    (start enemy player powerPerTurn).PlayableOn 1 :=
  ⟨hpower, rfl, rfl, hplayer, henemy, hnodup⟩

/-- A turn that leaves a playable battle undecided leaves it playable; the enemy's moves it on to
the next turn. -/
lemma PlayableOn.take (h : b.PlayableOn turn) {side : Turn} (hstep : b.take side = .ok next)
    (hopen : next.isOver = false) : next.PlayableOn (turn + if side = .enemy then 1 else 0) := by
  have hkept := keeps_take hstep
  have hundecided : next.outcome = .undecided := Outcome.eq_undecided_of_not_isOver hopen
  rw [outcome_take h.isOver hstep, Outcome.decide_eq_undecided_iff] at hundecided
  refine ⟨?_, hopen, ?_, hundecided.1, hundecided.2, ?_⟩
  · rw [hkept.powerPerTurn]
    exact h.powerPerTurn
  · rw [turn_take h.isOver hstep, h.turn_eq]
  · exact hkept.actors.player.nodup_ids h.nodup_ids

lemma take_of_takeShown {watched : Draft → Bool} {side : Turn}
    (h : b.takeShown watched side = .ok next) : b.take side = .ok next := by
  obtain ⟨after, hafter, h⟩ := bind_eq_ok_iff.mp h
  obtain ⟨_, _, h⟩ := bind_eq_ok_iff.mp h
  obtain rfl := Except.ok.inj h
  exact take_of_takeTold hafter

/-- A round that leaves a playable battle undecided leaves it playable on the next turn. -/
lemma PlayableOn.round (h : b.PlayableOn turn) {watched : Draft → Bool} {cards : List Card}
    (hround : b.roundShown watched cards = .ok next) (hopen : next.isOver = false) :
    next.PlayableOn (turn + 1) := by
  obtain ⟨played, hplayed, hrest⟩ := bind_eq_ok_iff.mp hround
  split at hrest
  · next hover =>
      obtain rfl := Except.ok.inj hrest
      rw [hopen] at hover
      cases hover
  · next hover =>
      have hmid := h.take (take_of_takeShown hplayed) (by simpa using hover)
      simpa using hmid.take (take_of_takeShown hrest) hopen

end Battle

/-! ### Sessions -/

namespace Stage

/-- The snapshot of a stage in which cards are asked for. -/
def battle? : Stage → Option Battle
  | .turn b => some b
  | _ => none

/-- Where a stage waits for cards, a given turn can be played; the menu comes before the first. -/
def PlayableOn (turn : Int) : Stage → Prop
  | .menu => turn = 1
  | .turn b => b.PlayableOn turn
  | .ended _ => True

/-- After a turn comes a stage of the snapshot that it leads to. -/
lemma playableOn_afterTurn {x : Except Failure Battle} {turn : Int}
    (h : ∀ b, x = .ok b → b.isOver = false → b.PlayableOn turn) :
    (stageOf (x >>= fun b => (Session.afterTurn b).outcome)).PlayableOn turn := by
  cases x with
  | error failure => trivial
  | ok b =>
      rw [ok_bind, outcome_afterTurn]
      split_ifs with hover
      · trivial
      · cases Text.drawn b.standingWords with
        | error failure => trivial
        | ok _ => exact h b rfl (by simpa using hover)

end Stage

namespace Setup

variable {s : Setup} {turn : Int}

/-- Under usable settings a battle starts playable, wherever its two sides come from. -/
lemma playableOn_battle (hsettings : s.settings.problems = []) {foe : Foe} {b : Battle}
    (h : s.battle foe = .ok b) : b.PlayableOn 1 := by
  obtain ⟨hhitPoints, hpower, _⟩ := s.settings.problems_eq_nil_iff.mp hsettings
  obtain ⟨enemy, henemy, h⟩ := bind_eq_ok_iff.mp h
  obtain ⟨player, hplayer, h⟩ := bind_eq_ok_iff.mp h
  obtain rfl := Except.ok.inj h
  have hsides : 0 < player.hitPoints ∧ (player.cards.map (·.id)).Nodup := by
    rw [Setup.player] at hplayer
    split at hplayer
    · obtain ⟨⟨_, rest⟩, hload, rfl⟩ := map_eq_ok_iff.mp hplayer
      exact loadPlayer_cases hhitPoints hload
    · obtain ⟨hnodup, rfl⟩ := Player.declare_eq_ok_iff.mp (mapError_eq_ok_iff.mp hplayer)
      exact ⟨hhitPoints, hnodup⟩
  have hfoe : 0 < enemy.hitPoints := by
    cases foe with
    | file path => exact hitPoints_pos_of_loadEnemy henemy
    | listed slug => exact Catalog.hitPoints_pos (mapError_eq_ok_iff.mp henemy)
  exact Battle.start_playableOn hpower hsides.1 hfoe hsides.2

lemma playableOn_openBattle (hsettings : s.settings.problems = []) (foe : Foe) :
    (stageOf (s.openBattle foe).outcome).PlayableOn 1 := by
  rw [outcome_openBattle]
  refine Stage.playableOn_afterTurn fun b hb _ => ?_
  obtain ⟨_, hbattle, h⟩ := bind_eq_ok_iff.mp hb
  obtain ⟨_, _, h⟩ := bind_eq_ok_iff.mp h
  obtain rfl := Except.ok.inj h
  exact playableOn_battle hsettings hbattle

lemma playableOn_enter (hsettings : s.settings.problems = []) :
    s.enter.result.PlayableOn 1 := by
  rw [result_enter]
  split
  · exact playableOn_openBattle hsettings _
  · cases (Session.showMenu Catalog.enemies).outcome with
    | ok _ => rfl
    | error failure => trivial

/-- The menu leads to the first turn. -/
lemma playableOn_reply_menu (hsettings : s.settings.problems = []) (answer : Answer) :
    (s.reply answer .menu).result.PlayableOn 1 := by
  rw [result_reply_menu]
  split
  · rfl
  · trivial
  · trivial
  · exact playableOn_openBattle hsettings _

/-- A turn leads to the next one. -/
lemma playableOn_reply_turn {b : Battle} (h : b.PlayableOn turn) (answer : Answer) :
    (s.reply answer (.turn b)).result.PlayableOn (turn + 1) := by
  rw [result_reply_turn]
  split
  · trivial
  · trivial
  · trivial
  · rw [outcome_playTurn]
    exact Stage.playableOn_afterTurn fun _ hround hopen => h.round hround hopen

/-- The snapshots in which cards are asked for along a session can be played, on the turns from the
first one on. -/
lemma playableOn_stages (hsettings : s.settings.problems = []) {answers : List Answer}
    {stage : Stage} (hstage : stage.PlayableOn turn) {k : ℕ} {b : Battle}
    (h : ((s.stages answers stage).filterMap Stage.battle?)[k]? = some b) :
    b.PlayableOn (turn + k) := by
  induction answers generalizing stage turn k with
  | nil =>
      cases stage with
      | ended ending => cases h
      | menu =>
          rw [stages, reply_endOfInput_eq] at h
          · cases h
          · exact fun _ => Stage.noConfusion
      | turn first =>
          rw [stages, reply_endOfInput_eq] at h
          · cases k with
            | zero =>
                obtain rfl : first = b := Option.some.inj h
                rwa [Nat.cast_zero, add_zero]
            | succ k => cases h
          · exact fun _ => Stage.noConfusion
  | cons answer rest ih =>
      cases stage with
      | ended ending => cases h
      | menu =>
          obtain rfl : turn = 1 := hstage
          exact ih (playableOn_reply_menu hsettings answer) h
      | turn first =>
          cases k with
          | zero =>
              obtain rfl : first = b := Option.some.inj h
              rwa [Nat.cast_zero, add_zero]
          | succ k =>
              have hrest := ih (playableOn_reply_turn hstage answer) h
              rwa [Nat.cast_succ, add_comm (k : Int), ← add_assoc]

/-- The snapshots in which a session asks for cards, in order. -/
def prompts (s : Setup) (answers : List Answer) : List Battle :=
  (s.stages answers s.enter.result).filterMap Stage.battle?

end Setup

/-! ### The program -/

/-- Whatever the command line, the environment and the files are: a session that is launched asks
for cards in undecided battles only, in turn after turn from the first on; both sides have hit
points, no turn takes power, and the cards of the hand are told apart by their ids. -/
theorem launch_prompts {commandLine : List String} {env : Environment} {files : FileTree}
    {l : Launch} (h : launch commandLine env files = .ok l) {answers : List Answer} {k : ℕ}
    {b : Battle} (hk : (l.setup.prompts answers)[k]? = some b) :
    0 ≤ b.powerPerTurn ∧ b.isOver = false ∧ b.turn = k + 1 ∧ 0 < b.player.hitPoints
      ∧ 0 < b.enemy.hitPoints ∧ (b.player.cards.map (·.id)).Nodup := by
  have hsettings := launch_usable h
  have hplayable : b.PlayableOn (1 + k) :=
    Setup.playableOn_stages hsettings (Setup.playableOn_enter hsettings) hk
  exact ⟨hplayable.powerPerTurn, hplayable.isOver, by rw [hplayable.turn_eq, add_comm],
    hplayable.player, hplayable.enemy, hplayable.nodup_ids⟩

/-- A deck of two cards without ids and effects, in a file. -/
def breezeFiles : FileTree :=
  [("deck.json", .file ("\x7b\"cards\": [\x7b\"name\": \"Breeze\", \"element\": \"wind\"\x7d, "
    ++ "\x7b\"name\": \"Wave\", \"element\": \"water\"\x7d]\x7d").toUTF8.toList)]

/-- Two answers to the menu, the first of them in vain, and three answers to the question for
cards. -/
def breezeAnswers : List Answer := [.line "0", .line "2", .line "1,2", .line "9", .line "2"]

/-- The second enemy of the menu, the typhoon, takes 4 of 9 hit points in each of two turns; the
third turn is the last one in which cards are asked for. -/
theorem launch_prompts_typhoon :
    ∃ l b, launch ["--deck", "deck.json"] [("CARD_SIM_STARTING_HP", "9")] breezeFiles = .ok l
      ∧ (l.setup.prompts breezeAnswers).length = 3
      ∧ (l.setup.prompts breezeAnswers)[2]? = some b
      ∧ b.player.hitPoints = 1 ∧ b.turn = 3 ∧ (b.player.cards.map (·.id)).Nodup := by
  have hseen : (launch ["--deck", "deck.json"] [("CARD_SIM_STARTING_HP", "9")]
      breezeFiles).toOption.map (fun l => (l.setup.prompts breezeAnswers).map (·.player.hitPoints))
      = some [9, 5, 1] := by
    decide +kernel
  cases hl : launch ["--deck", "deck.json"] [("CARD_SIM_STARTING_HP", "9")] breezeFiles with
  | error refusal => rw [hl] at hseen; cases hseen
  | ok l =>
      rw [hl] at hseen
      have hpoints := Option.some.inj hseen
      have hthird := congrArg (·[2]?) hpoints
      simp only [List.getElem?_map] at hthird
      obtain ⟨b, hb, hone⟩ := Option.map_eq_some_iff.mp hthird
      obtain ⟨_, _, hturn, _, _, hnodup⟩ := launch_prompts hl hb
      exact ⟨l, b, rfl, by simpa using congrArg List.length hpoints, hb, hone, hturn, hnodup⟩

end CardBattle
