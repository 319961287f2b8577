/-
Turns that are planned ahead, and turns that are played live.

* `Actors.playLive` : a request judged against the actors as they are, its effects resolved at once;
  `Battle.livePlayerTurn`: the player's turn in which each request is played so, with its notes;
* `Effect.carriesPower` : whether an effect carries power; `reserve_run_playedEffects`: where only
  its cost does, a played card takes its cost from the reserve and nothing else;
* `Actors.Follows` : the actors of a live turn are where a plan has them; `Follows.play`: playing a
  request keeps that;
* `runTold_plan_eq_foldlM_playLive` : resolving what a plan brings about is playing its requests
  live, where what becomes of the judged cards can be told;
* `takeTold_eq_livePlayerTurn` : the turn of the player is the live one, as far as what becomes of
  the requests can be told.
-/
import CardBattle.Proofs.Hand
import CardBattle.Proofs.Power
import CardBattle.Proofs.Requests
import CardBattle.Proofs.Verdicts
import Mathlib.Tactic

namespace CardBattle

/-! ### Playing live -/

/-- The actors after a request that is played live: its card is looked up in the hand as it is and
judged by the actors as they are, with the power in reserve, the verdict is told and its effects are
resolved. A request that no card of the hand carries is passed over in silence. -/
def Actors.playLive (watched : Draft → Bool) (actors : Actors) (request : Card) :
    Except Failure Actors :=
  match actors.player.find? request.id with
  | none => .ok actors
  | some card => do
      let verdict := judge actors.player actors.enemy card actors.player.reserve
      Draft.noted watched (verdict.notes actors.enemy card)
      actors.runTold watched verdict.effects

/-- The snapshot after the player's turn where every request is played live, between the effects at
the start of the turn and those at its end. -/
def Battle.livePlayerTurn (watched : Draft → Bool) (b : Battle) (requests : List Card) :
    Except Failure Battle := do
  let opened ← (Actors.mk b.enemy b.readyPlayer).runTold watched
    (b.readyPlayer.turnStart ++ b.enemy.playerTurnStart)
  let played ← requests.foldlM (Actors.playLive watched) opened
  let ended ← played.runTold watched played.player.turnEnd
  (b.settled ended).concluded watched

/-! ### Effects that carry power -/

/-- Whether an effect carries power. -/
def Effect.carriesPower (e : Effect) : Bool :=
  match e.payload? with
  | some (.power _) => true
  | _ => false

/-- Enchantments add no power to the play effects of a card. -/
lemma Card.carriesPower_boundEffects {card : Card} {es : List Enchantment}
    (h : ∀ e ∈ card.onPlay, e.carriesPower = false) {e : Effect}
    (he : e ∈ (card.enchantedBy es).boundEffects) : e.carriesPower = false := by
  obtain ⟨own, hown, rfl⟩ := List.mem_map.mp he
  split
  · rfl
  · rcases mem_onPlay_enchantedBy hown with hplay | ⟨element, amount, _, rfl⟩
    · exact h own hplay
    · rfl

/-- The answers of an enemy carry power only where it declared so. -/
lemma Enemy.carriesPower_counters {enemy : Enemy}
    (h : ∀ e ∈ enemy.onPlayerCard, e.carriesPower = false) {element : Element} {e : Effect}
    (he : e ∈ enemy.counters element) : e.carriesPower = false := by
  obtain ⟨own, hown, condition, payload, htrigger, rfl⟩ := mem_counters he
  have hdeclared := h own hown
  rw [Effect.carriesPower, Effect.payload?, htrigger] at hdeclared
  exact hdeclared

namespace Actors

variable {actors next : Actors}

lemma powerGain?_of_not_carriesPower {e : Effect} (h : e.carriesPower = false) :
    actors.powerGain? e = none := by
  rw [powerGain?]
  split
  · next amount _ hfired =>
      rw [Effect.carriesPower, Effect.payload?, Trigger.payload?_of_fired? hfired] at h
      cases h
  · rfl

/-- Effects without power leave the reserve as it is. -/
lemma reserve_run_of_not_carriesPower {es : List Effect}
    (hes : ∀ e ∈ es, e.carriesPower = false) (h : actors.run es = .ok next) :
    next.player.reserve = actors.player.reserve := by
  refine run_preserves (P := fun after => after.player.reserve = actors.player.reserve)
    (fun mid after e he hkept hstep => ?_) rfl h
  rw [reserve_resolve hstep, powerGain?_of_not_carriesPower (hes e he), hkept]
  exact add_zero _

/-- A played card takes its cost from the reserve, where nothing else about it carries power. -/
lemma reserve_run_playedEffects {enemy : Enemy} {working : Card}
    (hes : ∀ e ∈ working.boundEffects ++ enemy.counters working.element, e.carriesPower = false)
    (h : actors.run (playedEffects enemy working) = .ok next) :
    next.player.reserve = actors.player.reserve - working.cost := by
  obtain ⟨paid, hpaid, hrest⟩ := run_cons_eq_ok_iff.mp h
  rw [reserve_run_of_not_carriesPower hes hrest, reserve_resolve hpaid]
  rfl

end Actors

/-! ### Plans that are followed -/

/-- A verdict depends on the active enchantments and on the answers of the enemy alone. -/
lemma judge_congr {player player' : Player} {enemy enemy' : Enemy}
    (hactivated : player'.activated = player.activated)
    (hanswers : enemy'.onPlayerCard = enemy.onPlayerCard) (card : Card) (available : Int) :
    judge player' enemy' card available = judge player enemy card available := by
  have henchant : player'.enchant card = player.enchant card := by
    rw [Player.enchant, Player.enchant, hactivated]
  have hplayed (working : Card) : playedEffects enemy' working = playedEffects enemy working := by
    rw [playedEffects, playedEffects, Enemy.counters, Enemy.counters, hanswers]
  simp only [judge, henchant, hplayed]

/-- What is told of a verdict depends on the answers of the enemy alone. -/
lemma Verdict.notes_congr {enemy enemy' : Enemy} (h : enemy'.onPlayerCard = enemy.onPlayerCard)
    (card : Card) (verdict : Verdict) : verdict.notes enemy' card = verdict.notes enemy card := by
  cases verdict with
  | accepted working effects =>
      rw [notes, notes, Enemy.counterNotes, Enemy.counterNotes, Enemy.counters, Enemy.counters, h]
  | _ => rfl

/-- Cards are found as before under ids that did not leave the hand. -/
lemma Player.find?_of_cards {player next : Player} {gone : List String} {id : String}
    (h : next.cards = player.cards.filter fun card => card.id ∉ gone) (hid : id ∉ gone) :
    next.find? id = player.find? id := by
  rw [find?, find?, h, List.find?_filter]
  congr 1
  funext card
  by_cases hcard : card.id = id
  · simp [hcard, hid]
  · simp [hcard]

namespace Actors

variable {watched : Draft → Bool} {player : Player} {enemy : Enemy} {available : Int}
  {request : Card} {rest requests : List Card} {actors next : Actors}

/-- The actors are where a plan has them before requests: what they are judged by is as planned,
the power that is left is in reserve, and the cards that are still requested are in the hand. -/
structure Follows (player : Player) (enemy : Enemy) (available : Int) (requests : List Card)
    (actors : Actors) : Prop where
  activated : actors.player.activated = player.activated
  onPlayerCard : actors.enemy.onPlayerCard = enemy.onPlayerCard
  reserve : actors.player.reserve = available
  find? : ∀ request ∈ requests, actors.player.find? request.id = player.find? request.id

/-- Where a plan is followed, the next request is played live as it was planned: a card that is
judged is told of, and then what it brings about is resolved. -/
lemma Follows.playLive_eq_fateOf (h : actors.Follows player enemy available (request :: rest)) :
    actors.playLive watched request
      = if (fateOf player enemy available request).isJudged then do
          Draft.noted watched ((fateOf player enemy available request).notes enemy)
          actors.runTold watched (fateOf player enemy available request).effects
        else .ok actors := by
  rw [playLive, h.find? request List.mem_cons_self, h.reserve, fateOf]
  cases player.find? request.id with
  | none => rfl
  | some card =>
      simp only [judge_congr h.activated h.onPlayerCard, Verdict.notes_congr h.onPlayerCard]
      rfl

/-- If what becomes of its card can be told, its effects are left to be resolved. -/
lemma Follows.playLive_eq (h : actors.Follows player enemy available (request :: rest))
    (htells : (fateOf player enemy available request).isJudged = true →
      (fateOf player enemy available request).Tells watched enemy) :
    actors.playLive watched request
      = actors.runTold watched (fateOf player enemy available request).effects := by
  rw [h.playLive_eq_fateOf]
  cases hfate : fateOf player enemy available request with
  | absent request => rfl
  | judged card verdict =>
      have hjudged : (Fate.judged card verdict).isJudged = true := rfl
      rw [hfate] at htells
      rw [if_pos hjudged, Draft.noted_eq_ok_iff.mpr (htells hjudged), ok_bind]

/-- Otherwise it is not played. -/
lemma Follows.playLive_eq_error (h : actors.Follows player enemy available (request :: rest))
    (hjudged : (fateOf player enemy available request).isJudged = true)
    (hlost : ¬ (fateOf player enemy available request).Tells watched enemy) :
    actors.playLive watched request = .error (.numeral .unwritable) := by
  rw [h.playLive_eq_fateOf, if_pos hjudged, Draft.noted_eq_error hlost]
  rfl

/-- A request that has been played as planned leaves the plan of the others to follow. -/
lemma Follows.play (h : actors.Follows player enemy available (request :: rest))
    (hplay : ∀ card ∈ player.cards, ∀ e ∈ card.onPlay, e.carriesPower = false)
    (hanswers : ∀ e ∈ enemy.onPlayerCard, e.carriesPower = false)
    (hfresh : request.id ∉ rest.map (·.id))
    (hnext : actors.run (fateOf player enemy available request).effects = .ok next) :
    next.Follows player enemy (available - (fateOf player enemy available request).spent) rest := by
  have hkept := keeps_run hnext
  refine ⟨hkept.player.activated.trans h.activated, hkept.enemy.onPlayerCard.trans h.onPlayerCard,
    ?_, fun other hother => ?_⟩
  · rcases fateOf_cases player enemy available request with
      ⟨working, hplayed, _, hspent, heffects⟩ | ⟨_, hspent, heffects⟩
    · obtain ⟨card, hfind, rfl⟩ := eq_enchant_of_played? hplayed
      rw [heffects] at hnext
      rw [hspent, ← h.reserve]
      refine reserve_run_playedEffects (fun e he => ?_) hnext
      rcases List.mem_append.mp he with hbound | hcounter
      · exact Card.carriesPower_boundEffects (hplay card (Player.mem_of_find? hfind)) hbound
      · exact Enemy.carriesPower_counters hanswers hcounter
    · rw [heffects, run_nil] at hnext
      obtain rfl := Except.ok.inj hnext
      rw [hspent, sub_zero, h.reserve]
  · rw [← h.find? other (List.mem_cons_of_mem _ hother)]
    refine Player.find?_of_cards (cards_run hnext) fun hgone => ?_
    rcases fateOf_cases player enemy available request with
      ⟨working, hplayed, _, _, heffects⟩ | ⟨_, _, heffects⟩
    · -- only the id of the request leaves the hand, and no other request has it
      obtain ⟨card, hfind, rfl⟩ := eq_enchant_of_played? hplayed
      rw [heffects, mem_removed_playedEffects] at hgone
      have hid : other.id = request.id :=
        hgone.2.trans ((card.id_enchantedBy player.activated).trans (Player.id_of_find? hfind))
      exact hfresh (hid ▸ List.mem_map_of_mem hother)
    · rw [heffects] at hgone
      cases hgone

/-- To resolve what a plan brings about is to play its requests live, where requests have distinct
ids, only costs carry power and what becomes of the judged cards can be told. -/
theorem runTold_plan_eq_foldlM_playLive (h : actors.Follows player enemy available requests)
    (hplay : ∀ card ∈ player.cards, ∀ e ∈ card.onPlay, e.carriesPower = false)
    (hanswers : ∀ e ∈ enemy.onPlayerCard, e.carriesPower = false)
    (hnodup : (requests.map (·.id)).Nodup)
    (htells : ∀ fate ∈ plan player enemy available requests,
      fate.isJudged = true → fate.Tells watched enemy) :
    actors.runTold watched ((plan player enemy available requests).flatMap (·.effects))
      = requests.foldlM (playLive watched) actors := by
  induction requests generalizing actors available with
  | nil => rfl
  | cons request rest ih =>
      obtain ⟨hfresh, hrest⟩ := List.nodup_cons.mp hnodup
      rw [plan_cons] at htells
      obtain ⟨hfirst, hothers⟩ := List.forall_mem_cons.mp htells
      rw [plan_cons, List.flatMap_cons, runTold_append, List.foldlM_cons, h.playLive_eq hfirst]
      cases hnext : actors.runTold watched (fateOf player enemy available request).effects with
      | error failure => rfl
      | ok next => exact ih (h.play hplay hanswers hfresh (run_of_runTold hnext)) hrest hothers

/-- Where what becomes of a judged card cannot be told, the requests cannot all be played live. -/
lemma exists_foldlM_playLive_eq_error (h : actors.Follows player enemy available requests)
    (hplay : ∀ card ∈ player.cards, ∀ e ∈ card.onPlay, e.carriesPower = false)
    (hanswers : ∀ e ∈ enemy.onPlayerCard, e.carriesPower = false)
    (hnodup : (requests.map (·.id)).Nodup)
    (hlost : ∃ fate ∈ plan player enemy available requests,
      fate.isJudged = true ∧ ¬ fate.Tells watched enemy) :
    ∃ failure, requests.foldlM (playLive watched) actors = .error failure := by
  induction requests generalizing actors available with
  | nil => obtain ⟨fate, hfate, _⟩ := hlost; cases hfate
  | cons request rest ih =>
      obtain ⟨hfresh, hrest⟩ := List.nodup_cons.mp hnodup
      obtain ⟨fate, hfate, hlost⟩ := hlost
      rw [plan_cons] at hfate
      rw [List.foldlM_cons]
      rcases List.mem_cons.mp hfate with rfl | hmem
      · rw [h.playLive_eq_error hlost.1 hlost.2]
        exact ⟨_, rfl⟩
      · by_cases hfirst : (fateOf player enemy available request).isJudged = true →
            (fateOf player enemy available request).Tells watched enemy
        · rw [h.playLive_eq hfirst]
          cases hnext : actors.runTold watched
              (fateOf player enemy available request).effects with
          | error failure => exact ⟨failure, rfl⟩
          | ok next =>
              exact ih (h.play hplay hanswers hfresh (run_of_runTold hnext)) hrest
                ⟨fate, hmem, hlost⟩
        · obtain ⟨hjudged, hnot⟩ := Classical.not_imp.mp hfirst
          rw [h.playLive_eq_error hjudged hnot]
          exact ⟨_, rfl⟩

end Actors

/-! ### The player's turn -/

namespace Battle

variable {watched : Draft → Bool} {b : Battle} {requests : List Card}

/-- A battle whose turns can be planned ahead: at the start of the player's turn no card leaves the
hand, and neither the cards of the hand nor the enemy, at that start or in answer to a card, declare
power. -/
structure Plannable (b : Battle) : Prop where
  noDiscard : ∀ e ∈ b.player.turnStart ++ b.enemy.playerTurnStart, e.isDiscard = false
  noPower : ∀ e ∈ b.player.cards.flatMap (·.effects) ++ b.enemy.playerTurnStart
    ++ b.enemy.onPlayerCard, e.carriesPower = false

/-- The effects at the start of the player's turn leave a plannable battle where its plan starts. -/
lemma Plannable.follows (h : b.Plannable) (requests : List Card) {opened : Actors}
    (hopened : (Actors.mk b.enemy b.readyPlayer).run
      (b.readyPlayer.turnStart ++ b.enemy.playerTurnStart) = .ok opened) :
    opened.Follows b.readyPlayer b.enemy b.pool requests := by
  have hkept := Actors.keeps_run hopened
  refine ⟨hkept.player.activated, hkept.enemy.onPlayerCard, ?_, fun request _ => ?_⟩
  · refine Actors.reserve_run_of_not_carriesPower (fun e he => h.noPower e ?_) hopened
    rcases List.mem_append.mp he with hstart | hstart
    · have hdeclared := Player.mem_effects_of_mem_turnStart hstart
      exact List.mem_append_left _ (List.mem_append_left _ hdeclared)
    · exact List.mem_append_left _ (List.mem_append_right _ hstart)
  · refine Player.find?_of_cards (Actors.cards_run hopened) fun hgone => ?_
    obtain ⟨e, he, hremoved⟩ := List.mem_filterMap.mp hgone
    rw [Effect.removed?_of_not_isDiscard (h.noDiscard e he)] at hremoved
    cases hremoved

/-- Nor do the cards of a plannable battle declare power to be gained by play. -/
lemma Plannable.carriesPower_onPlay (h : b.Plannable) :
    ∀ card ∈ b.player.cards, ∀ e ∈ card.onPlay, e.carriesPower = false := by
  refine fun card hcard e he => h.noPower e ?_
  refine List.mem_append_left _ (List.mem_append_left _ ?_)
  exact List.mem_flatMap.mpr ⟨card, hcard, by simp [Card.effects, he]⟩

/-- Nor does its enemy in answer to a card. -/
lemma Plannable.carriesPower_onPlayerCard (h : b.Plannable) :
    ∀ e ∈ b.enemy.onPlayerCard, e.carriesPower = false :=
  fun e he => h.noPower e (List.mem_append_right _ he)

/-- Where what becomes of the judged cards can be told, the live turn resolves the effects of the
planned one. -/
lemma livePlayerTurn_eq (h : b.Plannable) (hnodup : (requests.map (·.id)).Nodup)
    (htells : ∀ fate ∈ b.fates requests, fate.isJudged = true → fate.Tells watched b.enemy) :
    b.livePlayerTurn watched requests = (do
      let ended ← (Actors.mk b.enemy b.readyPlayer).runTold watched (b.playerTurnEffects requests)
      (b.settled ended).concluded watched) := by
  rw [playerTurnEffects, Actors.runTold_append, Actors.runTold_append, livePlayerTurn]
  cases hopened : (Actors.mk b.enemy b.readyPlayer).runTold watched
      (b.readyPlayer.turnStart ++ b.enemy.playerTurnStart) with
  | error failure => rfl
  | ok opened =>
      have hrun := Actors.run_of_runTold hopened
      have hplan : opened.runTold watched ((b.fates requests).flatMap (·.effects))
          = requests.foldlM (Actors.playLive watched) opened :=
        Actors.runTold_plan_eq_foldlM_playLive (h.follows requests hrun) h.carriesPower_onPlay
          h.carriesPower_onPlayerCard hnodup htells
      simp only [ok_bind, hplan, bind_assoc]
      cases hplayed : requests.foldlM (Actors.playLive watched) opened with
      | error failure => rfl
      | ok played =>
          -- the heals come from enchantments, which stay as they are
          have hkept := (Actors.keeps_run hrun).trans
            (Actors.keeps_run (Actors.run_of_runTold (hplan.trans hplayed)))
          have hend : played.player.turnEnd = b.readyPlayer.turnEnd := by
            rw [Player.turnEnd, Player.turnEnd, hkept.player.activated]
          simp only [ok_bind, hend]

/-- In an undecided battle that can be planned ahead, the player's turn is the live one for requests
with distinct ids, if what becomes of the requests can be told: they give the same snapshot, or the
same failure. If it cannot be told, no effect of the planned turn is resolved. Then the live turn
fails as well, unless it is absent requests only that cannot be told: it passes over those, and is
the turn for the requested cards. -/
theorem takeTold_eq_livePlayerTurn (watched : Draft → Bool) {b : Battle} {requests : List Card}
    (hopen : b.isOver = false) (h : b.Plannable) (hnodup : (requests.map (·.id)).Nodup) :
    ((∀ fate ∈ b.fates requests, fate.Tells watched b.enemy) →
        b.takeTold watched (.player requests) = b.livePlayerTurn watched requests)
      ∧ ((¬ ∀ fate ∈ b.fates requests, fate.Tells watched b.enemy) →
        b.takeTold watched (.player requests) = .error (.numeral .unwritable))
      ∧ ((∀ fate ∈ b.fates requests, fate.isJudged = true → fate.Tells watched b.enemy) →
        b.livePlayerTurn watched requests
          = b.takeTold watched (.player (b.readyPlayer.requested requests)))
      ∧ ((∃ fate ∈ b.fates requests, fate.isJudged = true ∧ ¬ fate.Tells watched b.enemy) →
        ∃ failure, b.livePlayerTurn watched requests = .error failure) := by
  refine ⟨fun htells => ?_, takeTold_of_not_tells hopen, fun htells => ?_, fun hlost => ?_⟩
  · rw [takeTold_player hopen, noted_fates_eq_ok_iff.mpr htells,
      livePlayerTurn_eq h hnodup fun fate hfate _ => htells fate hfate]
    rfl
  · have hrequested : ∀ fate ∈ b.fates (b.readyPlayer.requested requests),
        fate.Tells watched b.enemy := by
      rw [fates, plan_requested]
      intro fate hfate
      obtain ⟨hmem, hjudged⟩ := List.mem_filter.mp hfate
      exact htells fate hmem hjudged
    have heffects : b.playerTurnEffects (b.readyPlayer.requested requests)
        = b.playerTurnEffects requests := by
      rw [playerTurnEffects, fates, flatMap_effects_plan_requested]
      rfl
    rw [takeTold_player hopen, noted_fates_eq_ok_iff.mpr hrequested, heffects,
      livePlayerTurn_eq h hnodup htells]
    rfl
  · rw [livePlayerTurn]
    cases hopened : (Actors.mk b.enemy b.readyPlayer).runTold watched
        (b.readyPlayer.turnStart ++ b.enemy.playerTurnStart) with
    | error failure => exact ⟨failure, rfl⟩
    | ok opened =>
        obtain ⟨failure, hfailed⟩ := Actors.exists_foldlM_playLive_eq_error
          (h.follows requests (Actors.run_of_runTold hopened)) h.carriesPower_onPlay
          h.carriesPower_onPlayerCard hnodup hlost
        rw [ok_bind, hfailed]
        exact ⟨failure, rfl⟩

/-- A player with a heal for each turn, extra wind damage, a card that is spent by play and two
plain ones. -/
def windPlayer : Player :=
  { hitPoints := 20
    cards := [Catalog.helis "helis", Catalog.windTurbines "amp", Catalog.jetBlast "jet",
      Catalog.gust "gust", Catalog.stream "stream"] }

/-- Requests for the jet blast, the gust and the stream. -/
def windRequests : List Card :=
  [Catalog.jetBlast "jet", Catalog.gust "gust", Catalog.stream "stream"]

/-- The jet blast and the gust are answered by thorns and feed the meltdown, and the stream is not
covered any more; planned ahead or played live, the turn leaves the same, even where every note is
read. -/
theorem takeTold_eq_livePlayerTurn_meltdown :
    (start Catalog.meltdown windPlayer 3).isOver = false
      ∧ (start Catalog.meltdown windPlayer 3).Plannable
      ∧ (start Catalog.meltdown windPlayer 3).takeTold (fun _ => true) (.player windRequests)
        = (start Catalog.meltdown windPlayer 3).livePlayerTurn (fun _ => true) windRequests
      ∧ ((start Catalog.meltdown windPlayer 3).livePlayerTurn (fun _ => true) windRequests).map
          (fun next => (next.enemy.hitPoints, next.player.hitPoints, next.player.reserve,
            next.player.cards.map (·.id)))
        = .ok (22, 19, 0, ["helis", "amp", "gust", "stream"]) := by
  have hopen : (start Catalog.meltdown windPlayer 3).isOver = false := rfl
  have hplannable : (start Catalog.meltdown windPlayer 3).Plannable :=
    ⟨by decide, by decide⟩
  have hnodup : (windRequests.map (·.id)).Nodup := by decide
  obtain ⟨hsame, _, _, _⟩ :=
    takeTold_eq_livePlayerTurn (fun _ => true) hopen hplannable hnodup
  exact ⟨hopen, hplannable, hsame (by decide +kernel), by decide +kernel⟩

/-- A battle in which half of the player's hit points, which are too many to be made a double, are
taken at the start of its turn, and in which the dear card is covered. -/
def halvedBattle : Battle :=
  { enemy := { Catalog.floods with
      playerTurnStart := [.onPlayer "Quake" (.always (.percentDamage Double.half))] }
    player := { taxedPlayer with hitPoints := Nat.pow 2 1024, cards := [dearCard] }
    powerPerTurn := 12 * dearUnit }

/-- Both battles are undecided and can be planned ahead, and a single request has a distinct id. One
that no card of the hand carries, and that is too dear to be told, fails the planned turn and not
the live one. The dear card fails the planned turn before anything is resolved; the live one
resolves what comes at its start, and so fails in another way. -/
theorem takeTold_ne_livePlayerTurn :
    ((start Catalog.floods threeCardPlayer 3).isOver = false
        ∧ (start Catalog.floods threeCardPlayer 3).Plannable
        ∧ (start Catalog.floods threeCardPlayer 3).takeTold (fun _ => false) (.player [dearGhost])
          = .error (.numeral .unwritable)
        ∧ ((start Catalog.floods threeCardPlayer 3).livePlayerTurn (fun _ => false)
            [dearGhost]).map (·.player.reserve) = .ok 3)
      ∧ halvedBattle.isOver = false
      ∧ halvedBattle.Plannable
      ∧ halvedBattle.takeTold (fun _ => false) (.player [dearCard])
        = .error (.numeral .unwritable)
      ∧ halvedBattle.livePlayerTurn (fun _ => false) [dearCard]
        = .error (.arithmetic .integerTooLarge) := by
  refine ⟨⟨rfl, ⟨by decide, by decide⟩, ?_, ?_⟩, rfl, ⟨by decide, by decide⟩, ?_, ?_⟩
  all_goals decide +kernel

/-- The same card requested twice is planned twice before it is spent; played live, the second
request finds it gone. -/
example :
    (start Catalog.floods windPlayer 4).takeTold (fun _ => false)
        (.player [Catalog.jetBlast "jet", Catalog.jetBlast "jet"])
      ≠ (start Catalog.floods windPlayer 4).livePlayerTurn (fun _ => false)
          [Catalog.jetBlast "jet", Catalog.jetBlast "jet"] := by
  decide +kernel

end Battle

end CardBattle
