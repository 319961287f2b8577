/-
Which parts of the requests of a turn matter.

* `Player.heldIds` : the ids of requests that cards of the hand carry; `Player.requested`: those
  cards; `plan_requested`, `flatMap_effects_plan_requested`: requests for the cards themselves have
  the fates of the requests that stand for them, and bring about what all of the requests do;
* `Battle.acceptedRequests` : the requests that a turn accepts; `map_id_played_plan`: their ids are
  those of the cards that are played; `flatMap_effects_plan_accepted`: they alone bring about what
  all of the requests do;
* `Player.AbsentTell` : whether the costs of the requests that are absent from the hand can be
  written; `tells_plan_requested_iff`, `tells_plan_accepted_iff`: when what becomes of requests can
  be told;
* `takeTold_requests` : a turn depends on the ids of the requested cards of the hand alone, and a
  request that is skipped leaves no trace, as far as what is told of it can be written.
-/
import CardBattle.Catalog.Cards
import CardBattle.Catalog.Enemies
import CardBattle.Proofs.Plan
import CardBattle.Proofs.Told
import Mathlib.Tactic

namespace CardBattle

/-! ### The cards that are requested -/

namespace Card

lemma id_enchant (card : Card) (e : Enchantment) : (card.enchant e).id = card.id := by
  cases e with
  | _ =>
      simp only [enchant]
      split <;> rfl

/-- Enchantments leave the id of a card as it is. -/
lemma id_enchantedBy (card : Card) (es : List Enchantment) :
    (card.enchantedBy es).id = card.id := by
  induction es generalizing card with
  | nil => rfl
  | cons e es ih => exact (ih (card.enchant e)).trans (card.id_enchant e)

end Card

namespace Player

variable {player : Player} {id : String} {card : Card}

/-- The ids of requests that cards of the hand carry, in order. -/
def heldIds (player : Player) (requests : List Card) : List String :=
  (requests.map (·.id)).filter (· ∈ player.cards.map (·.id))

/-- The cards of the hand that are requested, in order. -/
def requested (player : Player) (requests : List Card) : List Card :=
  requests.filterMap fun request => player.find? request.id

lemma id_of_find? (h : player.find? id = some card) : card.id = id := by
  simpa using List.find?_some h

lemma mem_of_find? (h : player.find? id = some card) : card ∈ player.cards :=
  List.mem_of_find?_eq_some h

lemma find?_eq_none_iff : player.find? id = none ↔ id ∉ player.cards.map (·.id) := by
  simp [find?]

/-- The ids that are held tell which cards are requested. -/
lemma requested_eq (requests : List Card) :
    player.requested requests = (player.heldIds requests).filterMap player.find? := by
  rw [requested, heldIds, List.filterMap_filter, List.filterMap_map]
  refine List.filterMap_congr fun request _ => ?_
  -- an id that no card carries finds nothing, so it may be left out
  simpa using fun h : request.id ∉ player.cards.map (·.id) => find?_eq_none_iff.mpr h

end Player

variable {player : Player} {enemy : Enemy}

/-- Whether a card of the hand is judged for a request. -/
def Fate.isJudged : Fate → Bool
  | .absent _ => false
  | .judged _ _ => true

/-- Requests for the cards that are requested have the fates of the requests that stand for them. -/
lemma plan_requested (available : Int) (requests : List Card) :
    plan player enemy available (player.requested requests)
      = (plan player enemy available requests).filter Fate.isJudged := by
  induction requests generalizing available with
  | nil => rfl
  | cons request rest ih =>
      rw [Player.requested] at ih
      rw [plan_cons, Player.requested, List.filterMap_cons]
      cases hfind : player.find? request.id with
      | none =>
          have hfate : fateOf player enemy available request = .absent request := by
            rw [fateOf, hfind]
          rw [hfate, List.filter_cons_of_neg (by simp [Fate.isJudged]), ← ih]
          simp [Fate.spent]
      | some card =>
          -- the card carries the id of the request, so both are judged as that card
          have hfate : fateOf player enemy available card
              = fateOf player enemy available request := by
            rw [fateOf, fateOf, Player.id_of_find? hfind, hfind]
          have hjudged : (fateOf player enemy available request).isJudged = true := by
            rw [fateOf, hfind]
            rfl
          rw [plan_cons, hfate, List.filter_cons_of_pos hjudged, ih]

/-- Requests bring about what requests for the cards of the hand that they stand for do. -/
lemma flatMap_effects_plan_requested (available : Int) (requests : List Card) :
    (plan player enemy available (player.requested requests)).flatMap (·.effects)
      = (plan player enemy available requests).flatMap (·.effects) := by
  rw [plan_requested]
  induction plan player enemy available requests with
  | nil => rfl
  | cons fate rest ih =>
      cases fate with
      | absent request => exact ih
      | judged card verdict => exact congrArg (verdict.effects ++ ·) ih

/-! ### The requests that are accepted -/

/-- The requests that play a card, where some power is left. -/
def acceptedOf (player : Player) (enemy : Enemy) (available : Int) (requests : List Card) :
    List Card :=
  ((requests.zip (plan player enemy available requests)).filter (·.2.played?.isSome)).map (·.1)

lemma acceptedOf_cons (available : Int) (request : Card) (rest : List Card) :
    acceptedOf player enemy available (request :: rest)
      = (if (fateOf player enemy available request).played?.isSome then [request] else [])
        ++ acceptedOf player enemy
          (available - (fateOf player enemy available request).spent) rest := by
  simp only [acceptedOf, plan_cons, List.zip_cons_cons, List.filter_cons]
  split <;> rfl

/-- The cards that requests play carry the ids of the requests that are accepted. -/
lemma map_id_played_plan (available : Int) (requests : List Card) :
    ((plan player enemy available requests).filterMap Fate.played?).map (·.id)
      = (acceptedOf player enemy available requests).map (·.id) := by
  induction requests generalizing available with
  | nil => rfl
  | cons request rest ih =>
      rw [plan_cons, acceptedOf_cons, List.map_append, ← ih]
      cases hplayed : (fateOf player enemy available request).played? with
      | none => rw [List.filterMap_cons_none hplayed]; rfl
      | some working =>
          obtain ⟨card, hfind, rfl⟩ := eq_enchant_of_played? hplayed
          have hid : (player.enchant card).id = request.id :=
            (card.id_enchantedBy player.activated).trans (Player.id_of_find? hfind)
          rw [List.filterMap_cons_some hplayed, List.map_cons, hid]
          rfl

/-- Accepted requests bring about what all of the requests do. -/
lemma flatMap_effects_plan_accepted (available : Int) (requests : List Card) :
    (plan player enemy available (acceptedOf player enemy available requests)).flatMap (·.effects)
      = (plan player enemy available requests).flatMap (·.effects) := by
  induction requests generalizing available with
  | nil => rfl
  | cons request rest ih =>
      rw [plan_cons, List.flatMap_cons]
      rcases fateOf_cases player enemy available request with
        ⟨working, hplayed, _, _, _⟩ | ⟨hplayed, hspent, heffects⟩
      · rw [acceptedOf_cons, if_pos (by simp [hplayed]), List.singleton_append, plan_cons,
          List.flatMap_cons, ih]
      · -- a request that is skipped leaves the power to the others
        rw [acceptedOf_cons, if_neg (by simp [hplayed]), hspent, heffects, sub_zero,
          List.nil_append, List.nil_append, ih]

/-! ### What is told of requests -/

/-- Whether the cost of each request that no card of the hand carries can be written. -/
def Player.AbsentTell (player : Player) (requests : List Card) : Prop :=
  ∀ request ∈ requests, request.id ∉ player.cards.map (·.id) → Text.isShort request.cost = true

instance (player : Player) (requests : List Card) : Decidable (player.AbsentTell requests) :=
  inferInstanceAs (Decidable (∀ _ ∈ _, _))

/-- What becomes of the requests that are absent can be told if their costs can be written. -/
lemma tells_absent_plan_iff (watched : Draft → Bool) (enemy : Enemy) {available : Int}
    {requests : List Card} :
    (∀ fate ∈ plan player enemy available requests,
        fate.isJudged = false → fate.Tells watched enemy)
      ↔ player.AbsentTell requests := by
  induction requests generalizing available with
  | nil => simp [plan, Player.AbsentTell]
  | cons request rest ih =>
      rw [plan_cons, List.forall_mem_cons, ih, Player.AbsentTell, Player.AbsentTell,
        List.forall_mem_cons]
      refine and_congr_left' ?_
      rw [← Player.find?_eq_none_iff, fateOf]
      cases player.find? request.id with
      | none => simp [Fate.isJudged, Fate.tells_absent_iff]
      | some card => simp [Fate.isJudged]

/-- What becomes of requests can be told if that of the requested cards can be, and the costs of the
requests that are absent. -/
lemma tells_plan_requested_iff {watched : Draft → Bool} (available : Int) (requests : List Card) :
    (∀ fate ∈ plan player enemy available requests, fate.Tells watched enemy)
      ↔ player.AbsentTell requests
        ∧ ∀ fate ∈ plan player enemy available (player.requested requests),
            fate.Tells watched enemy := by
  rw [plan_requested, ← tells_absent_plan_iff watched enemy]
  simp only [List.mem_filter, and_imp]
  constructor
  · exact fun h => ⟨fun fate hfate _ => h fate hfate, fun fate hfate _ => h fate hfate⟩
  · rintro ⟨habsent, hjudged⟩ fate hfate
    cases hkind : fate.isJudged with
    | false => exact habsent fate hfate hkind
    | true => exact hjudged fate hfate hkind

/-- Where what becomes of the requests that are skipped can be told, that of all requests can be if
that of the accepted ones can be. -/
lemma tells_plan_accepted_iff {watched : Draft → Bool} {available : Int} {requests : List Card}
    (h : ∀ fate ∈ plan player enemy available requests,
      fate.played? = none → fate.Tells watched enemy) :
    (∀ fate ∈ plan player enemy available (acceptedOf player enemy available requests),
        fate.Tells watched enemy)
      ↔ ∀ fate ∈ plan player enemy available requests, fate.Tells watched enemy := by
  induction requests generalizing available with
  | nil => rfl
  | cons request rest ih =>
      rw [plan_cons] at h ⊢
      obtain ⟨hfirst, hrest⟩ := List.forall_mem_cons.mp h
      rw [List.forall_mem_cons, acceptedOf_cons]
      rcases fateOf_cases player enemy available request with
        ⟨working, hplayed, _, _, _⟩ | ⟨hplayed, hspent, _⟩
      · rw [if_pos (by simp [hplayed]), List.singleton_append, plan_cons, List.forall_mem_cons,
          ih hrest]
      · rw [hspent, sub_zero] at hrest ⊢
        rw [if_neg (by simp [hplayed]), List.nil_append, ih hrest,
          and_iff_right (hfirst hplayed)]

/-- A card that is judged and not played can be told of where nobody reads along. -/
lemma Fate.tells_of_played?_eq_none {card : Card} {verdict : Verdict}
    (h : (judged card verdict).played? = none) :
    (judged card verdict).Tells (fun _ => false) enemy := by
  cases verdict with
  | accepted working effects => cases h
  | unplayable => exact List.forall_mem_singleton.mpr (Draft.tells_kept_unwatched _ _ _)
  | forbidden => exact List.forall_mem_singleton.mpr (Draft.tells_kept_unwatched _ _ _)
  | unaffordable cost left =>
      exact List.forall_mem_singleton.mpr (Draft.tells_kept_unwatched _ _ _)

/-- Where nobody reads along, what becomes of skipped requests can be told if the costs of those
that are absent can be written. -/
lemma tells_skipped_iff {available : Int} {requests : List Card} :
    (∀ fate ∈ plan player enemy available requests,
        fate.played? = none → fate.Tells (fun _ => false) enemy)
      ↔ player.AbsentTell requests := by
  rw [← tells_absent_plan_iff (fun _ => false) enemy]
  refine forall₂_congr fun fate _ => ?_
  cases fate with
  | absent request => simp [Fate.played?, Fate.isJudged]
  | judged card verdict =>
      exact iff_of_true Fate.tells_of_played?_eq_none fun hkind => Bool.noConfusion hkind

/-! ### The player's turn -/

namespace Battle

variable {watched : Draft → Bool} {b : Battle} {requests others : List Card}

/-- The requests that a turn of the player accepts; a decided battle accepts none. -/
def acceptedRequests (b : Battle) (requests : List Card) : List Card :=
  if b.isOver then [] else acceptedOf b.readyPlayer b.enemy b.pool requests

/-- Requests that bring about the same, and that can be told alike, make the same turn. -/
lemma takeTold_congr (hopen : b.isOver = false)
    (heffects : (b.fates requests).flatMap (·.effects) = (b.fates others).flatMap (·.effects))
    (htells : (∀ fate ∈ b.fates requests, fate.Tells watched b.enemy)
      ↔ ∀ fate ∈ b.fates others, fate.Tells watched b.enemy) :
    b.takeTold watched (.player requests) = b.takeTold watched (.player others) := by
  by_cases h : ∀ fate ∈ b.fates requests, fate.Tells watched b.enemy
  · rw [takeTold_player hopen, takeTold_player hopen, noted_fates_eq_ok_iff.mpr h,
      noted_fates_eq_ok_iff.mpr (htells.mp h), playerTurnEffects, playerTurnEffects, heffects]
  · rw [takeTold_of_not_tells hopen h, takeTold_of_not_tells hopen (mt htells.mpr h)]

/-- Requests whose ids agree on the cards of the hand make the same turn, whatever else the requests
say and wherever ids stand that no card of the hand carries, if the costs of the requests for such
ids can be written. Where what becomes of the skipped requests can be told, the requests that are
accepted make the same turn by themselves; where it cannot be, no effect of the turn is resolved.
Nothing but those costs has to be written for that if nobody reads along. -/
theorem takeTold_requests (watched : Draft → Bool) (b : Battle) :
    (∀ requests others, b.player.heldIds requests = b.player.heldIds others →
        b.player.AbsentTell requests → b.player.AbsentTell others →
        b.takeTold watched (.player requests) = b.takeTold watched (.player others))
      ∧ (∀ requests,
          (∀ fate ∈ b.fates requests, fate.played? = none → fate.Tells watched b.enemy) →
          b.takeTold watched (.player requests)
            = b.takeTold watched (.player (b.acceptedRequests requests)))
      ∧ (∀ requests, b.isOver = false →
          (∃ fate ∈ b.fates requests, fate.played? = none ∧ ¬ fate.Tells watched b.enemy) →
          b.takeTold watched (.player requests) = .error (.numeral .unwritable))
      ∧ ∀ requests,
          (∀ fate ∈ b.fates requests,
              fate.played? = none → fate.Tells (fun _ => false) b.enemy)
            ↔ b.player.AbsentTell requests := by
  refine ⟨fun requests others hids htell hother => ?_, fun requests hskipped => ?_,
    fun requests hopen hlost => ?_, fun requests => tells_skipped_iff⟩
  · cases hover : b.isOver with
    | true => rw [takeTold_of_isOver hover, takeTold_of_isOver hover]
    | false =>
        have hrequested : b.readyPlayer.requested requests = b.readyPlayer.requested others := by
          rw [Player.requested_eq, Player.requested_eq]
          exact congrArg (List.filterMap b.readyPlayer.find?) hids
        refine takeTold_congr hover ?_ ?_
        · rw [fates, fates, ← flatMap_effects_plan_requested, hrequested,
            flatMap_effects_plan_requested]
        · rw [fates, fates, tells_plan_requested_iff, tells_plan_requested_iff b.pool others,
            hrequested]
          exact and_congr_left' (iff_of_true htell hother)
  · cases hover : b.isOver with
    | true => rw [takeTold_of_isOver hover, takeTold_of_isOver hover]
    | false =>
        rw [acceptedRequests, if_neg (by simp [hover])]
        exact takeTold_congr hover (flatMap_effects_plan_accepted b.pool requests).symm
          (tells_plan_accepted_iff hskipped).symm
  · obtain ⟨fate, hfate, _, hnot⟩ := hlost
    exact takeTold_of_not_tells hopen fun htells => hnot (htells fate hfate)

/-- A player with two cards that deal damage and one that heals. -/
def threeCardPlayer : Player :=
  { hitPoints := 20
    cards := [Catalog.gust "gust", Catalog.stream "stream", Catalog.firstAid "kit"] }

/-- A request with the id of a gust and nothing else of it. -/
def forgedGust : Card :=
  { id := "gust", name := "Storm", element := .water, cost := 0, canPlay := false
    onPlay := [.elementDamage .water 99] }

/-- Requests for a card that is not in the hand, for the gust by a forgery, and for the two other
cards, the last of which is not covered any more. -/
def mixedRequests : List Card :=
  [Catalog.jetBlast "jet", forgedGust, Catalog.firstAid "kit", Catalog.stream "stream"]

/-- The forgery plays the gust, at its cost and with its damage; the first request and the last one
leave no trace, even where every note is read. -/
theorem takeTold_requests_forged :
    (start Catalog.floods threeCardPlayer 3).player.heldIds mixedRequests
        = (start Catalog.floods threeCardPlayer 3).player.heldIds
            [Catalog.gust "gust", Catalog.firstAid "kit", Catalog.stream "stream"]
      ∧ (start Catalog.floods threeCardPlayer 3).takeTold (fun _ => true) (.player mixedRequests)
        = (start Catalog.floods threeCardPlayer 3).takeTold (fun _ => true)
            (.player [Catalog.gust "gust", Catalog.firstAid "kit", Catalog.stream "stream"])
      ∧ (start Catalog.floods threeCardPlayer 3).takeTold (fun _ => true) (.player mixedRequests)
        = (start Catalog.floods threeCardPlayer 3).takeTold (fun _ => true)
            (.player [forgedGust, Catalog.firstAid "kit"])
      ∧ ((start Catalog.floods threeCardPlayer 3).takeTold (fun _ => true)
            (.player mixedRequests)).map
          (fun next => (next.enemy.hitPoints, next.player.hitPoints, next.player.reserve))
        = .ok (9, 28, 0) := by
  have hids : (start Catalog.floods threeCardPlayer 3).player.heldIds mixedRequests
      = (start Catalog.floods threeCardPlayer 3).player.heldIds
          [Catalog.gust "gust", Catalog.firstAid "kit", Catalog.stream "stream"] := by
    decide
  have haccepted : (start Catalog.floods threeCardPlayer 3).acceptedRequests mixedRequests
      = [forgedGust, Catalog.firstAid "kit"] := by
    decide
  obtain ⟨hsame, hskipped, _, _⟩ :=
    takeTold_requests (fun _ => true) (start Catalog.floods threeCardPlayer 3)
  have hturn := hskipped mixedRequests (by decide +kernel)
  rw [haccepted] at hturn
  exact ⟨hids, hsame _ _ hids (by decide +kernel) (by decide +kernel), hturn, by decide +kernel⟩

/-- A request that no card of the hand carries, with the least cost that cannot be written. -/
def dearGhost : Card :=
  { id := "ghost", name := "Ghost", element := .wind, cost := Nat.pow 10 Text.mostNumeralDigits }

/-- The request holds no id of the hand, as no request at all does, and it is not accepted; the turn
without it is taken, and with it there is no next snapshot, since its cost is told at once. -/
theorem takeTold_requests_ghost :
    (start Catalog.floods threeCardPlayer 3).isOver = false
      ∧ (start Catalog.floods threeCardPlayer 3).player.heldIds [dearGhost]
        = (start Catalog.floods threeCardPlayer 3).player.heldIds []
      ∧ (start Catalog.floods threeCardPlayer 3).acceptedRequests [dearGhost] = []
      ∧ (start Catalog.floods threeCardPlayer 3).takeTold (fun _ => false) (.player [dearGhost])
        = .error (.numeral .unwritable)
      ∧ ((start Catalog.floods threeCardPlayer 3).takeTold (fun _ => false) (.player [])).map
          (·.player.reserve) = .ok 3 := by
  decide +kernel

end Battle

end CardBattle
