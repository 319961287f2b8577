/-
How cards leave the hand.

* `Effect.removed?` : the id that an effect takes from the hand; `cards_run`: after a run the hand
  is what it was without the ids that its effects take, in order;
* `Card.spentByPlay` : whether a card leaves the hand when it is played; no enchantment changes
  that;
* `mem_removed_playedEffects` : a played card takes its own id from the hand if it is such a card,
  and no other id;
* `Battle.UnnamedDiscards` : the ids of the hand are distinct and not empty, and no discard that is
  declared names a card; `UnnamedDiscards.mem_removed_playerTurnEffects`: then a turn of the player
  takes the cards that are spent by play and for which a request is accepted, and no others;
* `hand_turn` : so the hand after the player's turn lacks just those; a turn of the enemy leaves it
  as it is;
* `unnamedDiscards_of_toPlayer`, `unnamedDiscards_newBattle` : battles of files and battles from the
  catalog are of that kind.
-/
import CardBattle.Catalog
import CardBattle.Proofs.Accepted
import CardBattle.Proofs.Origins
import CardBattle.Proofs.Requests
import Mathlib.Tactic

namespace CardBattle

/-! ### What effects take from the hand -/

/-- The id that an effect takes from the hand. -/
def Effect.removed? (e : Effect) : Option String :=
  match e.target, e.trigger with
  | .player, .discard cardId => some cardId
  | _, _ => none

lemma Effect.removed?_of_not_isDiscard {e : Effect} (h : e.isDiscard = false) :
    e.removed? = none := by
  rw [removed?]
  split
  · next htrigger => simp [isDiscard, htrigger, Trigger.isDiscard] at h
  · rfl

/-- Whether an effect is no discard, or one that names no card. -/
def Effect.NamesNoCard (e : Effect) : Prop := e.isDiscard = true → e.trigger = .discard ""

instance (e : Effect) : Decidable e.NamesNoCard :=
  inferInstanceAs (Decidable (e.isDiscard = true → e.trigger = .discard ""))

namespace Actors

variable {actors next : Actors}

/-- One effect takes the cards of one id from the hand, or it leaves the hand as it is. -/
lemma cards_resolve {e : Effect} (h : actors.resolve e = .ok next) :
    next.player.cards = actors.player.cards.filter fun card => e.removed? ≠ some card.id := by
  rcases resolve_cases h with ⟨htarget, player, hplayer, rfl⟩ | ⟨htarget, enemy, _, rfl⟩
  · rcases Player.receive_cases hplayer with
      ⟨cardId, htrigger, rfl⟩ | ⟨payload, hfired, happly⟩ | ⟨hdiscard, _, rfl⟩
    · simp [Player.discard, Effect.removed?, htarget, htrigger, eq_comm]
    · have hnone : e.removed? = none := by
        refine Effect.removed?_of_not_isDiscard ?_
        cases htrigger : e.trigger with
        | discard cardId => simp [htrigger, Trigger.fired?] at hfired
        | _ => simp [Effect.isDiscard, htrigger, Trigger.isDiscard]
      rcases Player.apply_cases happly with ⟨amount, _, rfl⟩ | ⟨_, hitPoints, rfl⟩
      · simp [hnone]
      · simp [hnone]
    · simp [Effect.removed?_of_not_isDiscard hdiscard]
  · simp [Effect.removed?, htarget]

/-- After a run the hand is what it was, in order, without the ids that the effects take. -/
theorem cards_run {es : List Effect} (h : actors.run es = .ok next) :
    next.player.cards
      = actors.player.cards.filter fun card => card.id ∉ es.filterMap Effect.removed? := by
  induction es generalizing actors with
  | nil =>
      rw [run_nil] at h
      obtain rfl := Except.ok.inj h
      simp
  | cons e es ih =>
      obtain ⟨mid, hmid, hrest⟩ := run_cons_eq_ok_iff.mp h
      rw [ih hrest, cards_resolve hmid, List.filter_filter]
      refine List.filter_congr fun card _ => ?_
      cases hremoved : e.removed? with
      | none => simp [hremoved]
      | some id => simp [hremoved, eq_comm, Bool.and_comm]

/-- A run that takes no id of the hand leaves the hand as it is. -/
lemma cards_run_of_forall_notMem {es : List Effect}
    (hkept : ∀ card ∈ actors.player.cards, card.id ∉ es.filterMap Effect.removed?)
    (h : actors.run es = .ok next) : next.player.cards = actors.player.cards := by
  rw [cards_run h]
  exact List.filter_eq_self.mpr fun card hcard => by simpa using hkept card hcard

end Actors

/-! ### Cards that are spent by play -/

namespace Card

/-- Whether a card leaves the hand when it is played. -/
def spentByPlay (card : Card) : Bool := card.onPlay.any (·.isDiscard)

lemma spentByPlay_enchant (card : Card) (e : Enchantment) :
    (card.enchant e).spentByPlay = card.spentByPlay := by
  cases e with
  | spellDamage element amount =>
      -- extra damage is no discard
      have hextra : (extraDamage element amount).isDiscard = false := rfl
      simp only [enchant]
      split
      · simp [spentByPlay, withPlay, hextra]
      · rfl
  | _ =>
      simp only [enchant]
      split <;> rfl

lemma spentByPlay_enchantedBy (card : Card) (es : List Enchantment) :
    (card.enchantedBy es).spentByPlay = card.spentByPlay := by
  induction es generalizing card with
  | nil => rfl
  | cons e es ih => exact (ih (card.enchant e)).trans (card.spentByPlay_enchant e)

/-- A play effect takes the id of its own card from the hand if it is a discard, whatever id it
carries, and no id otherwise. -/
lemma mem_removed_boundEffects {card : Card} {id : String} :
    id ∈ card.boundEffects.filterMap Effect.removed?
      ↔ card.spentByPlay = true ∧ id = card.id := by
  rw [List.mem_filterMap]
  constructor
  · rintro ⟨e, he, hremoved⟩
    obtain ⟨own, hown, rfl⟩ := List.mem_map.mp he
    split at hremoved
    · next hdiscard =>
        exact ⟨List.any_eq_true.mpr ⟨own, hown, hdiscard⟩, (Option.some.inj hremoved).symm⟩
    · next hdiscard =>
        rw [Effect.removed?_of_not_isDiscard (by simpa using hdiscard)] at hremoved
        cases hremoved
  · rintro ⟨hspent, rfl⟩
    obtain ⟨own, hown, hdiscard⟩ := List.any_eq_true.mp hspent
    refine ⟨_, List.mem_map_of_mem hown, ?_⟩
    rw [if_pos hdiscard]
    rfl

end Card

/-- No answer of the enemy takes a card from the hand. -/
lemma Enemy.removed_counters (enemy : Enemy) (element : Element) :
    (enemy.counters element).filterMap Effect.removed? = [] := by
  refine List.filterMap_eq_nil_iff.mpr fun e he => ?_
  obtain ⟨own, _, condition, payload, _, rfl⟩ := Enemy.mem_counters he
  exact Effect.removed?_of_not_isDiscard rfl

/-- A played card takes its own id from the hand if it is spent by play, and no other id. -/
lemma mem_removed_playedEffects {enemy : Enemy} {working : Card} {id : String} :
    id ∈ (playedEffects enemy working).filterMap Effect.removed?
      ↔ working.spentByPlay = true ∧ id = working.id := by
  have hcost : (costEffect working.cost).removed? = none := rfl
  rw [playedEffects, List.filterMap_cons_none hcost, List.filterMap_append,
    Enemy.removed_counters, List.append_nil]
  exact Card.mem_removed_boundEffects

/-! ### Turns -/

namespace Battle

variable {b next : Battle} {card : Card}

/-- The ids of the hand are distinct and none is empty, and no discard names a card. -/
structure UnnamedDiscards (b : Battle) : Prop where
  nodup : (b.player.cards.map (·.id)).Nodup
  named : ∀ card ∈ b.player.cards, card.id ≠ ""
  unnamed : ∀ e ∈ b.effects, e.NamesNoCard

/-- Discards that name no card take no card from the hand. -/
lemma UnnamedDiscards.notMem_removed (h : b.UnnamedDiscards) {es : List Effect}
    (hes : ∀ e ∈ es, e.NamesNoCard) (hcard : card ∈ b.player.cards) :
    card.id ∉ es.filterMap Effect.removed? := by
  intro hmem
  obtain ⟨e, he, hremoved⟩ := List.mem_filterMap.mp hmem
  cases hdiscard : e.isDiscard with
  | false =>
      rw [Effect.removed?_of_not_isDiscard hdiscard] at hremoved
      cases hremoved
  | true =>
      rw [Effect.removed?, hes e he hdiscard] at hremoved
      split at hremoved
      · next htrigger =>
          obtain rfl := Trigger.discard.inj htrigger
          exact h.named card hcard (Option.some.inj hremoved).symm
      · cases hremoved

/-- Every turn keeps that discards name no card. -/
lemma UnnamedDiscards.take {turn : Turn} (h : b.UnnamedDiscards) (hnext : b.take turn = .ok next) :
    next.UnnamedDiscards := by
  obtain ⟨⟨_, hplayer⟩, _⟩ := keeps_take hnext
  refine ⟨hplayer.nodup_ids h.nodup, fun card hcard => h.named card (hplayer.cards.subset hcard),
    fun e he hdiscard => ?_⟩
  rcases mem_effects_take hnext he with hold | rfl
  · exact h.unnamed e hold hdiscard
  · cases hdiscard

/-- The cards that a turn plays carry the ids of the requests that it accepts. -/
lemma map_id_played (hopen : b.isOver = false) (requests : List Card) :
    (b.played requests).map (·.id) = (b.acceptedRequests requests).map (·.id) := by
  rw [acceptedRequests, if_neg (by simp [hopen])]
  exact map_id_played_plan b.pool requests

/-- The card of the hand that was played is known by its id. -/
lemma UnnamedDiscards.eq_enchant_of_mem_played (h : b.UnnamedDiscards) {requests : List Card}
    {working : Card} (hworking : working ∈ b.played requests) (hcard : card ∈ b.player.cards)
    (hid : working.id = card.id) : working = b.player.enchant card := by
  obtain ⟨own, hown, rfl⟩ := mem_played_plan hworking
  have hsame : own = card := by
    refine List.inj_on_of_nodup_map h.nodup hown hcard ?_
    exact (own.id_enchantedBy b.player.activated).symm.trans hid
  rw [hsame]
  rfl

/-- The effects of the player's turn take a card from the hand exactly if a request for it is
accepted and it is spent by play. -/
lemma UnnamedDiscards.mem_removed_playerTurnEffects (h : b.UnnamedDiscards)
    (hopen : b.isOver = false) (requests : List Card) (hcard : card ∈ b.player.cards) :
    card.id ∈ (b.playerTurnEffects requests).filterMap Effect.removed?
      ↔ card.spentByPlay = true ∧ card.id ∈ (b.acceptedRequests requests).map (·.id) := by
  have hstart : card.id ∉ b.readyPlayer.turnStart.filterMap Effect.removed? := by
    refine h.notMem_removed (fun e he => h.unnamed e ?_) hcard
    exact List.mem_append_left _ (Player.mem_effects_of_mem_turnStart he)
  have henemy : card.id ∉ b.enemy.playerTurnStart.filterMap Effect.removed? := by
    refine h.notMem_removed (fun e he => h.unnamed e (List.mem_append_right _ ?_)) hcard
    simp [Enemy.effects, he]
  have hend : card.id ∉ b.readyPlayer.turnEnd.filterMap Effect.removed? := by
    refine h.notMem_removed (fun e he hdiscard => ?_) hcard
    obtain ⟨amount, _, rfl⟩ := List.mem_map.mp he
    cases hdiscard
  have hspent : (b.player.enchant card).spentByPlay = card.spentByPlay :=
    card.spentByPlay_enchantedBy b.player.activated
  rw [playerTurnEffects_eq, ← map_id_played hopen]
  simp only [List.filterMap_append, List.mem_append, hstart, henemy, hend, false_or, or_false,
    List.filterMap_flatMap, List.mem_flatMap, mem_removed_playedEffects, List.mem_map]
  constructor
  · rintro ⟨working, hworking, hdiscard, hid⟩
    obtain rfl := h.eq_enchant_of_mem_played hworking hcard hid.symm
    exact ⟨hspent.symm.trans hdiscard, _, hworking, hid.symm⟩
  · rintro ⟨hdiscard, working, hworking, hid⟩
    obtain rfl := h.eq_enchant_of_mem_played hworking hcard hid
    exact ⟨_, hworking, hspent.trans hdiscard, hid.symm⟩

/-- The phase of an enemy that still declares what it did takes no card from the hand. -/
lemma UnnamedDiscards.notMem_removed_phaseEffects (h : b.UnnamedDiscards) {enemy : Enemy}
    (hkept : b.enemy.Keeps enemy) (hcard : card ∈ b.player.cards) :
    card.id ∉ (phaseEffects enemy).filterMap Effect.removed? := by
  refine h.notMem_removed (fun e he hdiscard => ?_) hcard
  rcases mem_phaseEffects_cases hkept he with hdeclared | ⟨amount, rfl⟩
  · exact h.unnamed e (List.mem_append_right _ hdeclared) hdiscard
  · cases hdiscard

/-- The player's turn takes the cards from the hand that are spent by play and for which a request
is accepted. -/
lemma UnnamedDiscards.cards_playerTurn (h : b.UnnamedDiscards) {requests : List Card}
    (hnext : b.playerTurn requests = .ok next) :
    next.player.cards = b.player.cards.filter fun card =>
      ¬ (card.spentByPlay = true ∧ card.id ∈ (b.acceptedRequests requests).map (·.id)) := by
  cases hover : b.isOver with
  | true =>
      rw [playerTurn_of_isOver hover] at hnext
      obtain rfl := Except.ok.inj hnext
      simp [acceptedRequests, hover]
  | false =>
      obtain ⟨after, hrun, rfl⟩ := playerTurn_cases hover hnext
      refine (Actors.cards_run hrun).trans (List.filter_congr fun card hcard => ?_)
      exact decide_eq_decide.mpr (not_congr (h.mem_removed_playerTurnEffects hover requests hcard))

/-- A turn of the enemy takes no card from the hand. -/
lemma UnnamedDiscards.cards_enemyTurn (h : b.UnnamedDiscards) (hnext : b.enemyTurn = .ok next) :
    next.player.cards = b.player.cards := by
  cases hover : b.isOver with
  | true =>
      rw [enemyTurn_of_isOver hover] at hnext
      obtain rfl := Except.ok.inj hnext
      rfl
  | false =>
      obtain ⟨queued, after, hqueue, hphase, rfl⟩ := enemyTurn_cases hover hnext
      have hqueued : queued.player.cards = b.player.cards := by
        refine Actors.cards_run_of_forall_notMem (fun card hcard => ?_) hqueue
        refine h.notMem_removed (fun e he => h.unnamed e (List.mem_append_right _ ?_)) hcard
        simp [Enemy.effects, he]
      have hkept : b.enemy.Keeps queued.enemy := (Actors.keeps_run hqueue).enemy
      refine (Actors.cards_run_of_forall_notMem (fun card hcard => ?_) hphase).trans hqueued
      exact h.notMem_removed_phaseEffects hkept (hqueued ▸ hcard)

/-- Where ids are distinct and discards name no card, the player's turn takes from the hand the
cards that are spent by play and for which a request is accepted, and a turn of the enemy takes
none; that discards name no card is kept by every turn. -/
theorem hand_turn (h : b.UnnamedDiscards) :
    (∀ requests next, b.playerTurn requests = .ok next →
        next.player.cards = b.player.cards.filter fun card =>
          ¬ (card.spentByPlay = true ∧ card.id ∈ (b.acceptedRequests requests).map (·.id)))
      ∧ (∀ next, b.enemyTurn = .ok next → next.player.cards = b.player.cards)
      ∧ ∀ turn next, b.take turn = .ok next → next.UnnamedDiscards :=
  ⟨fun _ _ hnext => h.cards_playerTurn hnext, fun _ hnext => h.cards_enemyTurn hnext,
    fun _ _ hnext => h.take hnext⟩

/-- A card that is held, with a discard that it declares for the start of each turn. -/
def strayCard : Card :=
  { id := "stray", name := "Stray", element := .water, canPlay := false
    turnStart := [.discardThis] }

/-- A player with two cards that are spent by play and a plain one. -/
def spendingPlayer : Player :=
  { hitPoints := 20
    cards := [Catalog.windTurbines "amp", strayCard, Catalog.fireBreaks "breaks",
      Catalog.jetBlast "jet", Catalog.gust "gust"] }

/-- Floods that declare discards for their own turn and for that of the player. -/
def strayFloods : Enemy :=
  { Catalog.floods with
    turnStart := [.onPlayer "Stray" (.discard "")]
    playerTurnStart := [.onPlayer "Stray" (.discard "")]
    onPlayerCard := [.onPlayer "Stray" (.discard "")] }

/-- Requests for the fire breaks, twice, for the jet blast, which is not covered any more, and for
the gust. -/
def repeatedRequests : List Card :=
  [Catalog.fireBreaks "breaks", Catalog.fireBreaks "breaks", Catalog.jetBlast "jet",
    Catalog.gust "gust"]

/-- The fire breaks are accepted twice and leave the hand; the jet blast is skipped and the gust is
not spent by play, so both stay, and so do the cards that are held. -/
theorem hand_turn_repeated :
    (start strayFloods spendingPlayer 5).UnnamedDiscards
      ∧ ((start strayFloods spendingPlayer 5).acceptedRequests repeatedRequests).map (·.id)
        = ["breaks", "breaks", "gust"]
      ∧ ∃ next last, (start strayFloods spendingPlayer 5).playerTurn repeatedRequests = .ok next
        ∧ next.player.cards.map (·.id) = ["amp", "stray", "jet", "gust"]
        ∧ next.enemyTurn = .ok last ∧ last.player.cards = next.player.cards := by
  have hunnamed : (start strayFloods spendingPlayer 5).UnnamedDiscards :=
    ⟨by decide, by decide, by decide⟩
  obtain ⟨hplayer, _, hkept⟩ := hand_turn hunnamed
  have hturn : (start strayFloods spendingPlayer 5).playerTurn repeatedRequests = .ok _ := rfl
  have hcards := congrArg (List.map (·.id)) (hplayer _ _ hturn)
  have hnext := hkept (.player repeatedRequests) _ hturn
  exact ⟨hunnamed, by decide, _, _, hturn, hcards.trans (by decide), rfl,
    (hand_turn hnext).2.1 _ rfl⟩

end Battle

/-! ### Where no discard names a card -/

namespace Declaration

/-- A discard that is declared in a file names no card. -/
lemma EffectDeclaration.namesNoCard_toEffect {d : EffectDeclaration} {e : Effect}
    (h : d.toEffect = .ok e) : e.NamesNoCard := by
  obtain ⟨_, rfl⟩ := Effect.declare_eq_ok_iff.mp h
  intro hdiscard
  rw [Effect.isDiscard, toTrigger] at hdiscard
  rw [toTrigger]
  split at hdiscard
  · cases hdiscard
  · cases hdiscard
  · rfl

end Declaration

namespace Catalog

/-- What a card of the catalog does does not depend on its id. -/
lemma effects_template {slug : String} {template : Template} (h : (slug, template) ∈ cards)
    (id : String) : (template id).effects = (template "").effects := by
  fin_cases h <;> rfl

/-- Discards of the cards of the catalog name no card. -/
lemma namesNoCard_template {slug : String} {template : Template} (h : (slug, template) ∈ cards)
    {id : String} {e : Effect} (he : e ∈ (template id).effects) : e.NamesNoCard := by
  have hall : ∀ entry ∈ cards, ∀ e ∈ (entry.2 "").effects, e.NamesNoCard := by decide
  rw [effects_template h] at he
  exact hall _ h e he

/-- The enemies of the catalog declare no discards that name a card. -/
lemma namesNoCard_enemy {slug : String} {enemy : Enemy} (h : Catalog.enemy slug = .ok enemy)
    {e : Effect} (he : e ∈ enemy.effects) : e.NamesNoCard := by
  have hall : ∀ entry ∈ enemies, ∀ e ∈ entry.2.effects, e.NamesNoCard := by decide
  obtain ⟨before, after, hsplit, _⟩ := List.lookup_eq_some_iff.mp (enemy_eq_ok_iff.mp h)
  exact hall (slug, enemy) (by simp [hsplit]) e he

end Catalog

namespace Battle

open Declaration (EnemyDeclaration DeckDeclaration EffectDeclaration CardDeclaration)

/-- In a battle of files no discard names a card. -/
theorem unnamedDiscards_of_toPlayer {declared : EnemyDeclaration} {deck : DeckDeclaration}
    {enemy : Enemy} {player : Player} {hitPoints : Int} {supply rest : Supply}
    (henemy : declared.toEnemy = .ok enemy)
    (hplayer : deck.toPlayer hitPoints supply = .ok (player, rest)) (powerPerTurn : Int) :
    (start enemy player powerPerTurn).UnnamedDiscards := by
  obtain ⟨hnodup, hcards⟩ := DeckDeclaration.toPlayer_cases hplayer
  refine ⟨hnodup, fun card hcard => ?_, fun e he => ?_⟩
  · obtain ⟨own, _, id, hid, hdeclared⟩ := hcards card hcard
    rw [(CardDeclaration.toCard_cases hdeclared).1]
    exact hid
  · rcases List.mem_append.mp he with hhand | hside
    · obtain ⟨card, hcard, hmem⟩ := List.mem_flatMap.mp hhand
      obtain ⟨own, _, id, _, hdeclared⟩ := hcards card hcard
      obtain ⟨_, _, heffect⟩ := (CardDeclaration.toCard_cases hdeclared).2.2 e hmem
      exact EffectDeclaration.namesNoCard_toEffect heffect
    · rcases EnemyDeclaration.exists_of_mem_toEnemy henemy hside with ⟨_, _, heffect⟩ | rfl
      · exact EffectDeclaration.namesNoCard_toEffect heffect
      · intro hdiscard
        cases hdiscard

/-- In a battle from the catalog no discard names a card, where the cards of the hand are from the
catalog and have ids. -/
theorem unnamedDiscards_newBattle {settings : Settings} {slug : String} {cards : List Card}
    {b : Battle} (hcards : ∀ card ∈ cards, card.id ≠ ""
      ∧ ∃ slug template id, (slug, template) ∈ Catalog.cards ∧ card = template id)
    (h : Catalog.newBattle settings slug cards = .ok b) : b.UnnamedDiscards := by
  obtain ⟨enemy, henemy, h⟩ := bind_eq_ok_iff.mp h
  obtain ⟨player, hplayer, h⟩ := bind_eq_ok_iff.mp h
  obtain rfl := Except.ok.inj h
  obtain ⟨hnodup, rfl⟩ := Player.declare_eq_ok_iff.mp hplayer
  refine ⟨hnodup, fun card hcard => (hcards card hcard).1, fun e he => ?_⟩
  rcases List.mem_append.mp he with hhand | hside
  · obtain ⟨card, hcard, hmem⟩ := List.mem_flatMap.mp hhand
    obtain ⟨_, _, _, id, htemplate, rfl⟩ := hcards card hcard
    exact Catalog.namesNoCard_template htemplate hmem
  · exact Catalog.namesNoCard_enemy henemy hside

end Battle

end CardBattle
