/-
Turns together with what is told of them.

* `Draft.Tells` : whether a draft can be written as far as it has to be; `Draft.noted`: what comes
  of notes; `noted_eq_ok_iff`: they come to an end exactly if each of their drafts tells;
* `Actors.runTold` : effects resolved one after another, with their notes; `runTold_append`;
* `Fate.Tells` : whether what is told of the fate of a request can be written;
* `Battle.takeTold`, `Battle.takeAllTold` : the snapshot after a turn, and after a list of turns,
  with their notes;
* `takeTold_player` : in a turn of the player the fates of the requests are told before any effect
  is resolved; `takeTold_of_not_tells`: if one of them cannot be, none is.
-/
import CardBattle.Journal.Battle
import CardBattle.Loading
import CardBattle.Proofs.Turns
import Mathlib.Tactic

namespace CardBattle

@[simp] lemma ok_bind {ε α β : Type} (a : α) (f : α → Except ε β) : Except.ok a >>= f = f a := rfl

/-! ### Notes -/

namespace Draft

variable {watched : Draft → Bool} {d : Draft}

/-- Whether a draft can be written, if it is worded at once or watched. -/
def Tells (watched : Draft → Bool) (d : Draft) : Prop :=
  (d.atOnce || watched d) = true → d.words.canBeWritten = true

instance (watched : Draft → Bool) (d : Draft) : Decidable (d.Tells watched) :=
  inferInstanceAs (Decidable (_ → _))

lemma tells_of_canBeWritten (h : d.words.canBeWritten = true) : d.Tells watched := fun _ => h

lemma tells_told_iff {level : Level} {source : Source} {words : Text.Wording} :
    (told level source words).Tells watched ↔ words.canBeWritten = true := by
  simp [Tells, told]

/-- A draft that is worded where it is read tells where nobody reads it. -/
lemma tells_kept_unwatched (level : Level) (source : Source) (words : Text.Wording) :
    (kept level source words).Tells fun _ => false :=
  fun h => absurd h (by simp [kept])

/-- What comes of notes, where some drafts are watched. -/
def noted (watched : Draft → Bool) (drafts : List Draft) : Except Failure Unit :=
  (notes watched drafts).2.mapError .numeral

/-- Notes come to an end exactly if each of their drafts tells. -/
lemma ending_notes_eq_ok_iff {ds : List Draft} :
    (notes watched ds).2 = .ok () ↔ ∀ d ∈ ds, d.Tells watched := by
  have hlost : (ds.any fun d => !d.words.canBeWritten && (d.atOnce || watched d)) = true
      ↔ ¬ ∀ d ∈ ds, d.Tells watched := by
    simp [Tells, and_comm]
  rw [ending_notes, ← not_iff_not, ← hlost]
  split_ifs with h
  · simp [h]
  · simp [h]

/-- Otherwise they end early, and there is one way to do that only. -/
lemma ending_notes_eq_error {ds : List Draft} (h : ¬ ∀ d ∈ ds, d.Tells watched) :
    (notes watched ds).2 = .error .unwritable := by
  rw [← ending_notes_eq_ok_iff, ending_notes] at h
  rw [ending_notes]
  split_ifs with hlost
  · rfl
  · exact absurd (if_neg hlost) h

lemma noted_eq_ok_iff {ds : List Draft} :
    noted watched ds = .ok () ↔ ∀ d ∈ ds, d.Tells watched :=
  mapError_eq_ok_iff.trans ending_notes_eq_ok_iff

lemma noted_eq_error {ds : List Draft} (h : ¬ ∀ d ∈ ds, d.Tells watched) :
    noted watched ds = .error (.numeral .unwritable) := by
  rw [noted, ending_notes_eq_error h]
  rfl

/-- Notes that tell alike come to the same. -/
lemma noted_congr {ds others : List Draft}
    (h : (∀ d ∈ others, d.Tells watched) ↔ ∀ d ∈ ds, d.Tells watched) :
    noted watched others = noted watched ds := by
  by_cases hds : ∀ d ∈ ds, d.Tells watched
  · rw [noted_eq_ok_iff.mpr hds, noted_eq_ok_iff.mpr (h.mpr hds)]
  · rw [noted_eq_error hds, noted_eq_error (mt h.mp hds)]

/-- What comes of notes does not depend on their order. -/
lemma noted_of_perm {ds others : List Draft} (h : others.Perm ds) :
    noted watched others = noted watched ds :=
  noted_congr (forall_congr' fun _ => imp_congr_left h.mem_iff)

/-- Notes in a row come to what their parts come to in a row. -/
lemma noted_append (watched : Draft → Bool) (first second : List Draft) :
    noted watched (first ++ second)
      = noted watched first >>= fun _ => noted watched second := by
  by_cases hfirst : ∀ d ∈ first, d.Tells watched
  · rw [noted_eq_ok_iff.mpr hfirst, ok_bind]
    by_cases hsecond : ∀ d ∈ second, d.Tells watched
    · rw [noted_eq_ok_iff.mpr hsecond, noted_eq_ok_iff]
      exact List.forall_mem_append.mpr ⟨hfirst, hsecond⟩
    · rw [noted_eq_error hsecond, noted_eq_error]
      exact fun hboth => hsecond (List.forall_mem_append.mp hboth).2
  · rw [noted_eq_error hfirst, noted_eq_error]
    · rfl
    · exact fun hboth => hfirst (List.forall_mem_append.mp hboth).1

end Draft

/-! ### Runs of effects -/

namespace Actors

variable {watched : Draft → Bool} {actors next : Actors} {first second es : List Effect}

/-- The notes on a run end with the effect that fails. -/
lemma runNotes_append_of_error {fault : Double.Fault} (h : actors.run first = .error fault)
    (second : List Effect) : actors.runNotes (first ++ second) = actors.runNotes first := by
  induction first generalizing actors with
  | nil => cases h
  | cons e rest ih =>
      rw [run_cons] at h
      rw [List.cons_append, runNotes, runNotes]
      cases hstep : actors.resolve e with
      | error _ => rfl
      | ok mid =>
          rw [hstep] at h
          exact congrArg (actors.stepNotes e ++ ·) (ih h)

/-- The actors after effects, resolved one after another with their notes. -/
def runTold (watched : Draft → Bool) (actors : Actors) (es : List Effect) :
    Except Failure Actors := do
  Draft.noted watched (actors.runNotes es)
  (actors.run es).mapError .arithmetic

@[simp] lemma runTold_nil (watched : Draft → Bool) (actors : Actors) :
    actors.runTold watched [] = .ok actors := rfl

lemma runTold_cons (watched : Draft → Bool) (actors : Actors) (e : Effect) (rest : List Effect) :
    actors.runTold watched (e :: rest) = (do
      Draft.noted watched (actors.stepNotes e)
      let next ← (actors.resolve e).mapError .arithmetic
      next.runTold watched rest) := by
  rw [runTold, runNotes, run_cons, Draft.noted_append]
  cases Draft.noted watched (actors.stepNotes e) with
  | error failure => rfl
  | ok _ => cases actors.resolve e <;> rfl

/-- What is told of a run does not change what it leaves. -/
lemma run_of_runTold (h : actors.runTold watched es = .ok next) : actors.run es = .ok next := by
  obtain ⟨_, _, hrun⟩ := bind_eq_ok_iff.mp h
  exact mapError_eq_ok_iff.mp hrun

theorem runTold_append (watched : Draft → Bool) (actors : Actors) (first second : List Effect) :
    actors.runTold watched (first ++ second)
      = actors.runTold watched first >>= fun next => next.runTold watched second := by
  rw [runTold, runTold, run_append]
  cases hfirst : actors.run first with
  | error fault =>
      rw [runNotes_append_of_error hfirst]
      cases Draft.noted watched (actors.runNotes first) <;> rfl
  | ok next =>
      rw [runNotes_append hfirst, Draft.noted_append]
      cases Draft.noted watched (actors.runNotes first) <;> rfl

end Actors

/-! ### Requests -/

namespace Fate

/-- Whether what is told of the fate of a request can be written. -/
def Tells (watched : Draft → Bool) (enemy : Enemy) (fate : Fate) : Prop :=
  ∀ d ∈ fate.notes enemy, d.Tells watched

instance (watched : Draft → Bool) (enemy : Enemy) (fate : Fate) :
    Decidable (fate.Tells watched enemy) :=
  inferInstanceAs (Decidable (∀ _ ∈ _, _))

end Fate

lemma canBeWritten_displayName (card : Card) :
    card.displayName.canBeWritten = Text.isShort card.cost := by
  simp [Card.displayName, Text.Wording.canBeWritten, Text.number, Text.Piece.canBeWritten]

/-- Of a request for a card that is not in the hand the cost is told, at once. -/
lemma Fate.tells_absent_iff {watched : Draft → Bool} {enemy : Enemy} {request : Card} :
    (absent request).Tells watched enemy ↔ Text.isShort request.cost = true := by
  have hfirst : (("Card not in hand, skipped: " : String) : Text.Wording).canBeWritten = true := rfl
  rw [Tells, notes, List.forall_mem_singleton, Draft.tells_told_iff,
    Text.Wording.canBeWritten_append, canBeWritten_displayName, hfirst, Bool.true_and]

namespace Battle

variable {watched : Draft → Bool} {b next : Battle} {requests : List Card}

/-! ### Turns -/

/-- The notes on a turn. -/
def notesOn (b : Battle) : Turn → List Draft
  | .player requests => b.playerTurnNotes requests
  | .enemy => b.enemyTurnNotes

/-- What comes of a turn whose notes are made. They are made on the way, up to what fails, so what
cannot be written comes first. -/
def takeTold (watched : Draft → Bool) (b : Battle) (turn : Turn) : Except Failure Battle := do
  Draft.noted watched (b.notesOn turn)
  (b.take turn).mapError .arithmetic

/-- What is told of a turn does not change what it leaves. -/
lemma take_of_takeTold {turn : Turn} (h : b.takeTold watched turn = .ok next) :
    b.take turn = .ok next := by
  obtain ⟨_, _, htake⟩ := bind_eq_ok_iff.mp h
  exact mapError_eq_ok_iff.mp htake

/-- A decided battle takes no more turns, which can always be told. -/
lemma takeTold_of_isOver (h : b.isOver = true) (turn : Turn) : b.takeTold watched turn = .ok b := by
  have hnotes : ∀ d ∈ b.notesOn turn, d.Tells watched := by
    cases turn with
    | player requests =>
        rw [notesOn, playerTurnNotes, if_pos h]
        exact List.forall_mem_singleton.mpr (Draft.tells_of_canBeWritten rfl)
    | enemy =>
        rw [notesOn, enemyTurnNotes, if_pos h]
        exact List.forall_mem_singleton.mpr (Draft.tells_of_canBeWritten rfl)
  rw [takeTold, Draft.noted_eq_ok_iff.mpr hnotes, take_of_isOver h]
  rfl

/-- A snapshot that a turn leaves, if its outcome can be told. -/
def concluded (watched : Draft → Bool) (b : Battle) : Except Failure Battle := do
  Draft.noted watched (outcomeNotes (.ok b))
  return b

/-- In a turn of the player the fates of the requests are told, then the effects of the turn are
resolved. -/
lemma takeTold_player (hopen : b.isOver = false) (requests : List Card) :
    b.takeTold watched (.player requests) = (do
      Draft.noted watched ((b.fates requests).flatMap (·.notes b.enemy))
      let ended ← (Actors.mk b.enemy b.readyPlayer).runTold watched (b.playerTurnEffects requests)
      (b.settled ended).concluded watched) := by
  rw [takeTold, notesOn, playerTurnNotes, if_neg (by simp [hopen]), take, playerTurn,
    if_neg (by simp [hopen]), Actors.runTold, Draft.noted_append, Draft.noted_append]
  cases Draft.noted watched ((b.fates requests).flatMap (·.notes b.enemy)) with
  | error failure => rfl
  | ok _ =>
      cases Draft.noted watched
          ((Actors.mk b.enemy b.readyPlayer).runNotes (b.playerTurnEffects requests)) with
      | error failure => rfl
      | ok _ =>
          cases (Actors.mk b.enemy b.readyPlayer).run (b.playerTurnEffects requests) <;> rfl

/-- In a turn of the enemy its queue is resolved, and then its own effects unless the turn is
skipped. -/
lemma takeTold_enemy (hopen : b.isOver = false) :
    b.takeTold watched .enemy = (do
      let queued ← b.actors.runTold watched b.enemy.oneShot
      let ended ← queued.runTold watched (phaseEffects queued.enemy)
      (b.closed ended).concluded watched) := by
  have hphase (queued : Actors) :
      Draft.noted watched (enemyPhaseNotes queued)
        = Draft.noted watched (queued.runNotes (phaseEffects queued.enemy)) := by
    rw [enemyPhaseNotes, phaseEffects]
    split_ifs with hskips
    · exact Draft.noted_eq_ok_iff.mpr (List.forall_mem_singleton.mpr
        (Draft.tells_of_canBeWritten rfl))
    · rfl
  rw [takeTold, notesOn, enemyTurnNotes, if_neg (by simp [hopen]), take, enemyTurn,
    if_neg (by simp [hopen]), Actors.runTold, Draft.noted_append, Draft.noted_append]
  cases Draft.noted watched (b.actors.runNotes b.enemy.oneShot) with
  | error failure => rfl
  | ok _ =>
      cases b.actors.run b.enemy.oneShot with
      | error fault => rfl
      | ok queued =>
          simp only [ok_bind, hphase, enemyPhase_eq_run, Actors.runTold, Except.mapError]
          cases Draft.noted watched (queued.runNotes (phaseEffects queued.enemy)) with
          | error failure => rfl
          | ok _ => cases queued.run (phaseEffects queued.enemy) <;> rfl

lemma noted_fates_eq_ok_iff :
    Draft.noted watched ((b.fates requests).flatMap (·.notes b.enemy)) = .ok ()
      ↔ ∀ fate ∈ b.fates requests, fate.Tells watched b.enemy := by
  rw [Draft.noted_eq_ok_iff, List.forall_mem_flatMap]
  rfl

/-- Where the fate of a request cannot be told, no effect of the turn is resolved. -/
lemma takeTold_of_not_tells (hopen : b.isOver = false)
    (h : ¬ ∀ fate ∈ b.fates requests, fate.Tells watched b.enemy) :
    b.takeTold watched (.player requests) = .error (.numeral .unwritable) := by
  rw [← noted_fates_eq_ok_iff, Draft.noted_eq_ok_iff] at h
  rw [takeTold_player hopen, Draft.noted_eq_error h]
  rfl

/-! ### Sequences of turns -/

/-- What comes of turns in order, whose notes are made. -/
def takeAllTold (watched : Draft → Bool) (b : Battle) (turns : List Turn) :
    Except Failure Battle :=
  turns.foldlM (takeTold watched) b

lemma takeAllTold_cons (watched : Draft → Bool) (b : Battle) (turn : Turn) (turns : List Turn) :
    b.takeAllTold watched (turn :: turns)
      = b.takeTold watched turn >>= fun next => next.takeAllTold watched turns := rfl

end Battle

end CardBattle
