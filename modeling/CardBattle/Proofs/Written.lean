/-
The written forms of conditions, enchantments, payloads and effects.

* `Condition.written`, `Enchantment.written`, `Payload.written`, `Effect.written` : the value that
  stands for each of these in a file;
* `Enchantment.Writable`, `Payload.Writable`, `Effect.Writable` : which of them files can hold;
* `required_of_read`, `optional_of_read`, `readTagged_of_lookup` : a part is read as it stands in an
  object;
* `ConditionDeclaration.exists_read_written`, `EnchantmentDeclaration.exists_read_written`,
  `PayloadDeclaration.exists_read_written` : what is read from a written form declares what is
  written;
* `EffectDeclaration.exists_read_written` : so it is for effects.
-/
import CardBattle.Declaration.Effect
import Mathlib.Tactic

namespace CardBattle

open Declaration
open Json (Value Fields)

/-! ### Written forms -/

/-- The written form of a condition. -/
def Condition.written : Condition → Value
  | .holds element => .object [("kind", .text "has_element"), ("element", .text element.word)]
  | .lacks element => .object [("kind", .text "has_no_element"), ("element", .text element.word)]
  | .plays element => .object [("kind", .text "plays_element"), ("element", .text element.word)]

/-- The written form of an enchantment. -/
def Enchantment.written : Enchantment → Value
  | .spellCost element amount =>
      .object [("kind", .text "spell_cost"), ("element", .text element.word),
        ("amount", .integer amount)]
  | .spellDamage element amount =>
      .object [("kind", .text "spell_damage"), ("element", .text element.word),
        ("amount", .integer amount)]
  | .powerPerTurn amount =>
      .object [("kind", .text "power_per_turn"), ("amount", .integer amount)]
  | .shield amount => .object [("kind", .text "shield"), ("amount", .integer amount)]
  | .lifePerTurn amount => .object [("kind", .text "life_per_turn"), ("amount", .integer amount)]
  | .forbidden element =>
      .object [("kind", .text "element_forbidden"), ("element", .text element.word)]

/-- The written form of a payload. -/
def Payload.written : Payload → Value
  | .damage ⟨amount, element⟩ =>
      .object [("kind", .text "damage"), ("amount", .integer amount),
        ("element", .text element.word)]
  | .life amount => .object [("kind", .text "life"), ("amount", .integer amount)]
  | .power amount => .object [("kind", .text "power"), ("amount", .integer amount)]
  | .percentDamage fraction =>
      .object [("kind", .text "percent_damage"), ("fraction", .number fraction)]
  | .grant enchantment =>
      .object [("kind", .text "enchantment"), ("enchantment", enchantment.written)]
  | .skipTurn => .object [("kind", .text "skip_turn")]

/-- The fields of the written form of a trigger. -/
def Trigger.writtenFields : Trigger → Fields
  | .always payload => [("trigger", .text "always"), ("effect", payload.written)]
  | .when condition payload =>
      [("trigger", .text "condition"), ("condition", condition.written),
        ("effect", payload.written)]
  | .discard _ => [("trigger", .text "discard")]

/-- The written form of an effect. -/
def Effect.written (e : Effect) : Value :=
  .object (("name", .text e.name) :: ("target", .text e.target.word) :: e.trigger.writtenFields)

/-! ### What files can hold -/

/-- Whether a file can hold an enchantment: no shield is negative. -/
def Enchantment.Writable (e : Enchantment) : Prop := ∀ amount ∈ e.shield?, 0 ≤ amount

/-- Whether a file can hold a payload. -/
structure Payload.Writable (payload : Payload) : Prop where
  fraction : payload.hasFraction = true
  granted : ∀ enchantment, payload = .grant enchantment → enchantment.Writable

/-- Whether a file can hold an effect: it has a name, its side can receive it, and a discard means
the card that declares it. -/
structure Effect.Writable (e : Effect) : Prop where
  name : e.name ≠ ""
  receivable : e.trigger.misuse? e.target = none
  payload : ∀ payload ∈ e.payload?, payload.Writable
  unnamed : ∀ cardId, e.trigger = .discard cardId → cardId = ""

/-! ### Reading written forms -/

namespace Declaration

section

variable {α : Type} {read : Read α} {fields : Fields} {name : String} {v : Value} {a : α}

/-- A field that is there is read. -/
lemma required_of_read (hget : fields.get? name = some v) (h : read v = .ok a) :
    required fields name read = .ok a := by
  rw [required, hget]
  exact congrArg (·.under (.field name)) h

/-- So is a field that may be left out. -/
lemma optional_of_read {default : α} (hget : fields.get? name = some v) (h : read v = .ok a) :
    optional fields name read default = .ok a := by
  rw [optional, hget]
  exact congrArg (·.under (.field name)) h

/-- What may be null is read where it is not. -/
lemma readOptional_of_read (hnull : ∀ a, read .null ≠ .ok a) (h : read v = .ok a) :
    readOptional read v = .ok (some a) := by
  have hsome : some <$> read v = .ok (some a) := by
    rw [h]
    rfl
  cases v with
  | null => exact absurd h (hnull a)
  | _ => exact hsome

/-- An object is read by the entry of its kind. -/
lemma readTagged_of_lookup {table : List (String × (Fields → Checked α))} {kind : String}
    {entry : Fields → Checked α} (hkind : fields.get? "kind" = some (.text kind))
    (hlookup : table.lookup kind = some entry) (h : entry fields = .ok a) :
    readTagged table (.object fields) = .ok a := by
  simp only [readTagged, hkind, hlookup, h, Checked.under]

end

lemma readElement_word (element : Element) : readElement (.text element.word) = .ok element := by
  cases element <;> rfl

/-- A fraction in the unit interval is read as it is. -/
lemma readFraction_of_inUnitInterval {fraction : Double} (h : fraction.inUnitInterval = true) :
    readFraction (.number fraction) = .ok fraction := by
  rw [Double.inUnitInterval, Bool.and_eq_true] at h
  show (if !fraction.le (.finite false Double.one) then _ else if !Double.zero.le fraction then _
    else Checked.ok fraction) = _
  rw [if_neg (by simp [h.2]), if_neg (by simp [h.1])]

/-- The written form of a condition declares it. -/
theorem ConditionDeclaration.exists_read_written (condition : Condition) :
    ∃ d, read condition.written = .ok d ∧ d.toCondition = condition := by
  cases condition with
  | holds element => exact ⟨⟨.hasElement, element⟩, by cases element <;> rfl, rfl⟩
  | lacks element => exact ⟨⟨.hasNoElement, element⟩, by cases element <;> rfl, rfl⟩
  | plays element => exact ⟨⟨.playsElement, element⟩, by cases element <;> rfl, rfl⟩

/-- The written form of an enchantment declares it. -/
theorem EnchantmentDeclaration.exists_read_written {enchantment : Enchantment}
    (h : enchantment.Writable) :
    ∃ d, read enchantment.written = .ok d ∧ d.toEnchantment = enchantment := by
  cases enchantment with
  | spellCost element amount =>
      refine ⟨spellCost element amount, readTagged_of_lookup rfl rfl ?_, rfl⟩
      rw [optional_of_read rfl (readElement_word element)]
      rfl
  | spellDamage element amount =>
      refine ⟨spellDamage element amount, readTagged_of_lookup rfl rfl ?_, rfl⟩
      rw [required_of_read rfl (readElement_word element)]
      rfl
  | powerPerTurn amount => exact ⟨powerPerTurn amount, rfl, rfl⟩
  | shield amount =>
      have hread : readNonNegative (.integer amount) = .ok amount := if_pos (h amount rfl)
      refine ⟨shield amount, readTagged_of_lookup rfl rfl ?_, rfl⟩
      rw [amountOnly, required_of_read rfl hread]
      rfl
  | lifePerTurn amount => exact ⟨lifePerTurn amount, rfl, rfl⟩
  | forbidden element =>
      refine ⟨elementForbidden element, readTagged_of_lookup rfl rfl ?_, rfl⟩
      rw [required_of_read rfl (readElement_word element)]
      rfl

/-- The written form of a payload declares it. -/
theorem PayloadDeclaration.exists_read_written {payload : Payload} (h : payload.Writable) :
    ∃ d, read payload.written = .ok d ∧ d.toPayload = payload := by
  cases payload with
  | damage damaged =>
      obtain ⟨amount, element⟩ := damaged
      refine ⟨damage amount element, readTagged_of_lookup rfl rfl ?_, rfl⟩
      rw [optional_of_read rfl (readElement_word element)]
      rfl
  | life amount => exact ⟨life amount, rfl, rfl⟩
  | power amount => exact ⟨power amount, rfl, rfl⟩
  | percentDamage fraction =>
      refine ⟨percentDamage fraction, readTagged_of_lookup rfl rfl ?_, rfl⟩
      rw [required_of_read rfl (readFraction_of_inUnitInterval h.fraction)]
      rfl
  | grant granted =>
      obtain ⟨own, hread, rfl⟩ := EnchantmentDeclaration.exists_read_written (h.granted granted rfl)
      refine ⟨enchantment own, readTagged_of_lookup rfl rfl ?_, rfl⟩
      rw [required_of_read rfl hread]
      rfl
  | skipTurn => exact ⟨skipTurn, rfl, rfl⟩

namespace EffectDeclaration

/-- The fields of an effect are read one by one, and then the rules for its parts are checked. -/
lemma ofFields_eq_ok {fields : Fields} {d : EffectDeclaration}
    (hname : optional fields "name" readText "" = .ok d.name)
    (htarget : required fields "target" (readWord [("player", .player), ("enemy", .enemy)])
      = .ok d.target)
    (htrigger : optional fields "trigger" (readWord TriggerKind.table) .always = .ok d.trigger)
    (hcondition : optional fields "condition" (readOptional ConditionDeclaration.read) none
      = .ok d.condition?)
    (hpayload : optional fields "effect" (readOptional PayloadDeclaration.read) none
      = .ok d.payload?)
    (hclosed : closed fields ["name", "target", "trigger", "condition", "effect"] = .ok ())
    (hunbroken : d.broken? = none) : ofFields fields = .ok d := by
  rw [ofFields, hname, htarget, htrigger, hcondition, hpayload, hclosed]
  show (Checked.ok d).andThen _ = _
  simp only [Checked.andThen, hunbroken]

/-- The written form of an effect declares it. -/
theorem exists_read_written {e : Effect} (h : e.Writable) :
    ∃ d, read e.written = .ok d ∧ d.toEffect = .ok e := by
  obtain ⟨name, target, trigger⟩ := e
  have hnamed : name.isEmpty = false := by simpa using h.name
  have hdeclared (d : EffectDeclaration) (hname : d.name = name) (htarget : d.target = target)
      (htrigger : d.toTrigger = trigger) : d.toEffect = .ok ⟨name, target, trigger⟩ := by
    rw [toEffect, Effect.declare_eq_ok_iff, effectName, hname, if_neg (by simp [hnamed]), htarget,
      htrigger]
    exact ⟨h.receivable, rfl⟩
  cases trigger with
  | always payload =>
      obtain ⟨own, hread, rfl⟩ := PayloadDeclaration.exists_read_written (h.payload payload rfl)
      exact ⟨⟨name, target, .always, none, some own⟩,
        ofFields_eq_ok rfl (by cases target <;> rfl) rfl rfl
          (optional_of_read rfl (readOptional_of_read nofun hread)) rfl rfl,
        hdeclared _ rfl rfl rfl⟩
  | «when» condition payload =>
      obtain ⟨awaited, hawaited, rfl⟩ := ConditionDeclaration.exists_read_written condition
      obtain ⟨own, hread, rfl⟩ := PayloadDeclaration.exists_read_written (h.payload payload rfl)
      exact ⟨⟨name, target, .condition, some awaited, some own⟩,
        ofFields_eq_ok rfl (by cases target <;> rfl) rfl
          (optional_of_read rfl (readOptional_of_read nofun hawaited))
          (optional_of_read rfl (readOptional_of_read nofun hread)) rfl rfl,
        hdeclared _ rfl rfl rfl⟩
  | discard cardId =>
      obtain rfl := h.unnamed cardId rfl
      exact ⟨⟨name, target, .discard, none, none⟩,
        ofFields_eq_ok rfl (by cases target <;> rfl) rfl rfl rfl rfl rfl, hdeclared _ rfl rfl rfl⟩

end EffectDeclaration

end Declaration

end CardBattle
