/-
Settings.

* `Environment` : named texts that override settings;
* `Settings` : what a battle starts with, and what the journal keeps;
* `Settings.problems` : what makes settings unusable, in order.

Main statement: `problems_eq_nil_iff`, which settings are usable.
-/
import CardBattle.Journal
import CardBattle.Text.Case
import CardBattle.Text.Numeral

namespace CardBattle

/-- Named texts that override settings. -/
abbrev Environment := List (String × String)

namespace Environment

/-- An integer under a name; a text that is no numeral does not count. -/
def integer (env : Environment) (name : String) (default : Int) : Int :=
  match env.lookup name with
  | none => default
  | some text => (Text.readInteger text.toList).toOption.getD default

/-- A text under a name. -/
def text (env : Environment) (name default : String) : String := (env.lookup name).getD default

/-- The words that mean yes. -/
def yesWords : List String := ["true", "1", "yes", "on"]

/-- The words that mean no. -/
def noWords : List String := ["false", "0", "no", "off"]

/-- A truth value under a name, in any case; another word does not count. -/
def truth (env : Environment) (name : String) (default : Bool) : Bool :=
  let word := String.ofList (Text.lower (env.text name "").toList)
  if word ∈ yesWords then true
  else if word ∈ noWords then false
  else default

end Environment

/-- The settings of the game. -/
structure Settings where
  startingHitPoints : Int := 20
  powerPerTurn : Int := 3
  logLevel : String := "INFO"
  logFile : String := "logs/card_sim.log"
  debugMode : Bool := false
  deriving DecidableEq, Repr

namespace Settings

/-- The settings under an environment. -/
def ofEnvironment (env : Environment) : Settings :=
  { startingHitPoints := env.integer "CARD_SIM_STARTING_HP" 20
    powerPerTurn := env.integer "CARD_SIM_POWER_PER_TURN" 3
    logLevel := env.text "CARD_SIM_LOG_LEVEL" "INFO"
    logFile := env.text "CARD_SIM_LOG_FILE" "logs/card_sim.log"
    debugMode := env.truth "CARD_SIM_DEBUG" false }

/-- The level of the settings in upper case. -/
def upperLevel (s : Settings) : String := String.ofList (Text.upper s.logLevel.toList)

/-- The names of the levels that may be chosen. -/
def levelNames : List String := Level.all.map (·.name)

/-- Whether the level of the settings is the name of one. -/
def levelKnown (s : Settings) : Bool := s.upperLevel ∈ levelNames

/-- Whether the name of the journal's file is blank. -/
def fileBlank (s : Settings) : Bool := (Text.trim s.logFile.toList).isEmpty

/-- What makes settings unusable, in order. -/
def problems (s : Settings) : List String :=
  (if s.startingHitPoints ≤ 0 then
      [s!"starting_hit_points must be positive, got {s.startingHitPoints}"] else [])
    ++ (if s.powerPerTurn < 0 then [s!"power_per_turn must be >= 0, got {s.powerPerTurn}"] else [])
    ++ (if s.levelKnown then [] else
        [s!"log_level must be one of {Text.quotedAll levelNames}, got {Text.quoted s.logLevel}"])
    ++ (if s.fileBlank then ["log_file must not be empty"] else [])

theorem problems_eq_nil_iff (s : Settings) :
    s.problems = [] ↔ 0 < s.startingHitPoints ∧ 0 ≤ s.powerPerTurn ∧ s.levelKnown = true
      ∧ s.fileBlank = false := by
  simp only [problems, List.append_eq_nil_iff]
  constructor
  · rintro ⟨⟨⟨hhp, hpower⟩, hlevel⟩, hfile⟩
    refine ⟨?_, ?_, ?_, ?_⟩
    · by_cases h : s.startingHitPoints ≤ 0
      · simp [h] at hhp
      · omega
    · by_cases h : s.powerPerTurn < 0
      · simp [h] at hpower
      · omega
    · by_cases h : s.levelKnown = true
      · exact h
      · simp [h] at hlevel
    · by_cases h : s.fileBlank = true
      · simp [h] at hfile
      · simpa using h
  · rintro ⟨hhp, hpower, hlevel, hfile⟩
    simp [Int.not_le.mpr hhp, Int.not_lt.mpr hpower, hlevel, hfile]

end Settings

end CardBattle
