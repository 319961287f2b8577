/-
Settings that are read once.

* `HeldSettings` : an environment, and the settings read from it if they have been asked for;
* `HeldSettings.get` : the settings, read on the first request only;
* `HeldSettings.drop` : the next request reads again.

Main statements: `get_get`, what was read stays, and `get_drop`.
-/
import CardBattle.Settings

namespace CardBattle

/-- An environment, and the settings read from it if they have been asked for. -/
structure HeldSettings where
  environment : Environment := []
  held? : Option Settings := none
  deriving DecidableEq, Repr

namespace Environment

/-- An environment with a text under a name, or with none. -/
def put (env : Environment) (name : String) : Option String → Environment
  | some text => (name, text) :: env.filter (·.1 ≠ name)
  | none => env.filter (·.1 ≠ name)

end Environment

namespace HeldSettings

/-- The settings: those held, else those of the environment. -/
def settings (h : HeldSettings) : Settings := h.held?.getD (.ofEnvironment h.environment)

/-- The settings, which are held from then on. -/
def get (h : HeldSettings) : Settings × HeldSettings :=
  (h.settings, { h with held? := some h.settings })

/-- Nothing is held any more. -/
def drop (h : HeldSettings) : HeldSettings := { h with held? := none }

/-- A changed environment; what is held stays. -/
def put (h : HeldSettings) (name : String) (text? : Option String) : HeldSettings :=
  { h with environment := h.environment.put name text? }

theorem get_get (h : HeldSettings) : h.get.2.get = h.get := rfl

theorem settings_put_get (h : HeldSettings) (name : String) (text? : Option String) :
    (h.get.2.put name text?).settings = h.settings := rfl

theorem get_drop (h : HeldSettings) :
    h.drop.get.1 = Settings.ofEnvironment h.environment := rfl

end HeldSettings

end CardBattle
