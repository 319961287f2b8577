/-
What happens in a session, in order.

* `Event` : the screen is cleared, something is drawn, a line is asked for, or a note is made;
* `Scene` : events, and what comes of them.

Main statement: `events_bind`, the events of two scenes in a row follow each other.
-/
import CardBattle.Screen.Drawing

namespace CardBattle

open Screen

/-- What happens in a session. -/
inductive Event where
  | clear
  | heading (title : StyledText)
  | drawn (drawing : Drawing)
  | asked (prompt : String)
  | noted (note : Note)
  deriving DecidableEq, Repr

/-- The notes among events. -/
def Event.notes (events : List Event) : List Note :=
  events.filterMap fun
    | .noted note => some note
    | _ => none

/-- Events, and what comes of them. -/
structure Scene (α : Type) where
  events : List Event
  result : α
  deriving Repr

namespace Scene

instance : Monad Scene where
  pure a := ⟨[], a⟩
  bind x f :=
    let y := f x.result
    ⟨x.events ++ y.events, y.result⟩

/-- Events of which nothing comes. -/
def tell (events : List Event) : Scene Unit := ⟨events, ()⟩

/-- Drawings in a row. -/
def draw (drawings : List Drawing) : Scene Unit := tell (drawings.map .drawn)

/-- Notes in a row. -/
def note (notes : List Note) : Scene Unit := tell (notes.map .noted)

/-- A question. -/
def ask (prompt : String) : Scene Unit := tell [.asked prompt]

variable {α β : Type}

@[simp] theorem events_pure (a : α) : (pure a : Scene α).events = [] := rfl

@[simp] theorem result_pure (a : α) : (pure a : Scene α).result = a := rfl

@[simp] theorem events_bind (x : Scene α) (f : α → Scene β) :
    (x >>= f).events = x.events ++ (f x.result).events := rfl

@[simp] theorem result_bind (x : Scene α) (f : α → Scene β) :
    (x >>= f).result = (f x.result).result := rfl

@[simp] theorem events_tell (events : List Event) : (tell events).events = events := rfl

end Scene

end CardBattle
