/-
Scenes that may end early.

* `Act` : a scene that may end early with a failure;
* `Act.note` : notes in a row, up to one that cannot be written if that matters.

What cannot be written, and a turn that fails, end an act where they stand. Main statements:
`run_scene_bind` and `run_throw_bind`, how an act goes on after a scene and after a failure.
-/
import CardBattle.Loading
import CardBattle.Session.Scene

namespace CardBattle

open Text (NumeralFault)

/-- A scene that may end early with a failure. -/
abbrev Act := ExceptT Failure Scene

instance : MonadLift (Except NumeralFault) Act := ⟨fun x => ExceptT.mk (pure (x.mapError .numeral))⟩

instance : MonadLift (Except Double.Fault) Act :=
  ⟨fun x => ExceptT.mk (pure (x.mapError .arithmetic))⟩

namespace Act

/-- Notes in a row, where some drafts are watched. -/
def note (watched : Draft → Bool) (drafts : List Draft) : Act Unit := do
  let (notes, ending) := Draft.notes watched drafts
  Scene.note notes
  ending

variable {α β : Type}

theorem run_scene_bind (scene : Scene α) (f : α → Act β) :
    ((monadLift scene : Act α) >>= f).run = scene >>= fun a => (f a).run := by
  show Scene.mk ((scene.events ++ []) ++ (f scene.result).run.events) _ = _
  rw [List.append_nil]
  rfl

theorem run_throw_bind (failure : Failure) (f : α → Act β) :
    ((throw failure : Act α) >>= f).run = pure (.error failure) := rfl

end Act

end CardBattle
