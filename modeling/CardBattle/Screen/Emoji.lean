/-
Emoji written by name, between two colons.

* `Emoji.named?` : the emoji of a name;
* `Emoji.ofBody?` : the emoji that stands between two colons, with the way it is to be drawn;
* `Emoji.replace` : a text whose names of emoji are replaced.

Main statement: `replace_of_not_mem`, a text without colons is left as it is.
-/
import CardBattle.Screen.Emoji.Table
import CardBattle.Text.Blank
import CardBattle.Text.Case

namespace CardBattle.Screen.Emoji

/-! ### Names -/

/-- The emoji, each with its names. -/
def entries : List (String × List String) :=
  (table.toList.splitOn ';').filterMap fun entry =>
    let words := (entry.splitBy fun a b => Text.isBlank a == Text.isBlank b).filter fun word =>
      !word.all Text.isBlank
    match words.map String.ofList with
    | emoji :: names => some (emoji, names)
    | [] => none

/-- The emoji of a name. -/
def named? (name : String) : Option String :=
  (entries.find? fun (_, names) => name ∈ names).map (·.1)

/-- The ways to draw an emoji that can be asked for behind its name, with the character that asks
for each. -/
def variants : List (List Char × Char) :=
  [("-emoji".toList, Char.ofNat 0xFE0F), ("-text".toList, Char.ofNat 0xFE0E)]

/-- A name and the way to draw it, from what stands between two colons. -/
def splitVariant (body : List Char) : List Char × List Char :=
  match variants.find? fun (ending, _) => ending.isSuffixOf body with
  | some (ending, way) => (body.take (body.length - ending.length), [way])
  | none => (body, [])

/-- The emoji that stands between two colons. -/
def ofBody? (body : List Char) : Option (List Char) :=
  let (name, way) := splitVariant body
  (named? (String.ofList (Text.lower name))).map fun emoji => emoji.toList ++ way

/-! ### Texts -/

/-- What two colons and the text between them are replaced by. -/
def replaced (body : List Char) : List Char :=
  (ofBody? body).getD (':' :: body ++ [':'])

/-- A text whose names of emoji are replaced. `body?` is what came since an open colon, in reverse;
a blank or the end of the text leaves a colon open. -/
def replaceFrom : Option (List Char) → List Char → List Char
  | none, [] => []
  | some body, [] => ':' :: body.reverse
  | none, c :: rest => if c = ':' then replaceFrom (some []) rest else c :: replaceFrom none rest
  | some body, c :: rest =>
      if c = ':' then replaced body.reverse ++ replaceFrom none rest
      else if Text.isBlank c then ':' :: body.reverse ++ c :: replaceFrom none rest
      else replaceFrom (some (c :: body)) rest

/-- A text whose names of emoji are replaced. -/
def replace (cs : List Char) : List Char := replaceFrom none cs

theorem replace_of_not_mem {cs : List Char} (h : ':' ∉ cs) : replace cs = cs := by
  unfold replace
  induction cs with
  | nil => rfl
  | cons c rest ih =>
      have hc : c ≠ ':' := fun heq => h (heq ▸ List.mem_cons_self)
      rw [replaceFrom, if_neg hc, ih fun hmem => h (List.mem_cons_of_mem c hmem)]

end CardBattle.Screen.Emoji
