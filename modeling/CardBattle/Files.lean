/-
Files.

* `FileTree` : files and directories under their paths;
* `FileTree.normal` : a path without empty steps and steps that stay;
* `FileTree.collapsed` : a path whose steps up are taken back, whatever stands there;
* `FileTree.place` : where a path leads, step by step through directories, or why it leads nowhere;
* `FileTree.read` : the bytes of a file, or why there are none;
* `FileTree.append` : a tree with bytes at the end of a file;
* `FileAction` : a change of files, which may fail halfway;
* `makeDirectories`, `openFile` : a directory with all above it, and a file to be written to.

Main statement: `collapse_eq_self`, a path without steps up is left as it is.
-/
import CardBattle.Text.Quoted

namespace CardBattle

/-! ### Failures -/

/-- Why a file cannot be used. -/
inductive FileFault where
  | notFound
  | alreadyThere
  | notADirectory
  | isADirectory
  | nameTooLong
  | zeroByte
  deriving DecidableEq, Repr

namespace FileFault

/-- The number and the wording of a failure of the system; a path with a zero byte does not come so
far. -/
def system? : FileFault → Option (Nat × String)
  | .notFound => some (2, "No such file or directory")
  | .alreadyThere => some (17, "File exists")
  | .notADirectory => some (20, "Not a directory")
  | .isADirectory => some (21, "Is a directory")
  | .nameTooLong => some (36, "File name too long")
  | .zeroByte => none

/-- A failure at a path. -/
def message (fault : FileFault) (path : String) : String :=
  match fault.system? with
  | some (number, reason) => s!"[Errno {number}] {reason}: {Text.quoted path}"
  | none => "embedded null byte"

end FileFault

/-- A failure, and the path where it happens. -/
structure FileFailure where
  fault : FileFault
  path : String
  deriving DecidableEq, Repr

/-- The wording of a failure. -/
def FileFailure.message (f : FileFailure) : String := f.fault.message f.path

/-! ### Paths -/

/-- What stands under a path. -/
inductive Entry where
  | file (bytes : List UInt8)
  | directory
  deriving DecidableEq, Repr

/-- Files and directories under their paths, steps divided by `/`. -/
abbrev FileTree := List (String × Entry)

namespace FileTree

/-- The step to the directory above. -/
def upStep : String := ".."

/-- The steps of a path; empty steps and steps that stay are dropped. -/
def steps (path : String) : List String :=
  ((path.toList.splitOn '/').map String.ofList).filter fun step => step ≠ "" && step ≠ "."

/-- What opens a path: nothing, one slash, or exactly two. -/
def rootOf (path : String) : String :=
  match path.toList with
  | '/' :: '/' :: '/' :: _ => "/"
  | '/' :: '/' :: _ => "//"
  | '/' :: _ => "/"
  | _ => ""

/-- The path of steps. -/
def pathOf (root : String) (steps : List String) : String :=
  let text := root ++ "/".intercalate steps
  if text.isEmpty then "." else text

/-- A path without empty steps and steps that stay. -/
def normal (path : String) : String := pathOf (rootOf path) (steps path)

/-- The place above another, both in reverse; above the root there is nothing else, while much may
be above the current directory. -/
def above (rooted : Bool) (here : List String) : List String :=
  match here with
  | [] => if rooted then [] else [upStep]
  | step :: rest => if step = upStep then upStep :: step :: rest else rest

/-- The place that a step leads to, both in reverse. -/
def move (rooted : Bool) (here : List String) (step : String) : List String :=
  if step = upStep then above rooted here else step :: here

/-- Steps without those that later steps up take back. -/
def collapse (rooted : Bool) (steps : List String) : List String :=
  (steps.foldl (move rooted) []).reverse

/-- A path whose steps up are taken back, whatever stands there. -/
def collapsed (path : String) : String :=
  pathOf (rootOf path) (collapse (!(rootOf path).isEmpty) (steps path))

theorem foldl_move_of_not_mem {rooted : Bool} {steps : List String} (h : upStep ∉ steps)
    (here : List String) : steps.foldl (move rooted) here = steps.reverse ++ here := by
  induction steps generalizing here with
  | nil => rfl
  | cons step rest ih =>
      have hstep : step ≠ upStep := fun heq => h (heq ▸ List.mem_cons_self)
      rw [List.foldl_cons, move, if_neg hstep, ih fun hmem => h (List.mem_cons_of_mem step hmem)]
      simp

theorem collapse_eq_self {rooted : Bool} {steps : List String} (h : upStep ∉ steps) :
    collapse rooted steps = steps := by
  simp [collapse, foldl_move_of_not_mem h]

/-! ### Looking -/

/-- What stands under steps: an entry, or a directory that holds one. -/
def found? (tree : FileTree) (path : List String) : Option Entry :=
  if path.all (· = upStep) then some .directory
  else
    match tree.find? fun (name, _) => steps name = path with
    | some (_, entry) => some entry
    | none =>
        if tree.any fun (name, _) => path.isPrefixOf (steps name) then some .directory else none

/-- The longest name of a file, in bytes. -/
def longestName : Nat := 255

/-- The longest path, in bytes. -/
def longestPath : Nat := 4095

/-- The place that a walk from another leads to, both in reverse. Only directories are walked
through; nothing need stand at the end. -/
def walk (tree : FileTree) (rooted : Bool) :
    List String → List String → Except FileFault (List String)
  | here, [] => .ok here
  | here, step :: rest =>
      match tree.found? here.reverse with
      | some .directory =>
          if longestName < step.utf8ByteSize then .error .nameTooLong
          else walk tree rooted (move rooted here step) rest
      | some (.file _) => .error .notADirectory
      | none => .error .notFound

/-- The entries that a path may lead to: those under the root for a path from the root, those under
the current directory for another. -/
def under (tree : FileTree) (path : String) : FileTree :=
  tree.filter fun (name, _) => (rootOf name).isEmpty == (rootOf path).isEmpty

/-- Where a path leads. -/
def place (tree : FileTree) (path : String) : Except FileFault (List String) :=
  if Char.ofNat 0 ∈ path.toList then .error .zeroByte
  else if longestPath < (normal path).utf8ByteSize then .error .nameTooLong
  else ((tree.under path).walk (!(rootOf path).isEmpty) [] (steps path)).map List.reverse

/-- What stands where a path leads. -/
def look (tree : FileTree) (path : String) : Except FileFault Entry := do
  match (tree.under path).found? (← tree.place path) with
  | some entry => .ok entry
  | none => .error .notFound

/-- The bytes of a file. -/
def read (tree : FileTree) (path : String) : Except FileFault (List UInt8) := do
  match ← tree.look path with
  | .file bytes => .ok bytes
  | .directory => .error .isADirectory

/-- Whether a path can lead to a directory only: it ends in a slash, or in a step that stays or
leads up. -/
def asksDirectory (path : String) : Bool :=
  ((path.toList.splitOn '/').map String.ofList).getLast?.all (· ∈ ["", ".", upStep])

/-! ### Changing -/

/-- A tree with bytes at the end of the file where a path leads. -/
def append (tree : FileTree) (path : String) (more : List UInt8) : FileTree :=
  match tree.place path with
  | .error _ => tree
  | .ok place =>
      tree.map fun (name, entry) =>
        match entry with
        | .directory => (name, entry)
        | .file bytes =>
            if steps name = place ∧ (rootOf name).isEmpty = (rootOf path).isEmpty then
              (name, .file (bytes ++ more))
            else (name, entry)

/-- A tree with one more directory, where nothing stands yet. -/
def withDirectory (tree : FileTree) (path : String) : Except FileFault FileTree := do
  let place ← tree.place path
  if (steps path).getLast?.all (· = upStep) || ((tree.under path).found? place).isSome then
    .error .alreadyThere
  else .ok (tree ++ [(pathOf (rootOf path) place, .directory)])

end FileTree

/-- A change of files, which may fail halfway. -/
abbrev FileAction (α : Type) := ExceptT FileFailure (StateM FileTree) α

/-- A directory is made, unless it is there. -/
def ensureDirectory (path : String) : FileAction Unit := do
  let tree ← get
  match tree.withDirectory path with
  | .ok changed => set changed
  | .error fault =>
      match fault, tree.look path with
      | .notFound, _ => throw ⟨fault, path⟩
      | _, .ok .directory => pure ()
      | _, _ => throw ⟨fault, path⟩

/-- A directory is made with all those above it, unless they are there; its steps are given in
reverse. -/
def makeDirectories (root : String) : List String → FileAction Unit
  | [] => ensureDirectory (FileTree.pathOf root [])
  | step :: above => do
      let path := FileTree.pathOf root (step :: above).reverse
      match (← get).withDirectory path with
      | .error .notFound => do
          makeDirectories root above
          ensureDirectory path
      | _ => ensureDirectory path

/-- A file is opened to be written to, and made unless it is there. -/
def openFile (path : String) : FileAction Unit := do
  let tree ← get
  match tree.look path with
  | .ok (.file _) => pure ()
  | .ok .directory => throw ⟨.isADirectory, path⟩
  | .error .notFound =>
      match tree.place path with
      | .ok _ => set (tree ++ [(path, .file [])])
      | .error fault => throw ⟨fault, path⟩
  | .error fault => throw ⟨fault, path⟩

end CardBattle
