/-
File trees: a directory with the files below it, as a value. A path is
followed from the top directory, name by name; it may not leave the tree,
and every name on the way must be that of a directory.
-/
import KotlinMetadata.Command

namespace KotlinMetadata

/-- The files below a directory: the names on the way to each, and its text. -/
structure FileTree where
  files : List (List String × String) := []
deriving DecidableEq, Repr

namespace FileTree

/-- The names that a path is made of. -/
def names (path : String) : List String := (Text.pieces '/' path.toList).map String.ofList

/-- The names of a path without those that stay where they are. -/
def place (path : String) : List String := (names path).filter fun n => n ≠ "" ∧ n ≠ "."

/-- The tree of files given by their paths. -/
def ofList (files : List (String × String)) : FileTree := ⟨files.map fun (path, text) => (place path, text)⟩

/-- Whether there is a directory at a place: the top, or one with a file below it. -/
def isDirectory (t : FileTree) (place : List String) : Bool :=
  place.isEmpty || t.files.any fun (q, _) => place.isPrefixOf q && place.length < q.length

/-- The place that names lead to from a directory, if it can be that of a file. -/
def follow (t : FileTree) : (directory : List String) → List String → Option (List String)
  | _, [] => none
  | dir, [n] => if n = "" || n = "." || n = ".." then none else some (dir ++ [n])
  | dir, n :: rest =>
    if n = "" || n = "." then t.follow dir rest
    else if n = ".." then if dir.isEmpty then none else t.follow dir.dropLast rest
    else if t.isDirectory (dir ++ [n]) then t.follow (dir ++ [n]) rest
    else none

/-- The place that a path leads to, if it can be that of a file. -/
def locate? (t : FileTree) (path : String) : Option (List String) :=
  if Text.beginsWith "/" path then none else t.follow [] (names path)

/-- The text of the file at a path. -/
def read? (t : FileTree) (path : String) : Option String :=
  (t.locate? path).bind fun place => (t.files.find? (·.1 = place)).map (·.2)

/-- The tree with a text in the file at a path, unless there can be no file there. -/
def write? (t : FileTree) (path text : String) : Option FileTree :=
  match t.locate? path with
  | none => none
  | some place =>
    if t.isDirectory place then none
    else some ⟨(place, text) :: t.files.filter (·.1 ≠ place)⟩

/-- The operations on a tree as a state. -/
def access : FileAccess (StateM FileTree) where
  read path := do
    match (← get).read? path with
    | some contents => return .text contents
    | none => return .absent
  write path text := do
    match (← get).write? path text with
    | some t => set t; return true
    | none => return false

/-- A run over a tree: its result, and the tree after it. -/
def runCommand (t : FileTree) (texts : List String) : Except RunError String × FileTree :=
  (Command.run access texts).run t

end FileTree

end KotlinMetadata
