/-
The state of one rendering and the actions on it: the scope for names, the
text under construction, the artifacts printed inside another so far, and a
journal of the artifacts visited. An action may break off with a fault.

`capture`, `indented` and `within` run an action in a buffer, at a depth or
in a scope of its own and restore the one before.
-/
import KotlinMetadata.Buffers
import KotlinMetadata.NameSet
import KotlinMetadata.Scope

namespace KotlinMetadata

/-- How a rendering came to an artifact. -/
inductive Route where
  /-- It was asked for. -/
  | top
  /-- An artifact around it names it as companion, nested class or part. -/
  | contained
  /-- It is named after an artifact around it. -/
  | scanned
deriving DecidableEq, Repr

/-- The visit of an artifact: how it was reached, at which depth, and inside artifacts of which
kinds, the innermost first. -/
structure Visit where
  name : String
  route : Route
  depth : Nat
  enclosing : List ContentKind
deriving DecidableEq, Repr

/-- The state of a rendering. -/
structure Session where
  scope : Scope
  out : Buffers
  /-- The artifacts printed inside another, in this rendering or an earlier one of the batch. -/
  visited : NameSet
  /-- The artifacts visited in this rendering, the latest first. -/
  journal : List Visit

namespace Session

/-- The state at the start of a rendering. -/
def start (visited : NameSet) : Session := ⟨.empty, .empty, visited, []⟩

/-- Whether an artifact was visited in this rendering. -/
def hasEmitted (s : Session) (name : String) : Bool := s.journal.any (·.name = name)

/-- Whether nothing is open: no buffer, no scope and no indentation. -/
def isBalanced (s : Session) : Bool := s.out.isEmpty && s.scope.isEmpty && s.out.depth = 0

end Session

/-- An action of a rendering. -/
abbrev Render := StateT Session (Except Fault)

namespace Render

/-! ## Text -/

/-- Changes the text under construction. -/
def changeOut (f : Buffers → Except Fault Buffers) : Render Unit := fun s =>
  match f s.out with
  | .ok out => .ok ((), { s with out })
  | .error fault => .error fault

/-- Appends a text. -/
def write (text : String) : Render Unit := changeOut (·.write text)

/-- Appends a text after the indentation. -/
def writeIndented (text : String) : Render Unit := changeOut (·.writeIndented text)

/-- Ends the line. -/
def newline : Render Unit := changeOut Buffers.newline

/-- Appends a text and ends the line. -/
def writeLine (text : String) : Render Unit := changeOut (·.writeLine text)

/-- Appends a text after the indentation and ends the line. -/
def writeLineIndented (text : String) : Render Unit := changeOut (·.writeLineIndented text)

/-- Throws away what the active buffer holds. -/
def reset : Render Unit := changeOut Buffers.reset

/-- Opens a buffer. -/
def openBuffer : Render Unit := changeOut (.ok ·.push)

/-- Closes the active buffer and gives its text. -/
def closeBuffer : Render String := fun s =>
  match s.out.pop with
  | .ok (text, out) => .ok (text, { s with out })
  | .error fault => .error fault

/-- Indents by one level more. -/
def indent : Render Unit := changeOut (.ok ·.indent)

/-- Indents by one level less. -/
def outdent : Render Unit := changeOut Buffers.outdent

/-- The last character of the active buffer. -/
def previousChar? : Render (Option Char) := fun s => .ok (s.out.previousChar?, s)

/-! ## Scope -/

/-- Enters the scope of an artifact. -/
def enter (f : Frame) : Render Unit := fun s => .ok ((), { s with scope := s.scope.enter f })

/-- Leaves the innermost scope. -/
def leave : Render Unit := fun s =>
  match s.scope.leave with
  | .ok (_, scope) => .ok ((), { s with scope })
  | .error fault => .error fault

/-- The innermost artifact. -/
def current : Render Frame := fun s =>
  match s.scope.current with
  | .ok f => .ok (f, s)
  | .error fault => .error fault

/-- Declares a type parameter. -/
def declare (p : TypeParameter) : Render Unit := fun s =>
  .ok ((), { s with scope := s.scope.declare p.id p.name })

/-- What a class name is called here. -/
def resolve (qualified nesting : String) : Render String := fun s =>
  .ok (s.scope.resolve qualified nesting, s)

/-- What a type parameter is called here. -/
def typeParameterName (id : UInt32) : Render String := fun s => .ok (s.scope.typeParameter id, s)

/-! ## Visits -/

/-- Notes the visit of an artifact. -/
def record (name : String) (route : Route) : Render Unit := fun s =>
  let visit : Visit := ⟨name, route, s.out.depth, s.scope.frames.map Frame.kind⟩
  .ok ((), { s with journal := visit :: s.journal })

/-- Notes that an artifact is printed inside another. -/
def markVisited (name : String) : Render Unit := fun s =>
  .ok ((), { s with visited := s.visited.insert name })

/-- Whether an artifact is not to be printed again: it was printed inside another or visited in
this rendering. -/
def isDone (name : String) : Render Bool := fun s =>
  .ok (s.visited.contains name || s.hasEmitted name, s)

/-! ## Combinations -/

/-- Runs an action in a buffer of its own and gives the text it wrote. -/
def capture (act : Render Unit) : Render String := do
  openBuffer
  act
  closeBuffer

/-- Runs an action one level deeper. -/
def indented {α : Type} (act : Render α) : Render α := do
  indent
  let a ← act
  outdent
  return a

/-- Runs an action in the scope of an artifact. -/
def within (f : Frame) (act : Render Unit) : Render Unit := do
  enter f
  act
  leave

/-- Runs an action for each item. -/
def each {α : Type} (act : α → Render Unit) : List α → Render Unit
  | [] => pure ()
  | a :: rest => do
    act a
    each act rest

/-- Runs an action for each item and its index, counted from `index`. -/
def eachFrom {α : Type} (act : Nat → α → Render Unit) : (index : Nat) → List α → Render Unit
  | _, [] => pure ()
  | index, a :: rest => do
    act index a
    eachFrom act (index + 1) rest

/-- Runs an action if there is an item. -/
def onSome {α : Type} (act : α → Render Unit) : Option α → Render Unit
  | none => pure ()
  | some a => act a

/-- Runs an action for each item, with a separator between each and the next. -/
def separated {α : Type} (separator : String) (act : α → Render Unit) : List α → Render Unit
  | [] => pure ()
  | a :: rest => do
    act a
    each (fun b => do write separator; act b) rest

/-- The items between two texts, with a separator between each and the next; nothing for no
items. -/
def enclosed {α : Type} (opening separator closing : String) (act : α → Render Unit)
    (items : List α) : Render Unit :=
  if items.isEmpty then pure ()
  else do
    write opening
    separated separator act items
    write closing

end Render

end KotlinMetadata
