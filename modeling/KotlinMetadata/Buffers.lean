/-
The text under construction: a stack of buffers that share one indentation
depth. Texts go to the buffer on top, the active one; closing it gives its
text back, so that the caller decides where the text goes, or whether it
goes anywhere.
-/
import KotlinMetadata.Fault
import KotlinMetadata.Text.Edit

namespace KotlinMetadata

/-- The open buffers, the active one first, and the indentation depth. -/
@[ext] structure Buffers where
  stack : List String
  depth : Nat
deriving DecidableEq, Repr

namespace Buffers

/-- No buffer and no indentation. -/
def empty : Buffers := ⟨[], 0⟩

instance : Inhabited Buffers := ⟨empty⟩

/-- One level of indentation. -/
def indentUnit : String := "    "

/-- The blanks at the start of a line at a depth. -/
def indentation (depth : Nat) : String := Text.times depth indentUnit

/-- Whether no buffer is open. -/
def isEmpty (b : Buffers) : Bool := b.stack.isEmpty

/-- Opens a buffer. -/
def push (b : Buffers) : Buffers := { b with stack := "" :: b.stack }

/-- Closes the active buffer and gives its text. -/
def pop (b : Buffers) : Except Fault (String × Buffers) :=
  match b.stack with
  | [] => .error .noBufferToClose
  | text :: rest => .ok (text, { b with stack := rest })

/-- Throws away what the active buffer holds. -/
def reset (b : Buffers) : Except Fault Buffers :=
  b.pop.map fun (_, rest) => rest.push

/-- Appends a text to the active buffer. -/
def write (b : Buffers) (text : String) : Except Fault Buffers :=
  match b.stack with
  | [] => .error .noActiveBuffer
  | active :: rest => .ok { b with stack := (active ++ text) :: rest }

/-- Appends a text after the indentation. -/
def writeIndented (b : Buffers) (text : String) : Except Fault Buffers :=
  b.write (indentation b.depth ++ text)

/-- Ends the line. -/
def newline (b : Buffers) : Except Fault Buffers := b.write "\n"

/-- Appends a text and ends the line. -/
def writeLine (b : Buffers) (text : String) : Except Fault Buffers := b.write (text ++ "\n")

/-- Appends a text after the indentation and ends the line. -/
def writeLineIndented (b : Buffers) (text : String) : Except Fault Buffers :=
  b.writeIndented (text ++ "\n")

/-- The last character of the active buffer. -/
def previousChar? (b : Buffers) : Option Char := b.stack.head?.bind (·.back?)

theorem previousChar?_eq (b : Buffers) :
    b.previousChar? = b.stack.head?.bind (·.toList.getLast?) := by
  simp only [previousChar?, String.back?_eq]

/-- Indents by one level more. -/
def indent (b : Buffers) : Buffers := { b with depth := b.depth + 1 }

/-- Indents by one level less. -/
def outdent (b : Buffers) : Except Fault Buffers :=
  match b.depth with
  | 0 => .error .noIndentation
  | depth + 1 => .ok { b with depth }

end Buffers

end KotlinMetadata
