/-
Printing the artifacts of a pool. One printer serves one batch: it remembers
the artifacts printed inside another, so that the scans of later entries
leave them out.
-/
import KotlinMetadata.Render.Artifact

namespace KotlinMetadata

/-- A printer and what it has printed inside other artifacts so far. -/
structure Printer where
  pool : Pool
  /-- Whether synthetic classes and multi-file parts are printed only inside other artifacts. -/
  excludeEmbedded : Bool := true
  visited : NameSet := .empty

namespace Printer

/-- The metadata of an artifact that is printed as an entry of its own. -/
def printable? (p : Printer) (a : Artifact) : Option Metadata :=
  a.metadata.filter fun d => !(p.excludeEmbedded && d.kind.isEmbedded)

/-- Prints an artifact as an entry of its own. There is no text for an artifact that is not printed
so, or that has nothing to print. -/
def print (p : Printer) (a : Artifact) : Except Fault (Option String × Printer) :=
  match p.printable? a with
  | none => .ok (none, p)
  | some metadata =>
    match Render.entry p.pool ⟨a, metadata⟩ (Session.start p.visited) with
    | .error fault => .error fault
    | .ok (text, s) =>
      .ok (if text.isEmpty then none else some text, { p with visited := s.visited })

/-- Prints artifacts one after the other and gives each with its text. -/
def printEach (p : Printer) :
    List Artifact → Except Fault (List (Artifact × Option String) × Printer)
  | [] => .ok ([], p)
  | a :: rest =>
    match p.print a with
    | .error fault => .error fault
    | .ok (text, p) =>
      match p.printEach rest with
      | .error fault => .error fault
      | .ok (texts, p) => .ok ((a, text) :: texts, p)

/-- Prints every artifact of the pool, in the order of their names, and gives those that have a
text. -/
def printAll (p : Printer) : Except Fault (List (Artifact × String) × Printer) :=
  match p.printEach p.pool.artifacts with
  | .error fault => .error fault
  | .ok (texts, p) => .ok (texts.filterMap fun (a, text) => text.map (a, ·), p)

end Printer

end KotlinMetadata
