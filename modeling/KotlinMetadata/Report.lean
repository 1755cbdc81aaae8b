/-
Reports on a batch: how many classes were looked at, how many of them carry
metadata of each kind, how many functions these declare, and the printed
texts by external class name.

`Batch` is what a run asks for. Its output is either the printed texts with
a divider between them, or the report written as a document; both come from
the same list of printed artifacts.
-/
import KotlinMetadata.ClassFilter
import KotlinMetadata.Json.Writer
import KotlinMetadata.Printer

namespace KotlinMetadata

/-- One printed artifact of a report. -/
structure ReportEntry where
  /-- The package, in external form. -/
  package : String
  /-- The short name, in external form. -/
  name : String
  kind : ContentKind
  printed : String
deriving DecidableEq, Repr

/-- A report on the artifacts that a filter accepted. -/
structure Report where
  /-- What the artifacts were read from. -/
  input : String
  /-- The number of artifacts. -/
  classes : Nat := 0
  /-- The number of artifacts with metadata of a kind. -/
  ofKind : ContentKind → Nat := fun _ => 0
  /-- The number of functions declared by other than synthetic classes. -/
  normalFunctions : Nat := 0
  /-- The number of functions of synthetic classes. -/
  syntheticFunctions : Nat := 0
  /-- The printed artifacts by external name, in increasing order of the names. -/
  entries : List (String × ReportEntry) := []

namespace Content

/-- The number of functions declared, unless the content is a synthetic class. -/
def normalFunctions : Content → Nat
  | .synthetic _ => 0
  | c => c.members?.elim 0 (·.functions.length)

/-- The number of functions of a synthetic class. -/
def syntheticFunctions : Content → Nat
  | .synthetic info => info.functions.length
  | _ => 0

end Content

namespace ContentKind

/-- The kinds in the order of their labels. -/
def byLabel : List ContentKind :=
  [.classOf, .fileFacade, .multiFileFacade, .multiFilePart, .synthetic]

end ContentKind

namespace Report

/-- An entry put in its place by its key; it takes the place of an entry with the same key. -/
def place (key : String) (e : ReportEntry) :
    List (String × ReportEntry) → List (String × ReportEntry)
  | [] => [(key, e)]
  | (k, x) :: rest =>
    if key < k then (key, e) :: (k, x) :: rest
    else if key = k then (key, e) :: rest
    else (k, x) :: place key e rest

/-- The entry of an artifact that was printed. -/
def entryOf (a : Artifact) (kind : ContentKind) (printed : String) : ReportEntry where
  package := Name.externalPackage a.name
  name := Name.shortExternal a.externalName
  kind
  printed

/-- The report with one artifact more, printed or not. -/
def record (r : Report) (a : Artifact) (printed : Option String) : Report :=
  match a.metadata with
  | none => { r with classes := r.classes + 1 }
  | some m =>
    { r with
      classes := r.classes + 1
      ofKind := fun k => if k = m.kind then r.ofKind k + 1 else r.ofKind k
      normalFunctions := r.normalFunctions + m.content.normalFunctions
      syntheticFunctions := r.syntheticFunctions + m.content.syntheticFunctions
      entries :=
        match printed with
        | none => r.entries
        | some text => place a.externalName (entryOf a m.kind text) r.entries }

/-- The report on artifacts with their texts. -/
def ofPrinted (input : String) (printed : List (Artifact × Option String)) : Report :=
  printed.foldl (fun r (a, text) => r.record a text) { input }

/-- A number of things as a document value. -/
def count (n : Nat) : Json := .number (.integer n)

/-- An entry as a document value. -/
def entryJson (e : ReportEntry) : Json :=
  .object [("package", .string e.package), ("name", .string e.name), ("kind", .string e.kind.label),
    ("printed", .string e.printed)]

/-- The report as a document value. -/
def toJson (r : Report) : Json :=
  .object [
    ("input", .string r.input),
    ("statistics", .object [
      ("java", .object [("classes", count r.classes)]),
      ("kotlin", .object [
        ("metadata", .object (ContentKind.byLabel.map fun k => (k.label, count (r.ofKind k)))),
        ("functions", .object [
          ("normal", count r.normalFunctions),
          ("synthetic", count r.syntheticFunctions)])])]),
    ("metadata", .object (r.entries.map fun (key, e) => (key, entryJson e)))]

/-- The report as the text of a document, over several lines. -/
def text (r : Report) : String := r.toJson.pretty 0 ++ "\n"

end Report

/-- How the printed artifacts are put out. -/
inductive Layout where
  /-- The texts with a divider between each and the next. -/
  | divided (divider : String)
  /-- A report. -/
  | report
deriving DecidableEq, Repr

/-- What a run asks for. -/
structure Batch where
  pool : Pool
  /-- The artifacts left out, if any. -/
  filter : Option ClassFilter := none
  excludeEmbedded : Bool := true
  layout : Layout
  /-- What the artifacts were read from. -/
  input : String

namespace Batch

/-- The artifacts that the filter accepts, in the order of their names. -/
def accepted (b : Batch) : List Artifact :=
  b.pool.artifacts.filter fun a => b.filter.all (·.accepts a.name)

/-- The accepted artifacts with their texts. -/
def printed (b : Batch) : Except Fault (List (Artifact × Option String)) :=
  ({ pool := b.pool, excludeEmbedded := b.excludeEmbedded : Printer }.printEach b.accepted).map (·.1)

/-- What is put out for artifacts with their texts. -/
def layOut (b : Batch) (printed : List (Artifact × Option String)) : String :=
  match b.layout with
  | .divided divider => Text.joinWith divider (printed.filterMap (·.2))
  | .report => (Report.ofPrinted b.input printed).text

/-- The output of the run. -/
def output (b : Batch) : Except Fault String := b.printed.map b.layOut

end Batch

end KotlinMetadata
