/-
A whole run: arguments, settings, filter, pool, output. The run reads files
and writes one through two operations that it is given, so it is the same
function over a file system and over a file tree held as a value.

Faults are looked for in a fixed order: the arguments, the configuration,
the filter, the pool, and last the output file. Nothing is written before
all else has gone well.
-/
import KotlinMetadata.Codec.Artifact
import KotlinMetadata.CommandLine

namespace KotlinMetadata

/-- What reading a file gives. -/
inductive FileText where
  /-- There is no file of the name. -/
  | absent
  /-- The file is no text. -/
  | unreadable
  | text (contents : String)
deriving DecidableEq, Repr

/-- Why a run ends without its output. -/
inductive RunError where
  | usage (e : UsageError)
  | configuration
  | filter (e : ClassFilter.NoPattern)
  | noInput
  | pool (e : Pool.LoadError)
  | fault (f : Fault)
  | noOutput

namespace RunError

/-- The exit code. Asking for help is no failure. -/
def code : RunError → Nat
  | .usage .helpRequested => 0
  | .usage _ => 2
  | .fault _ => 101
  | _ => 1

/-- What the user is told. -/
def message : RunError → String
  | .usage .unknownArgument => "unknown argument"
  | .usage .invalidValue => "invalid or missing value of an option"
  | .usage .missingInput => "the option --input is required"
  | .usage .repeated => "an option is given twice"
  | .usage .unwantedValue => "a value for an option without one"
  | .usage .helpRequested => ""
  | .configuration => "the configuration file cannot be used"
  | .filter e => e.message
  | .noInput => "the input cannot be read"
  | .pool .malformed => "the input is not a pool document"
  | .pool (.duplicate d) => d.message
  | .fault f => f.message
  | .noOutput => "the output file cannot be written"

end RunError

namespace Arguments

/-- The settings of a run, from what reading its configuration file gave. A file that is absent
counts as empty. -/
def settings (a : Arguments) : FileText → Except RunError Settings
  | .absent => .ok (a.applyTo {})
  | .unreadable => .error .configuration
  | .text contents =>
    match Settings.ofText? contents with
    | some s => .ok (a.applyTo s)
    | none => .error .configuration

/-- The filter of a run, if there is one. -/
def classFilter (a : Arguments) : Except RunError (Option ClassFilter) :=
  match a.filter with
  | none => .ok none
  | some text =>
    match ClassFilter.parse text with
    | .ok f => .ok (some f)
    | .error e => .error (.filter e)

/-- The name of the input in reports: the last part of its path that names something. -/
def inputName (a : Arguments) : String :=
  let parts := (Text.pieces '/' a.input.toList).filter fun s => s ≠ [] ∧ s ≠ ['.']
  match parts.getLast? with
  | none => a.input
  | some ['.', '.'] => a.input
  | some name => String.ofList name

/-- The text of a run on what reading its input gave. -/
def printedText (a : Arguments) (s : Settings) (filter : Option ClassFilter) :
    FileText → Except RunError String
  | .absent => .error .noInput
  | .unreadable => .error .noInput
  | .text contents =>
    match Pool.ofText contents with
    | .error e => .error (.pool e)
    | .ok pool =>
      let batch : Batch :=
        { pool, filter, excludeEmbedded := s.excludeEmbedded, layout := s.layout, input := a.inputName }
      match batch.output with
      | .error f => .error (.fault f)
      | .ok text => .ok text

end Arguments

/-- The operations on files that a run needs. Writing tells whether it succeeded. -/
structure FileAccess (m : Type → Type) where
  read : String → m FileText
  write : String → String → m Bool

namespace Command

variable {m : Type → Type} [Monad m]

/-- Puts a text out: into the output file if there is one, and otherwise as the result. -/
def deliver (files : FileAccess m) (a : Arguments) (text : String) : m (Except RunError String) := do
  match a.output with
  | none => return .ok text
  | some path => return if ← files.write path text then .ok "" else .error .noOutput

/-- Runs as arguments ask. The result is what goes to standard output. -/
def runWith (files : FileAccess m) (a : Arguments) : m (Except RunError String) := do
  let config ←
    match a.config with
    | none => pure .absent
    | some path => files.read path
  match a.settings config, a.classFilter with
  | .error e, _ => return .error e
  | .ok _, .error e => return .error e
  | .ok settings, .ok filter =>
    match a.printedText settings filter (← files.read a.input) with
    | .error e => return .error e
    | .ok text => deliver files a text

/-- Runs as the texts of arguments ask. -/
def run (files : FileAccess m) (texts : List String) : m (Except RunError String) :=
  match CommandLine.parse texts with
  | .error e => return .error (.usage e)
  | .ok a => runWith files a

end Command

end KotlinMetadata
