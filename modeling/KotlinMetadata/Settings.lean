/-
The settings of a run. A configuration document holds up to two groups,
`printer` and `output`; what it leaves out keeps its default, and keys that
no setting has are ignored. A group is a mapping, or a sequence of the
values of its settings in their order. Values are taken as they are: a
number or a quoted word is no truth value, a number no divider.
-/
import KotlinMetadata.Report
import KotlinMetadata.Yaml.Reader

namespace KotlinMetadata

/-- The text between two printed artifacts unless the settings say otherwise. -/
def defaultDivider : String := "/* ------------------------------------------------- */\n"

/-- The settings of a run. -/
structure Settings where
  /-- Whether synthetic classes and multi-file parts are printed only inside other artifacts. -/
  excludeEmbedded : Bool := true
  /-- The text between two printed artifacts. -/
  divider : String := defaultDivider
  /-- Whether a report is put out in place of the texts. -/
  json : Bool := false
deriving DecidableEq, Repr

namespace Yaml

/-- A truth value. -/
def bool? : Yaml → Option Bool
  | .bool b => some b
  | _ => none

/-- A string. -/
def string? : Yaml → Option String
  | .string s => some s
  | _ => none

/-- The values of the settings of a group, by their keys in order: each is there or left out. -/
def settings? (keys : List String) : Yaml → Option (List (Option Yaml))
  | .mapping pairs => some (keys.map fun key => lookup? key pairs)
  | .sequence items => some ((List.range keys.length).map fun i => items[i]?)
  | _ => none

end Yaml

namespace Settings

/-- A setting with its value given or left out. -/
def given {α : Type} (read : Yaml → Option α) (default : α) : Option Yaml → Option α
  | none => some default
  | some value => read value

/-- The settings with a group of the document applied, if the document has it. -/
def withGroup (apply : Yaml → Option Settings) (s : Settings) : Option Yaml → Option Settings
  | none => some s
  | some group => apply group

/-- The settings with those about printing taken from a group. -/
def withPrinter (s : Settings) (group : Yaml) : Option Settings :=
  match group.settings? ["exclude_embedded"] with
  | some [excludeEmbedded] =>
    (given Yaml.bool? s.excludeEmbedded excludeEmbedded).map fun b => { s with excludeEmbedded := b }
  | _ => none

/-- The settings with those about the output taken from a group. -/
def withOutput (s : Settings) (group : Yaml) : Option Settings :=
  match group.settings? ["divider", "json"] with
  | some [divider, json] =>
    match given Yaml.string? s.divider divider, given Yaml.bool? s.json json with
    | some divider, some json => some { s with divider, json }
    | _, _ => none
  | _ => none

/-- The settings that a value describes. -/
def ofYaml? : Yaml → Option Settings
  | .mapping pairs =>
    match withGroup (withPrinter {}) {} (Yaml.lookup? "printer" pairs) with
    | none => none
    | some s => withGroup s.withOutput s (Yaml.lookup? "output" pairs)
  | _ => none

/-- The settings that the text of a configuration document describes. -/
def ofText? (text : String) : Option Settings :=
  match Yaml.parse text with
  | none => none
  | some .empty => some {}
  | some (.node root) => ofYaml? root

/-- How the printed artifacts are put out. -/
def layout (s : Settings) : Layout := if s.json then .report else .divided s.divider

end Settings

end KotlinMetadata
