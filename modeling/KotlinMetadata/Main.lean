/-
The command: prints the metadata of the artifacts of a pool document.
-/
import KotlinMetadata.Command

namespace KotlinMetadata

/-- What the command says about itself. -/
def helpText : String :=
  Text.joinWith "\n" [
    "Print the Kotlin metadata of a decoded artifact pool in a human-readable format",
    "",
    "Usage: [OPTIONS] --input <input>",
    "",
    "Options:",
    "  --input <input>        JSON artifact pool to process",
    "  --output <output>      Write output to this file instead of stdout",
    "  --filter <filter>      Class name filter, e.g. com.example.**,!com.example.internal.*",
    "  --json                 Output a JSON report instead of text",
    "  --divider <divider>    Text to print in between Kotlin metadata items",
    "  --config <config>      Configuration (YAML) file; arguments override its values",
    "  --exclude-embedded <true|false>",
    "                         Skip synthetic classes and multi-file class parts at top level",
    "  --debug                Enable debug logging",
    "  -h, --help             Print help",
    ""]

/-- The operations on the files of the system. -/
def systemFiles : FileAccess IO where
  read path := do
    try
      match String.fromUTF8? (← IO.FS.readBinFile path) with
      | some contents => return .text contents
      | none => return .unreadable
    catch _ => return .absent
  write path text := do
    try
      IO.FS.writeFile path text
      return true
    catch _ => return false

end KotlinMetadata

open KotlinMetadata in
/-- Runs the command and gives its exit code. -/
def main (arguments : List String) : IO UInt32 := do
  match ← Command.run systemFiles arguments with
  | .ok text =>
    IO.print text
    return 0
  | .error e =>
    match e with
    | .usage .helpRequested => IO.print helpText
    | e => IO.eprintln e.message
    return e.code.toUInt32
