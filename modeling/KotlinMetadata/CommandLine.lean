/-
The arguments of a run. They are read from left to right. An option with a
value takes it from behind an equals sign or from the next argument that is
no option itself; it is checked, against what was given before and then for
its form, when the next option comes or the arguments end. So the first
fault from the left is the one reported, except that an unknown argument is
reported at once.
-/
import KotlinMetadata.Settings

namespace KotlinMetadata

/-- The options with a value. -/
inductive ValueOption where
  | input
  | output
  | filter
  | divider
  | config
  | excludeEmbedded
deriving DecidableEq, Repr

/-- The options without a value. -/
inductive Switch where
  | json
  | debug
deriving DecidableEq, Repr

/-- Why arguments are refused. -/
inductive UsageError where
  /-- An argument that means nothing. -/
  | unknownArgument
  /-- A value of the wrong form, or none where one is needed. -/
  | invalidValue
  /-- The input is not given. -/
  | missingInput
  /-- An option given twice. -/
  | repeated
  /-- A value for an option that takes none. -/
  | unwantedValue
  /-- The arguments ask for help. -/
  | helpRequested
deriving DecidableEq, Repr

/-- What the arguments of a run ask for. -/
structure Arguments where
  input : String
  output : Option String := none
  filter : Option String := none
  divider : Option String := none
  config : Option String := none
  excludeEmbedded : Option Bool := none
  json : Bool := false
  debug : Bool := false
deriving DecidableEq, Repr

namespace ValueOption

/-- The option of a name. -/
def ofName? : String → Option ValueOption
  | "input" => some .input
  | "output" => some .output
  | "filter" => some .filter
  | "divider" => some .divider
  | "config" => some .config
  | "exclude-embedded" => some .excludeEmbedded
  | _ => none

/-- Whether a text is a value of the option: paths are not empty, and truth values are spelled
out. -/
def admits : ValueOption → String → Bool
  | .input, v => !v.isEmpty
  | .output, v => !v.isEmpty
  | .config, v => !v.isEmpty
  | .excludeEmbedded, v => v = "true" || v = "false"
  | .filter, _ => true
  | .divider, _ => true

end ValueOption

/-- The switch of a name. -/
def Switch.ofName? : String → Option Switch
  | "json" => some .json
  | "debug" => some .debug
  | _ => none

namespace CommandLine

/-! ## Single arguments -/

/-- The forms of an argument. -/
inductive Token where
  /-- `--name` or `--name=value`. -/
  | long (name : String) (value : Option String)
  /-- `-` and letters. -/
  | short (first : Char)
  | plain (text : String)
deriving DecidableEq, Repr

/-- The name and the value of a long option. -/
def longToken (s : List Char) : Token :=
  let name := String.ofList (s.takeWhile (· ≠ '='))
  match s.dropWhile (· ≠ '=') with
  | [] => .long name none
  | _ :: value => .long name (some (String.ofList value))

/-- The form of an argument. -/
def Token.ofArgument (text : String) : Token :=
  match text.toList with
  | '-' :: '-' :: s => longToken s
  | '-' :: c :: _ => .short c
  | _ => .plain text

/-! ## Reading -/

/-- What has been read: the options checked so far, and the last one with a value if it is still
to be checked. -/
structure Reading where
  values : List (ValueOption × String) := []
  switches : List Switch := []
  pending : Option (ValueOption × Option String) := none
deriving DecidableEq, Repr

namespace Reading

/-- The reading with the value of an option, if it may be given. -/
def accept (r : Reading) (option : ValueOption) : Option String → Except UsageError Reading
  | none => .error .invalidValue
  | some value =>
    if r.values.any (·.1 = option) then .error .repeated
    else if option.admits value then .ok { r with values := (option, value) :: r.values }
    else .error .invalidValue

/-- The reading with no option left to check. -/
def settle (r : Reading) : Except UsageError Reading :=
  match r.pending with
  | none => .ok r
  | some (option, value) => { r with pending := none }.accept option value

/-- The reading with a switch turned on. -/
def turnOn (r : Reading) (switch : Switch) : Except UsageError Reading :=
  match r.settle with
  | .error e => .error e
  | .ok r =>
    if switch ∈ r.switches then .error .repeated
    else .ok { r with switches := switch :: r.switches }

/-- Refuses to go on since help is asked for, once the options before are checked. -/
def help (r : Reading) : Except UsageError Reading :=
  match r.settle with
  | .error e => .error e
  | .ok _ => .error .helpRequested

/-- The reading after a long option. -/
def long (r : Reading) (name : String) (value : Option String) : Except UsageError Reading :=
  match ValueOption.ofName? name with
  | some option =>
    match r.settle with
    | .error e => .error e
    | .ok r =>
      match value with
      | some value => r.accept option (some value)
      | none => .ok { r with pending := some (option, none) }
  | none =>
    match Switch.ofName? name, value with
    | some switch, none => r.turnOn switch
    | some _, some _ => .error .unwantedValue
    | none, value =>
      if name = "help" then
        match value with
        | none => r.help
        | some _ => .error .unwantedValue
      else .error .unknownArgument

/-- The reading after an argument. -/
def argument (r : Reading) (text : String) : Except UsageError Reading :=
  match Token.ofArgument text with
  | .long name value => r.long name value
  | .short c => if c = 'h' then r.help else .error .unknownArgument
  | .plain text =>
    match r.pending with
    | some (option, none) => .ok { r with pending := some (option, some text) }
    | _ => .error .unknownArgument

/-- The reading after all arguments. Behind `--` there can be no option, and nothing else is
taken. -/
def all (r : Reading) : List String → Except UsageError Reading
  | [] => r.settle
  | text :: rest =>
    if text = "--" then
      if rest.isEmpty then r.settle else .error .unknownArgument
    else
      match r.argument text with
      | .error e => .error e
      | .ok r => r.all rest

/-- The value of an option. -/
def value? (r : Reading) (option : ValueOption) : Option String :=
  (r.values.find? (·.1 = option)).map (·.2)

/-- The arguments read, if the input is among them. -/
def arguments (r : Reading) : Except UsageError Arguments :=
  match r.value? .input with
  | none => .error .missingInput
  | some input =>
    .ok {
      input
      output := r.value? .output
      filter := r.value? .filter
      divider := r.value? .divider
      config := r.value? .config
      excludeEmbedded := (r.value? .excludeEmbedded).map (· = "true")
      json := .json ∈ r.switches
      debug := .debug ∈ r.switches }

end Reading

/-- The arguments that a list of texts spells out. -/
def parse (texts : List String) : Except UsageError Arguments :=
  match ({} : Reading).all texts with
  | .error e => .error e
  | .ok r => r.arguments

end CommandLine

/-- The settings with those that the arguments give put over them. -/
def Arguments.applyTo (a : Arguments) (s : Settings) : Settings where
  excludeEmbedded := a.excludeEmbedded.getD s.excludeEmbedded
  divider := a.divider.getD s.divider
  json := a.json || s.json

end KotlinMetadata
