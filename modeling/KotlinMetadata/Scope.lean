/-
The scope that a name is read in: the artifacts being rendered, one inside
the other, the type parameters declared on the way, and the package of the
outermost artifact. `resolve` shortens an internal class name to what reads
correctly at this point.
-/
import KotlinMetadata.Artifact
import KotlinMetadata.Fault
import KotlinMetadata.Text.CharClass

namespace KotlinMetadata

/-- An artifact being rendered. -/
structure Frame where
  artifact : Artifact
  metadata : Metadata

/-- The kind of what is rendered. -/
def Frame.kind (f : Frame) : ContentKind := f.metadata.kind

/-- The names of type parameters by their ids; of two names for one id the one given last counts. -/
structure TypeNames where
  entries : List (UInt32 × String)
deriving DecidableEq, Repr

namespace TypeNames

/-- No names. -/
def empty : TypeNames := ⟨[]⟩

/-- The names with one more. -/
def insert (names : TypeNames) (id : UInt32) (name : String) : TypeNames :=
  ⟨(id, name) :: names.entries⟩

/-- The name of an id. -/
def find? (names : TypeNames) (id : UInt32) : Option String := names.entries.lookup id

@[simp] theorem find?_empty (id : UInt32) : empty.find? id = none := rfl

@[simp] theorem find?_insert_self (names : TypeNames) (id : UInt32) (name : String) :
    (names.insert id name).find? id = some name := by
  simp [find?, insert]

theorem find?_insert_of_ne (names : TypeNames) {id other : UInt32} (name : String) (h : other ≠ id) :
    (names.insert id name).find? other = names.find? other := by
  have : (other == id) = false := beq_eq_false_iff_ne.2 h
  simp [find?, insert, List.lookup_cons, this]

end TypeNames

/-- The scope of a name. -/
structure Scope where
  /-- The artifacts being rendered, the innermost first. -/
  frames : List Frame
  typeNames : TypeNames
  /-- The internal name of the package of the outermost artifact. -/
  package : String

namespace Scope

/-- The scope outside every artifact. -/
def empty : Scope := ⟨[], .empty, ""⟩

instance : Inhabited Scope := ⟨empty⟩

/-- Whether an artifact of a kind inside one of another belongs to a file of its own. -/
def crossesFile : (outer inner : ContentKind) → Bool
  | .fileFacade, _ => true
  | .multiFileFacade, .multiFilePart => true
  | _, _ => false

/-- The scope inside an artifact. The outermost artifact sets the package; type parameters are not
seen across files. -/
def enter (s : Scope) (f : Frame) : Scope :=
  match s.frames with
  | [] => ⟨[f], .empty, Name.package f.artifact.name⟩
  | outer :: _ =>
    { s with
      frames := f :: s.frames
      typeNames := if crossesFile outer.kind f.kind then .empty else s.typeNames }

/-- The scope around the innermost artifact, and that artifact. -/
def leave (s : Scope) : Except Fault (Frame × Scope) :=
  match s.frames with
  | [] => .error .noScopeToLeave
  | f :: rest => .ok (f, { s with frames := rest })

/-- The innermost artifact. -/
def current (s : Scope) : Except Fault Frame :=
  match s.frames with
  | [] => .error .noEnclosingScope
  | f :: _ => .ok f

/-- Whether only one artifact is being rendered. -/
def isTop (s : Scope) : Bool := s.frames.length = 1

/-- Whether no artifact is being rendered. -/
def isEmpty (s : Scope) : Bool := s.frames.isEmpty

/-- The scope with a name for a type parameter. -/
def declare (s : Scope) (id : UInt32) (name : String) : Scope :=
  { s with typeNames := s.typeNames.insert id name }

/-- The text for a type parameter: its name, or a stand-in that shows the id. -/
def typeParameter (s : Scope) (id : UInt32) : String :=
  (s.typeNames.find? id).getD ("X /* unknown " ++ toString id.toNat ++ " */")

end Scope

/-! ## Names -/

/-- The text for a class without a name. -/
def invalidClassName : String := "EmptyClassName /* Invalid metadata */"

/-- The packages under `kotlin` whose classes need no import. -/
def defaultPackages : List String :=
  ["annotation", "collections", "comparisons", "io", "ranges", "sequences", "test", "jvm"]

/-- The rest of a name after one of several beginnings, if that rest has no package of its own. -/
def classIn? (beginnings : List String) (name : List Char) : Option (List Char) :=
  beginnings.findSome? fun beginning =>
    (beginning.toList.isPrefixOf? name).filter fun rest => !rest.contains '/'

/-- The short name of a class that needs no import. -/
def defaultImport? (name : List Char) : Option (List Char) :=
  classIn? ("kotlin/" :: defaultPackages.map ("kotlin/" ++ · ++ "/") ++ ["java/lang/"]) name

/-- Whether a name can start with a character. -/
def isIdentifierStart (c : Char) : Bool := Text.isAlphabetic c || c = '_' || c = '$'

/-- The name whose members the names inside a frame are: of a class, its class name; of a file
facade, the name of the artifact. -/
def Frame.qualifier? (f : Frame) : Option String :=
  match f.metadata.content with
  | .classOf info => some info.className
  | .fileFacade _ => some f.artifact.name
  | _ => none

/-- A name without the qualifier of a frame, if it begins with that and `$`. -/
def Frame.shorten (name : List Char) (f : Frame) : List Char :=
  match f.qualifier? with
  | none => name
  | some qualifier => ((qualifier.toList ++ ['$']).isPrefixOf? name).getD name

namespace Scope

/-- A name without the package, where the whole rest is the short name of the class asked for. -/
def dropPackage (s : Scope) (qualified : String) (name : List Char) : List Char :=
  if s.package.isEmpty then name
  else
    match (s.package.toList ++ ['/']).isPrefixOf? name with
    | none => name
    | some rest => if rest = (Name.short qualified).toList then rest else name

/-- A qualified name without the qualifiers that the scope supplies: those of the frames, from the
innermost outwards, the package, and the packages that are always imported. -/
def shorten (s : Scope) (qualified : String) : List Char :=
  let name := s.dropPackage qualified (s.frames.foldl Frame.shorten qualified.toList)
  (defaultImport? name).getD name

/-- A name in source form: `nesting` in place of each `$`, a point in place of each `/`, and `_` in
front if it could not start so. -/
def sourceName (nesting : String) (name : List Char) : List Char :=
  let text := Text.replaceEach '/' ['.'] (Text.replaceEach '$' nesting.toList name)
  if text.head?.any isIdentifierStart then text else '_' :: text

/-- What a qualified class name is called in the scope. -/
def resolve (s : Scope) (qualified nesting : String) : String :=
  if qualified.isEmpty then invalidClassName
  else String.ofList (sourceName nesting (s.shorten qualified))

end Scope

end KotlinMetadata
