/-
The rendering of artifacts: classes, facades, parts and synthetic classes,
with the artifacts they contain and those named after them.

An artifact is rendered inside another either because that one contains it
(as companion, nested class or part) or because a scan finds its name. The
renderer of a single artifact takes the renderer of the artifacts inside it
as an argument; `artifact` ties the knot with a bound on the nesting.
-/
import KotlinMetadata.Render.Declaration
import KotlinMetadata.Text.CharClass

namespace KotlinMetadata

/-- The words for a content in headers. -/
def Content.words : Content → String
  | .classOf info => if info.kind = .companionObject then "companion class" else "class"
  | .fileFacade _ => "file facade"
  | .synthetic _ => "synthetic class"
  | .multiFileFacade _ => "multi-file class facade"
  | .multiFilePart _ => "multi-file class part"

/-- The declaration that an anonymous object was created in. -/
def Content.origin? : Content → Option String
  | .classOf info => info.anonymousObjectOrigin
  | _ => none

/-- The type parameters that a content and its members declare, in the order of declaration. -/
def Content.typeParameters (c : Content) : List TypeParameter :=
  let own :=
    match c with
    | .classOf info => info.typeParameters
    | _ => []
  match c.members? with
  | none => own
  | some m =>
    own ++ m.functions.flatMap (·.typeParameters) ++ m.allProperties.flatMap (·.typeParameters)
      ++ m.typeAliases.flatMap (·.typeParameters)

/-- The super types that every class of a kind has without saying so. -/
def implicitSuperTypes : List String := ["kotlin/Any", "kotlin/Enum", "kotlin/Annotation"]

/-- The super types that are printed. -/
def ClassInfo.printedSuperTypes (c : ClassInfo) : List TypeUse :=
  c.superTypes.filter fun t => !t.className.any implicitSuperTypes.contains

/-- The primary constructors that are printed: those with parameters. -/
def ClassInfo.printedPrimary (c : ClassInfo) : List Constructor :=
  c.constructors.filter fun k => !k.isSecondary && !k.isParameterless

/-- The name of the file class that a multi-file part belongs to, from the part's own name: what
precedes the first double underscore, without `Kt`. -/
def partFileName? (name : String) : Option String :=
  (Text.beforeFirst? ['_', '_'] (Name.shortExternal name).toList).map fun stem =>
    String.ofList ((Text.dropEnding? ['K', 't'] stem).getD stem)

/-- The number of enum entries on a line. -/
def entriesPerLine : Nat := 5

/-- The comment above the artifacts that a scan found. -/
def scannedComment : String :=
  "// Synthetic inner classes - these were generated by the Kotlin compiler from e.g. lambdas"

namespace Render

/-! ## Headers -/

/-- Writes the header of an artifact: package and a comment at the top, one comment line inside
another artifact. -/
def headerAt (top : Bool) (package : String) (f : Frame) : Render Unit :=
  let words := f.metadata.content.words
  let external := f.artifact.externalName
  if top then do
    if package.isEmpty then pure ()
    else do
      writeLineIndented ("package " ++ Name.toExternal package)
      newline
    writeLineIndented "/**"
    writeLineIndented ("* Kotlin " ++ words ++ " (metadata version " ++ f.metadata.version.text ++ ").")
    writeLineIndented ("* From Java class: " ++ external)
    writeLineIndented "*/"
  else do
    writeLineIndented ("// Kotlin " ++ words ++ " from Java class: " ++ external)
    onSome (fun origin => writeLineIndented ("// Anonymous object origin: " ++ Name.toExternal origin))
      f.metadata.content.origin?

/-- Writes the header of an artifact where the rendering stands. -/
def header (f : Frame) : Render Unit := fun s => headerAt s.scope.isTop s.scope.package f s

/-! ## Artifacts inside artifacts -/

/-- Writes an artifact that the one around it contains, and notes it so that no scan prints it
again. -/
def contained (inside : Frame → Render Unit) (a : Artifact) : Render Unit :=
  onSome (fun metadata => do
    markVisited a.name
    record a.name .contained
    inside ⟨a, metadata⟩) a.metadata

/-- Writes an artifact that a scan found, unless it is done. -/
def scanned (inside : Frame → Render Unit) (a : Artifact) : Render Unit := do
  if ← isDone a.name then pure ()
  else
    onSome (fun metadata => do
      record a.name .scanned
      inside ⟨a, metadata⟩) a.metadata

/-- Writes the artifacts named after one that nothing else has printed. -/
def children (pool : Pool) (inside : Frame → Render Unit) (a : Artifact) : Render Unit := do
  let text ← capture (each (scanned inside) (pool.inner a.name))
  if text.isEmpty then pure ()
  else do
    newline
    writeLineIndented scannedComment
    newline
    write text

/-! ## Classes -/

/-- Writes enum entries from an index on, a few to a line. -/
def enumEntries : (index : Nat) → List String → Render Unit
  | _, [] => pure ()
  | index, entry :: rest => do
    if 0 < index && index % entriesPerLine = 0 then newline else pure ()
    if index % entriesPerLine = 0 then writeIndented entry else write entry
    if rest.isEmpty then pure ()
    else do
      write ","
      if (index + 1) % entriesPerLine = 0 then pure () else write " "
    enumEntries (index + 1) rest

/-- Writes the companion object of a class. -/
def companion (pool : Pool) (inside : Frame → Render Unit) (c : ClassInfo) : Render Unit :=
  onSome (fun a => do
    newline
    contained inside a) (c.companionClassName.bind pool.get?)

/-- The nested classes of a class that are in the pool and have metadata, the companion aside. -/
def nestedArtifacts (pool : Pool) (c : ClassInfo) : List Artifact :=
  (c.nestedInternalNames.filterMap pool.get?).filter (·.metadata.isSome)

/-- Writes the nested classes of a class under a comment. -/
def nestedClasses (pool : Pool) (inside : Frame → Render Unit) (c : ClassInfo) : Render Unit :=
  declarationGroup "// Nested subclasses" (contained inside) (nestedArtifacts pool c)

/-- Writes the names of sealed subclasses; nothing if there are none. -/
def sealedNames (names : List String) : Render Unit :=
  if names.isEmpty then pure ()
  else writeLineIndented ("// Sealed subclasses: " ++ ", ".intercalate names)

/-- Writes the names of the sealed subclasses of a class. -/
def sealedSubclasses (c : ClassInfo) : Render Unit := fun s =>
  sealedNames (c.sealedSubclassNames.map fun name => s.scope.resolve name ".") s

/-- Writes the secondary constructors of a class. -/
def secondaryConstructors (pool : Pool) (c : ClassInfo) : Render Unit :=
  let secondary := c.constructors.filter Constructor.isSecondary
  if secondary.isEmpty then pure ()
  else do
    writeLineIndented "// Secondary constructors"
    each (constructor pool) secondary

/-- Writes the property under a value class. -/
def underlyingProperty (c : ClassInfo) : Render Unit :=
  onSome (fun name => do
    writeLineIndented ("// Underlying property name: " ++ name)
    let type ← capture (onSome typeUse c.underlyingPropertyType)
    writeLineIndented ("// Underlying property type: " ++ type)) c.underlyingPropertyName

/-- Writes what stands between the braces of a class, its enum entries aside. -/
def classBody (pool : Pool) (inside : Frame → Render Unit) (a : Artifact) (c : ClassInfo) :
    Render Unit := do
  sealedSubclasses c
  secondaryConstructors pool c
  underlyingProperty c
  members pool c.members
  companion pool inside c
  nestedClasses pool inside c
  children pool inside a

/-- Writes the end of a class from its enum entries and its body. -/
def classEnd (count : Nat) (entries body : String) : Render Unit :=
  if !body.isEmpty then do
    writeLine "\x7b"
    if entries.isEmpty then pure () else writeLine (entries ++ ";")
    write body
    writeLineIndented "\x7d"
  else if !entries.isEmpty then
    if count ≤ entriesPerLine then do
      write "\x7b "
      write (Text.trim entries)
      writeLine " \x7d"
    else do
      writeLine "\x7b"
      writeLine entries
      writeLineIndented "\x7d"
  else do
    newline
    newline

/-- Writes the keywords and the name of a class; a companion object of the usual name goes without
it. -/
def className (c : ClassInfo) : Render Unit := do
  let name ← resolve c.className "_"
  if c.kind = .companionObject && name = "Companion" then writeIndented (Text.trim c.keywords)
  else writeIndented (c.keywords ++ name)

/-- Declares the type parameters that an anonymous object sees where it was created. -/
def declareOrigin (pool : Pool) (c : ClassInfo) : Render Unit :=
  onSome (fun (d : Metadata) => declareAll d.content.typeParameters)
    ((c.anonymousObjectOrigin.bind pool.get?).bind (·.metadata))

/-- Writes a class. -/
def classOf (pool : Pool) (inside : Frame → Render Unit) (f : Frame) (c : ClassInfo) : Render Unit := do
  header f
  jvmAnnots .block f.artifact.annotations
  onSome (versionRequirement .block) c.versionRequirement
  contextReceivers c.contextReceivers
  className c
  declareAll c.typeParameters
  declareOrigin pool c
  typeParameterList c.typeParameters ">"
  let primary ← capture (each (constructor pool) c.printedPrimary)
  write (if primary.isEmpty then " " else primary)
  enclosed ": " ", " " " typeUse c.printedSuperTypes
  let (body, entries) ← indented do
    let body ← capture (classBody pool inside f.artifact c)
    let entries ← capture (enumEntries 0 c.enumEntryNames)
    return (body, entries)
  classEnd c.enumEntryNames.length entries body

/-! ## The other contents -/

/-- Writes a file facade. -/
def fileFacade (pool : Pool) (inside : Frame → Render Unit) (f : Frame) (m : Members) : Render Unit := do
  header f
  members pool m
  children pool inside f.artifact

/-- Writes a synthetic class. -/
def syntheticClass (pool : Pool) (f : Frame) (info : SyntheticInfo) : Render Unit := do
  let name ← resolve f.artifact.name "_"
  header f
  writeIndented ("/* " ++ info.flavor.word ++ " */ class " ++ name)
  if info.functions.isEmpty then newline
  else do
    writeLine " \x7b"
    indented do
      writeLineIndented "// Functions"
      each (function pool) info.functions
    writeLineIndented "\x7d"

/-- Writes a part of a multi-file class and ends the line after it. -/
def facadePart (inside : Frame → Render Unit) (a : Artifact) : Render Unit := do
  contained inside a
  newline

/-- Writes the facade of a multi-file class with its parts. -/
def multiFileFacade (pool : Pool) (inside : Frame → Render Unit) (f : Frame) (partNames : List String) :
    Render Unit := do
  header f
  newline
  indented
    (each (facadePart inside) ((partNames.filter (· ≠ f.artifact.name)).filterMap pool.get?))

/-- Writes a part of a multi-file class. -/
def multiFilePart (pool : Pool) (inside : Frame → Render Unit) (f : Frame) (info : PartInfo) :
    Render Unit := do
  header f
  let name ← resolve f.artifact.name "_"
  onSome (fun fileName => writeLineIndented ("@file:JvmName(\"" ++ fileName ++ "\")")) (partFileName? name)
  writeLineIndented "@file:JvmMultifileClass"
  members pool info.members
  children pool inside f.artifact

/-- Writes a content in the scope of its artifact. -/
def content (pool : Pool) (inside : Frame → Render Unit) (f : Frame) : Render Unit :=
  within f <|
    match f.metadata.content with
    | .classOf info => classOf pool inside f info
    | .fileFacade m => fileFacade pool inside f m
    | .synthetic info => syntheticClass pool f info
    | .multiFileFacade partNames => multiFileFacade pool inside f partNames
    | .multiFilePart info => multiFilePart pool inside f info

/-! ## Whole artifacts -/

/-- Writes an artifact and, to a bound on their nesting, the artifacts inside it. -/
def artifactWithin (pool : Pool) : (bound : Nat) → Frame → Render Unit
  | 0, _ => throw .containmentCycle
  | bound + 1, f => content pool (artifactWithin pool bound) f

/-- A bound on the nesting of artifacts. On the way down each scan comes to an artifact not visited
before, so there are at most as many scans as artifacts; between two scans the way follows
containment, which without a cycle passes each artifact once at most. -/
def nestingBound (pool : Pool) : Nat := (pool.size + 1) * (pool.size + 1)

/-- Writes an artifact with the artifacts inside it. -/
def artifact (pool : Pool) (f : Frame) : Render Unit := artifactWithin pool (nestingBound pool) f

/-- Renders an artifact as an entry of its own and gives its text. -/
def entry (pool : Pool) (f : Frame) : Render String := do
  record f.artifact.name .top
  let text ← capture (artifact pool f)
  if (← get).isBalanced then return text
  else throw (.unbalanced f.artifact.name)

end Render

end KotlinMetadata
