/-
Artifacts and pool documents. The entries of metadata are flat: the version,
the kind, the entries of that kind and the declared members stand side by
side, in any order.
-/
import KotlinMetadata.Artifact
import KotlinMetadata.Codec.Declaration
import KotlinMetadata.Json.Reader
import KotlinMetadata.Pool

namespace KotlinMetadata

open Json

/-- The entries of a class, its members last. -/
def ClassInfo.toEntries (c : ClassInfo) : Entries :=
  [("class_name", .string c.className),
   ("class_kind", .ofNamed c.kind),
   ("visibility", .ofNamed c.visibility),
   ("modality", .ofNamed c.modality),
   ("flags", .ofFlags c.flags),
   ("type_parameters", .ofList TypeParameter.toJson c.typeParameters),
   ("super_types", .ofList TypeUse.toJson c.superTypes),
   ("context_receivers", .ofList TypeUse.toJson c.contextReceivers),
   ("constructors", .ofList Constructor.toJson c.constructors),
   ("nested_class_names", .ofList .string c.nestedClassNames),
   ("companion_object_name", .ofOption .string c.companionObjectName),
   ("sealed_subclass_names", .ofList .string c.sealedSubclassNames),
   ("enum_entry_names", .ofList .string c.enumEntryNames),
   ("underlying_property_name", .ofOption .string c.underlyingPropertyName),
   ("underlying_property_type", .ofOption TypeUse.toJson c.underlyingPropertyType),
   ("anonymous_object_origin_name", .ofOption .string c.anonymousObjectOrigin),
   ("version_requirement", .ofOption Version.toJson c.versionRequirement)]
  ++ c.members.toEntries

/-- The class among the entries of an object. Its members are always gathered. -/
def ClassInfo.ofEntries? (d : Delivery) (m : Entries) : Option ClassInfo := do
  return {
    className := ← m.required "class_name" string?
    kind := ← m.namedField d "class_kind"
    visibility := ← m.namedField d "visibility"
    modality := ← m.namedField d "modality"
    flags := ← m.flagField d "flags"
    typeParameters := ← m.listField "type_parameters" (TypeParameter.ofJson? d)
    superTypes := ← m.listField "super_types" (TypeUse.ofJson? d)
    contextReceivers := ← m.listField "context_receivers" (TypeUse.ofJson? d)
    constructors := ← m.listField "constructors" (Constructor.ofJson? d)
    nestedClassNames := ← m.listField "nested_class_names" string?
    companionObjectName := ← m.nullable "companion_object_name" string?
    sealedSubclassNames := ← m.listField "sealed_subclass_names" string?
    enumEntryNames := ← m.listField "enum_entry_names" string?
    underlyingPropertyName := ← m.nullable "underlying_property_name" string?
    underlyingPropertyType := ← m.nullable "underlying_property_type" (TypeUse.ofJson? d)
    anonymousObjectOrigin := ← m.nullable "anonymous_object_origin_name" string?
    versionRequirement := ← m.nullable "version_requirement" Version.ofJson?
    members := ← Members.ofEntries? .gathered m }

/-- The entries of a content, its kind first. -/
def Content.toEntries : Content → Entries
  | .classOf info => ("kind", .string "class") :: info.toEntries
  | .fileFacade members => ("kind", .string "fileFacade") :: members.toEntries
  | .synthetic info =>
    [("kind", .string "syntheticClass"), ("flavor", .ofNamed info.flavor),
     ("functions", .ofList Function.toJson info.functions)]
  | .multiFileFacade partNames =>
    [("kind", .string "multiFileFacade"), ("part_class_names", .ofList .string partNames)]
  | .multiFilePart info =>
    ("kind", .string "multiFilePart") :: ("facade_name", .string info.facadeName)
      :: info.members.toEntries

/-- The kinds of content, in the order of their declaration. -/
def Content.kinds : List String :=
  ["class", "fileFacade", "syntheticClass", "multiFileFacade", "multiFilePart"]

/-- The content among the entries of an object, which are gathered to find its kind. -/
def Content.ofEntries? (m : Entries) : Option Content := do
  match ← m.required "kind" (kind? .gathered kinds) with
  | "class" => (ClassInfo.ofEntries? .gathered m).map .classOf
  | "fileFacade" => (Members.ofEntries? .gathered m).map .fileFacade
  | "syntheticClass" =>
    return .synthetic {
      flavor := ← m.namedField .gathered "flavor"
      functions := ← m.listField "functions" (Function.ofJson? .gathered) }
  | "multiFileFacade" => (m.listField "part_class_names" string?).map .multiFileFacade
  | "multiFilePart" =>
    return .multiFilePart {
      facadeName := ← m.required "facade_name" string?
      members := ← Members.ofEntries? .gathered m }
  | _ => none

/-- Metadata as a document value. -/
def Metadata.toJson (d : Metadata) : Json :=
  .object (("version", d.version.toTriple) :: d.content.toEntries)

/-- The metadata that a document value is, which is an object. Its kind may stand anywhere among its
entries, so all of it must be readable. -/
def Metadata.ofJson? (j : Json) : Option Metadata := do
  let m ← j.entries?
  if !j.isReadable then none
  else return { version := ← m.required "version" Version.ofTriple?, content := ← Content.ofEntries? m }

/-- A method as a document value. -/
def Method.toJson (x : Method) : Json :=
  .object [("name", .string x.name), ("descriptor", .string x.descriptor),
    ("access", .ofFlags x.access), ("annotations", .ofList JvmAnnot.toJson x.annotations)]

/-- The method that a document value is. -/
def Method.ofJson? (j : Json) : Option Method := do
  let m ← j.fields? ["name", "descriptor", "access", "annotations"]
  return {
    name := ← m.required "name" string?
    descriptor := ← m.required "descriptor" string?
    access := ← m.flagField .direct "access"
    annotations := ← m.listField "annotations" JvmAnnot.ofJson? }

/-- A field as a document value. -/
def Field.toJson (x : Field) : Json :=
  .object [("name", .string x.name), ("descriptor", .string x.descriptor),
    ("access", .ofFlags x.access), ("constant_value", .ofOption Constant.toJson x.constantValue),
    ("annotations", .ofList JvmAnnot.toJson x.annotations)]

/-- The field that a document value is. -/
def Field.ofJson? (j : Json) : Option Field := do
  let m ← j.fields? ["name", "descriptor", "access", "constant_value", "annotations"]
  return {
    name := ← m.required "name" string?
    descriptor := ← m.required "descriptor" string?
    access := ← m.flagField .direct "access"
    constantValue := ← m.nullable "constant_value" Constant.ofJson?
    annotations := ← m.listField "annotations" JvmAnnot.ofJson? }

/-- An artifact as a document value. -/
def Artifact.toJson (a : Artifact) : Json :=
  .object [("name", .string a.name), ("access", .ofFlags a.access),
    ("methods", .ofList Method.toJson a.methods), ("fields", .ofList Field.toJson a.fields),
    ("annotations", .ofList JvmAnnot.toJson a.annotations),
    ("metadata", .ofOption Metadata.toJson a.metadata)]

/-- The artifact that a document value is. -/
def Artifact.ofJson? (j : Json) : Option Artifact := do
  let m ← j.fields? ["name", "access", "methods", "fields", "annotations", "metadata"]
  return {
    name := ← m.required "name" string?
    access := ← m.flagField .direct "access"
    methods := ← m.listField "methods" Method.ofJson?
    fields := ← m.listField "fields" Field.ofJson?
    annotations := ← m.listField "annotations" JvmAnnot.ofJson?
    metadata := ← m.nullable "metadata" Metadata.ofJson? }

/-! ## Pool documents -/

/-- The artifacts of a pool document, in the order of the document. -/
structure PoolDocument where
  artifacts : List Artifact

/-- A pool document as a document value. -/
def PoolDocument.toJson (d : PoolDocument) : Json :=
  .object [("artifacts", .ofList Artifact.toJson d.artifacts)]

/-- The pool document that a document value is. -/
def PoolDocument.ofJson? (j : Json) : Option PoolDocument := do
  let m ← j.fields? ["artifacts"]
  return { artifacts := ← m.required "artifacts" (list? Artifact.ofJson?) }

/-- Why a text is not a pool. -/
inductive Pool.LoadError where
  /-- The text is not a pool document. -/
  | malformed
  | duplicate (d : Pool.Duplicate)
deriving DecidableEq, Repr

/-- The pool that a document value describes. -/
def Pool.ofJson (j : Json) : Except Pool.LoadError Pool :=
  match PoolDocument.ofJson? j with
  | none => .error .malformed
  | some d => (Pool.ofList d.artifacts).mapError .duplicate

/-- The pool that a text describes. -/
def Pool.ofText (text : String) : Except Pool.LoadError Pool :=
  match Json.parse text with
  | none => .error .malformed
  | some j => Pool.ofJson j

end KotlinMetadata
