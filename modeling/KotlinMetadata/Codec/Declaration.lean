/-
Declarations in documents.
-/
import KotlinMetadata.Codec.TypeUse
import KotlinMetadata.Declaration

namespace KotlinMetadata

open Json

/-- A version requirement as a document value. -/
def Version.toJson (v : Version) : Json :=
  .object [("major", .ofInt v.major.toNat), ("minor", .ofInt v.minor.toNat),
    ("patch", .ofInt v.patch.toNat)]

/-- The version requirement that a document value is. -/
def Version.ofJson? (j : Json) : Option Version := do
  let m ← j.fields? ["major", "minor", "patch"]
  return {
    major := ← m.required "major" uint32?
    minor := ← m.required "minor" uint32?
    patch := ← m.withDefault "patch" 0 uint32? }

/-- The version of a metadata format as a document value: its three parts in a list. -/
def Version.toTriple (v : Version) : Json :=
  .array [.ofInt v.major.toNat, .ofInt v.minor.toNat, .ofInt v.patch.toNat]

/-- The version that a list of three numbers is. -/
def Version.ofTriple? : Json → Option Version
  | .array [major, minor, patch] =>
    return { major := ← major.uint32?, minor := ← minor.uint32?, patch := ← patch.uint32? }
  | _ => none

/-- A reference to a method as a document value. -/
def MethodRef.toJson (r : MethodRef) : Json :=
  .object [("owner", .ofOption .string r.owner), ("name", .string r.name),
    ("descriptor", .string r.descriptor)]

/-- The reference to a method that a document value is. -/
def MethodRef.ofJson? (j : Json) : Option MethodRef := do
  let m ← j.fields? ["owner", "name", "descriptor"]
  return {
    owner := ← m.nullable "owner" string?
    name := ← m.required "name" string?
    descriptor := ← m.required "descriptor" string? }

/-- A reference to a field as a document value. -/
def FieldRef.toJson (r : FieldRef) : Json :=
  .object [("name", .string r.name), ("descriptor", .string r.descriptor)]

/-- The reference to a field that a document value is. -/
def FieldRef.ofJson? (j : Json) : Option FieldRef := do
  let m ← j.fields? ["name", "descriptor"]
  return {
    name := ← m.required "name" string?
    descriptor := ← m.required "descriptor" string? }

/-- A constructor as a document value. -/
def Constructor.toJson (c : Constructor) : Json :=
  .object [
    ("visibility", .ofNamed c.visibility),
    ("flags", .ofFlags c.flags),
    ("value_parameters", .ofList ValueParameter.toJson c.valueParameters),
    ("version_requirement", .ofOption Version.toJson c.versionRequirement),
    ("jvm_signature", .ofOption MethodRef.toJson c.signature)]

/-- The constructor that a document value is. -/
def Constructor.ofJson? (d : Delivery) (j : Json) : Option Constructor := do
  let m ← j.fields? ["visibility", "flags", "value_parameters", "version_requirement",
    "jvm_signature"]
  return {
    visibility := ← m.namedField d "visibility"
    flags := ← m.flagField d "flags"
    valueParameters := ← m.listField "value_parameters" (ValueParameter.ofJson? d)
    versionRequirement := ← m.nullable "version_requirement" Version.ofJson?
    signature := ← m.nullable "jvm_signature" MethodRef.ofJson? }

/-- A function as a document value. -/
def Function.toJson (f : Function) : Json :=
  .object [
    ("name", .string f.name),
    ("visibility", .ofNamed f.visibility),
    ("modality", .ofNamed f.modality),
    ("member_kind", .ofNamed f.memberKind),
    ("flags", .ofFlags f.flags),
    ("type_parameters", .ofList TypeParameter.toJson f.typeParameters),
    ("receiver_type", .ofOption TypeUse.toJson f.receiverType),
    ("context_receivers", .ofList TypeUse.toJson f.contextReceivers),
    ("value_parameters", .ofList ValueParameter.toJson f.valueParameters),
    ("return_type", f.returnType.toJson),
    ("version_requirement", .ofOption Version.toJson f.versionRequirement),
    ("jvm_signature", .ofOption MethodRef.toJson f.signature)]

/-- The function that a document value is. -/
def Function.ofJson? (d : Delivery) (j : Json) : Option Function := do
  let m ← j.fields? ["name", "visibility", "modality", "member_kind", "flags", "type_parameters",
    "receiver_type", "context_receivers", "value_parameters", "return_type", "version_requirement",
    "jvm_signature"]
  return {
    name := ← m.required "name" string?
    visibility := ← m.namedField d "visibility"
    modality := ← m.namedField d "modality"
    memberKind := ← m.namedField d "member_kind"
    flags := ← m.flagField d "flags"
    typeParameters := ← m.listField "type_parameters" (TypeParameter.ofJson? d)
    receiverType := ← m.nullable "receiver_type" (TypeUse.ofJson? d)
    contextReceivers := ← m.listField "context_receivers" (TypeUse.ofJson? d)
    valueParameters := ← m.listField "value_parameters" (ValueParameter.ofJson? d)
    returnType := ← m.required "return_type" (TypeUse.ofJson? d)
    versionRequirement := ← m.nullable "version_requirement" Version.ofJson?
    signature := ← m.nullable "jvm_signature" MethodRef.ofJson? }

/-- An accessor as a document value. -/
def Accessor.toJson (a : Accessor) : Json :=
  .object [
    ("visibility", .ofNamed a.visibility),
    ("modality", .ofNamed a.modality),
    ("flags", .ofFlags a.flags),
    ("signature", .ofOption MethodRef.toJson a.signature)]

/-- The accessor that a delivered document value is. -/
def Accessor.ofDelivered? (d : Delivery) (j : Json) : Option Accessor := do
  let m ← j.fields? ["visibility", "modality", "flags", "signature"]
  return {
    visibility := ← m.namedField d "visibility"
    modality := ← m.namedField d "modality"
    flags := ← m.flagField d "flags"
    signature := ← m.nullable "signature" MethodRef.ofJson? }

/-- The accessor that a document value is. -/
def Accessor.ofJson? : Json → Option Accessor := Accessor.ofDelivered? .direct

/-- A property as a document value. -/
def Property.toJson (p : Property) : Json :=
  .object [
    ("name", .string p.name),
    ("visibility", .ofNamed p.visibility),
    ("modality", .ofNamed p.modality),
    ("member_kind", .ofNamed p.memberKind),
    ("flags", .ofFlags p.flags),
    ("type_parameters", .ofList TypeParameter.toJson p.typeParameters),
    ("receiver_type", .ofOption TypeUse.toJson p.receiverType),
    ("context_receivers", .ofList TypeUse.toJson p.contextReceivers),
    ("type", p.type.toJson),
    ("getter", .ofOption Accessor.toJson p.getter),
    ("setter", .ofOption Accessor.toJson p.setter),
    ("setter_parameter", .ofOption ValueParameter.toJson p.setterParameter),
    ("version_requirement", .ofOption Version.toJson p.versionRequirement),
    ("backing_field", .ofOption FieldRef.toJson p.backingField),
    ("synthetic_method_for_annotations", .ofOption MethodRef.toJson p.annotationsMethod),
    ("synthetic_method_for_delegate", .ofOption MethodRef.toJson p.delegateMethod)]

/-- The property that a document value is. -/
def Property.ofJson? (d : Delivery) (j : Json) : Option Property := do
  let m ← j.fields? ["name", "visibility", "modality", "member_kind", "flags", "type_parameters",
    "receiver_type", "context_receivers", "type", "getter", "setter", "setter_parameter",
    "version_requirement", "backing_field", "synthetic_method_for_annotations",
    "synthetic_method_for_delegate"]
  return {
    name := ← m.required "name" string?
    visibility := ← m.namedField d "visibility"
    modality := ← m.namedField d "modality"
    memberKind := ← m.namedField d "member_kind"
    flags := ← m.flagField d "flags"
    typeParameters := ← m.listField "type_parameters" (TypeParameter.ofJson? d)
    receiverType := ← m.nullable "receiver_type" (TypeUse.ofJson? d)
    contextReceivers := ← m.listField "context_receivers" (TypeUse.ofJson? d)
    type := ← m.required "type" (TypeUse.ofJson? d)
    getter := ← m.nullable "getter" (Accessor.ofDelivered? d)
    setter := ← m.nullable "setter" (Accessor.ofDelivered? d)
    setterParameter := ← m.nullable "setter_parameter" (ValueParameter.ofJson? d)
    versionRequirement := ← m.nullable "version_requirement" Version.ofJson?
    backingField := ← m.nullable "backing_field" FieldRef.ofJson?
    annotationsMethod := ← m.nullable "synthetic_method_for_annotations" MethodRef.ofJson?
    delegateMethod := ← m.nullable "synthetic_method_for_delegate" MethodRef.ofJson? }

/-- A type alias as a document value. -/
def TypeAlias.toJson (a : TypeAlias) : Json :=
  .object [
    ("name", .string a.name),
    ("visibility", .ofNamed a.visibility),
    ("annotations", .ofList KotlinAnnot.toJson a.annotations),
    ("type_parameters", .ofList TypeParameter.toJson a.typeParameters),
    ("underlying_type", a.underlyingType.toJson),
    ("expanded_type", .ofOption TypeUse.toJson a.expandedType),
    ("version_requirement", .ofOption Version.toJson a.versionRequirement)]

/-- The type alias that a document value is. -/
def TypeAlias.ofJson? (d : Delivery) (j : Json) : Option TypeAlias := do
  let m ← j.fields? ["name", "visibility", "annotations", "type_parameters", "underlying_type",
    "expanded_type", "version_requirement"]
  return {
    name := ← m.required "name" string?
    visibility := ← m.namedField d "visibility"
    annotations := ← m.listField "annotations" (KotlinAnnot.ofDelivered? d)
    typeParameters := ← m.listField "type_parameters" (TypeParameter.ofJson? d)
    underlyingType := ← m.required "underlying_type" (TypeUse.ofJson? d)
    expandedType := ← m.nullable "expanded_type" (TypeUse.ofJson? d)
    versionRequirement := ← m.nullable "version_requirement" Version.ofJson? }

/-- The entries of declared members. -/
def Members.toEntries (m : Members) : Entries :=
  [("functions", .ofList Function.toJson m.functions),
   ("properties", .ofList Property.toJson m.properties),
   ("local_delegated_properties", .ofList Property.toJson m.localDelegatedProperties),
   ("type_aliases", .ofList TypeAlias.toJson m.typeAliases)]

/-- The declared members among the entries of an object. -/
def Members.ofEntries? (d : Delivery) (m : Entries) : Option Members := do
  return {
    functions := ← m.listField "functions" (Function.ofJson? d)
    properties := ← m.listField "properties" (Property.ofJson? d)
    localDelegatedProperties := ← m.listField "local_delegated_properties" (Property.ofJson? d)
    typeAliases := ← m.listField "type_aliases" (TypeAlias.ofJson? d) }

end KotlinMetadata
