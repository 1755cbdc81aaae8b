/-
Annotations in documents. The readers of the nested types take a bound on
the nesting, which the public ones take from the depth of the value, and the
delivery of the value: what lies in a value that was gathered was gathered
with it.
-/
import KotlinMetadata.Annotations
import KotlinMetadata.Codec.Field

namespace KotlinMetadata

open Json

/-! ## In the metadata -/

mutual
/-- An annotation as a document value. -/
def KotlinAnnot.toJson : KotlinAnnot → Json
  | ⟨className, arguments⟩ =>
    .object [("class_name", .string className), ("arguments", .array (AnnotArgument.listToJson arguments))]
/-- Arguments as document values. -/
def AnnotArgument.listToJson : List AnnotArgument → List Json
  | [] => []
  | ⟨name, value⟩ :: rest =>
    .object [("name", .string name), ("value", value.toJson)] :: AnnotArgument.listToJson rest
/-- A value as a document value: its type and itself. -/
def AnnotValue.toJson : AnnotValue → Json
  | .byte v => .object [("type", .string "byte"), ("value", .ofInt v.toInt)]
  | .char v => .object [("type", .string "char"), ("value", .string v.toString)]
  | .short v => .object [("type", .string "short"), ("value", .ofInt v.toInt)]
  | .int v => .object [("type", .string "int"), ("value", .ofInt v.toInt)]
  | .long v => .object [("type", .string "long"), ("value", .ofInt v.toInt)]
  | .float v => .object [("type", .string "float"), ("value", .ofSingle v)]
  | .double v => .object [("type", .string "double"), ("value", .ofDouble v)]
  | .boolean v => .object [("type", .string "boolean"), ("value", .bool v)]
  | .ubyte v => .object [("type", .string "uByte"), ("value", .ofInt v.toNat)]
  | .ushort v => .object [("type", .string "uShort"), ("value", .ofInt v.toNat)]
  | .uint v => .object [("type", .string "uInt"), ("value", .ofInt v.toNat)]
  | .ulong v => .object [("type", .string "uLong"), ("value", .ofInt v.toNat)]
  | .string v => .object [("type", .string "string"), ("value", .string v)]
  | .classLiteral className dimensions =>
    .object [("type", .string "class"),
      ("value", .object [("class_name", .string className),
        ("array_dimensions", .ofInt dimensions.toNat)])]
  | .enumEntry className entryName =>
    .object [("type", .string "enum"),
      ("value", .object [("class_name", .string className), ("entry_name", .string entryName)])]
  | .annot a => .object [("type", .string "annotation"), ("value", a.toJson)]
  | .array values => .object [("type", .string "array"), ("value", .array (AnnotValue.listToJson values))]
/-- Values as document values. -/
def AnnotValue.listToJson : List AnnotValue → List Json
  | [] => []
  | value :: rest => value.toJson :: AnnotValue.listToJson rest
end

/-- A class literal: the name of the class and the array dimensions around it, in an object only. -/
def AnnotValue.classLiteralOfJson? (j : Json) : Option AnnotValue := do
  let m ← j.entries?
  return .classLiteral (← m.required "class_name" string?)
    (← m.withDefault "array_dimensions" 0 uint32?)

/-- An enum entry: the name of its class and its own, in an object only. -/
def AnnotValue.enumEntryOfJson? (j : Json) : Option AnnotValue := do
  let m ← j.entries?
  return .enumEntry (← m.required "class_name" string?) (← m.required "entry_name" string?)

mutual
/-- Reads an annotation nested no deeper than the bound. -/
def KotlinAnnot.readAt (d : Delivery) : (bound : Nat) → Json → Option KotlinAnnot
  | 0, _ => none
  | bound + 1, j => do
    let m ← j.fields? ["class_name", "arguments"]
    return {
      className := ← m.required "class_name" string?
      arguments := ← m.listField "arguments" (AnnotArgument.readAt d bound) }
/-- Reads an argument nested no deeper than the bound. -/
def AnnotArgument.readAt (d : Delivery) : (bound : Nat) → Json → Option AnnotArgument
  | 0, _ => none
  | bound + 1, j => do
    let m ← j.fields? ["name", "value"]
    return {
      name := ← m.required "name" string?
      value := ← m.required "value" (AnnotValue.readAt d bound) }
/-- Reads a value nested no deeper than the bound. -/
def AnnotValue.readAt (d : Delivery) : (bound : Nat) → Json → Option AnnotValue
  | 0, _ => none
  | bound + 1, j => do
    let t ← j.tagged? d
    match t.tag with
    | "byte" => t.value.int8?.map .byte
    | "char" => t.value.char?.map .char
    | "short" => t.value.int16?.map .short
    | "int" => t.value.int32?.map .int
    | "long" => t.value.int64?.map .long
    | "float" => t.value.single?.map .float
    | "double" => t.value.double?.map .double
    | "boolean" => t.value.bool?.map .boolean
    | "uByte" => t.value.uint8?.map .ubyte
    | "uShort" => t.value.uint16?.map .ushort
    | "uInt" => t.value.uint32?.map .uint
    | "uLong" => t.value.uint64?.map .ulong
    | "string" => t.value.string?.map .string
    | "class" => AnnotValue.classLiteralOfJson? t.value
    | "enum" => AnnotValue.enumEntryOfJson? t.value
    | "annotation" => (KotlinAnnot.readAt t.delivery bound t.value).map .annot
    | "array" => (t.value.list? (AnnotValue.readAt t.delivery bound)).map .array
    | _ => none
end

/-- The annotation that a delivered document value is. -/
def KotlinAnnot.ofDelivered? (d : Delivery) (j : Json) : Option KotlinAnnot :=
  KotlinAnnot.readAt d j.depth j

/-- The annotation that a document value is. -/
def KotlinAnnot.ofJson? : Json → Option KotlinAnnot := KotlinAnnot.ofDelivered? .direct

/-! ## In the class file -/

/-- A constant as a document value: its type and itself. -/
def Constant.toJson : Constant → Json
  | .integer v => .object [("type", .string "integer"), ("value", .ofInt v.toInt)]
  | .long v => .object [("type", .string "long"), ("value", .ofInt v.toInt)]
  | .float v => .object [("type", .string "float"), ("value", .ofSingle v)]
  | .double v => .object [("type", .string "double"), ("value", .ofDouble v)]
  | .string v => .object [("type", .string "string"), ("value", .string v)]
  | .classRef v => .object [("type", .string "class"), ("value", .string v)]

/-- The constant that a delivered document value is. -/
def Constant.ofDelivered? (d : Delivery) (j : Json) : Option Constant := do
  let t ← j.tagged? d
  match t.tag with
  | "integer" => t.value.int32?.map .integer
  | "long" => t.value.int64?.map .long
  | "float" => t.value.single?.map .float
  | "double" => t.value.double?.map .double
  | "string" => t.value.string?.map .string
  | "class" => t.value.string?.map .classRef
  | _ => none

/-- The constant that a document value is. -/
def Constant.ofJson? : Json → Option Constant := Constant.ofDelivered? .direct

mutual
/-- An annotation as a document value. -/
def JvmAnnot.toJson : JvmAnnot → Json
  | ⟨typeDescriptor, elements⟩ =>
    .object [("type_descriptor", .string typeDescriptor),
      ("elements", .array (Element.listToJson elements))]
/-- Elements as document values. -/
def Element.listToJson : List Element → List Json
  | [] => []
  | ⟨name, value⟩ :: rest =>
    .object [("name", .ofOption .string name), ("value", value.toJson)] :: Element.listToJson rest
/-- An element value as a document value: its kind with the members of that kind. -/
def ElementValue.toJson : ElementValue → Json
  | .constant v => .object [("kind", .string "constant"), ("value", v.toJson)]
  | .enumConstant typeDescriptor constantName =>
    .object [("kind", .string "enumConstant"), ("type_descriptor", .string typeDescriptor),
      ("constant_name", .string constantName)]
  | .classLiteral descriptor =>
    .object [("kind", .string "class"), ("descriptor", .string descriptor)]
  | .annot a => .object [("kind", .string "annotation"), ("annotation", a.toJson)]
  | .array values =>
    .object [("kind", .string "array"), ("values", .array (Element.listToJson values))]
end

/-- The kinds of element values, in the order of their declaration. -/
def ElementValue.kinds : List String := ["constant", "enumConstant", "class", "annotation", "array"]

/-- The fields of an element value, by its kind. -/
def ElementValue.keys : String → List String
  | "constant" => ["value"]
  | "enumConstant" => ["type_descriptor", "constant_name"]
  | "class" => ["descriptor"]
  | "annotation" => ["annotation"]
  | "array" => ["values"]
  | _ => []

/-- The kind of an element value, and its fields. -/
structure ElementValue.Parts where
  kind : String
  fields : Entries

/-- The kind and the fields among the members of an object, or among the items of an array, in which
the kind comes first. -/
def ElementValue.parts? (d : Delivery) : Json → Option ElementValue.Parts
  | .object m => do return { kind := ← Entries.required m "kind" (kind? d kinds), fields := m }
  | .array (first :: rest) => do
    let kind ← first.kind? d kinds
    return { kind, fields := ← (Json.array rest).fields? (keys kind) }
  | _ => none

mutual
/-- Reads an annotation nested no deeper than the bound. -/
def JvmAnnot.readAt (d : Delivery) : (bound : Nat) → Json → Option JvmAnnot
  | 0, _ => none
  | bound + 1, j => do
    let m ← j.fields? ["type_descriptor", "elements"]
    return {
      typeDescriptor := ← m.required "type_descriptor" string?
      elements := ← m.listField "elements" (Element.readAt d bound) }
/-- Reads an element nested no deeper than the bound. -/
def Element.readAt (d : Delivery) : (bound : Nat) → Json → Option Element
  | 0, _ => none
  | bound + 1, j => do
    let m ← j.fields? ["name", "value"]
    return {
      name := ← m.nullable "name" string?
      value := ← m.required "value" (ElementValue.readAt d bound) }
/-- Reads an element value nested no deeper than the bound. All of it but its kind, which may stand
anywhere among its members, is gathered before it is read, so it must be readable. -/
def ElementValue.readAt (d : Delivery) : (bound : Nat) → Json → Option ElementValue
  | 0, _ => none
  | bound + 1, j => do
    let t ← ElementValue.parts? d j
    if !j.isReadable then none
    else
      match t.kind with
      | "constant" => (t.fields.required "value" (Constant.ofDelivered? .gathered)).map .constant
      | "enumConstant" =>
        return .enumConstant (← t.fields.required "type_descriptor" string?)
          (← t.fields.required "constant_name" string?)
      | "class" => (t.fields.required "descriptor" string?).map .classLiteral
      | "annotation" =>
        (t.fields.required "annotation" (JvmAnnot.readAt .gathered bound)).map .annot
      | "array" => (t.fields.required "values" (list? (Element.readAt .gathered bound))).map .array
      | _ => none
end

/-- The annotation that a delivered document value is. -/
def JvmAnnot.ofDelivered? (d : Delivery) (j : Json) : Option JvmAnnot := JvmAnnot.readAt d j.depth j

/-- The annotation that a document value is. -/
def JvmAnnot.ofJson? : Json → Option JvmAnnot := JvmAnnot.ofDelivered? .direct

end KotlinMetadata
