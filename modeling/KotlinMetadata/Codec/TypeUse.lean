/-
Types and parameters in documents. A type argument is the string `star`, or
an object with the one member `type`; `star` may also be written as the key
of an object, with a value that stands for nothing.
-/
import KotlinMetadata.Codec.Annotations
import KotlinMetadata.TypeUse

namespace KotlinMetadata

open Json

mutual
/-- A type as a document value. -/
def TypeUse.toJson : TypeUse → Json
  | ⟨className, aliasName, parameterId, flags, variance, arguments, annotations⟩ =>
    .object [
      ("class_name", .ofOption .string className),
      ("alias_name", .ofOption .string aliasName),
      ("type_parameter_id", .ofOption (fun id => .ofInt id.toNat) parameterId),
      ("flags", .ofFlags flags),
      ("variance", .ofNamed variance),
      ("arguments", .array (TypeArgument.listToJson arguments)),
      ("annotations", .ofList KotlinAnnot.toJson annotations)]
/-- Arguments as document values. -/
def TypeArgument.listToJson : List TypeArgument → List Json
  | [] => []
  | .star :: rest => .string "star" :: TypeArgument.listToJson rest
  | .type t :: rest => .object [("type", t.toJson)] :: TypeArgument.listToJson rest
end

mutual
/-- Reads a type nested no deeper than the bound. -/
def TypeUse.readAt (d : Delivery) : (bound : Nat) → Json → Option TypeUse
  | 0, _ => none
  | bound + 1, j => do
    let m ← j.fields? ["class_name", "alias_name", "type_parameter_id", "flags", "variance",
      "arguments", "annotations"]
    return {
      className := ← m.nullable "class_name" string?
      aliasName := ← m.nullable "alias_name" string?
      parameterId := ← m.nullable "type_parameter_id" uint32?
      flags := ← m.flagField d "flags"
      variance := ← m.namedField d "variance"
      arguments := ← m.listField "arguments" (TypeArgument.readAt d bound)
      annotations := ← m.listField "annotations" (KotlinAnnot.ofDelivered? d) }
/-- Reads an argument nested no deeper than the bound. -/
def TypeArgument.readAt (d : Delivery) : (bound : Nat) → Json → Option TypeArgument
  | 0, .string "star" => some .star
  | _ + 1, .string "star" => some .star
  | _ + 1, .object [("star", nothing)] => if nothing.isNothing d then some .star else none
  | bound + 1, .object [("type", t)] => (TypeUse.readAt d bound t).map .type
  | _, _ => none
end

/-- The type that a document value is. -/
def TypeUse.ofJson? (d : Delivery) (j : Json) : Option TypeUse := TypeUse.readAt d j.depth j

/-- A type parameter as a document value. -/
def TypeParameter.toJson (p : TypeParameter) : Json :=
  .object [
    ("id", .ofInt p.id.toNat),
    ("name", .string p.name),
    ("variance", .ofNamed p.variance),
    ("flags", .ofFlags p.flags),
    ("upper_bounds", .ofList TypeUse.toJson p.upperBounds),
    ("annotations", .ofList KotlinAnnot.toJson p.annotations)]

/-- The type parameter that a document value is. -/
def TypeParameter.ofJson? (d : Delivery) (j : Json) : Option TypeParameter := do
  let m ← j.fields? ["id", "name", "variance", "flags", "upper_bounds", "annotations"]
  return {
    id := ← m.required "id" uint32?
    name := ← m.required "name" string?
    variance := ← m.namedField d "variance"
    flags := ← m.flagField d "flags"
    upperBounds := ← m.listField "upper_bounds" (TypeUse.ofJson? d)
    annotations := ← m.listField "annotations" (KotlinAnnot.ofDelivered? d) }

/-- A value parameter as a document value. -/
def ValueParameter.toJson (p : ValueParameter) : Json :=
  .object [
    ("name", .string p.name),
    ("flags", .ofFlags p.flags),
    ("type", p.type.toJson),
    ("vararg_element_type", .ofOption TypeUse.toJson p.varargElementType)]

/-- The value parameter that a document value is. -/
def ValueParameter.ofJson? (d : Delivery) (j : Json) : Option ValueParameter := do
  let m ← j.fields? ["name", "flags", "type", "vararg_element_type"]
  return {
    name := ← m.required "name" string?
    flags := ← m.flagField d "flags"
    type := ← m.required "type" (TypeUse.ofJson? d)
    varargElementType := ← m.nullable "vararg_element_type" (TypeUse.ofJson? d) }

end KotlinMetadata
