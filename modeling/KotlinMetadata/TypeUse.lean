/-
Types as declarations use them, and the parameters of declarations.
-/
import KotlinMetadata.Annotations
import KotlinMetadata.Flags
import KotlinMetadata.Modifier

namespace KotlinMetadata

mutual
/-- A use of a type. One of the class, the alias and the type parameter is normally given. -/
structure TypeUse where
  className : Option String := none
  aliasName : Option String := none
  parameterId : Option UInt32 := none
  flags : FlagSet TypeFlag := .empty
  variance : Variance := .invariant
  arguments : List TypeArgument := []
  annotations : List KotlinAnnot := []
/-- An argument of a type. -/
inductive TypeArgument where
  /-- The projection that stands for any type. -/
  | star
  | type (t : TypeUse)
end

instance : Inhabited TypeUse := ⟨{}⟩
instance : Inhabited TypeArgument := ⟨.star⟩

/-- A type parameter of a declaration. -/
structure TypeParameter where
  id : UInt32
  name : String
  variance : Variance := .invariant
  flags : FlagSet TypeParameterFlag := .empty
  upperBounds : List TypeUse := []
  annotations : List KotlinAnnot := []

/-- A value parameter of a function, constructor or setter. -/
structure ValueParameter where
  name : String
  flags : FlagSet ValueParameterFlag := .empty
  type : TypeUse
  /-- Given for a `vararg` parameter, whose type is then the array type. -/
  varargElementType : Option TypeUse := none

end KotlinMetadata
