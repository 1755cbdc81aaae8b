/-
Annotations, in the two forms they are recorded in: inside the metadata, on
types, type parameters and type aliases; and in the class file, on classes
and members.
-/
import KotlinMetadata.Number.Binary

namespace KotlinMetadata

open Number (Double Single)

/-! ## In the metadata -/

mutual
/-- An annotation recorded in the metadata. -/
structure KotlinAnnot where
  /-- The internal name of the annotation class. -/
  className : String
  arguments : List AnnotArgument := []
/-- An argument of an annotation. -/
structure AnnotArgument where
  name : String
  value : AnnotValue
/-- The value of an argument. -/
inductive AnnotValue where
  | byte (v : Int8)
  | char (v : Char)
  | short (v : Int16)
  | int (v : Int32)
  | long (v : Int64)
  | float (v : Single)
  | double (v : Double)
  | boolean (v : Bool)
  | ubyte (v : UInt8)
  | ushort (v : UInt16)
  | uint (v : UInt32)
  | ulong (v : UInt64)
  | string (v : String)
  /-- A class literal, within arrays of the number of dimensions. -/
  | classLiteral (className : String) (dimensions : UInt32)
  | enumEntry (className entryName : String)
  | annot (a : KotlinAnnot)
  | array (values : List AnnotValue)
end

instance : Inhabited KotlinAnnot := ⟨{ className := "" }⟩
instance : Inhabited AnnotValue := ⟨.boolean false⟩
instance : Inhabited AnnotArgument := ⟨{ name := "", value := default }⟩

/-- The value of the first argument of a name. -/
def KotlinAnnot.argument? (a : KotlinAnnot) (name : String) : Option AnnotValue :=
  (a.arguments.find? (·.name = name)).map (·.value)

/-! ## In the class file -/

/-- An entry of the constant pool, as annotation elements and constant fields hold it. -/
inductive Constant where
  | integer (v : Int32)
  | long (v : Int64)
  | float (v : Single)
  | double (v : Double)
  | string (v : String)
  /-- A class, by the text that stands for it. -/
  | classRef (name : String)
deriving DecidableEq

mutual
/-- An annotation of a class file attribute. -/
structure JvmAnnot where
  /-- The descriptor of the annotation class. -/
  typeDescriptor : String
  elements : List Element := []
/-- An element of an annotation; the members of an array have no name. -/
structure Element where
  name : Option String := none
  value : ElementValue
/-- The value of an element. -/
inductive ElementValue where
  | constant (v : Constant)
  | enumConstant (typeDescriptor constantName : String)
  /-- A class literal, by a primitive's letter or a class descriptor. -/
  | classLiteral (descriptor : String)
  | annot (a : JvmAnnot)
  | array (values : List Element)
end

instance : Inhabited JvmAnnot := ⟨{ typeDescriptor := "" }⟩
instance : Inhabited ElementValue := ⟨.array []⟩
instance : Inhabited Element := ⟨{ value := default }⟩

/-- The descriptors of annotations that only keep the compiler's books. -/
def hiddenAnnotations : List String :=
  ["Lkotlin/Metadata;", "Lorg/jetbrains/annotations/NotNull;",
   "Lorg/jetbrains/annotations/Nullable;"]

/-- Whether an annotation of the class file is printed. -/
def JvmAnnot.isPrintable (a : JvmAnnot) : Bool := !hiddenAnnotations.contains a.typeDescriptor

end KotlinMetadata
