/-
The declarations that metadata records: constructors, functions, properties
and type aliases, with the class file members that implement them.
-/
import KotlinMetadata.TypeUse

namespace KotlinMetadata

/-- A version of three parts. -/
structure Version where
  major : UInt32
  minor : UInt32
  patch : UInt32 := 0
deriving DecidableEq, Repr

/-- The parts of a version with points between them. -/
def Version.text (v : Version) : String :=
  toString v.major.toNat ++ "." ++ toString v.minor.toNat ++ "." ++ toString v.patch.toNat

/-- A reference to a method of a class file: of the owner named, or else of the artifact that the
metadata came from. -/
structure MethodRef where
  owner : Option String := none
  name : String
  descriptor : String
deriving DecidableEq, Repr

/-- A reference to a field of the artifact that the metadata came from. -/
structure FieldRef where
  name : String
  descriptor : String
deriving DecidableEq, Repr

/-- A constructor. -/
structure Constructor where
  visibility : Visibility := .publicMember
  flags : FlagSet ConstructorFlag := .empty
  valueParameters : List ValueParameter := []
  versionRequirement : Option Version := none
  signature : Option MethodRef := none

/-- Whether a constructor is not the primary one. -/
def Constructor.isSecondary (c : Constructor) : Bool := c.flags.contains .secondary

/-- Whether a constructor takes no parameters. -/
def Constructor.isParameterless (c : Constructor) : Bool := c.valueParameters.isEmpty

/-- A function. -/
structure Function where
  name : String
  visibility : Visibility := .publicMember
  modality : Modality := .final
  memberKind : MemberKind := .declaration
  flags : FlagSet FunctionFlag := .empty
  typeParameters : List TypeParameter := []
  receiverType : Option TypeUse := none
  contextReceivers : List TypeUse := []
  valueParameters : List ValueParameter := []
  returnType : TypeUse
  versionRequirement : Option Version := none
  signature : Option MethodRef := none

/-- A getter or setter of a property. -/
structure Accessor where
  visibility : Visibility := .publicMember
  modality : Modality := .final
  flags : FlagSet AccessorFlag := .empty
  signature : Option MethodRef := none

/-- A property. -/
structure Property where
  name : String
  visibility : Visibility := .publicMember
  modality : Modality := .final
  memberKind : MemberKind := .declaration
  flags : FlagSet PropertyFlag := .empty
  typeParameters : List TypeParameter := []
  receiverType : Option TypeUse := none
  contextReceivers : List TypeUse := []
  type : TypeUse
  getter : Option Accessor := none
  setter : Option Accessor := none
  setterParameter : Option ValueParameter := none
  versionRequirement : Option Version := none
  backingField : Option FieldRef := none
  /-- The method that carries the annotations of the property. -/
  annotationsMethod : Option MethodRef := none
  /-- The method that gives the delegate of the property. -/
  delegateMethod : Option MethodRef := none

/-- Whether a property can be assigned. -/
def Property.isVar (p : Property) : Bool := p.flags.contains .var

/-- A type alias. -/
structure TypeAlias where
  name : String
  visibility : Visibility := .publicMember
  annotations : List KotlinAnnot := []
  typeParameters : List TypeParameter := []
  underlyingType : TypeUse
  expandedType : Option TypeUse := none
  versionRequirement : Option Version := none

/-- The members that classes, file facades and multi-file parts have in common. -/
structure Members where
  functions : List Function := []
  properties : List Property := []
  localDelegatedProperties : List Property := []
  typeAliases : List TypeAlias := []

/-- The properties, with those delegated inside function bodies after the others. -/
def Members.allProperties (m : Members) : List Property := m.properties ++ m.localDelegatedProperties

end KotlinMetadata
