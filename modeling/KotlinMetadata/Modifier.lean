/-
The modifiers of which a declaration has exactly one: visibility, modality,
how a member came about, the kind of a class, variance and the flavor of a
synthetic class. The value a document leaves out is the type's default.
-/
import KotlinMetadata.Enumerated

namespace KotlinMetadata

/-- Who may use a declaration. -/
inductive Visibility where
  | internal
  | privateMember
  | protectedMember
  | publicMember
  /-- Private, and used only on the same instance. -/
  | privateToThis
  /-- Declared inside a function body. -/
  | localMember
deriving DecidableEq, Repr

instance : Inhabited Visibility := ⟨.publicMember⟩

instance : Enumerated Visibility where
  all :=
    [.internal, .privateMember, .protectedMember, .publicMember, .privateToThis, .localMember]
  name
    | .internal => "internal"
    | .privateMember => "private"
    | .protectedMember => "protected"
    | .publicMember => "public"
    | .privateToThis => "privateToThis"
    | .localMember => "local"
  find_name a := by cases a <;> rfl

/-- Whether a declaration can be overridden or extended. -/
inductive Modality where
  | final
  | overridable
  | abstract
  | sealed
deriving DecidableEq, Repr

instance : Inhabited Modality := ⟨.final⟩

instance : Enumerated Modality where
  all := [.final, .overridable, .abstract, .sealed]
  name
    | .final => "final"
    | .overridable => "open"
    | .abstract => "abstract"
    | .sealed => "sealed"
  find_name a := by cases a <;> rfl

/-- How a member came to exist. -/
inductive MemberKind where
  /-- Written in the source. -/
  | declaration
  /-- Inherited without an override. -/
  | fakeOverride
  /-- Made for a `by` clause. -/
  | delegation
  /-- Made by the compiler. -/
  | synthesized
deriving DecidableEq, Repr

instance : Inhabited MemberKind := ⟨.declaration⟩

instance : Enumerated MemberKind where
  all := [.declaration, .fakeOverride, .delegation, .synthesized]
  name
    | .declaration => "declaration"
    | .fakeOverride => "fakeOverride"
    | .delegation => "delegation"
    | .synthesized => "synthesized"
  find_name a := by cases a <;> rfl

/-- The kinds of class. -/
inductive ClassKind where
  | ordinary
  | interface
  | enumClass
  | enumEntry
  | annotationClass
  | object
  | companionObject
deriving DecidableEq, Repr

instance : Inhabited ClassKind := ⟨.ordinary⟩

instance : Enumerated ClassKind where
  all :=
    [.ordinary, .interface, .enumClass, .enumEntry, .annotationClass, .object, .companionObject]
  name
    | .ordinary => "class"
    | .interface => "interface"
    | .enumClass => "enumClass"
    | .enumEntry => "enumEntry"
    | .annotationClass => "annotationClass"
    | .object => "object"
    | .companionObject => "companionObject"
  find_name a := by cases a <;> rfl

/-- The variance of a type parameter or of a type used as an argument. -/
inductive Variance where
  | invariant
  | contravariant
  | covariant
deriving DecidableEq, Repr

instance : Inhabited Variance := ⟨.invariant⟩

instance : Enumerated Variance where
  all := [.invariant, .contravariant, .covariant]
  name
    | .invariant => "invariant"
    | .contravariant => "in"
    | .covariant => "out"
  find_name a := by cases a <;> rfl

/-- What a synthetic class was made for. -/
inductive SyntheticFlavor where
  | regular
  | lambda
  /-- The default bodies of an interface. -/
  | defaultImpls
  /-- The tables of `when` over enum entries. -/
  | whenMappings
deriving DecidableEq, Repr

instance : Inhabited SyntheticFlavor := ⟨.regular⟩

instance : Enumerated SyntheticFlavor where
  all := [.regular, .lambda, .defaultImpls, .whenMappings]
  name
    | .regular => "regular"
    | .lambda => "lambda"
    | .defaultImpls => "defaultImpls"
    | .whenMappings => "whenMappings"
  find_name a := by cases a <;> rfl

end KotlinMetadata
