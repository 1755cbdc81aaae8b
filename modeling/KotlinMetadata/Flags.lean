/-
The flags of metadata declarations and of class file members. A declaration
carries any set of the flags of its kind.
-/
import KotlinMetadata.FlagSet

namespace KotlinMetadata

/-- The flags of a class. -/
inductive ClassFlag where
  | inner
  | data
  | value
  /-- A functional interface. -/
  | functional
  | expect
  | external
  | compiledInCompatibilityMode
  | hasMethodBodiesInInterface
deriving DecidableEq, Repr

instance : Flag ClassFlag where
  all :=
    [.inner, .data, .value, .functional, .expect, .external, .compiledInCompatibilityMode,
     .hasMethodBodiesInInterface]
  name
    | .inner => "inner"
    | .data => "data"
    | .value => "value"
    | .functional => "fun"
    | .expect => "expect"
    | .external => "external"
    | .compiledInCompatibilityMode => "compiledInCompatibilityMode"
    | .hasMethodBodiesInInterface => "hasMethodBodiesInInterface"
  find_name a := by cases a <;> rfl
  position
    | .inner => 0
    | .data => 1
    | .value => 2
    | .functional => 3
    | .expect => 4
    | .external => 5
    | .compiledInCompatibilityMode => 6
    | .hasMethodBodiesInInterface => 7
  position_lt f := by cases f <;> decide
  position_injective f g := by cases f <;> cases g <;> decide

/-- The flags of a constructor. -/
inductive ConstructorFlag where
  | secondary
  | hasAnnotations
deriving DecidableEq, Repr

instance : Flag ConstructorFlag where
  all := [.secondary, .hasAnnotations]
  name
    | .secondary => "secondary"
    | .hasAnnotations => "hasAnnotations"
  find_name a := by cases a <;> rfl
  position
    | .secondary => 0
    | .hasAnnotations => 1
  position_lt f := by cases f <;> decide
  position_injective f g := by cases f <;> cases g <;> decide

/-- The flags of a function. -/
inductive FunctionFlag where
  | inline
  | infixCall
  | operator
  | tailrec
  | external
  | suspend
  | expect
deriving DecidableEq, Repr

instance : Flag FunctionFlag where
  all := [.inline, .infixCall, .operator, .tailrec, .external, .suspend, .expect]
  name
    | .inline => "inline"
    | .infixCall => "infix"
    | .operator => "operator"
    | .tailrec => "tailrec"
    | .external => "external"
    | .suspend => "suspend"
    | .expect => "expect"
  find_name a := by cases a <;> rfl
  position
    | .inline => 0
    | .infixCall => 1
    | .operator => 2
    | .tailrec => 3
    | .external => 4
    | .suspend => 5
    | .expect => 6
  position_lt f := by cases f <;> decide
  position_injective f g := by cases f <;> cases g <;> decide

/-- The flags of a property. -/
inductive PropertyFlag where
  /-- The property can be assigned. -/
  | var
  | const
  | lateinit
  | external
  | delegated
  | expect
  | movedFromInterfaceCompanion
  /-- The backing field holds the value. -/
  | hasConstant
deriving DecidableEq, Repr

instance : Flag PropertyFlag where
  all :=
    [.var, .const, .lateinit, .external, .delegated, .expect, .movedFromInterfaceCompanion,
     .hasConstant]
  name
    | .var => "var"
    | .const => "const"
    | .lateinit => "lateinit"
    | .external => "external"
    | .delegated => "delegated"
    | .expect => "expect"
    | .movedFromInterfaceCompanion => "movedFromInterfaceCompanion"
    | .hasConstant => "hasConstant"
  find_name a := by cases a <;> rfl
  position
    | .var => 0
    | .const => 1
    | .lateinit => 2
    | .external => 3
    | .delegated => 4
    | .expect => 5
    | .movedFromInterfaceCompanion => 6
    | .hasConstant => 7
  position_lt f := by cases f <;> decide
  position_injective f g := by cases f <;> cases g <;> decide

/-- The flags of a getter or setter. -/
inductive AccessorFlag where
  | external
  | inline
  /-- The accessor has no body of its own. -/
  | default
deriving DecidableEq, Repr

instance : Flag AccessorFlag where
  all := [.external, .inline, .default]
  name
    | .external => "external"
    | .inline => "inline"
    | .default => "default"
  find_name a := by cases a <;> rfl
  position
    | .external => 0
    | .inline => 1
    | .default => 2
  position_lt f := by cases f <;> decide
  position_injective f g := by cases f <;> cases g <;> decide

/-- The flags of a type. -/
inductive TypeFlag where
  | nullable
  | suspend
  | definitelyNonNull
deriving DecidableEq, Repr

instance : Flag TypeFlag where
  all := [.nullable, .suspend, .definitelyNonNull]
  name
    | .nullable => "nullable"
    | .suspend => "suspend"
    | .definitelyNonNull => "definitelyNonNull"
  find_name a := by cases a <;> rfl
  position
    | .nullable => 0
    | .suspend => 1
    | .definitelyNonNull => 2
  position_lt f := by cases f <;> decide
  position_injective f g := by cases f <;> cases g <;> decide

/-- The flags of a type parameter. -/
inductive TypeParameterFlag where
  | reified
deriving DecidableEq, Repr

instance : Flag TypeParameterFlag where
  all := [.reified]
  name
    | .reified => "reified"
  find_name a := by cases a <;> rfl
  position
    | .reified => 0
  position_lt f := by cases f <;> decide
  position_injective f g := by cases f <;> cases g <;> decide

/-- The flags of a value parameter. -/
inductive ValueParameterFlag where
  | hasDefaultValue
  | crossinline
  | noinline
deriving DecidableEq, Repr

instance : Flag ValueParameterFlag where
  all := [.hasDefaultValue, .crossinline, .noinline]
  name
    | .hasDefaultValue => "hasDefaultValue"
    | .crossinline => "crossinline"
    | .noinline => "noinline"
  find_name a := by cases a <;> rfl
  position
    | .hasDefaultValue => 0
    | .crossinline => 1
    | .noinline => 2
  position_lt f := by cases f <;> decide
  position_injective f g := by cases f <;> cases g <;> decide

/-- The access flags of the class file format, at the bits that format gives them. -/
inductive AccessFlag where
  | isPublic
  | isPrivate
  | isProtected
  | isStatic
  | isFinal
  | isSynchronized
  | isBridge
  | isVarargs
  | isNative
  | isAbstract
  | isStrict
  | isSynthetic
deriving DecidableEq, Repr

instance : Flag AccessFlag where
  all :=
    [.isPublic, .isPrivate, .isProtected, .isStatic, .isFinal, .isSynchronized, .isBridge,
     .isVarargs, .isNative, .isAbstract, .isStrict, .isSynthetic]
  name
    | .isPublic => "public"
    | .isPrivate => "private"
    | .isProtected => "protected"
    | .isStatic => "static"
    | .isFinal => "final"
    | .isSynchronized => "synchronized"
    | .isBridge => "bridge"
    | .isVarargs => "varargs"
    | .isNative => "native"
    | .isAbstract => "abstract"
    | .isStrict => "strict"
    | .isSynthetic => "synthetic"
  find_name a := by cases a <;> rfl
  position
    | .isPublic => 0
    | .isPrivate => 1
    | .isProtected => 2
    | .isStatic => 3
    | .isFinal => 4
    | .isSynchronized => 5
    | .isBridge => 6
    | .isVarargs => 7
    | .isNative => 8
    | .isAbstract => 10
    | .isStrict => 11
    | .isSynthetic => 12
  position_lt f := by cases f <;> decide
  position_injective f g := by cases f <;> cases g <;> decide

end KotlinMetadata
