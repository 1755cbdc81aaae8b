/-
The rendering of declarations: constructors, functions, properties and type
aliases with their parameters.
-/
import KotlinMetadata.Pool
import KotlinMetadata.Render.TypeUse
import KotlinMetadata.Text.CharClass

namespace KotlinMetadata

/-! ## Names made up by the compiler -/

/-- What stands between the angle brackets, where a name is in such. -/
def bracketed? (name : List Char) : Option (List Char) :=
  match name with
  | '<' :: rest => Text.dropEnding? ['>'] rest
  | _ => none

/-- The number at the end of an unnamed parameter's description, such as `anonymous parameter 1`:
the decimal digits after its last blank, where what precedes them is on one line. -/
def parameterNumber? (description : List Char) : Option (List Char) :=
  match Text.beforeLast? ' ' description, Text.afterLast? ' ' description with
  | some before, some digits =>
    if !before.contains '\n' && !digits.isEmpty && digits.all Text.isDecimalDigit then some digits
    else none
  | _, _ => none

/-- The name of a value parameter; one without a name in source is called `p` and its number. -/
def parameterName (name : String) : String :=
  let numbered :=
    match (bracketed? name.toList).bind parameterNumber? with
    | some digits => String.ofList ('p' :: digits)
    | none => name
  Text.replaceAll "<set-?>" "p0" numbered

/-- The name of a function, without the angle brackets of a special one. -/
def functionName (name : String) : String :=
  match bracketed? name.toList with
  | some inner => if inner.contains '\n' then name else String.ofList inner
  | none => name

/-! ## Members of class files -/

/-- The method that a reference means and the artifact that has it. -/
def Pool.findMethod? (pool : Pool) (artifact : Artifact) (r : MethodRef) : Option (Artifact × Method) :=
  let owner :=
    match r.owner with
    | none => some artifact
    | some name => pool.get? name
  owner.bind fun owner => (owner.findMethod? r.name r.descriptor).map (owner, ·)

/-- A method as declared in source, or as it stands if its descriptor is malformed. -/
def methodText (owner : Artifact) (m : Method) : String :=
  match Descriptor.describeMethod owner.name m.access m.name m.descriptor with
  | .ok text => text
  | .error _ => "invalid method descriptor: " ++ m.name ++ " " ++ m.descriptor

/-- A field as declared in source, or as it stands if its descriptor is malformed. -/
def fieldText (r : FieldRef) : String :=
  match Descriptor.describeField .empty r.name r.descriptor with
  | .ok text => text
  | .error _ => "invalid field descriptor: " ++ r.name ++ ":" ++ r.descriptor

/-- Whether a constructor parameter also declares a property. -/
inductive Mutability where
  | plain
  | val
  | var
deriving DecidableEq, Repr

/-- The keyword of a parameter that declares a property. -/
def Mutability.keyword : Mutability → String
  | .plain => ""
  | .val => "val "
  | .var => "var "

/-- Whether an accessor is implemented by a method. -/
def hasSignature (accessor : Option Accessor) : Bool := accessor.any (·.signature.isSome)

/-- A constructor parameter declares the property of its name if that has a setter or a getter
implemented by a method. -/
def Members.mutability (m : Members) (name : String) : Mutability :=
  match m.properties.find? (·.name = name) with
  | none => .plain
  | some p =>
    if hasSignature p.setter then .var
    else if hasSignature p.getter then .val
    else .plain

/-- The same in the content around a constructor; where nothing is declared nothing is. -/
def Content.mutability (c : Content) (name : String) : Mutability :=
  match c.members? with
  | none => .plain
  | some m => m.mutability name

namespace Render

/-! ## Parameters -/

/-- Writes a value parameter, after a comma unless it is the first. The type of a `vararg` parameter
is thrown away for the type of its elements. -/
def valueParameter (index : Nat) (p : ValueParameter) (mutability : Mutability) : Render Unit := do
  if index = 0 then pure () else write ", "
  write mutability.keyword
  write (valueParameterKeywords p.flags)
  if p.varargElementType.isSome then write "vararg " else pure ()
  write (parameterName p.name)
  write ": "
  let type ← capture do
    typeUse p.type
    onSome (fun element => do reset; typeUse element) p.varargElementType
  write type
  if p.flags.contains .hasDefaultValue then write " = /* default value */" else pure ()

/-- Writes the value parameters of a function. -/
def valueParameters (params : List ValueParameter) : Render Unit :=
  eachFrom (fun index p => valueParameter index p .plain) 0 params

/-! ## Constructors -/

/-- The annotations of a constructor that are to be printed, if it has any. -/
def constructorAnnots? (pool : Pool) (artifact : Artifact) (c : Constructor) : Option (List JvmAnnot) :=
  if c.flags.contains .hasAnnotations then
    (c.signature.bind (pool.findMethod? artifact)).bind fun (_, m) =>
      if m.annotations.any JvmAnnot.isPrintable then some m.annotations else none
  else none

/-- Writes a constructor: a secondary one on lines of its own, the primary one after the class
name, where the keyword is left out if nothing stands before it. -/
def constructor (pool : Pool) (c : Constructor) : Render Unit := do
  let frame ← current
  let secondary := c.isSecondary
  let placement : Placement := if secondary then .block else .inline
  let annots := constructorAnnots? pool frame.artifact c
  onSome (versionRequirement placement) c.versionRequirement
  onSome (fun annots => do
    let text ← capture (jvmAnnots placement annots)
    if secondary then pure () else write " "
    write text) annots
  if secondary || c.versionRequirement.isSome || annots.isSome then do
    if secondary then writeIndented "" else write " "
    write "constructor"
  else pure ()
  write "("
  eachFrom (fun index p => valueParameter index p (frame.metadata.content.mutability p.name)) 0
    c.valueParameters
  write ") "
  if secondary then writeLine "\x7b \x7d" else pure ()

/-! ## Functions -/

/-- Writes the annotations of the method that a reference means, if it is known. -/
def methodAnnots (pool : Pool) (artifact : Artifact) (r : Option MethodRef) : Render Unit :=
  onSome (fun (_, m) => jvmAnnots .block m.annotations) (r.bind (pool.findMethod? artifact))

/-- The class of functions without a result. -/
def unitClass : String := "kotlin/Unit"

/-- Writes a function. -/
def function (pool : Pool) (f : Function) : Render Unit := do
  let frame ← current
  methodAnnots pool frame.artifact f.signature
  onSome (versionRequirement .block) f.versionRequirement
  contextReceivers f.contextReceivers
  writeIndented f.keywords
  write "fun "
  declareAll f.typeParameters
  typeParameterList f.typeParameters "> "
  onSome receiverType f.receiverType
  write (functionName f.name)
  write "("
  valueParameters f.valueParameters
  write ")"
  if f.returnType.className = some unitClass then pure ()
  else do
    write ": "
    typeUse f.returnType
  writeLine " \x7b \x7d"

/-! ## Properties -/

/-- Writes a line under a property, without ending it. -/
def underLine (act : Render Unit) : Render Unit :=
  indented do
    newline
    act

/-- The constant value of a property whose backing field holds it. -/
def propertyConstant? (artifact : Artifact) (p : Property) : Option Constant :=
  if p.flags.contains .hasConstant then
    p.backingField.bind fun r => (artifact.findField? r.name r.descriptor).bind (·.constantValue)
  else none

/-- Writes a getter or setter with a comment on the method that implements it. -/
def accessor (pool : Pool) (artifact : Artifact) (keyword : String) (parameters : Render Unit)
    (a : Accessor) : Render Unit :=
  underLine do
    methodAnnots pool artifact a.signature
    writeIndented (a.keywords ++ keyword)
    parameters
    match a.signature with
    | some r =>
      onSome (fun (owner, m) => do
        write (" // " ++ keyword ++ "ter method: ")
        write (methodText owner m)) (pool.findMethod? artifact r)
    | none =>
      if a.flags.contains .default then write (" // default " ++ keyword ++ "ter") else pure ()

/-- Writes a property with its backing field, delegate and accessors. -/
def property (pool : Pool) (p : Property) : Render Unit := do
  let frame ← current
  let artifact := frame.artifact
  methodAnnots pool artifact p.annotationsMethod
  onSome (versionRequirement .block) p.versionRequirement
  contextReceivers p.contextReceivers
  writeIndented p.keywords
  declareAll p.typeParameters
  typeParameterList p.typeParameters "> "
  onSome receiverType p.receiverType
  write p.name
  write ": "
  typeUse p.type
  onSome (fun c => write (" = " ++ c.source)) (propertyConstant? artifact p)
  onSome (fun r => underLine do
    writeIndented "// backing field: "
    write (fieldText r)) p.backingField
  onSome (fun r => underLine do
    writeIndented "// Synthetic method for delegate: "
    match pool.findMethod? artifact r with
    | some (owner, m) => write (methodText owner m)
    | none => write "unknown") p.delegateMethod
  onSome (accessor pool artifact "get" (pure ())) p.getter
  onSome (accessor pool artifact "set" do
    write "("
    onSome (fun param => valueParameter 0 param .plain) p.setterParameter
    write ")") p.setter
  newline

/-! ## Type aliases -/

/-- Writes a type alias. -/
def typeAlias (a : TypeAlias) : Render Unit := do
  kotlinAnnots .block a.annotations
  onSome (versionRequirement .block) a.versionRequirement
  writeIndented ("typealias " ++ a.name)
  declareAll a.typeParameters
  typeParameterList a.typeParameters ">"
  write " = "
  typeUse a.underlyingType
  newline

/-! ## Members -/

/-- Writes a group of declarations under a comment; nothing for an empty group. -/
def declarationGroup {α : Type} (title : String) (act : α → Render Unit) (items : List α) : Render Unit :=
  if items.isEmpty then pure ()
  else do
    newline
    writeLineIndented title
    newline
    each act items

/-- Writes type aliases, then properties, then functions. -/
def members (pool : Pool) (m : Members) : Render Unit := do
  declarationGroup "// Type aliases" typeAlias m.typeAliases
  declarationGroup "// Properties" (property pool) m.allProperties
  declarationGroup "// Functions" (function pool) m.functions

end Render

end KotlinMetadata
