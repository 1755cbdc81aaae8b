/-
The rendering of types. A type whose class name begins with
`kotlin/Function` is a function type; the digits after that are the number
of its parameters, and the last argument is the result.
-/
import KotlinMetadata.Keyword
import KotlinMetadata.Render.Annotations

namespace KotlinMetadata

/-! ## Function types -/

/-- What the class names of function types begin with. -/
def functionTypeStem : String := "kotlin/Function"

/-- Whether a type is a function type. -/
def TypeUse.isFunction (t : TypeUse) : Bool := t.className.any (Text.beginsWith functionTypeStem)

/-- The natural number that decimal digits denote. -/
def digitsValue (digits : List Char) : Nat :=
  digits.foldl (fun n c => n * 10 + (c.toNat - '0'.toNat)) 0

/-- The number of parameters in the class name of a function type. A name without one, or with one
beyond 64 bits, counts as none. -/
def functionArity (className : String) : Nat :=
  match functionTypeStem.toList.isPrefixOf? className.toList with
  | none => 0
  | some digits =>
    if !digits.isEmpty && digits.all Char.isDigit && digitsValue digits < UInt64.size then
      digitsValue digits
    else 0

/-! ## Annotations of types that are part of the type -/

/-- The annotation that marks the first parameter of a function type as its receiver. -/
def extensionMark : String := "kotlin/ExtensionFunctionType"

/-- The annotation that names a parameter of a function type. -/
def parameterNameMark : String := "kotlin/ParameterName"

/-- Whether a type is marked as an extension function type. -/
def isExtension (annots : List KotlinAnnot) : Bool := annots.any (·.className = extensionMark)

/-- The name an annotation gives to a parameter. -/
def KotlinAnnot.parameterName? (a : KotlinAnnot) : Option String :=
  if a.className = parameterNameMark then
    match a.argument? "name" with
    | some (.string name) => some name
    | _ => none
  else none

/-- The name that a type gives to the parameter it is the type of, by the last annotation that
has one. -/
def parameterName? (annots : List KotlinAnnot) : Option String :=
  (annots.filterMap KotlinAnnot.parameterName?).getLast?

/-- The annotations that are printed as such. -/
def plainAnnots (annots : List KotlinAnnot) : List KotlinAnnot :=
  annots.filter fun a => a.className ≠ extensionMark && a.className ≠ parameterNameMark

namespace Render

/-- Writes what stands in front of a type: annotations, keyword, parameter name, variance. -/
def typeFront (annots : List KotlinAnnot) (flags : FlagSet TypeFlag) (variance : Variance) :
    Render Unit := do
  kotlinAnnots .inline (plainAnnots annots)
  write (typeKeywords flags)
  onSome (fun name => write (name ++ ": ")) (parameterName? annots)
  write variance.keyword

/-- Writes the name of a type: of its type parameter, else of its alias, else of its class. -/
def typeName (parameterId : Option UInt32) (aliasName className : Option String) : Render Unit := do
  match parameterId with
  | some id => write (← typeParameterName id)
  | none =>
    match aliasName.or className with
    | some name => write (← resolve name ".")
    | none => write invalidClassName

/-- What stands before the argument of a function type at an index. -/
def functionSeparator (arity : Nat) (extension : Bool) (index : Nat) : String :=
  let opening :=
    if index = 0 && !extension then "("
    else if index = 1 && extension then ".("
    else ""
  let separator :=
    if index = arity then ") -> "
    else if (0 < index && !extension) || (1 < index && extension) then ", "
    else ""
  opening ++ separator

mutual
/-- Writes a type. -/
def typeUse : TypeUse → Render Unit
  | ⟨className, aliasName, parameterId, flags, variance, arguments, annots⟩ => do
    typeFront annots flags variance
    match className.filter (Text.beginsWith functionTypeStem) with
    | some name => do
      if flags.contains .nullable then write "(" else pure ()
      functionArguments (functionArity name) (isExtension annots) 0 arguments
      if flags.contains .nullable then write ")?" else pure ()
    | none => do
      typeName parameterId aliasName className
      if arguments.isEmpty then pure ()
      else do
        write "<"
        typeArguments true arguments
        write ">"
      if flags.contains .nullable then write "?" else pure ()
    if flags.contains .definitelyNonNull then write " & Any" else pure ()
/-- Writes the arguments of a type, from the first or a later one on. -/
def typeArguments : (first : Bool) → List TypeArgument → Render Unit
  | _, [] => pure ()
  | first, argument :: rest => do
    if first then pure () else write ", "
    typeArgument argument
    typeArguments false rest
/-- Writes the parameters and the result of a function type, from an index on. -/
def functionArguments (arity : Nat) (extension : Bool) : (index : Nat) → List TypeArgument →
    Render Unit
  | _, [] => pure ()
  | index, argument :: rest => do
    write (functionSeparator arity extension index)
    typeArgument argument
    functionArguments arity extension (index + 1) rest
/-- Writes an argument. -/
def typeArgument : TypeArgument → Render Unit
  | .star => write "*"
  | .type t => typeUse t
end

/-- Writes a receiver type and the point after it; a function type stands in parentheses. -/
def receiverType (t : TypeUse) : Render Unit := do
  if t.isFunction then write "(" else pure ()
  typeUse t
  write (if t.isFunction then ")." else ".")

/-- Writes context receivers on a line of their own. -/
def contextReceivers (receivers : List TypeUse) : Render Unit :=
  if receivers.isEmpty then pure ()
  else do
    writeIndented "context("
    separated ", " typeUse receivers
    writeLine ")"

/-- Writes a type parameter with its bounds. -/
def typeParameter (p : TypeParameter) : Render Unit := do
  write p.variance.keyword
  write (typeParameterKeywords p.flags)
  kotlinAnnots .inline p.annotations
  write p.name
  enclosed " : " ", " "" typeUse p.upperBounds

/-- Writes a list of type parameters and a closing text; nothing for an empty list. -/
def typeParameterList (params : List TypeParameter) (closing : String) : Render Unit :=
  enclosed "<" ", " closing typeParameter params

/-- Declares type parameters. -/
def declareAll (params : List TypeParameter) : Render Unit := each declare params

end Render

end KotlinMetadata
