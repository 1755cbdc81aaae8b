/-
The rendering of annotations.

Whether a separator stands before an argument or element is read off the
last character written: none after an opening bracket.
-/
import KotlinMetadata.Descriptor
import KotlinMetadata.Number.Text
import KotlinMetadata.Render.Basic

namespace KotlinMetadata

/-- Where an annotation stands relative to what it annotates. -/
inductive Placement where
  /-- On the same line, before it. -/
  | inline
  /-- On a line of its own, indented like it. -/
  | block
deriving DecidableEq, Repr

/-- Numbers of source text are positional from `0.0001` to below ten to the sixteenth; of two equally
near decimals the larger one is written. -/
def sourceNumbers : Number.Layout := ⟨-4, 16, .up⟩

/-- A constant as written in source. -/
def Constant.source : Constant → String
  | .integer v => toString v.toInt
  | .long v => toString v.toInt
  | .float v => v.text sourceNumbers
  | .double v => v.text sourceNumbers
  | .string s => "\"" ++ s ++ "\""
  | .classRef name => name

/-- The class literal of a primitive type, by its letter. -/
def primitiveLiteral (letter : String) : String :=
  match letter with
  | "Z" => "Boolean::class"
  | "B" => "Byte::class"
  | "C" => "Char::class"
  | "S" => "Short::class"
  | "I" => "Int::class"
  | "F" => "Float::class"
  | "J" => "Long::class"
  | "D" => "Double::class"
  | _ => "Unit::class"

/-- The greatest number of dimensions of an array type. -/
def maxDimensions : Nat := 255

/-- A class literal within arrays. -/
def arrayLiteral (name : String) (dimensions : Nat) : String :=
  if maxDimensions < dimensions then
    name ++ "::class /* invalid array dimensions: " ++ toString dimensions ++ " */"
  else
    Text.times dimensions "Array<" ++ name ++ Text.times dimensions ">" ++ "::class"

namespace Render

/-- Writes the sign in front of an annotation. -/
def annotSign (placement : Placement) : Render Unit :=
  match placement with
  | .block => writeIndented "@"
  | .inline => write "@"

/-- Writes a comma unless one of the given brackets was written last. -/
def separateUnlessAfter (brackets : List Char) : Render Unit := do
  let last ← previousChar?
  if last.any brackets.contains then pure () else write ", "

/-! ## In the class file -/

/-- Writes the name of an element, unless it is the one that may be left out. -/
def elementName (name : Option String) : Render Unit :=
  match name with
  | none => pure ()
  | some name =>
    if name = "value" then pure ()
    else do
      write name
      write " = "

mutual
/-- Writes the name of an annotation and its elements. -/
def jvmAnnotBody : JvmAnnot → Render Unit
  | ⟨typeDescriptor, elements⟩ => do
    write (← resolve (Descriptor.className typeDescriptor) ".")
    if elements.isEmpty then pure ()
    else do
      write "("
      jvmElements elements
      write ")"
/-- Writes elements, or the members of an array. -/
def jvmElements : List Element → Render Unit
  | [] => pure ()
  | ⟨name, value⟩ :: rest => do
    separateUnlessAfter ['(', '{']
    elementName name
    elementValue value
    jvmElements rest
/-- Writes the value of an element. -/
def elementValue : ElementValue → Render Unit
  | .constant v => write v.source
  | .enumConstant typeDescriptor constantName => do
    let name ← resolve (Descriptor.className typeDescriptor) "."
    write (name ++ "." ++ constantName)
  | .classLiteral descriptor => do
    let internal :=
      if Descriptor.isPrimitive descriptor then primitiveLiteral descriptor
      else Descriptor.className descriptor
    write (← resolve internal ".")
  | .annot a => jvmAnnotBody a
  | .array values => do
    write "\x7b"
    jvmElements values
    write "\x7d"
end

/-- Writes an annotation of the class file. -/
def jvmAnnot (placement : Placement) (a : JvmAnnot) : Render Unit := do
  annotSign placement
  jvmAnnotBody a
  match placement with
  | .block => newline
  | .inline => pure ()

/-- Writes the annotations that do not only keep the compiler's books. -/
def jvmAnnots (placement : Placement) (annots : List JvmAnnot) : Render Unit :=
  each (jvmAnnot placement) (annots.filter JvmAnnot.isPrintable)

/-! ## In the metadata -/

mutual
/-- Writes the name of an annotation and its arguments. -/
def kotlinAnnotBody : KotlinAnnot → Render Unit
  | ⟨className, arguments⟩ => do
    write (← resolve className ".")
    if arguments.isEmpty then pure ()
    else do
      write "("
      annotArguments arguments
      write ")"
/-- Writes arguments. -/
def annotArguments : List AnnotArgument → Render Unit
  | [] => pure ()
  | ⟨name, value⟩ :: rest => do
    separateUnlessAfter ['(', '[']
    write name
    write " = "
    annotValue value
    annotArguments rest
/-- Writes the value of an argument. -/
def annotValue : AnnotValue → Render Unit
  | .byte v => write (toString v.toInt)
  | .char v => write v.toString
  | .short v => write (toString v.toInt)
  | .int v => write (toString v.toInt)
  | .long v => write (toString v.toInt)
  | .float v => write (v.text sourceNumbers)
  | .double v => write (v.text sourceNumbers)
  | .boolean v => write (if v then "true" else "false")
  | .ubyte v => write (toString v.toNat)
  | .ushort v => write (toString v.toNat)
  | .uint v => write (toString v.toNat)
  | .ulong v => write (toString v.toNat)
  | .string s => write ("\"" ++ s ++ "\"")
  | .classLiteral className dimensions => do
    write (arrayLiteral (← resolve className ".") dimensions.toNat)
  | .enumEntry className entryName => do
    let name ← resolve className "."
    write (name ++ "." ++ entryName)
  | .annot a => kotlinAnnotBody a
  | .array values => do
    write "["
    annotValues true values
    write "]"
/-- Writes the values of an array, from the first or a later one on. -/
def annotValues : (first : Bool) → List AnnotValue → Render Unit
  | _, [] => pure ()
  | first, value :: rest => do
    if first then pure () else write ", "
    annotValue value
    annotValues false rest
end

/-- Writes an annotation of the metadata. -/
def kotlinAnnot (placement : Placement) (a : KotlinAnnot) : Render Unit := do
  annotSign placement
  kotlinAnnotBody a
  match placement with
  | .block => newline
  | .inline => write " "

/-- Writes annotations of the metadata. -/
def kotlinAnnots (placement : Placement) (annots : List KotlinAnnot) : Render Unit :=
  each (kotlinAnnot placement) annots

/-- Writes a version requirement as an annotation. -/
def versionRequirement (placement : Placement) (v : Version) : Render Unit :=
  let text := "@SinceKotlin(\"" ++ v.text ++ "\")"
  match placement with
  | .block => writeLineIndented text
  | .inline => write (" " ++ text)

end Render

end KotlinMetadata
