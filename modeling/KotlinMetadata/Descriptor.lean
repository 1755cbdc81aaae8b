/-
Type and method descriptors of the class file format, read into types and
written in source form (`[Ljava/lang/String;` is `java.lang.String[]`).

A type is any number of `[`, then the letter of a primitive or `L`, a class
name without `;`, and `;`. A method is `(`, the types of its parameters,
`)` and the type of its result.
-/
import KotlinMetadata.Flags
import KotlinMetadata.Name
import KotlinMetadata.Text.Quoted

namespace KotlinMetadata.Descriptor

/-! ## Types -/

/-- The primitive types, and the result type of a method without result. -/
inductive Primitive where
  | boolean
  | byte
  | char
  | short
  | int
  | float
  | long
  | double
  | void
deriving DecidableEq, Repr

namespace Primitive

/-- The primitives, in the order of their listing. -/
def all : List Primitive := [.boolean, .byte, .char, .short, .int, .float, .long, .double, .void]

/-- The letter of a primitive in descriptors. -/
def letter : Primitive → Char
  | .boolean => 'Z'
  | .byte => 'B'
  | .char => 'C'
  | .short => 'S'
  | .int => 'I'
  | .float => 'F'
  | .long => 'J'
  | .double => 'D'
  | .void => 'V'

/-- The keyword of a primitive in source. -/
def keyword : Primitive → String
  | .boolean => "boolean"
  | .byte => "byte"
  | .char => "char"
  | .short => "short"
  | .int => "int"
  | .float => "float"
  | .long => "long"
  | .double => "double"
  | .void => "void"

/-- The primitive of a letter. -/
def ofLetter? (c : Char) : Option Primitive := all.find? (·.letter = c)

end Primitive

/-- What a type is without its array dimensions. -/
inductive Element where
  | primitive (p : Primitive)
  /-- A class, by its internal name. -/
  | object (name : List Char)
deriving DecidableEq, Repr

/-- A type: an element and the number of array dimensions around it. -/
structure FieldType where
  dimensions : Nat
  element : Element
deriving DecidableEq, Repr

/-- The types of a method's parameters and of its result. -/
structure MethodType where
  parameters : List FieldType
  result : FieldType
deriving DecidableEq, Repr

/-- An element in source form. -/
def Element.source : Element → String
  | .primitive p => p.keyword
  | .object name => Name.toExternal (String.ofList name)

/-- A type in source form: the element and a pair of brackets for each dimension. -/
def FieldType.source (t : FieldType) : String := t.element.source ++ Text.times t.dimensions "[]"

/-- An element as a descriptor. -/
def Element.descriptor : Element → List Char
  | .primitive p => [p.letter]
  | .object name => 'L' :: name ++ [';']

/-- A type as a descriptor. -/
def FieldType.descriptor (t : FieldType) : List Char :=
  List.replicate t.dimensions '[' ++ t.element.descriptor

/-- A method as a descriptor. -/
def MethodType.descriptor (m : MethodType) : List Char :=
  '(' :: m.parameters.flatMap FieldType.descriptor ++ ')' :: m.result.descriptor

/-! ## Reading -/

/-- Where the reading of a type stops short of one. -/
inductive Stop where
  /-- The text ends inside the type. -/
  | ended
  /-- No type goes on with this character, the first of those left. -/
  | unexpected (found : Char) (left : List Char)
deriving DecidableEq, Repr

/-- Reads the class name up to its `;`, and gives what follows it. -/
def readClassName : List Char → Except Stop (List Char × List Char)
  | [] => .error .ended
  | c :: s =>
    if c = ';' then .ok ([], s)
    else
      match readClassName s with
      | .ok (name, left) => .ok (c :: name, left)
      | .error stop => .error stop

/-- Reads an element, and gives what follows it. -/
def readElement : List Char → Except Stop (Element × List Char)
  | [] => .error .ended
  | c :: s =>
    match Primitive.ofLetter? c with
    | some p => .ok (.primitive p, s)
    | none =>
      if c = 'L' then
        match readClassName s with
        | .ok (name, left) => .ok (.object name, left)
        | .error stop => .error stop
      else .error (.unexpected c (c :: s))

/-- Reads a type, and gives what follows it. -/
def readType : List Char → Except Stop (FieldType × List Char)
  | [] => .error .ended
  | c :: s =>
    if c = '[' then
      match readType s with
      | .ok (t, left) => .ok ({ t with dimensions := t.dimensions + 1 }, left)
      | .error stop => .error stop
    else
      match readElement (c :: s) with
      | .ok (e, left) => .ok (⟨0, e⟩, left)
      | .error stop => .error stop

theorem length_readClassName {s name left : List Char} (h : readClassName s = .ok (name, left)) :
    left.length < s.length := by
  induction s generalizing name with
  | nil => simp [readClassName] at h
  | cons c s ih =>
    simp only [readClassName] at h
    split at h
    · cases h; simp
    · split at h
      · rename_i heq
        cases h
        have := ih heq
        simp only [List.length_cons]; omega
      · cases h

theorem length_readElement {s left : List Char} {e : Element} (h : readElement s = .ok (e, left)) :
    left.length < s.length := by
  cases s with
  | nil => simp [readElement] at h
  | cons c s =>
    simp only [readElement] at h
    split at h
    · cases h; simp
    · split at h
      · split at h
        · rename_i heq
          cases h
          have := length_readClassName heq
          simp only [List.length_cons]; omega
        · cases h
      · cases h

theorem length_readType {s left : List Char} {t : FieldType} (h : readType s = .ok (t, left)) :
    left.length < s.length := by
  induction s generalizing t with
  | nil => simp [readType] at h
  | cons c s ih =>
    simp only [readType] at h
    split at h
    · split at h
      · rename_i heq
        cases h
        have := ih heq
        simp only [List.length_cons]; omega
      · cases h
    · split at h
      · rename_i heq
        cases h
        exact length_readElement heq
      · cases h

/-- How the reading of a parameter list ends. -/
inductive ParameterStop where
  /-- The text ends between two types, before the `)`. -/
  | unclosed
  /-- A type of the list cannot be read. -/
  | inType (stop : Stop)
deriving DecidableEq, Repr

/-- Reads types up to `)`, and gives what follows it. -/
def readParameters (s : List Char) : Except ParameterStop (List FieldType × List Char) :=
  match s with
  | [] => .error .unclosed
  | c :: rest =>
    if c = ')' then .ok ([], rest)
    else
      match _h : readType (c :: rest) with
      | .error stop => .error (.inType stop)
      | .ok (t, left) =>
        match readParameters left with
        | .ok (ts, left) => .ok (t :: ts, left)
        | .error stop => .error stop
termination_by s.length
decreasing_by exact length_readType _h

/-! ## Descriptors -/

/-- Why a text is not a descriptor. -/
inductive Malformed where
  | empty
  /-- No descriptor goes on so after the given number of bytes. -/
  | unexpected (descriptor : String) (offset : Nat) (found : Char)
  /-- The text ends inside a type or before one. -/
  | unterminated (descriptor : String)
  /-- More follows a complete descriptor. -/
  | trailing (descriptor : String)
  /-- The parameter list of a method is missing or not closed. -/
  | noParameters (descriptor : String)
deriving DecidableEq, Repr

/-- The message for a malformed descriptor. -/
def Malformed.message : Malformed → String
  | .empty => "empty type descriptor"
  | .unexpected d offset found =>
    "unexpected character " ++ Text.quotedSingle found ++ " at offset " ++ toString offset
      ++ " in descriptor " ++ Text.quoted d
  | .unterminated d => "unterminated class type in descriptor " ++ Text.quoted d
  | .trailing d => "trailing data after type in descriptor " ++ Text.quoted d
  | .noParameters d => "method descriptor " ++ Text.quoted d ++ " has no parameter list"

/-- The number of bytes of the characters in UTF-8. -/
def byteCount (s : List Char) : Nat := s.foldr (fun c n => c.utf8Size + n) 0

/-- Why a descriptor in which the reading of a type stops is malformed. -/
def Stop.malformed (d : String) : Stop → Malformed
  | .ended => if d.isEmpty then .empty else .unterminated d
  | .unexpected found left => .unexpected d (byteCount d.toList - byteCount left) found

/-- The type that a descriptor is. -/
def parseType (d : String) : Except Malformed FieldType :=
  match readType d.toList with
  | .ok (t, []) => .ok t
  | .ok (_, _ :: _) => .error (.trailing d)
  | .error stop => .error (stop.malformed d)

/-- The method type that a descriptor is. -/
def parseMethod (d : String) : Except Malformed MethodType :=
  match d.toList with
  | '(' :: s =>
    match readParameters s with
    | .error .unclosed => .error (.noParameters d)
    | .error (.inType stop) => .error (stop.malformed d)
    | .ok (parameters, left) =>
      match readType left with
      | .ok (result, []) => .ok ⟨parameters, result⟩
      | .ok (_, _ :: _) => .error (.trailing d)
      | .error stop => .error (stop.malformed d)
  | _ => .error (.noParameters d)

/-! ## Descriptions of members -/

/-- Whether a text is the letter of a primitive. -/
def isPrimitive (d : String) : Bool := Primitive.all.any fun p => d.toList == [p.letter]

/-- The class a descriptor names: what stands between its first `L` and a `;` at its end. A text
without either is its own answer. -/
def className (d : String) : String :=
  match Text.dropEnding? [';'] d.toList with
  | none => d
  | some body =>
    match body.dropWhile (· ≠ 'L') with
    | [] => d
    | _ :: name => String.ofList name

/-- The access flags that have a keyword in source, in the order they are written. -/
def accessKeywords : List (AccessFlag × String) :=
  [(.isPublic, "public "), (.isPrivate, "private "), (.isProtected, "protected "),
   (.isStatic, "static "), (.isFinal, "final "), (.isSynchronized, "synchronized "),
   (.isNative, "native "), (.isAbstract, "abstract "), (.isStrict, "strictfp ")]

/-- The access keywords of a member, each followed by a space. -/
def accessText (access : FlagSet AccessFlag) : String :=
  String.join ((accessKeywords.filter fun (flag, _) => access.contains flag).map (·.2))

/-- A field as declared in source. -/
def describeField (access : FlagSet AccessFlag) (name descriptor : String) :
    Except Malformed String :=
  (parseType descriptor).map fun t => accessText access ++ t.source ++ " " ++ name

/-- A method as declared in source; a constructor goes by the short name of its class. -/
def describeMethod (owner : String) (access : FlagSet AccessFlag) (name descriptor : String) :
    Except Malformed String :=
  (parseMethod descriptor).map fun m =>
    let head :=
      if name = "<init>" then Name.shortExternal (Name.toExternal owner)
      else m.result.source ++ " " ++ name
    accessText access ++ head ++ "(" ++ ", ".intercalate (m.parameters.map FieldType.source) ++ ")"

end KotlinMetadata.Descriptor
