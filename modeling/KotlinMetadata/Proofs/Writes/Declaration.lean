/-
The derivations of the renderers of annotations, types and declarations.
None of them takes a step. A separator is chosen by the last character
written only behind a bracket that the same renderer wrote.
-/
import KotlinMetadata.Proofs.Writes.Basic

namespace KotlinMetadata.Render.Writes

variable {inside : Frame → Render Unit} {b : Bool}

/-! ## Annotations -/

theorem annotSign (placement : Placement) : Writes inside b [] (annotSign placement) := by
  cases placement with
  | inline => exact .write "@"
  | block => exact .writeIndented "@"

theorem elementName (name : Option String) : Writes inside b [] (elementName name) := by
  cases name with
  | none => exact .pure ()
  | some name =>
    refine .ite (.pure ()) ?_
    refine .seq (.write name) fun _ => ?_
    exact .write " = "

mutual
theorem jvmAnnotBody (b : Bool) : ∀ a : JvmAnnot, Writes inside b [] (jvmAnnotBody a)
  | ⟨typeDescriptor, elements⟩ => by
    rw [Render.jvmAnnotBody]
    refine .seq (.resolve _ _) fun name => ?_
    refine .seq (.write name) fun _ => ?_
    refine .ite (.pure ()) ?_
    exact .opened (by decide) (.seq (jvmElements elements) fun _ => .write ")")
theorem jvmElements : ∀ elements : List Element, Writes inside true [] (jvmElements elements)
  | [] => by
    rw [Render.jvmElements]
    exact .pure ()
  | ⟨name, value⟩ :: rest => by
    rw [Render.jvmElements]
    refine .seq (.separate _) fun _ => ?_
    refine .seq (elementName name) fun _ => ?_
    refine .seq (elementValue true value) fun _ => ?_
    exact jvmElements rest
theorem elementValue (b : Bool) : ∀ value : ElementValue, Writes inside b [] (elementValue value)
  | .constant v => by
    rw [Render.elementValue]
    exact .write _
  | .enumConstant typeDescriptor constantName => by
    rw [Render.elementValue]
    refine .seq (.resolve _ _) fun _ => ?_
    exact .write _
  | .classLiteral descriptor => by
    rw [Render.elementValue]
    refine .seq (.resolve _ _) fun _ => ?_
    exact .write _
  | .annot a => by
    rw [Render.elementValue]
    exact jvmAnnotBody b a
  | .array values => by
    rw [Render.elementValue]
    refine .opened (by decide) ?_
    refine .seq (jvmElements values) fun _ => ?_
    exact .write _
end

theorem jvmAnnot (placement : Placement) (a : JvmAnnot) : Writes inside b [] (jvmAnnot placement a) := by
  refine .seq (annotSign placement) fun _ => ?_
  refine .seq (jvmAnnotBody b a) fun _ => ?_
  cases placement with
  | inline => exact .pure ()
  | block => exact .newline

theorem jvmAnnots (placement : Placement) (annots : List JvmAnnot) :
    Writes inside b [] (jvmAnnots placement annots) := .each (jvmAnnot placement) _

mutual
theorem kotlinAnnotBody (b : Bool) : ∀ a : KotlinAnnot, Writes inside b [] (kotlinAnnotBody a)
  | ⟨className, arguments⟩ => by
    rw [Render.kotlinAnnotBody]
    refine .seq (.resolve _ _) fun name => ?_
    refine .seq (.write name) fun _ => ?_
    refine .ite (.pure ()) ?_
    exact .opened (by decide) (.seq (annotArguments arguments) fun _ => .write ")")
theorem annotArguments : ∀ arguments : List AnnotArgument, Writes inside true [] (annotArguments arguments)
  | [] => by
    rw [Render.annotArguments]
    exact .pure ()
  | ⟨name, value⟩ :: rest => by
    rw [Render.annotArguments]
    refine .seq (.separate _) fun _ => ?_
    refine .seq (.write name) fun _ => ?_
    refine .seq (.write " = ") fun _ => ?_
    refine .seq (annotValue true value) fun _ => ?_
    exact annotArguments rest
theorem annotValue (b : Bool) : ∀ value : AnnotValue, Writes inside b [] (annotValue value)
  | .byte _ | .char _ | .short _ | .int _ | .long _ | .float _ | .double _ | .boolean _ | .ubyte _
  | .ushort _ | .uint _ | .ulong _ | .string _ => by
    rw [Render.annotValue]
    exact .write _
  | .classLiteral className dimensions => by
    rw [Render.annotValue]
    refine .seq (.resolve _ _) fun _ => ?_
    exact .write _
  | .enumEntry className entryName => by
    rw [Render.annotValue]
    refine .seq (.resolve _ _) fun _ => ?_
    exact .write _
  | .annot a => by
    rw [Render.annotValue]
    exact kotlinAnnotBody b a
  | .array values => by
    rw [Render.annotValue]
    refine .seq (.write "[") fun _ => ?_
    refine .seq (annotValues b true values) fun _ => ?_
    exact .write "]"
theorem annotValues (b : Bool) : ∀ (first : Bool) (values : List AnnotValue),
    Writes inside b [] (annotValues first values)
  | _, [] => by
    rw [Render.annotValues]
    exact .pure ()
  | first, value :: rest => by
    rw [Render.annotValues]
    have htail := Writes.seq (annotValue b value) fun _ => annotValues b false rest
    refine .ite htail ?_
    refine .seq (.write ", ") fun _ => ?_
    exact htail
end

theorem kotlinAnnot (placement : Placement) (a : KotlinAnnot) :
    Writes inside b [] (kotlinAnnot placement a) := by
  refine .seq (annotSign placement) fun _ => ?_
  refine .seq (kotlinAnnotBody b a) fun _ => ?_
  cases placement with
  | inline => exact .write " "
  | block => exact .newline

theorem kotlinAnnots (placement : Placement) (annots : List KotlinAnnot) :
    Writes inside b [] (kotlinAnnots placement annots) := .each (kotlinAnnot placement) annots

theorem versionRequirement (placement : Placement) (v : Version) :
    Writes inside b [] (versionRequirement placement v) := by
  cases placement with
  | inline => exact .write _
  | block => exact .writeLineIndented _

/-! ## Types -/

theorem typeFront (annots : List KotlinAnnot) (flags : FlagSet TypeFlag) (variance : Variance) :
    Writes inside b [] (typeFront annots flags variance) := by
  refine .seq (kotlinAnnots .inline _) fun _ => ?_
  refine .seq (.write _) fun _ => ?_
  refine .seq (.onSome fun name => .write _) fun _ => ?_
  exact .write _

theorem typeName (parameterId : Option UInt32) (aliasName className : Option String) :
    Writes inside b [] (typeName parameterId aliasName className) := by
  unfold Render.typeName
  cases parameterId with
  | some id =>
    refine .seq (.typeParameterName id) fun name => ?_
    exact .write name
  | none =>
    cases aliasName.or className with
    | some name =>
      refine .seq (.resolve name ".") fun text => ?_
      exact .write text
    | none => exact .write _

mutual
theorem typeUse (b : Bool) : ∀ t : TypeUse, Writes inside b [] (typeUse t)
  | ⟨className, aliasName, parameterId, flags, variance, arguments, annots⟩ => by
    rw [Render.typeUse]
    refine .seq (typeFront annots flags variance) fun _ => ?_
    extract_lets tail mark
    have htail : ∀ u, Writes inside b [] (tail u) := fun _ => .ite (.write " & Any") (.pure ())
    have hmark : ∀ u, Writes inside b [] (mark u) := by
      intro u
      refine .ite ?_ (htail ())
      exact .seq (.write "?") htail
    split
    next name =>
      extract_lets parameters
      have hparameters : ∀ u, Writes inside b [] (parameters u) := by
        intro u
        refine .seq (functionArguments b _ _ 0 arguments) fun _ => ?_
        refine .ite ?_ (htail ())
        exact .seq (.write ")?") htail
      refine .ite ?_ (hparameters ())
      exact .seq (.write "(") hparameters
    next =>
      refine .seq (typeName parameterId aliasName className) fun _ => ?_
      refine .ite (hmark ()) ?_
      refine .seq (.write "<") fun _ => ?_
      refine .seq (typeArguments b true arguments) fun _ => ?_
      exact .seq (.write ">") hmark
theorem typeArguments (b : Bool) : ∀ (first : Bool) (arguments : List TypeArgument),
    Writes inside b [] (typeArguments first arguments)
  | _, [] => by
    rw [Render.typeArguments]
    exact .pure ()
  | first, argument :: rest => by
    rw [Render.typeArguments]
    have htail := Writes.seq (typeArgument b argument) fun _ => typeArguments b false rest
    refine .ite htail ?_
    refine .seq (.write ", ") fun _ => ?_
    exact htail
theorem functionArguments (b : Bool) (arity : Nat) (extension : Bool) :
    ∀ (index : Nat) (arguments : List TypeArgument),
      Writes inside b [] (functionArguments arity extension index arguments)
  | _, [] => by
    rw [Render.functionArguments]
    exact .pure ()
  | index, argument :: rest => by
    rw [Render.functionArguments]
    refine .seq (.write _) fun _ => ?_
    refine .seq (typeArgument b argument) fun _ => ?_
    exact functionArguments b arity extension (index + 1) rest
theorem typeArgument (b : Bool) : ∀ argument : TypeArgument, Writes inside b [] (typeArgument argument)
  | .star => by
    rw [Render.typeArgument]
    exact .write "*"
  | .type t => by
    rw [Render.typeArgument]
    exact typeUse b t
end

theorem receiverType (t : TypeUse) : Writes inside b [] (receiverType t) := by
  unfold Render.receiverType
  extract_lets tail
  have htail : ∀ u, Writes inside b [] (tail u) := by
    intro u
    refine .seq (typeUse b t) fun _ => ?_
    exact .write _
  refine .ite ?_ (htail ())
  exact .seq (.write "(") htail

theorem contextReceivers (receivers : List TypeUse) : Writes inside b [] (contextReceivers receivers) := by
  unfold Render.contextReceivers
  refine .ite (.pure ()) ?_
  refine .seq (.writeIndented "context(") fun _ => ?_
  refine .seq (.separated (typeUse b) receivers) fun _ => ?_
  exact .writeLine ")"

theorem typeParameter (p : TypeParameter) : Writes inside b [] (typeParameter p) := by
  refine .seq (.write _) fun _ => ?_
  refine .seq (.write _) fun _ => ?_
  refine .seq (kotlinAnnots .inline _) fun _ => ?_
  refine .seq (.write p.name) fun _ => ?_
  exact .enclosed (typeUse b) p.upperBounds

theorem typeParameterList (params : List TypeParameter) (closing : String) :
    Writes inside b [] (typeParameterList params closing) := .enclosed typeParameter params

theorem declareAll (params : List TypeParameter) : Writes inside b [] (declareAll params) :=
  .each .declare params

/-! ## Parameters -/

theorem valueParameter (index : Nat) (p : ValueParameter) (mutability : Mutability) :
    Writes inside b [] (valueParameter index p mutability) := by
  unfold Render.valueParameter
  extract_lets name front
  have htype : Writes inside b [] (Render.capture do
      Render.typeUse p.type
      Render.onSome (fun element => do reset; Render.typeUse element) p.varargElementType) := by
    cases p.varargElementType with
    | none =>
      refine .capture ?_
      refine .seq (typeUse false p.type) fun _ => ?_
      exact .pure ()
    | some element => exact .redone (typeUse false p.type) (typeUse false element)
  have hname : ∀ u, Writes inside b [] (name u) := by
    intro u
    refine .seq (.write _) fun _ => ?_
    refine .seq (.write ": ") fun _ => ?_
    refine .seq htype fun type => ?_
    refine .seq (.write type) fun _ => ?_
    exact .ite (.write _) (.pure ())
  have hfront : ∀ u, Writes inside b [] (front u) := by
    intro u
    refine .seq (.write _) fun _ => ?_
    refine .seq (.write _) fun _ => ?_
    refine .ite ?_ (hname ())
    exact .seq (.write "vararg ") hname
  refine .ite (hfront ()) ?_
  exact .seq (.write ", ") hfront

theorem valueParameters (params : List ValueParameter) : Writes inside b [] (valueParameters params) :=
  .eachFrom (fun index p => valueParameter index p .plain) 0 params

/-! ## Declarations -/

theorem constructor (pool : Pool) (c : Constructor) : Writes inside b [] (constructor pool c) := by
  unfold Render.constructor
  refine .seq .current fun frame => ?_
  extract_lets secondary placement annots parameters keyword
  have hparameters : ∀ u, Writes inside b [] (parameters u) := by
    intro u
    refine .seq (.write "(") fun _ => ?_
    refine .seq (.eachFrom (fun index p => valueParameter index p _) 0 _) fun _ => ?_
    refine .seq (.write ") ") fun _ => ?_
    exact .ite (.writeLine _) (.pure ())
  have hkeyword : ∀ u, Writes inside b [] (keyword u) := fun _ => .seq (.write "constructor") hparameters
  refine .seq (.onSome (versionRequirement placement)) fun _ => ?_
  refine .seq (.onSome fun annots => ?_) fun _ => ?_
  · refine .seq (.capture (jvmAnnots placement annots)) fun text => ?_
    refine .ite (.write text) ?_
    refine .seq (.write " ") fun _ => ?_
    exact .write text
  · refine .ite (.ite ?_ ?_) (hparameters ())
    · exact .seq (.writeIndented "") hkeyword
    · exact .seq (.write " ") hkeyword

theorem methodAnnots (pool : Pool) (artifact : Artifact) (r : Option MethodRef) :
    Writes inside b [] (methodAnnots pool artifact r) := .onSome fun (_, m) => jvmAnnots .block m.annotations

theorem function (pool : Pool) (f : Function) : Writes inside b [] (function pool f) := by
  unfold Render.function
  refine .seq .current fun frame => ?_
  refine .seq (methodAnnots pool _ _) fun _ => ?_
  refine .seq (.onSome (versionRequirement .block)) fun _ => ?_
  refine .seq (contextReceivers _) fun _ => ?_
  refine .seq (.writeIndented _) fun _ => ?_
  refine .seq (.write "fun ") fun _ => ?_
  refine .seq (declareAll _) fun _ => ?_
  refine .seq (typeParameterList _ _) fun _ => ?_
  refine .seq (.onSome receiverType) fun _ => ?_
  refine .seq (.write _) fun _ => ?_
  refine .seq (.write "(") fun _ => ?_
  refine .seq (valueParameters _) fun _ => ?_
  refine .seq (.write ")") fun _ => ?_
  refine .ite (.writeLine _) ?_
  refine .seq (.write ": ") fun _ => ?_
  refine .seq (typeUse b _) fun _ => ?_
  exact .writeLine _

theorem underLine {act : Render Unit} (h : Writes inside b [] act) : Writes inside b [] (underLine act) :=
  .indented (.seq .newline fun _ => h)

/-- A comment on a line under a property. -/
theorem commentLine (text more : String) : Writes inside b [] (Render.underLine do
    Render.writeIndented text
    Render.write more) := by
  refine underLine ?_
  refine .seq (.writeIndented text) fun _ => ?_
  exact .write more

/-- The parameter of a setter in its parentheses. -/
theorem setterParameter (param : Option ValueParameter) : Writes inside b [] (do
    Render.write "("
    Render.onSome (fun param => Render.valueParameter 0 param .plain) param
    Render.write ")") := by
  refine .seq (.write "(") fun _ => ?_
  refine .seq (.onSome fun param => valueParameter 0 param .plain) fun _ => ?_
  exact .write ")"

theorem accessor (pool : Pool) (artifact : Artifact) (keyword : String) {parameters : Render Unit}
    (h : Writes inside b [] parameters) (a : Accessor) :
    Writes inside b [] (accessor pool artifact keyword parameters a) := by
  refine underLine ?_
  refine .seq (methodAnnots pool artifact _) fun _ => ?_
  refine .seq (.writeIndented _) fun _ => ?_
  refine .seq h fun _ => ?_
  split
  · refine .onSome fun (owner, m) => ?_
    refine .seq (.write _) fun _ => ?_
    exact .write _
  · exact .ite (.write _) (.pure ())

theorem property (pool : Pool) (p : Property) : Writes inside b [] (property pool p) := by
  unfold Render.property
  refine .seq .current fun frame => ?_
  extract_lets artifact
  refine .seq (methodAnnots pool artifact _) fun _ => ?_
  refine .seq (.onSome (versionRequirement .block)) fun _ => ?_
  refine .seq (contextReceivers _) fun _ => ?_
  refine .seq (.writeIndented _) fun _ => ?_
  refine .seq (declareAll _) fun _ => ?_
  refine .seq (typeParameterList _ _) fun _ => ?_
  refine .seq (.onSome receiverType) fun _ => ?_
  refine .seq (.write _) fun _ => ?_
  refine .seq (.write ": ") fun _ => ?_
  refine .seq (typeUse b _) fun _ => ?_
  refine .seq (.onSome fun _ => .write _) fun _ => ?_
  refine .seq (.onSome fun r => commentLine _ _) fun _ => ?_
  refine .seq (.onSome fun r => ?_) fun _ => ?_
  · split
    · exact commentLine _ _
    · exact commentLine _ _
  · refine .seq (.onSome (accessor pool artifact "get" (.pure ()))) fun _ => ?_
    refine .seq (.onSome (accessor pool artifact "set" (setterParameter _))) fun _ => ?_
    exact .newline

theorem typeAlias (a : TypeAlias) : Writes inside b [] (typeAlias a) := by
  refine .seq (kotlinAnnots .block _) fun _ => ?_
  refine .seq (.onSome (versionRequirement .block)) fun _ => ?_
  refine .seq (.writeIndented _) fun _ => ?_
  refine .seq (declareAll _) fun _ => ?_
  refine .seq (typeParameterList _ _) fun _ => ?_
  refine .seq (.write " = ") fun _ => ?_
  refine .seq (typeUse b _) fun _ => ?_
  exact .newline

/-! ## Members -/

/-- The steps of a group are those of its items. -/
theorem declarationGroup {l : List Step} {α : Type} {title : String} {act : α → Render Unit}
    {items : List α} (h : Writes inside b l (Render.each act items)) :
    Writes inside b l (declarationGroup title act items) := by
  unfold Render.declarationGroup
  split
  next hempty =>
    rw [List.isEmpty_iff.1 hempty] at h
    exact h
  next =>
    refine .seq .newline fun _ => ?_
    refine .seq (.writeLineIndented title) fun _ => ?_
    refine .seq .newline fun _ => ?_
    exact h

theorem members (pool : Pool) (m : Members) : Writes inside b [] (members pool m) := by
  refine .seq (declarationGroup (.each typeAlias _)) fun _ => ?_
  refine .seq (declarationGroup (.each (property pool) _)) fun _ => ?_
  exact declarationGroup (.each (function pool) _)

end KotlinMetadata.Render.Writes
