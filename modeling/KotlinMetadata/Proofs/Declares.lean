/-
What becomes of the names of type parameters. `Declares` derives an action
together with the type parameters that it declares, in their order, and with
whether it looks at names at all; declarations declare their own, and no
other action inside an artifact declares any.

`Declares.run_eq`: an action changes nothing of the state but the text and
the names, and these by its declarations only. `Declares.run_withNames`: one
that does not look goes the same way under any names.
-/
import KotlinMetadata.Proofs.AppendOnly

namespace KotlinMetadata

/-! ## Names declared in a row -/

namespace TypeNames

/-- The names with those of type parameters, in order. -/
def declareAll (names : TypeNames) (params : List TypeParameter) : TypeNames :=
  params.foldl (fun names p => names.insert p.id p.name) names

theorem declareAll_append (names : TypeNames) (ps qs : List TypeParameter) :
    names.declareAll (ps ++ qs) = (names.declareAll ps).declareAll qs := List.foldl_append

/-- Of the names that are declared for an id the last one counts. -/
theorem find?_declareAll (names : TypeNames) (ps : List TypeParameter) (id : UInt32) :
    (names.declareAll ps).find? id = ((ps.reverse.find? (·.id = id)).map (·.name)).or (names.find? id) := by
  induction ps using List.reverseRecOn with
  | nil => rfl
  | append_singleton ps p ih =>
    rw [declareAll_append, List.reverse_append]
    change ((names.declareAll ps).insert p.id p.name).find? id = _
    by_cases h : p.id = id
    · subst h
      simp
    · rw [find?_insert_of_ne _ _ (Ne.symm h), ih]
      simp [h]

end TypeNames

/-- The type parameters that members declare, in the order they are printed. -/
def Members.declared (m : Members) : List TypeParameter :=
  m.typeAliases.flatMap (·.typeParameters) ++ m.allProperties.flatMap (·.typeParameters)
    ++ m.functions.flatMap (·.typeParameters)

/-- The type parameters that an anonymous object sees where it was created. -/
def ClassInfo.originTypeParameters (pool : Pool) (c : ClassInfo) : List TypeParameter :=
  (((c.anonymousObjectOrigin.bind pool.get?).bind (·.metadata)).map (·.content.typeParameters)).getD []

/-- The type parameters that an artifact declares, itself or in its members. All are declared before
the artifacts inside it are printed. -/
def Frame.declared (pool : Pool) (f : Frame) : List TypeParameter :=
  match f.metadata.content with
  | .classOf info => info.typeParameters ++ info.originTypeParameters pool ++ info.members.declared
  | .fileFacade m => m.declared
  | .synthetic info => info.functions.flatMap (·.typeParameters)
  | .multiFileFacade _ => []
  | .multiFilePart info => info.members.declared

/-- The state under other names. -/
def Session.withNames (s : Session) (names : TypeNames) : Session :=
  { s with scope := { s.scope with typeNames := names } }

/-- The state after some type parameters were declared. -/
def Session.declaring (s : Session) (params : List TypeParameter) : Session :=
  s.withNames (s.scope.typeNames.declareAll params)

namespace Render

/-- The derivations of actions that stay inside an artifact, with the type parameters that they
declare. An action that `looks` may read the names of type parameters. -/
inductive Declares : (looks : Bool) → List TypeParameter → {α : Type} → Render α → Prop
  | pure {b} {α : Type} (a : α) : Declares b [] (pure a : Render α)
  | bind {b ps qs} {α β : Type} {m : Render α} {k : α → Render β} : Declares b ps m →
      (∀ a, Declares b qs (k a)) → Declares b (ps ++ qs) (m >>= k)
  | changeOut {b} (f : Buffers → Except Fault Buffers) : Declares b [] (changeOut f)
  | closeBuffer {b} : Declares b [] closeBuffer
  | previousChar? {b} : Declares b [] previousChar?
  | readPlace {b} {α : Type} (g : List Frame → String → α) : Declares b [] (readPlace g)
  | current {b} : Declares b [] current
  | typeParameterName (id : UInt32) : Declares true [] (typeParameterName id)
  | declare {b} (p : TypeParameter) : Declares b [p] (declare p)

namespace Declares

variable {b : Bool} {ps qs : List TypeParameter} {α β : Type}

/-! ## Runs -/

/-- A run changes the text and declares, no more. -/
theorem run_eq {m : Render α} (h : Declares b ps m) {s s' : Session} {a : α} (hrun : m s = .ok (a, s')) :
    s' = { s.declaring ps with out := s'.out } := by
  induction h generalizing s s' with
  | pure a => cases hrun; rfl
  | bind _ _ ihm ihk =>
    obtain ⟨a, t, hm, hk⟩ := bind_eq_ok.1 hrun
    rw [ihk a hk, ihm hm]
    simp only [Session.declaring, Session.withNames, TypeNames.declareAll_append]
  | changeOut f =>
    unfold Render.changeOut at hrun
    split at hrun
    · cases hrun; rfl
    · cases hrun
  | closeBuffer =>
    unfold Render.closeBuffer at hrun
    split at hrun
    · cases hrun; rfl
    · cases hrun
  | previousChar? => cases hrun; rfl
  | readPlace g => cases hrun; rfl
  | current =>
    unfold Render.current at hrun
    split at hrun
    · cases hrun; rfl
    · cases hrun
  | typeParameterName id => cases hrun; rfl
  | declare p => cases hrun; rfl

/-- An action that does not look does the same under other names. -/
theorem run_withNames {m : Render α} (h : Declares b ps m) (hb : b = false) {s s' : Session} {a : α}
    (hrun : m s = .ok (a, s')) (names : TypeNames) :
    m (s.withNames names) = .ok (a, s'.withNames (names.declareAll ps)) := by
  induction h generalizing s s' names with
  | pure a => cases hrun; rfl
  | bind _ _ ihm ihk =>
    obtain ⟨a, t, hm, hk⟩ := bind_eq_ok.1 hrun
    rw [bind_of_ok (ihm hb hm names), ihk a hb hk, TypeNames.declareAll_append]
  | changeOut f =>
    unfold Render.changeOut at hrun ⊢
    split at hrun
    · next hout =>
      cases hrun
      rw [show f (s.withNames names).out = _ from hout]
      rfl
    · cases hrun
  | closeBuffer =>
    unfold Render.closeBuffer at hrun ⊢
    split at hrun
    · next hout =>
      cases hrun
      rw [show (s.withNames names).out.pop = _ from hout]
      rfl
    · cases hrun
  | previousChar? => cases hrun; rfl
  | readPlace g => cases hrun; rfl
  | current =>
    unfold Render.current at hrun ⊢
    split at hrun
    · next hf =>
      cases hrun
      rw [show (s.withNames names).scope.current = _ from hf]
      rfl
    · cases hrun
  | typeParameterName id => cases hb
  | declare p => cases hrun; rfl

/-! ## Sequences, choices and lists -/

theorem seq {m : Render α} {k : α → Render β} (hm : Declares b [] m) (hk : ∀ a, Declares b ps (k a)) :
    Declares b ps (m >>= k) := bind hm hk

theorem andThen {m : Render α} {k : α → Render β} (hm : Declares b ps m) (hk : ∀ a, Declares b [] (k a)) :
    Declares b ps (m >>= k) := by
  have h := bind hm hk
  rwa [List.append_nil] at h

theorem ite {c : Prop} [Decidable c] {m n : Render α} (hm : Declares b ps m) (hn : Declares b ps n) :
    Declares b ps (if c then m else n) := by
  split
  · exact hm
  · exact hn

theorem atPlace {g : List Frame → String → Render α} (h : ∀ frames package, Declares b ps (g frames package)) :
    Declares b ps (fun s => g s.scope.frames s.scope.package s) := by
  have hread : Declares b ps (do
      let place ← Render.readPlace Prod.mk
      g place.1 place.2) := .seq (.readPlace Prod.mk) fun place => h place.1 place.2
  exact hread

theorem write (text : String) : Declares b [] (Render.write text) := .changeOut _

theorem writeIndented (text : String) : Declares b [] (Render.writeIndented text) := .changeOut _

theorem newline : Declares b [] Render.newline := .changeOut _

theorem writeLine (text : String) : Declares b [] (Render.writeLine text) := .changeOut _

theorem writeLineIndented (text : String) : Declares b [] (Render.writeLineIndented text) := .changeOut _

theorem resolve (qualified nesting : String) : Declares b [] (Render.resolve qualified nesting) :=
  .readPlace fun frames package => (Scope.mk frames .empty package).resolve qualified nesting

theorem capture {m : Render Unit} (hm : Declares b ps m) : Declares b ps (Render.capture m) := by
  refine .seq (.changeOut _) fun _ => ?_
  refine .andThen hm fun _ => ?_
  exact .closeBuffer

theorem indented {m : Render α} (hm : Declares b ps m) : Declares b ps (Render.indented m) := by
  refine .seq (.changeOut _) fun _ => ?_
  refine .andThen hm fun a => ?_
  refine .seq (.changeOut _) fun _ => ?_
  exact .pure a

theorem separate (brackets : List Char) : Declares b [] (separateUnlessAfter brackets) := by
  refine .seq .previousChar? fun _ => ?_
  exact .ite (.pure ()) (.write ", ")

theorem onSome {act : α → Render Unit} {o : Option α} (h : ∀ a, Declares b [] (act a)) :
    Declares b [] (Render.onSome act o) := by
  cases o with
  | none => exact .pure ()
  | some a => exact h a

/-- What is declared for each item, one after the other. -/
theorem eachFlat {act : α → Render Unit} {params : α → List TypeParameter}
    (h : ∀ a, Declares b (params a) (act a)) (items : List α) :
    Declares b (items.flatMap params) (Render.each act items) := by
  induction items with
  | nil => exact .pure ()
  | cons a items ih => exact .bind (h a) fun _ => ih

theorem each {act : α → Render Unit} (h : ∀ a, Declares b [] (act a)) (items : List α) :
    Declares b [] (Render.each act items) := by
  have hs := eachFlat h items
  rwa [List.flatMap_eq_nil_iff.2 fun _ _ => rfl] at hs

theorem eachFrom {act : Nat → α → Render Unit} (h : ∀ i a, Declares b [] (act i a)) (index : Nat)
    (items : List α) : Declares b [] (Render.eachFrom act index items) := by
  induction items generalizing index with
  | nil => exact .pure ()
  | cons a items ih => exact .seq (h index a) fun _ => ih (index + 1)

theorem separated {separator : String} {act : α → Render Unit} (h : ∀ a, Declares b [] (act a))
    (items : List α) : Declares b [] (Render.separated separator act items) := by
  cases items with
  | nil => exact .pure ()
  | cons a items =>
    refine .seq (h a) fun _ => ?_
    refine each (fun c => ?_) items
    refine .seq (.write separator) fun _ => ?_
    exact h c

theorem enclosed {opening separator closing : String} {act : α → Render Unit}
    (h : ∀ a, Declares b [] (act a)) (items : List α) :
    Declares b [] (Render.enclosed opening separator closing act items) := by
  unfold Render.enclosed
  refine .ite (.pure ()) ?_
  refine .seq (.write opening) fun _ => ?_
  refine .seq (separated h items) fun _ => ?_
  exact .write closing

/-! ## Annotations -/

theorem annotSign (placement : Placement) : Declares b [] (annotSign placement) := by
  cases placement with
  | inline => exact .write "@"
  | block => exact .writeIndented "@"

theorem elementName (name : Option String) : Declares b [] (elementName name) := by
  cases name with
  | none => exact .pure ()
  | some name =>
    refine .ite (.pure ()) ?_
    refine .seq (.write name) fun _ => ?_
    exact .write " = "

mutual
theorem jvmAnnotBody : ∀ a : JvmAnnot, Declares b [] (jvmAnnotBody a)
  | ⟨typeDescriptor, elements⟩ => by
    rw [Render.jvmAnnotBody]
    refine .seq (.resolve _ _) fun name => ?_
    refine .seq (.write name) fun _ => ?_
    refine .ite (.pure ()) ?_
    refine .seq (.write "(") fun _ => ?_
    refine .seq (jvmElements elements) fun _ => ?_
    exact .write ")"
theorem jvmElements : ∀ elements : List Element, Declares b [] (jvmElements elements)
  | [] => by
    rw [Render.jvmElements]
    exact .pure ()
  | ⟨name, value⟩ :: rest => by
    rw [Render.jvmElements]
    refine .seq (.separate _) fun _ => ?_
    refine .seq (elementName name) fun _ => ?_
    refine .seq (elementValue value) fun _ => ?_
    exact jvmElements rest
theorem elementValue : ∀ value : ElementValue, Declares b [] (elementValue value)
  | .constant v => by
    rw [Render.elementValue]
    exact .write _
  | .enumConstant typeDescriptor constantName => by
    rw [Render.elementValue]
    refine .seq (.resolve _ _) fun _ => ?_
    exact .write _
  | .classLiteral descriptor => by
    rw [Render.elementValue]
    refine .seq (.resolve _ _) fun _ => ?_
    exact .write _
  | .annot a => by
    rw [Render.elementValue]
    exact jvmAnnotBody a
  | .array values => by
    rw [Render.elementValue]
    refine .seq (.write _) fun _ => ?_
    refine .seq (jvmElements values) fun _ => ?_
    exact .write _
end

theorem jvmAnnot (placement : Placement) (a : JvmAnnot) : Declares b [] (jvmAnnot placement a) := by
  refine .seq (annotSign placement) fun _ => ?_
  refine .seq (jvmAnnotBody a) fun _ => ?_
  cases placement with
  | inline => exact .pure ()
  | block => exact .newline

theorem jvmAnnots (placement : Placement) (annots : List JvmAnnot) :
    Declares b [] (jvmAnnots placement annots) := .each (jvmAnnot placement) _

mutual
theorem kotlinAnnotBody : ∀ a : KotlinAnnot, Declares b [] (kotlinAnnotBody a)
  | ⟨className, arguments⟩ => by
    rw [Render.kotlinAnnotBody]
    refine .seq (.resolve _ _) fun name => ?_
    refine .seq (.write name) fun _ => ?_
    refine .ite (.pure ()) ?_
    refine .seq (.write "(") fun _ => ?_
    refine .seq (annotArguments arguments) fun _ => ?_
    exact .write ")"
theorem annotArguments : ∀ arguments : List AnnotArgument, Declares b [] (annotArguments arguments)
  | [] => by
    rw [Render.annotArguments]
    exact .pure ()
  | ⟨name, value⟩ :: rest => by
    rw [Render.annotArguments]
    refine .seq (.separate _) fun _ => ?_
    refine .seq (.write name) fun _ => ?_
    refine .seq (.write " = ") fun _ => ?_
    refine .seq (annotValue value) fun _ => ?_
    exact annotArguments rest
theorem annotValue : ∀ value : AnnotValue, Declares b [] (annotValue value)
  | .byte _ | .char _ | .short _ | .int _ | .long _ | .float _ | .double _ | .boolean _ | .ubyte _
  | .ushort _ | .uint _ | .ulong _ | .string _ => by
    rw [Render.annotValue]
    exact .write _
  | .classLiteral className dimensions => by
    rw [Render.annotValue]
    refine .seq (.resolve _ _) fun _ => ?_
    exact .write _
  | .enumEntry className entryName => by
    rw [Render.annotValue]
    refine .seq (.resolve _ _) fun _ => ?_
    exact .write _
  | .annot a => by
    rw [Render.annotValue]
    exact kotlinAnnotBody a
  | .array values => by
    rw [Render.annotValue]
    refine .seq (.write "[") fun _ => ?_
    refine .seq (annotValues true values) fun _ => ?_
    exact .write "]"
theorem annotValues : ∀ (first : Bool) (values : List AnnotValue), Declares b [] (annotValues first values)
  | _, [] => by
    rw [Render.annotValues]
    exact .pure ()
  | first, value :: rest => by
    rw [Render.annotValues]
    have htail : Declares b [] (do Render.annotValue value; Render.annotValues false rest) :=
      .seq (annotValue value) fun _ => annotValues false rest
    refine .ite htail ?_
    refine .seq (.write ", ") fun _ => ?_
    exact htail
end

theorem kotlinAnnot (placement : Placement) (a : KotlinAnnot) : Declares b [] (kotlinAnnot placement a) := by
  refine .seq (annotSign placement) fun _ => ?_
  refine .seq (kotlinAnnotBody a) fun _ => ?_
  cases placement with
  | inline => exact .write " "
  | block => exact .newline

theorem kotlinAnnots (placement : Placement) (annots : List KotlinAnnot) :
    Declares b [] (kotlinAnnots placement annots) := .each (kotlinAnnot placement) annots

theorem versionRequirement (placement : Placement) (v : Version) :
    Declares b [] (versionRequirement placement v) := by
  cases placement with
  | inline => exact .write _
  | block => exact .writeLineIndented _

theorem methodAnnots (pool : Pool) (artifact : Artifact) (r : Option MethodRef) :
    Declares b [] (methodAnnots pool artifact r) := .onSome fun (_, m) => jvmAnnots .block m.annotations

/-! ## Types -/

theorem typeFront (annots : List KotlinAnnot) (flags : FlagSet TypeFlag) (variance : Variance) :
    Declares b [] (typeFront annots flags variance) := by
  refine .seq (kotlinAnnots .inline _) fun _ => ?_
  refine .seq (.write _) fun _ => ?_
  refine .seq (.onSome fun name => .write _) fun _ => ?_
  exact .write _

theorem typeName (parameterId : Option UInt32) (aliasName className : Option String) :
    Declares true [] (typeName parameterId aliasName className) := by
  unfold Render.typeName
  cases parameterId with
  | some id =>
    refine .seq (.typeParameterName id) fun name => ?_
    exact .write name
  | none =>
    cases aliasName.or className with
    | some name =>
      refine .seq (.resolve name ".") fun text => ?_
      exact .write text
    | none => exact .write _

mutual
theorem typeUse : ∀ t : TypeUse, Declares true [] (typeUse t)
  | ⟨className, aliasName, parameterId, flags, variance, arguments, annots⟩ => by
    rw [Render.typeUse]
    refine .seq (typeFront annots flags variance) fun _ => ?_
    extract_lets tail mark
    have htail : ∀ u, Declares true [] (tail u) := fun _ => .ite (.write " & Any") (.pure ())
    have hmark : ∀ u, Declares true [] (mark u) := by
      intro u
      refine .ite ?_ (htail ())
      exact .seq (.write "?") htail
    split
    next name =>
      extract_lets parameters
      have hparameters : ∀ u, Declares true [] (parameters u) := by
        intro u
        refine .seq (functionArguments _ _ 0 arguments) fun _ => ?_
        refine .ite ?_ (htail ())
        exact .seq (.write ")?") htail
      refine .ite ?_ (hparameters ())
      exact .seq (.write "(") hparameters
    next =>
      refine .seq (typeName parameterId aliasName className) fun _ => ?_
      refine .ite (hmark ()) ?_
      refine .seq (.write "<") fun _ => ?_
      refine .seq (typeArguments true arguments) fun _ => ?_
      exact .seq (.write ">") hmark
theorem typeArguments : ∀ (first : Bool) (arguments : List TypeArgument),
    Declares true [] (typeArguments first arguments)
  | _, [] => by
    rw [Render.typeArguments]
    exact .pure ()
  | first, argument :: rest => by
    rw [Render.typeArguments]
    have htail := Declares.seq (typeArgument argument) fun _ => typeArguments false rest
    refine .ite htail ?_
    refine .seq (.write ", ") fun _ => ?_
    exact htail
theorem functionArguments (arity : Nat) (extension : Bool) : ∀ (index : Nat) (arguments : List TypeArgument),
    Declares true [] (functionArguments arity extension index arguments)
  | _, [] => by
    rw [Render.functionArguments]
    exact .pure ()
  | index, argument :: rest => by
    rw [Render.functionArguments]
    refine .seq (.write _) fun _ => ?_
    refine .seq (typeArgument argument) fun _ => ?_
    exact functionArguments arity extension (index + 1) rest
theorem typeArgument : ∀ argument : TypeArgument, Declares true [] (typeArgument argument)
  | .star => by
    rw [Render.typeArgument]
    exact .write "*"
  | .type t => by
    rw [Render.typeArgument]
    exact typeUse t
end

theorem receiverType (t : TypeUse) : Declares true [] (receiverType t) := by
  unfold Render.receiverType
  extract_lets tail
  have htail : ∀ u, Declares true [] (tail u) := by
    intro u
    refine .seq (typeUse t) fun _ => ?_
    exact .write _
  refine .ite ?_ (htail ())
  exact .seq (.write "(") htail

theorem contextReceivers (receivers : List TypeUse) : Declares true [] (contextReceivers receivers) := by
  refine .ite (.pure ()) ?_
  refine .seq (.writeIndented "context(") fun _ => ?_
  refine .seq (.separated typeUse receivers) fun _ => ?_
  exact .writeLine ")"

theorem typeParameterList (params : List TypeParameter) (closing : String) :
    Declares true [] (typeParameterList params closing) := by
  refine .enclosed (fun p => ?_) params
  refine .seq (.write _) fun _ => ?_
  refine .seq (.write _) fun _ => ?_
  refine .seq (kotlinAnnots .inline _) fun _ => ?_
  refine .seq (.write p.name) fun _ => ?_
  exact .enclosed typeUse p.upperBounds

theorem declareAll (params : List TypeParameter) : Declares b params (declareAll params) := by
  have h := eachFlat (b := b) Declares.declare params
  rwa [List.flatMap_singleton'] at h

/-! ## Declarations -/

theorem valueParameter (index : Nat) (p : ValueParameter) (mutability : Mutability) :
    Declares true [] (valueParameter index p mutability) := by
  unfold Render.valueParameter
  extract_lets name front
  have htype : Declares true [] (Render.capture do
      Render.typeUse p.type
      Render.onSome (fun element => do reset; Render.typeUse element) p.varargElementType) := by
    refine .capture ?_
    refine .seq (typeUse p.type) fun _ => ?_
    refine .onSome fun element => ?_
    refine .seq (.changeOut _) fun _ => ?_
    exact typeUse element
  have hname : ∀ u, Declares true [] (name u) := by
    intro u
    refine .seq (.write _) fun _ => ?_
    refine .seq (.write ": ") fun _ => ?_
    refine .seq htype fun type => ?_
    refine .seq (.write type) fun _ => ?_
    exact .ite (.write _) (.pure ())
  have hfront : ∀ u, Declares true [] (front u) := by
    intro u
    refine .seq (.write _) fun _ => ?_
    refine .seq (.write _) fun _ => ?_
    refine .ite ?_ (hname ())
    exact .seq (.write "vararg ") hname
  refine .ite (hfront ()) ?_
  exact .seq (.write ", ") hfront

theorem constructor (pool : Pool) (c : Constructor) : Declares true [] (constructor pool c) := by
  unfold Render.constructor
  refine .seq .current fun frame => ?_
  extract_lets secondary placement annots parameters keyword
  have hparameters : ∀ u, Declares true [] (parameters u) := by
    intro u
    refine .seq (.write "(") fun _ => ?_
    refine .seq (.eachFrom (fun index p => valueParameter index p _) 0 _) fun _ => ?_
    refine .seq (.write ") ") fun _ => ?_
    exact .ite (.writeLine _) (.pure ())
  have hkeyword : ∀ u, Declares true [] (keyword u) := fun _ => .seq (.write "constructor") hparameters
  refine .seq (.onSome (versionRequirement placement)) fun _ => ?_
  refine .seq (.onSome fun annots => ?_) fun _ => ?_
  · refine .seq (.capture (jvmAnnots placement annots)) fun text => ?_
    refine .ite (.write text) ?_
    refine .seq (.write " ") fun _ => ?_
    exact .write text
  · refine .ite (.ite ?_ ?_) (hparameters ())
    · exact .seq (.writeIndented "") hkeyword
    · exact .seq (.write " ") hkeyword

theorem function (pool : Pool) (f : Function) : Declares true f.typeParameters (function pool f) := by
  refine .seq .current fun frame => ?_
  refine .seq (methodAnnots pool _ _) fun _ => ?_
  refine .seq (.onSome (versionRequirement .block)) fun _ => ?_
  refine .seq (contextReceivers _) fun _ => ?_
  refine .seq (.writeIndented _) fun _ => ?_
  refine .seq (.write "fun ") fun _ => ?_
  refine .andThen (declareAll _) fun _ => ?_
  refine .seq (typeParameterList _ _) fun _ => ?_
  refine .seq (.onSome receiverType) fun _ => ?_
  refine .seq (.write _) fun _ => ?_
  refine .seq (.write "(") fun _ => ?_
  refine .seq (.eachFrom (fun index p => valueParameter index p .plain) 0 _) fun _ => ?_
  refine .seq (.write ")") fun _ => ?_
  refine .ite (.writeLine _) ?_
  refine .seq (.write ": ") fun _ => ?_
  refine .seq (typeUse _) fun _ => ?_
  exact .writeLine _

theorem accessor (pool : Pool) (artifact : Artifact) (keyword : String) {parameters : Render Unit}
    (h : Declares true [] parameters) (a : Accessor) :
    Declares true [] (accessor pool artifact keyword parameters a) := by
  refine .indented ?_
  refine .seq .newline fun _ => ?_
  refine .seq (methodAnnots pool artifact _) fun _ => ?_
  refine .seq (.writeIndented _) fun _ => ?_
  refine .seq h fun _ => ?_
  split
  · refine .onSome fun (owner, m) => ?_
    refine .seq (.write _) fun _ => ?_
    exact .write _
  · exact .ite (.write _) (.pure ())

theorem property (pool : Pool) (p : Property) : Declares true p.typeParameters (property pool p) := by
  unfold Render.property
  refine .seq .current fun frame => ?_
  extract_lets artifact
  refine .seq (methodAnnots pool artifact _) fun _ => ?_
  refine .seq (.onSome (versionRequirement .block)) fun _ => ?_
  refine .seq (contextReceivers _) fun _ => ?_
  refine .seq (.writeIndented _) fun _ => ?_
  refine .andThen (declareAll _) fun _ => ?_
  refine .seq (typeParameterList _ _) fun _ => ?_
  refine .seq (.onSome receiverType) fun _ => ?_
  refine .seq (.write _) fun _ => ?_
  refine .seq (.write ": ") fun _ => ?_
  refine .seq (typeUse _) fun _ => ?_
  refine .seq (.onSome fun _ => .write _) fun _ => ?_
  have hline : ∀ text more, Declares true [] (Render.underLine do
      Render.writeIndented text
      Render.write more) := by
    intro text more
    refine .indented ?_
    refine .seq .newline fun _ => ?_
    refine .seq (.writeIndented text) fun _ => ?_
    exact .write more
  refine .seq (.onSome fun r => hline _ _) fun _ => ?_
  refine .seq (.onSome fun r => ?_) fun _ => ?_
  · split
    · exact hline _ _
    · exact hline _ _
  · refine .seq (.onSome (accessor pool artifact "get" (.pure ()))) fun _ => ?_
    have hparameter : Declares true [] (do
        Render.write "("
        Render.onSome (fun param => Render.valueParameter 0 param .plain) p.setterParameter
        Render.write ")") := by
      refine .seq (.write "(") fun _ => ?_
      refine .seq (.onSome fun param => valueParameter 0 param .plain) fun _ => ?_
      exact .write ")"
    refine .seq (.onSome (accessor pool artifact "set" hparameter)) fun _ => ?_
    exact .newline

theorem typeAlias (a : TypeAlias) : Declares true a.typeParameters (typeAlias a) := by
  refine .seq (kotlinAnnots .block _) fun _ => ?_
  refine .seq (.onSome (versionRequirement .block)) fun _ => ?_
  refine .seq (.writeIndented _) fun _ => ?_
  refine .andThen (declareAll _) fun _ => ?_
  refine .seq (typeParameterList _ _) fun _ => ?_
  refine .seq (.write " = ") fun _ => ?_
  refine .seq (typeUse _) fun _ => ?_
  exact .newline

/-! ## Contents -/

theorem className (c : ClassInfo) : Declares b [] (className c) := by
  refine .seq (.resolve _ _) fun text => ?_
  exact .ite (.writeIndented _) (.writeIndented _)

theorem declareOrigin (pool : Pool) (c : ClassInfo) :
    Declares b (c.originTypeParameters pool) (declareOrigin pool c) := by
  unfold ClassInfo.originTypeParameters Render.declareOrigin
  cases (c.anonymousObjectOrigin.bind pool.get?).bind (·.metadata) with
  | none => exact .pure ()
  | some d => exact declareAll d.content.typeParameters

theorem enumEntries (index : Nat) (entries : List String) : Declares b [] (enumEntries index entries) := by
  induction entries generalizing index with
  | nil => exact .pure ()
  | cons entry rest ih =>
    unfold Render.enumEntries
    extract_lets tail comma name
    have htail : ∀ u, Declares b [] (tail u) := fun _ => ih (index + 1)
    have hcomma : ∀ u, Declares b [] (comma u) := by
      intro u
      refine .ite (htail ()) ?_
      refine .seq (.write ",") fun _ => ?_
      refine .ite (htail ()) ?_
      exact .seq (.write " ") htail
    have hname : ∀ u, Declares b [] (name u) := by
      intro u
      refine .ite ?_ ?_
      · exact .seq (.writeIndented entry) hcomma
      · exact .seq (.write entry) hcomma
    refine .ite ?_ (hname ())
    exact .seq .newline hname

theorem sealedSubclasses (c : ClassInfo) : Declares b [] (sealedSubclasses c) :=
  atPlace (g := fun frames package => sealedNames (c.sealedSubclassNames.map fun name =>
    (Scope.mk frames .empty package).resolve name ".")) fun _ _ => .ite (.pure ()) (.writeLineIndented _)

theorem classEnd (count : Nat) (entries body : String) : Declares b [] (classEnd count entries body) := by
  unfold Render.classEnd
  refine .ite ?_ (.ite (.ite ?_ ?_) ?_)
  · refine .seq (.writeLine _) fun _ => ?_
    have hbody : Declares b [] (do Render.write body; Render.writeLineIndented "\x7d") :=
      .seq (.write body) fun _ => .writeLineIndented _
    refine .ite hbody ?_
    refine .seq (.writeLine _) fun _ => ?_
    exact hbody
  · refine .seq (.write _) fun _ => ?_
    refine .seq (.write _) fun _ => ?_
    exact .writeLine _
  · refine .seq (.writeLine _) fun _ => ?_
    refine .seq (.writeLine _) fun _ => ?_
    exact .writeLineIndented _
  · refine .seq .newline fun _ => ?_
    exact .newline

end Declares

/-! ## Plain actions -/

variable {α : Type}

/-- An action that stays inside its artifact: it takes no steps. -/
abbrev Plain (m : Render α) : Prop := Writes (fun _ => pure ()) false [] m

theorem Plain.run {m : Render α} (h : Plain m) {s : Session} (hs : s.IsOpen) :
    ∃ a s', m s = .ok (a, s') ∧ Kept s s' := h.runs (by simp) s hs List.nil_suffix

theorem Plain.blind {m : Render α} (h : Plain m) : Blind false m := Writes.blind h fun _ => .pure ()

/-- A plain action comes down to a text that it writes. -/
theorem Plain.written {m : Render α} (h : Plain m) {s s' : Session} {a : α} (hs : s.out.stack ≠ [])
    (hrun : m s = .ok (a, s')) : ∃ text, s.out.write text = .ok s'.out := by
  have hagrees : s.Agrees s := ⟨rfl, rfl, fun _ => rfl, rfl, rfl, fun _ => Iff.rfl⟩
  obtain ⟨_, _, hechoes⟩ := h.blind hagrees hs hs (by simp) hrun
  obtain ⟨text, hout, -⟩ := hechoes.written
  exact ⟨text, hout⟩

end Render

end KotlinMetadata
