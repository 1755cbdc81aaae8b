/-
The leaves of a document that writing can lose: its flag sets, of which only
the declared flags are written, and its floating-point numbers, of which only
the finite ones are. `PoolDocument.leaves` lists them all, so a condition on
every flag set or every number of a document is a condition on its leaves.
-/
import KotlinMetadata.Codec.Artifact

namespace KotlinMetadata

open Number (Single Double)

namespace FlagSet

variable {F : Type} [Flag F]

/-- Whether every bit that is set belongs to a flag. -/
def Declared (s : FlagSet F) : Prop := ∀ i, s.word.getLsbD i = true → ∃ f : F, Flag.position f = i

theorem declared_iff {s : FlagSet F} : s.Declared ↔
    ∀ i < 16, s.word.getLsbD i = true → ∃ f ∈ (Enumerated.all : List F), Flag.position f = i := by
  constructor
  · intro h i _ hi
    obtain ⟨f, hf⟩ := h i hi
    exact ⟨f, Enumerated.mem_all f, hf⟩
  · intro h i hi
    obtain ⟨f, -, hf⟩ := h i (BitVec.lt_of_getLsbD hi) hi
    exact ⟨f, hf⟩

instance (s : FlagSet F) : Decidable s.Declared := decidable_of_iff _ declared_iff.symm

theorem getLsbD_foldl_insert (flags : List F) (s : FlagSet F) (i : Nat) :
    (flags.foldl insert s).word.getLsbD i = true ↔
      s.word.getLsbD i = true ∨ ∃ f ∈ flags, Flag.position f = i := by
  induction flags generalizing s with
  | nil => simp
  | cons g flags ih =>
    rw [List.foldl_cons, ih, getLsbD_insert]
    simp only [List.mem_cons, or_and_right, exists_or, exists_eq_left, or_assoc]

theorem getLsbD_ofList (flags : List F) (i : Nat) :
    (ofList flags).word.getLsbD i = true ↔ ∃ f ∈ flags, Flag.position f = i := by
  rw [ofList, getLsbD_foldl_insert]
  simp [empty]

theorem declared_ofList (flags : List F) : (ofList flags).Declared := by
  intro i hi
  obtain ⟨f, -, hf⟩ := (getLsbD_ofList flags i).1 hi
  exact ⟨f, hf⟩

theorem declared_empty : (empty : FlagSet F).Declared := declared_ofList []

/-- A set of declared flags is known from the flags that are listed. -/
theorem ofList_toList {s : FlagSet F} (h : s.Declared) : ofList s.toList = s := by
  refine FlagSet.ext (BitVec.eq_of_getLsbD_eq fun i _ => ?_)
  rw [Bool.eq_iff_iff, getLsbD_ofList]
  constructor
  · rintro ⟨f, hf, rfl⟩
    exact (mem_toList_iff s f).1 hf
  · intro hi
    obtain ⟨f, rfl⟩ := h i hi
    exact ⟨f, (mem_toList_iff s f).2 hi, rfl⟩

end FlagSet

/-- A part of a document that writing can lose. -/
inductive Leaf : Type 1 where
  | flags {F : Type} [Flag F] (s : FlagSet F)
  | single (x : Single)
  | double (x : Double)

namespace Leaf

/-- Of flag sets: all flags are declared. -/
def Declared : Leaf → Prop
  | flags s => s.Declared
  | _ => True

/-- Of numbers: the number is finite. -/
def Finite : Leaf → Prop
  | flags _ => True
  | single x => x.isFinite = true
  | double x => x.isFinite = true

def Exact (l : Leaf) : Prop := l.Declared ∧ l.Finite

instance : DecidablePred Declared
  | flags s => inferInstanceAs (Decidable s.Declared)
  | single _ => isTrue trivial
  | double _ => isTrue trivial

instance : DecidablePred Finite
  | flags _ => isTrue trivial
  | single x => inferInstanceAs (Decidable (x.isFinite = true))
  | double x => inferInstanceAs (Decidable (x.isFinite = true))

@[simp] theorem declared_flags {F : Type} [Flag F] (s : FlagSet F) :
    (flags s).Declared ↔ s.Declared := Iff.rfl

@[simp] theorem declared_single (x : Single) : (single x).Declared := trivial

@[simp] theorem declared_double (x : Double) : (double x).Declared := trivial

@[simp] theorem exact_flags {F : Type} [Flag F] (s : FlagSet F) : (flags s).Exact ↔ s.Declared :=
  and_iff_left trivial

@[simp] theorem exact_single (x : Single) : (single x).Exact ↔ x.isFinite = true :=
  and_iff_right trivial

@[simp] theorem exact_double (x : Double) : (double x).Exact ↔ x.isFinite = true :=
  and_iff_right trivial

end Leaf

/-! ## Annotations -/

mutual
def KotlinAnnot.leaves : KotlinAnnot → List Leaf
  | ⟨_, arguments⟩ => AnnotArgument.leavesOf arguments
def AnnotArgument.leavesOf : List AnnotArgument → List Leaf
  | [] => []
  | ⟨_, value⟩ :: rest => value.leaves ++ AnnotArgument.leavesOf rest
def AnnotValue.leaves : AnnotValue → List Leaf
  | .float x => [.single x]
  | .double x => [.double x]
  | .annot a => a.leaves
  | .array values => AnnotValue.leavesOf values
  | _ => []
def AnnotValue.leavesOf : List AnnotValue → List Leaf
  | [] => []
  | value :: rest => value.leaves ++ AnnotValue.leavesOf rest
end

def Constant.leaves : Constant → List Leaf
  | .float x => [.single x]
  | .double x => [.double x]
  | _ => []

mutual
def JvmAnnot.leaves : JvmAnnot → List Leaf
  | ⟨_, elements⟩ => Element.leavesOf elements
def Element.leavesOf : List Element → List Leaf
  | [] => []
  | ⟨_, value⟩ :: rest => value.leaves ++ Element.leavesOf rest
def ElementValue.leaves : ElementValue → List Leaf
  | .constant v => v.leaves
  | .annot a => a.leaves
  | .array values => Element.leavesOf values
  | _ => []
end

/-! ## Declarations -/

mutual
def TypeUse.leaves : TypeUse → List Leaf
  | ⟨_, _, _, flags, _, arguments, annotations⟩ =>
    .flags flags :: (TypeArgument.leavesOf arguments ++ annotations.flatMap KotlinAnnot.leaves)
def TypeArgument.leavesOf : List TypeArgument → List Leaf
  | [] => []
  | .star :: rest => TypeArgument.leavesOf rest
  | .type t :: rest => t.leaves ++ TypeArgument.leavesOf rest
end

def TypeParameter.leaves (p : TypeParameter) : List Leaf :=
  .flags p.flags :: (p.upperBounds.flatMap TypeUse.leaves ++ p.annotations.flatMap KotlinAnnot.leaves)

def ValueParameter.leaves (p : ValueParameter) : List Leaf :=
  .flags p.flags :: (p.type.leaves ++ p.varargElementType.toList.flatMap TypeUse.leaves)

def Constructor.leaves (c : Constructor) : List Leaf :=
  .flags c.flags :: c.valueParameters.flatMap ValueParameter.leaves

def Function.leaves (f : Function) : List Leaf :=
  .flags f.flags :: (f.typeParameters.flatMap TypeParameter.leaves
    ++ (f.receiverType.toList.flatMap TypeUse.leaves ++ (f.contextReceivers.flatMap TypeUse.leaves
    ++ (f.valueParameters.flatMap ValueParameter.leaves ++ f.returnType.leaves))))

def Accessor.leaves (a : Accessor) : List Leaf := [.flags a.flags]

def Property.leaves (p : Property) : List Leaf :=
  .flags p.flags :: (p.typeParameters.flatMap TypeParameter.leaves
    ++ (p.receiverType.toList.flatMap TypeUse.leaves ++ (p.contextReceivers.flatMap TypeUse.leaves
    ++ (p.type.leaves ++ (p.getter.toList.flatMap Accessor.leaves
    ++ (p.setter.toList.flatMap Accessor.leaves
    ++ p.setterParameter.toList.flatMap ValueParameter.leaves))))))

def TypeAlias.leaves (a : TypeAlias) : List Leaf :=
  a.annotations.flatMap KotlinAnnot.leaves ++ (a.typeParameters.flatMap TypeParameter.leaves
    ++ (a.underlyingType.leaves ++ a.expandedType.toList.flatMap TypeUse.leaves))

def Members.leaves (m : Members) : List Leaf :=
  m.functions.flatMap Function.leaves ++ (m.properties.flatMap Property.leaves
    ++ (m.localDelegatedProperties.flatMap Property.leaves
    ++ m.typeAliases.flatMap TypeAlias.leaves))

/-! ## Artifacts -/

def ClassInfo.leaves (c : ClassInfo) : List Leaf :=
  .flags c.flags :: (c.typeParameters.flatMap TypeParameter.leaves
    ++ (c.superTypes.flatMap TypeUse.leaves ++ (c.contextReceivers.flatMap TypeUse.leaves
    ++ (c.constructors.flatMap Constructor.leaves
    ++ (c.underlyingPropertyType.toList.flatMap TypeUse.leaves ++ c.members.leaves)))))

def Content.leaves : Content → List Leaf
  | .classOf info => info.leaves
  | .fileFacade members => members.leaves
  | .synthetic info => info.functions.flatMap Function.leaves
  | .multiFileFacade _ => []
  | .multiFilePart info => info.members.leaves

def Metadata.leaves (m : Metadata) : List Leaf := m.content.leaves

def Method.leaves (x : Method) : List Leaf :=
  .flags x.access :: x.annotations.flatMap JvmAnnot.leaves

def Field.leaves (x : Field) : List Leaf :=
  .flags x.access :: (x.constantValue.toList.flatMap Constant.leaves
    ++ x.annotations.flatMap JvmAnnot.leaves)

def Artifact.leaves (a : Artifact) : List Leaf :=
  .flags a.access :: (a.methods.flatMap Method.leaves ++ (a.fields.flatMap Field.leaves
    ++ (a.annotations.flatMap JvmAnnot.leaves ++ a.metadata.toList.flatMap Metadata.leaves)))

/-- The leaves of a pool document. -/
def PoolDocument.leaves (d : PoolDocument) : List Leaf := d.artifacts.flatMap Artifact.leaves

end KotlinMetadata
