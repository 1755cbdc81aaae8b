/-
Normal forms of documents. Reading sets no undeclared flag, so what was read
is written without loss as soon as its numbers are finite: writing it gives a
normal form that is read as the same document, and that normalising leaves as
it is.
-/
import KotlinMetadata.Proofs.Codec.RoundTrip

namespace KotlinMetadata

/-- Whatever a reader gives has a property. -/
def Ensures {α : Type} (o : Option α) (P : α → Prop) : Prop := ∀ a, o = some a → P a

open Json

namespace Ensures

variable {α β : Type} {P : α → Prop} {Q : β → Prop} {o : Option α} {f : α → Option β}
  {read : Json → Option α} {m : Entries} {key : String}

/-- What the first step ensures may be used for the steps after it. -/
theorem step (h : Ensures o P) (hf : ∀ a, P a → Ensures (f a) Q) : Ensures (o >>= f) Q := by
  intro b hb
  obtain ⟨a, ha, hb⟩ := Option.bind_eq_some_iff.1 hb
  exact hf a (h a ha) b hb

theorem skip (hf : ∀ a, Ensures (f a) Q) : Ensures (o >>= f) Q :=
  step (P := fun _ => True) (fun _ _ => trivial) fun a _ => hf a

theorem done {a : α} (h : P a) : Ensures (some a) P := by
  intro b hb
  cases hb
  exact h

theorem fails : Ensures none P := by
  intro a ha
  cases ha

theorem map {g : α → β} (h : Ensures o fun a => Q (g a)) : Ensures (o.map g) Q := by
  intro b hb
  obtain ⟨a, ha, rfl⟩ := Option.map_eq_some_iff.1 hb
  exact h a ha

theorem items (h : ∀ v, Ensures (read v) P) (v : Json) :
    Ensures (v.list? read) fun xs => ∀ x ∈ xs, P x := by
  cases v with
  | array items =>
    change Ensures (items.mapM read) _
    induction items with
    | nil => exact done (by simp)
    | cons x xs ih =>
      rw [List.mapM_cons]
      exact step (h x) fun a ha => step ih fun as has => done (List.forall_mem_cons.2 ⟨ha, has⟩)
  | _ => exact fails

theorem required (h : ∀ v, Ensures (read v) P) : Ensures (m.required key read) P := by
  unfold Entries.required
  split
  · exact h _
  · exact fails

theorem nullable (h : ∀ v, Ensures (read v) P) :
    Ensures (m.nullable key read) fun o => ∀ a ∈ o, P a := by
  unfold Entries.nullable
  split
  · exact fails
  · exact done nofun
  · exact done nofun
  · refine map fun a ha b hb => ?_
    cases hb
    exact h _ a ha

theorem withDefault {default : α} (hd : P default) (h : ∀ v, Ensures (read v) P) :
    Ensures (m.withDefault key default read) P := by
  unfold Entries.withDefault
  split
  · exact fails
  · exact done hd
  · exact h _

theorem list (h : ∀ v, Ensures (read v) P) :
    Ensures (m.listField key read) fun xs => ∀ x ∈ xs, P x :=
  withDefault nofun (items h)

theorem flags {F : Type} [Flag F] {d : Delivery} :
    Ensures (m.flagField d key : Option (FlagSet F)) FlagSet.Declared :=
  withDefault FlagSet.declared_empty fun _ => map fun flags _ => FlagSet.declared_ofList flags

end Ensures

/-! ## Annotations, which have no flags -/

mutual
theorem KotlinAnnot.leaves_declared : ∀ a : KotlinAnnot, ∀ l ∈ a.leaves, l.Declared
  | ⟨_, arguments⟩ => by
    rw [KotlinAnnot.leaves]
    exact AnnotArgument.leavesOf_declared arguments
theorem AnnotArgument.leavesOf_declared : ∀ args : List AnnotArgument,
    ∀ l ∈ AnnotArgument.leavesOf args, l.Declared
  | [] => by simp [AnnotArgument.leavesOf]
  | ⟨_, value⟩ :: rest => by
    rw [AnnotArgument.leavesOf, List.forall_mem_append]
    exact ⟨AnnotValue.leaves_declared value, AnnotArgument.leavesOf_declared rest⟩
theorem AnnotValue.leaves_declared : ∀ v : AnnotValue, ∀ l ∈ v.leaves, l.Declared
  | .annot a => by
    rw [AnnotValue.leaves]
    exact KotlinAnnot.leaves_declared a
  | .array values => by
    rw [AnnotValue.leaves]
    exact AnnotValue.leavesOf_declared values
  | .byte _ | .char _ | .short _ | .int _ | .long _ | .float _ | .double _ | .boolean _ | .ubyte _
  | .ushort _ | .uint _ | .ulong _ | .string _ | .classLiteral _ _ | .enumEntry _ _ => by
    simp [AnnotValue.leaves]
theorem AnnotValue.leavesOf_declared : ∀ values : List AnnotValue,
    ∀ l ∈ AnnotValue.leavesOf values, l.Declared
  | [] => by simp [AnnotValue.leavesOf]
  | value :: rest => by
    rw [AnnotValue.leavesOf, List.forall_mem_append]
    exact ⟨AnnotValue.leaves_declared value, AnnotValue.leavesOf_declared rest⟩
end

theorem Constant.leaves_declared (c : Constant) : ∀ l ∈ c.leaves, l.Declared := by
  cases c <;> simp [Constant.leaves]

mutual
theorem JvmAnnot.leaves_declared : ∀ a : JvmAnnot, ∀ l ∈ a.leaves, l.Declared
  | ⟨_, elements⟩ => by
    rw [JvmAnnot.leaves]
    exact Element.leavesOf_declared elements
theorem Element.leavesOf_declared : ∀ elements : List Element,
    ∀ l ∈ Element.leavesOf elements, l.Declared
  | [] => by simp [Element.leavesOf]
  | ⟨_, value⟩ :: rest => by
    rw [Element.leavesOf, List.forall_mem_append]
    exact ⟨ElementValue.leaves_declared value, Element.leavesOf_declared rest⟩
theorem ElementValue.leaves_declared : ∀ v : ElementValue, ∀ l ∈ v.leaves, l.Declared
  | .constant c => by
    rw [ElementValue.leaves]
    exact Constant.leaves_declared c
  | .enumConstant _ _ | .classLiteral _ => by simp [ElementValue.leaves]
  | .annot a => by
    rw [ElementValue.leaves]
    exact JvmAnnot.leaves_declared a
  | .array values => by
    rw [ElementValue.leaves]
    exact Element.leavesOf_declared values
end

/-! ## Types and declarations -/

section
variable (d : Delivery)

theorem TypeArgument.type_of_form {d : Delivery} {type : Json → Option TypeUse} {j : Json}
    {t : TypeUse} (h : form d type j = some (.type t)) : ∃ v, type v = some t := by
  unfold form at h
  split at h
  · cases h
  · split at h <;> cases h
  · obtain ⟨t', ht, he⟩ := Option.map_eq_some_iff.1 h
    cases he
    exact ⟨_, ht⟩
  · cases h

theorem TypeUse.read_parts (j : Json) : Ensures (TypeUse.ofJson? d j) fun t =>
    t.flags.Declared ∧ ∀ a ∈ t.arguments, ∃ v, TypeArgument.ofJson? d v = some a := by
  have hargument : ∀ v, Ensures (TypeArgument.ofJson? d v) fun a =>
      ∃ v, TypeArgument.ofJson? d v = some a := fun v a ha => ⟨v, ha⟩
  rw [TypeUse.ofJson?_eq]
  refine .skip fun m => ?_
  refine .skip fun className => ?_
  refine .skip fun aliasName => ?_
  refine .skip fun parameterId => ?_
  refine .step .flags fun flags hflags => ?_
  refine .skip fun variance => ?_
  refine .step (.list hargument) fun arguments hargs => ?_
  refine .skip fun annotations => ?_
  exact .done ⟨hflags, hargs⟩

-- The type that is read is taken apart, not the value it is read from: its arguments are smaller.
mutual
theorem TypeUse.leaves_declared {d : Delivery} : ∀ (t : TypeUse) {j : Json},
    TypeUse.ofJson? d j = some t → ∀ l ∈ t.leaves, l.Declared
  | ⟨className, aliasName, parameterId, flags, variance, arguments, annotations⟩, j, h => by
    obtain ⟨hflags, hargs⟩ := TypeUse.read_parts d j _ h
    simp only [TypeUse.leaves, List.forall_mem_cons, List.forall_mem_append,
      List.forall_mem_flatMap, Leaf.declared_flags]
    exact ⟨hflags, TypeArgument.leavesOf_declared arguments hargs,
      fun a _ => KotlinAnnot.leaves_declared a⟩
theorem TypeArgument.leavesOf_declared {d : Delivery} : ∀ args : List TypeArgument,
    (∀ a ∈ args, ∃ v, TypeArgument.ofJson? d v = some a) →
      ∀ l ∈ TypeArgument.leavesOf args, l.Declared
  | [], _ => by simp [TypeArgument.leavesOf]
  | .star :: rest, h => by
    rw [TypeArgument.leavesOf]
    exact TypeArgument.leavesOf_declared rest fun a ha => h a (List.mem_cons_of_mem _ ha)
  | .type t :: rest, h => by
    obtain ⟨v, hv⟩ := h _ List.mem_cons_self
    rw [TypeArgument.ofJson?_eq] at hv
    obtain ⟨w, hw⟩ := TypeArgument.type_of_form hv
    rw [TypeArgument.leavesOf, List.forall_mem_append]
    exact ⟨TypeUse.leaves_declared t hw,
      TypeArgument.leavesOf_declared rest fun a ha => h a (List.mem_cons_of_mem _ ha)⟩
end

theorem TypeUse.read_declared (j : Json) :
    Ensures (TypeUse.ofJson? d j) fun t => ∀ l ∈ t.leaves, l.Declared :=
  fun t => TypeUse.leaves_declared t

theorem TypeParameter.read_declared (j : Json) :
    Ensures (TypeParameter.ofJson? d j) fun p => ∀ l ∈ p.leaves, l.Declared := by
  refine .skip fun m => ?_
  refine .skip fun id => ?_
  refine .skip fun name => ?_
  refine .skip fun variance => ?_
  refine .step .flags fun flags hflags => ?_
  refine .step (.list (TypeUse.read_declared d)) fun upperBounds hbounds => ?_
  refine .skip fun annotations => ?_
  refine .done ?_
  simp only [TypeParameter.leaves, List.forall_mem_cons, List.forall_mem_append,
    List.forall_mem_flatMap, Leaf.declared_flags]
  exact ⟨hflags, hbounds, fun a _ => KotlinAnnot.leaves_declared a⟩

theorem ValueParameter.read_declared (j : Json) :
    Ensures (ValueParameter.ofJson? d j) fun p => ∀ l ∈ p.leaves, l.Declared := by
  refine .skip fun m => ?_
  refine .skip fun name => ?_
  refine .step .flags fun flags hflags => ?_
  refine .step (.required (TypeUse.read_declared d)) fun type htype => ?_
  refine .step (.nullable (TypeUse.read_declared d)) fun varargElementType hvararg => ?_
  refine .done ?_
  simp only [ValueParameter.leaves, List.forall_mem_cons, List.forall_mem_append,
    List.forall_mem_flatMap, Option.mem_toList, Leaf.declared_flags]
  exact ⟨hflags, htype, hvararg⟩

theorem Constructor.read_declared (j : Json) :
    Ensures (Constructor.ofJson? d j) fun c => ∀ l ∈ c.leaves, l.Declared := by
  refine .skip fun m => ?_
  refine .skip fun visibility => ?_
  refine .step .flags fun flags hflags => ?_
  refine .step (.list (ValueParameter.read_declared d)) fun valueParameters hparameters => ?_
  refine .skip fun versionRequirement => ?_
  refine .skip fun signature => ?_
  refine .done ?_
  simp only [Constructor.leaves, List.forall_mem_cons, List.forall_mem_flatMap, Leaf.declared_flags]
  exact ⟨hflags, hparameters⟩

theorem Function.read_declared (j : Json) :
    Ensures (Function.ofJson? d j) fun f => ∀ l ∈ f.leaves, l.Declared := by
  refine .skip fun m => ?_
  refine .skip fun name => ?_
  refine .skip fun visibility => ?_
  refine .skip fun modality => ?_
  refine .skip fun memberKind => ?_
  refine .step .flags fun flags hflags => ?_
  refine .step (.list (TypeParameter.read_declared d)) fun typeParameters htypeParameters => ?_
  refine .step (.nullable (TypeUse.read_declared d)) fun receiverType hreceiver => ?_
  refine .step (.list (TypeUse.read_declared d)) fun contextReceivers hcontext => ?_
  refine .step (.list (ValueParameter.read_declared d)) fun valueParameters hparameters => ?_
  refine .step (.required (TypeUse.read_declared d)) fun returnType hreturn => ?_
  refine .skip fun versionRequirement => ?_
  refine .skip fun signature => ?_
  refine .done ?_
  simp only [Function.leaves, List.forall_mem_cons, List.forall_mem_append,
    List.forall_mem_flatMap, Option.mem_toList, Leaf.declared_flags]
  exact ⟨hflags, htypeParameters, hreceiver, hcontext, hparameters, hreturn⟩

theorem Accessor.read_declared (j : Json) :
    Ensures (Accessor.ofDelivered? d j) fun a => ∀ l ∈ a.leaves, l.Declared := by
  refine .skip fun m => ?_
  refine .skip fun visibility => ?_
  refine .skip fun modality => ?_
  refine .step .flags fun flags hflags => ?_
  refine .skip fun signature => ?_
  refine .done ?_
  simpa [Accessor.leaves] using hflags

theorem Property.read_declared (j : Json) :
    Ensures (Property.ofJson? d j) fun p => ∀ l ∈ p.leaves, l.Declared := by
  refine .skip fun m => ?_
  refine .skip fun name => ?_
  refine .skip fun visibility => ?_
  refine .skip fun modality => ?_
  refine .skip fun memberKind => ?_
  refine .step .flags fun flags hflags => ?_
  refine .step (.list (TypeParameter.read_declared d)) fun typeParameters htypeParameters => ?_
  refine .step (.nullable (TypeUse.read_declared d)) fun receiverType hreceiver => ?_
  refine .step (.list (TypeUse.read_declared d)) fun contextReceivers hcontext => ?_
  refine .step (.required (TypeUse.read_declared d)) fun type htype => ?_
  refine .step (.nullable (Accessor.read_declared d)) fun getter hgetter => ?_
  refine .step (.nullable (Accessor.read_declared d)) fun setter hsetter => ?_
  refine .step (.nullable (ValueParameter.read_declared d)) fun setterParameter hparameter => ?_
  refine .skip fun versionRequirement => ?_
  refine .skip fun backingField => ?_
  refine .skip fun annotationsMethod => ?_
  refine .skip fun delegateMethod => ?_
  refine .done ?_
  simp only [Property.leaves, List.forall_mem_cons, List.forall_mem_append,
    List.forall_mem_flatMap, Option.mem_toList, Leaf.declared_flags]
  exact ⟨hflags, htypeParameters, hreceiver, hcontext, htype, hgetter, hsetter, hparameter⟩

theorem TypeAlias.read_declared (j : Json) :
    Ensures (TypeAlias.ofJson? d j) fun a => ∀ l ∈ a.leaves, l.Declared := by
  refine .skip fun m => ?_
  refine .skip fun name => ?_
  refine .skip fun visibility => ?_
  refine .skip fun annotations => ?_
  refine .step (.list (TypeParameter.read_declared d)) fun typeParameters htypeParameters => ?_
  refine .step (.required (TypeUse.read_declared d)) fun underlyingType hunderlying => ?_
  refine .step (.nullable (TypeUse.read_declared d)) fun expandedType hexpanded => ?_
  refine .skip fun versionRequirement => ?_
  refine .done ?_
  simp only [TypeAlias.leaves, List.forall_mem_append, List.forall_mem_flatMap, Option.mem_toList]
  exact ⟨fun x _ => KotlinAnnot.leaves_declared x, htypeParameters, hunderlying, hexpanded⟩

theorem Members.read_declared (m : Entries) :
    Ensures (Members.ofEntries? d m) fun x => ∀ l ∈ x.leaves, l.Declared := by
  refine .step (.list (Function.read_declared d)) fun functions hfunctions => ?_
  refine .step (.list (Property.read_declared d)) fun properties hproperties => ?_
  refine .step (.list (Property.read_declared d)) fun localDelegatedProperties hlocals => ?_
  refine .step (.list (TypeAlias.read_declared d)) fun typeAliases haliases => ?_
  refine .done ?_
  simp only [Members.leaves, List.forall_mem_append, List.forall_mem_flatMap]
  exact ⟨hfunctions, hproperties, hlocals, haliases⟩

/-! ## Artifacts -/

theorem ClassInfo.read_declared (m : Entries) :
    Ensures (ClassInfo.ofEntries? d m) fun c => ∀ l ∈ c.leaves, l.Declared := by
  refine .skip fun className => ?_
  refine .skip fun kind => ?_
  refine .skip fun visibility => ?_
  refine .skip fun modality => ?_
  refine .step .flags fun flags hflags => ?_
  refine .step (.list (TypeParameter.read_declared d)) fun typeParameters htypeParameters => ?_
  refine .step (.list (TypeUse.read_declared d)) fun superTypes hsuper => ?_
  refine .step (.list (TypeUse.read_declared d)) fun contextReceivers hcontext => ?_
  refine .step (.list (Constructor.read_declared d)) fun constructors hconstructors => ?_
  refine .skip fun nestedClassNames => ?_
  refine .skip fun companionObjectName => ?_
  refine .skip fun sealedSubclassNames => ?_
  refine .skip fun enumEntryNames => ?_
  refine .skip fun underlyingPropertyName => ?_
  refine .step (.nullable (TypeUse.read_declared d)) fun underlyingPropertyType hunderlying => ?_
  refine .skip fun anonymousObjectOrigin => ?_
  refine .skip fun versionRequirement => ?_
  refine .step (Members.read_declared .gathered m) fun members hmembers => ?_
  refine .done ?_
  simp only [ClassInfo.leaves, List.forall_mem_cons, List.forall_mem_append,
    List.forall_mem_flatMap, Option.mem_toList, Leaf.declared_flags]
  exact ⟨hflags, htypeParameters, hsuper, hcontext, hconstructors, hunderlying, hmembers⟩

end

theorem Content.read_declared (m : Entries) :
    Ensures (Content.ofEntries? m) fun c => ∀ l ∈ c.leaves, l.Declared := by
  refine .skip fun kind => ?_
  split
  · exact .map (ClassInfo.read_declared .gathered m)
  · exact .map (Members.read_declared .gathered m)
  · refine .skip fun flavor => ?_
    refine .step (.list (Function.read_declared .gathered)) fun functions hfunctions => ?_
    refine .done ?_
    simpa only [Content.leaves, List.forall_mem_flatMap] using hfunctions
  · exact .map fun _ _ => by simp [Content.leaves]
  · refine .skip fun facadeName => ?_
    refine .step (Members.read_declared .gathered m) fun members hmembers => ?_
    exact .done hmembers
  · exact .fails

theorem Metadata.read_declared (j : Json) :
    Ensures (Metadata.ofJson? j) fun x => ∀ l ∈ x.leaves, l.Declared := by
  refine .skip fun m => ?_
  split
  · exact .fails
  · refine .skip fun version => ?_
    refine .step (Content.read_declared m) fun content hcontent => ?_
    exact .done hcontent

theorem Method.read_declared (j : Json) :
    Ensures (Method.ofJson? j) fun x => ∀ l ∈ x.leaves, l.Declared := by
  refine .skip fun m => ?_
  refine .skip fun name => ?_
  refine .skip fun descriptor => ?_
  refine .step .flags fun access haccess => ?_
  refine .skip fun annotations => ?_
  refine .done ?_
  simp only [Method.leaves, List.forall_mem_cons, List.forall_mem_flatMap, Leaf.declared_flags]
  exact ⟨haccess, fun a _ => JvmAnnot.leaves_declared a⟩

theorem Field.read_declared (j : Json) :
    Ensures (Field.ofJson? j) fun x => ∀ l ∈ x.leaves, l.Declared := by
  refine .skip fun m => ?_
  refine .skip fun name => ?_
  refine .skip fun descriptor => ?_
  refine .step .flags fun access haccess => ?_
  refine .skip fun constantValue => ?_
  refine .skip fun annotations => ?_
  refine .done ?_
  simp only [Field.leaves, List.forall_mem_cons, List.forall_mem_append, List.forall_mem_flatMap,
    Leaf.declared_flags]
  exact ⟨haccess, fun c _ => Constant.leaves_declared c, fun a _ => JvmAnnot.leaves_declared a⟩

theorem Artifact.read_declared (j : Json) :
    Ensures (Artifact.ofJson? j) fun a => ∀ l ∈ a.leaves, l.Declared := by
  refine .skip fun m => ?_
  refine .skip fun name => ?_
  refine .step .flags fun access haccess => ?_
  refine .step (.list Method.read_declared) fun methods hmethods => ?_
  refine .step (.list Field.read_declared) fun fields hfields => ?_
  refine .skip fun annotations => ?_
  refine .step (.nullable Metadata.read_declared) fun metadata hmetadata => ?_
  refine .done ?_
  simp only [Artifact.leaves, List.forall_mem_cons, List.forall_mem_append,
    List.forall_mem_flatMap, Option.mem_toList, Leaf.declared_flags]
  exact ⟨haccess, hmethods, hfields, fun x _ => JvmAnnot.leaves_declared x, hmetadata⟩

/-- Reading sets no undeclared flag. -/
theorem PoolDocument.read_declared (j : Json) :
    Ensures (PoolDocument.ofJson? j) fun d => ∀ l ∈ d.leaves, l.Declared := by
  refine .skip fun m => ?_
  refine .step (.required (.items Artifact.read_declared)) fun artifacts hartifacts => ?_
  refine .done ?_
  simpa only [PoolDocument.leaves, List.forall_mem_flatMap] using hartifacts

/-! ## Normal forms -/

namespace PoolDocument

/-- The normal form of a document: what is read, written again. -/
def normalized? (j : Json) : Option Json := (ofJson? j).map toJson

theorem ofJson?_toJson_of_read {j : Json} {d : PoolDocument} (h : ofJson? j = some d)
    (hf : ∀ l ∈ d.leaves, l.Finite) : ofJson? d.toJson = some d :=
  ofJson?_toJson d fun l hl => ⟨read_declared j d h l hl, hf l hl⟩

end PoolDocument

/-- Reading undoes writing: a document whose flags are all declared and whose numbers are all finite
is read back from what is written. Reading declares its flags, so a document that was read is read
back as soon as its numbers are finite, and its normal form is its own normal form. -/
theorem reading_undoes_writing :
    (∀ d : PoolDocument, (∀ l ∈ d.leaves, l.Declared) → (∀ l ∈ d.leaves, l.Finite) →
      PoolDocument.ofJson? d.toJson = some d) ∧
    (∀ (j : Json) (d : PoolDocument), PoolDocument.ofJson? j = some d →
      (∀ l ∈ d.leaves, l.Finite) →
        PoolDocument.ofJson? d.toJson = some d ∧
        (PoolDocument.normalized? j).bind PoolDocument.normalized? =
          PoolDocument.normalized? j) := by
  refine ⟨fun d hd hf => PoolDocument.ofJson?_toJson d fun l hl => ⟨hd l hl, hf l hl⟩, ?_⟩
  intro j d h hf
  have hback := PoolDocument.ofJson?_toJson_of_read h hf
  refine ⟨hback, ?_⟩
  have hnormal : PoolDocument.normalized? j = some d.toJson := read_map h
  rw [hnormal, Option.bind_some]
  exact read_map hback

/-- A class with a constant that is not a whole number, an annotation within an annotation, and a
type with arguments. -/
def PoolDocument.sample : PoolDocument where
  artifacts := [{
    name := "pkg/Box"
    access := .ofList [.isPublic, .isFinal]
    fields := [{
      name := "half"
      descriptor := "F"
      constantValue := some (.float ⟨false, 1056964608, by decide⟩) }]
    annotations := [{
      typeDescriptor := "Lpkg/Outer;"
      elements := [{
        name := some "inner"
        value := .annot {
          typeDescriptor := "Lpkg/Inner;"
          elements := [{ name := some "values", value := .array [{ value := .constant (.long (-1)) }] }] } }] }]
    metadata := some {
      version := ⟨1, 9, 0⟩
      content := .classOf {
        className := "pkg/Box"
        flags := .ofList [.data]
        superTypes := [{
          className := some "pkg/Base"
          arguments := [.star, .type { className := some "kotlin/Int", flags := .ofList [.nullable] }]
          annotations := [{
            className := "pkg/Mark"
            arguments := [{ name := "at", value := .array [.double ⟨true, 1, by decide⟩] }] }] }] } } }]

/-- A document with its keys out of order, a flag given twice and a key that nothing knows. -/
def PoolDocument.untidy : Json :=
  .object [
    ("note", .null),
    ("artifacts", .array [.object [
      ("fields", .array [.object [
        ("constant_value", .object [("value", .number (.integer 2)), ("type", .string "double")]),
        ("descriptor", .string "D"),
        ("name", .string "two")]]),
      ("access", .array [.string "public", .string "public"]),
      ("name", .string "pkg/Box")]])]

/-- What the untidy document says. -/
def PoolDocument.tidied : PoolDocument where
  artifacts := [{
    name := "pkg/Box"
    access := .ofList [.isPublic, .isPublic]
    fields := [{ name := "two", descriptor := "D", constantValue := some (.double (.ofInt 2)) }] }]

theorem reading_undoes_writing_sample :
    ((∀ l ∈ PoolDocument.sample.leaves, l.Declared) ∧
      (∀ l ∈ PoolDocument.sample.leaves, l.Finite) ∧
      PoolDocument.ofJson? PoolDocument.sample.toJson = some PoolDocument.sample) ∧
    PoolDocument.ofJson? PoolDocument.untidy = some PoolDocument.tidied ∧
    PoolDocument.ofJson? PoolDocument.tidied.toJson = some PoolDocument.tidied ∧
    (PoolDocument.normalized? PoolDocument.untidy).bind PoolDocument.normalized? =
      PoolDocument.normalized? PoolDocument.untidy := by
  have declared : ∀ l ∈ PoolDocument.sample.leaves, l.Declared := by decide
  have finite : ∀ l ∈ PoolDocument.sample.leaves, l.Finite := by decide
  have back := reading_undoes_writing.1 _ declared finite
  have read : PoolDocument.ofJson? PoolDocument.untidy = some PoolDocument.tidied := rfl
  exact ⟨⟨declared, finite, back⟩, read, reading_undoes_writing.2 _ _ read (by decide)⟩

end KotlinMetadata
