/-
Each reader is governed by the table of keys of its shape: the steps of the
reader are those of the table, in the same order. Where a reader looks at
more than the values of its keys (whether a value is readable, which of a tag
and its value stands first), it does so only for values with unreadable parts.
-/
import KotlinMetadata.Proofs.Codec.Shape

namespace KotlinMetadata

open Json

namespace Json

theorem allMembersReadable_iff {m : Entries} :
    allMembersReadable m = true ↔ ∀ p ∈ m, p.2.isReadable = true := by
  induction m with
  | nil => simp
  | cons p m ih => simp [ih]

/-- With readable members, a tag and its value may stand in either order. -/
theorem tagged?_bind {β : Type} {d : Delivery} {m : Entries} (hm : allMembersReadable m = true)
    (f : String → Json → Option β) : ((object m).tagged? d).bind (fun t => f t.tag t.value) =
      m.required "type" (name? d) >>= fun tag => m.required "value" (f tag) := by
  simp only [tagged?, fields?, Option.bind_eq_bind, Option.bind_some, Option.bind_assoc]
  refine Option.bind_congr fun tag _ => ?_
  unfold Entries.required
  cases hv : m.field? "value" with
  | none => rfl
  | some o =>
    cases o with
    | none => rfl
    | some v =>
      have hr : v.isReadable = true := allMembersReadable_iff.1 hm _ (Entries.mem_of_field? hv)
      simp only [Option.bind_some, hr, if_true]
      split <;> rfl

theorem tagged?_bind_isSome {β : Type} {d : Delivery} {m : Entries} {f : String → Json → Option β}
    (h : (((object m).tagged? d).bind fun t => f t.tag t.value).isSome) :
    (m.required "type" (name? d) >>= fun tag => m.required "value" (f tag)).isSome := by
  cases ht : (object m).tagged? d with
  | none => simp [ht] at h
  | some t =>
    obtain ⟨_, hobject, htag, hvalue, -⟩ := of_tagged? ht
    cases hobject
    rw [ht] at h
    rw [htag]
    simpa [Entries.required, hvalue] using h

/-- A gathered tag leaves its value gathered. -/
theorem delivery_of_tagged? {j : Json} {t : Tagged} (h : j.tagged? .gathered = some t) :
    t.delivery = .gathered := by
  obtain ⟨-, -, -, -, hdelivery | hdelivery⟩ := of_tagged? h
  · exact hdelivery
  · exact hdelivery

/-- Where a kind is read at all, it is read among gathered values too. -/
theorem kind?_gathered {d : Delivery} {kinds : List String} {v : Json} {kind : String}
    (h : v.kind? d kinds = some kind) : v.kind? .gathered kinds = some kind := by
  unfold kind? at h ⊢
  split at h
  · exact h
  · split at h
    · next hd => rwa [if_pos ⟨rfl, hd.2⟩]
    · cases h
  · cases h

end Json

/-! ## The readers and their tables -/

theorem Version.governed : Governed Shape.version.known fun m => Version.ofJson? (.object m) := by
  refine .object ?_
  refine .cons (.required .uint32) fun major => ?_
  refine .cons (.required .uint32) fun minor => ?_
  refine .cons (.withDefault .uint32) fun patch => ?_
  exact .done _

theorem MethodRef.governed : Governed Shape.methodRef.known fun m => MethodRef.ofJson? (.object m) := by
  refine .object ?_
  refine .cons (.nullable .string) fun owner => ?_
  refine .cons (.required .string) fun name => ?_
  refine .cons (.required .string) fun descriptor => ?_
  exact .done _

theorem FieldRef.governed : Governed Shape.fieldRef.known fun m => FieldRef.ofJson? (.object m) := by
  refine .object ?_
  refine .cons (.required .string) fun name => ?_
  refine .cons (.required .string) fun descriptor => ?_
  exact .done _

/-! ### Annotations in the metadata -/

theorem KotlinAnnot.governed :
    Governed Shape.kotlinAnnot.known fun m => KotlinAnnot.ofDelivered? .gathered (.object m) := by
  simp only [KotlinAnnot.ofDelivered?_eq]
  refine .object ?_
  refine .cons (.required .string) fun className => ?_
  refine .cons (.list (.self .gathered .annotArgument)) fun arguments => ?_
  exact .done _

theorem AnnotArgument.governed :
    Governed Shape.annotArgument.known fun m => AnnotArgument.ofDelivered? .gathered (.object m) := by
  simp only [AnnotArgument.ofDelivered?_eq]
  refine .object ?_
  refine .cons (.required .string) fun name => ?_
  refine .cons (.required (.self .gathered .annotValue)) fun value => ?_
  exact .done _

theorem AnnotValue.classLiteral_governed :
    Governed Shape.classLiteral.known fun m => AnnotValue.classLiteralOfJson? (.object m) := by
  refine .entries ?_
  refine .cons (.required .string) fun className => ?_
  refine .cons (.withDefault .uint32) fun dimensions => ?_
  exact .done _

theorem AnnotValue.enumEntry_governed :
    Governed Shape.enumEntry.known fun m => AnnotValue.enumEntryOfJson? (.object m) := by
  refine .entries ?_
  refine .cons (.required .string) fun className => ?_
  refine .cons (.required .string) fun entryName => ?_
  exact .done _

theorem AnnotValue.payload_governed (tag : String) : Governed (fun _ => Fields.annotValue tag)
    fun m => m.required "value"
      (payload (KotlinAnnot.ofDelivered? .gathered) (AnnotValue.ofDelivered? .gathered) tag) := by
  unfold Fields.annotValue
  split
  · exact .required (.self .gathered .classLiteral)
  · exact .required (.self .gathered .enumEntry)
  · exact .required (.map _ (.self .gathered .kotlinAnnot))
  · exact .required (.map _ (.list (.self .gathered .annotValue)))
  · refine .required (.plain (fun xs => ?_) fun m => ?_)
    · unfold payload
      split <;> first | rfl | contradiction
    · unfold payload
      split <;> first | rfl | contradiction

theorem AnnotValue.governed :
    Governed Shape.annotValue.known fun m => AnnotValue.ofDelivered? .gathered (.object m) := by
  have hread : ∀ j : Json, AnnotValue.ofDelivered? .gathered j = (j.tagged? .gathered).bind fun t =>
      payload (KotlinAnnot.ofDelivered? .gathered) (AnnotValue.ofDelivered? .gathered) t.tag
        t.value := by
    intro j
    rw [AnnotValue.ofDelivered?_eq]
    refine Option.bind_congr fun t ht => ?_
    rw [delivery_of_tagged? ht]
  simp only [hread]
  refine .congr (.tagged (.self .gathered .name) (fun _ _ h => h) AnnotValue.payload_governed)
    (fun m hm => ?_) fun m hs => ?_
  · exact tagged?_bind hm _
  · exact tagged?_bind_isSome hs

/-! ### Annotations in the class file -/

theorem Constant.governed (d : Delivery) :
    Governed Shape.constant.known fun m => Constant.ofDelivered? d (.object m) := by
  have hplain : ∀ tag, Shape.plain.Reads (payload tag) := by
    intro tag
    refine .plain (fun xs => ?_) fun m => ?_
    · unfold payload
      split <;> rfl
    · unfold payload
      split <;> rfl
  have hsteps : Governed Shape.constant.known fun m =>
      m.required "type" (name? d) >>= fun tag => m.required "value" (payload tag) :=
    .cons (.required (.self d .name)) fun tag => .required (hplain tag)
  exact hsteps.congr (fun m hm => tagged?_bind hm payload) fun m hs => tagged?_bind_isSome hs

theorem JvmAnnot.governed (d : Delivery) :
    Governed Shape.jvmAnnot.known fun m => JvmAnnot.ofDelivered? d (.object m) := by
  simp only [JvmAnnot.ofDelivered?_eq]
  refine .object ?_
  refine .cons (.required .string) fun typeDescriptor => ?_
  refine .cons (.list (.self d .element)) fun elements => ?_
  exact .done _

theorem Element.governed (d : Delivery) :
    Governed Shape.element.known fun m => Element.ofDelivered? d (.object m) := by
  simp only [Element.ofDelivered?_eq]
  refine .object ?_
  refine .cons (.nullable .string) fun name => ?_
  refine .cons (.required (.self d .elementValue)) fun value => ?_
  exact .done _

theorem ElementValue.payload_governed (kind : String) :
    Governed (fun _ => Fields.elementValue kind)
      (payload (JvmAnnot.ofDelivered? .gathered) (Element.ofDelivered? .gathered) kind) := by
  unfold Fields.elementValue
  split
  · exact .map (.required (.self .gathered .constant))
  · refine .cons (.required .string) fun typeDescriptor => ?_
    refine .cons (.required .string) fun constantName => ?_
    exact .done _
  · exact .map (.required .string)
  · exact .map (.required (.self .gathered .jvmAnnot))
  · exact .map (.required (.list (.self .gathered .element)))
  · have hnone : payload (JvmAnnot.ofDelivered? .gathered) (Element.ofDelivered? .gathered) kind =
        fun _ => none := by
      unfold payload
      split <;> first | rfl | contradiction
    rw [hnone]
    exact .fails

theorem ElementValue.governed (d : Delivery) :
    Governed Shape.elementValue.known fun m => ElementValue.ofDelivered? d (.object m) := by
  have hread : ∀ m : Entries, ElementValue.ofDelivered? d (.object m) =
      m.required "kind" (kind? d kinds) >>= fun kind =>
        if !allMembersReadable m then none
        else payload (JvmAnnot.ofDelivered? .gathered) (Element.ofDelivered? .gathered) kind m := by
    intro m
    rw [ElementValue.ofDelivered?_eq, ElementValue.parts?, isReadable_object]
    simp only [Option.bind_eq_bind, Option.bind_assoc]
    rfl
  simp only [hread]
  refine .congr (.tagged (.kind d kinds) (fun _ _ => kind?_gathered) ElementValue.payload_governed)
    (fun m hm => ?_) fun m hs => ?_
  · rw [hm]
    rfl
  · cases hm : allMembersReadable m with
    | true => simpa [hm] using hs
    | false => simp [hm] at hs

/-! ### Types and declarations -/

theorem TypeUse.governed :
    Governed Shape.typeUse.known fun m => TypeUse.ofJson? .gathered (.object m) := by
  simp only [TypeUse.ofJson?_eq]
  refine .object ?_
  refine .cons (.nullable .string) fun className => ?_
  refine .cons (.nullable .string) fun aliasName => ?_
  refine .cons (.nullable .uint32) fun parameterId => ?_
  refine .cons .flags fun flags => ?_
  refine .cons .named fun variance => ?_
  refine .cons (.list (.self .gathered .typeArgument)) fun arguments => ?_
  refine .cons (.list (.self .gathered .kotlinAnnot)) fun annotations => ?_
  exact .done _

theorem TypeParameter.governed :
    Governed Shape.typeParameter.known fun m => TypeParameter.ofJson? .gathered (.object m) := by
  refine .object ?_
  refine .cons (.required .uint32) fun id => ?_
  refine .cons (.required .string) fun name => ?_
  refine .cons .named fun variance => ?_
  refine .cons .flags fun flags => ?_
  refine .cons (.list (.self .gathered .typeUse)) fun upperBounds => ?_
  refine .cons (.list (.self .gathered .kotlinAnnot)) fun annotations => ?_
  exact .done _

theorem ValueParameter.governed :
    Governed Shape.valueParameter.known fun m => ValueParameter.ofJson? .gathered (.object m) := by
  refine .object ?_
  refine .cons (.required .string) fun name => ?_
  refine .cons .flags fun flags => ?_
  refine .cons (.required (.self .gathered .typeUse)) fun type => ?_
  refine .cons (.nullable (.self .gathered .typeUse)) fun varargElementType => ?_
  exact .done _

theorem Constructor.governed :
    Governed Shape.constructor.known fun m => Constructor.ofJson? .gathered (.object m) := by
  refine .object ?_
  refine .cons .named fun visibility => ?_
  refine .cons .flags fun flags => ?_
  refine .cons (.list (.self .gathered .valueParameter)) fun valueParameters => ?_
  refine .cons (.nullable (.self .gathered .version)) fun versionRequirement => ?_
  refine .cons (.nullable (.self .gathered .methodRef)) fun signature => ?_
  exact .done _

theorem Function.governed :
    Governed Shape.function.known fun m => Function.ofJson? .gathered (.object m) := by
  refine .object ?_
  refine .cons (.required .string) fun name => ?_
  refine .cons .named fun visibility => ?_
  refine .cons .named fun modality => ?_
  refine .cons .named fun memberKind => ?_
  refine .cons .flags fun flags => ?_
  refine .cons (.list (.self .gathered .typeParameter)) fun typeParameters => ?_
  refine .cons (.nullable (.self .gathered .typeUse)) fun receiverType => ?_
  refine .cons (.list (.self .gathered .typeUse)) fun contextReceivers => ?_
  refine .cons (.list (.self .gathered .valueParameter)) fun valueParameters => ?_
  refine .cons (.required (.self .gathered .typeUse)) fun returnType => ?_
  refine .cons (.nullable (.self .gathered .version)) fun versionRequirement => ?_
  refine .cons (.nullable (.self .gathered .methodRef)) fun signature => ?_
  exact .done _

theorem Accessor.governed :
    Governed Shape.accessor.known fun m => Accessor.ofDelivered? .gathered (.object m) := by
  refine .object ?_
  refine .cons .named fun visibility => ?_
  refine .cons .named fun modality => ?_
  refine .cons .flags fun flags => ?_
  refine .cons (.nullable (.self .gathered .methodRef)) fun signature => ?_
  exact .done _

theorem Property.governed :
    Governed Shape.property.known fun m => Property.ofJson? .gathered (.object m) := by
  refine .object ?_
  refine .cons (.required .string) fun name => ?_
  refine .cons .named fun visibility => ?_
  refine .cons .named fun modality => ?_
  refine .cons .named fun memberKind => ?_
  refine .cons .flags fun flags => ?_
  refine .cons (.list (.self .gathered .typeParameter)) fun typeParameters => ?_
  refine .cons (.nullable (.self .gathered .typeUse)) fun receiverType => ?_
  refine .cons (.list (.self .gathered .typeUse)) fun contextReceivers => ?_
  refine .cons (.required (.self .gathered .typeUse)) fun type => ?_
  refine .cons (.nullable (.self .gathered .accessor)) fun getter => ?_
  refine .cons (.nullable (.self .gathered .accessor)) fun setter => ?_
  refine .cons (.nullable (.self .gathered .valueParameter)) fun setterParameter => ?_
  refine .cons (.nullable (.self .gathered .version)) fun versionRequirement => ?_
  refine .cons (.nullable (.self .gathered .fieldRef)) fun backingField => ?_
  refine .cons (.nullable (.self .gathered .methodRef)) fun annotationsMethod => ?_
  refine .cons (.nullable (.self .gathered .methodRef)) fun delegateMethod => ?_
  exact .done _

theorem TypeAlias.governed :
    Governed Shape.typeAlias.known fun m => TypeAlias.ofJson? .gathered (.object m) := by
  refine .object ?_
  refine .cons (.required .string) fun name => ?_
  refine .cons .named fun visibility => ?_
  refine .cons (.list (.self .gathered .kotlinAnnot)) fun annotations => ?_
  refine .cons (.list (.self .gathered .typeParameter)) fun typeParameters => ?_
  refine .cons (.required (.self .gathered .typeUse)) fun underlyingType => ?_
  refine .cons (.nullable (.self .gathered .typeUse)) fun expandedType => ?_
  refine .cons (.nullable (.self .gathered .version)) fun versionRequirement => ?_
  exact .done _

theorem Members.governed : Governed (fun _ => Fields.members) (Members.ofEntries? .gathered) := by
  refine .cons (.list (.self .gathered .function)) fun functions => ?_
  refine .cons (.list (.self .gathered .property)) fun properties => ?_
  refine .cons (.list (.self .gathered .property)) fun localDelegatedProperties => ?_
  refine .cons (.list (.self .gathered .typeAlias)) fun typeAliases => ?_
  exact .done _

/-! ### Artifacts -/

theorem ClassInfo.governed :
    Governed (fun _ => Fields.content "class") (ClassInfo.ofEntries? .gathered) := by
  refine .cons (.required .string) fun className => ?_
  refine .cons .named fun kind => ?_
  refine .cons .named fun visibility => ?_
  refine .cons .named fun modality => ?_
  refine .cons .flags fun flags => ?_
  refine .cons (.list (.self .gathered .typeParameter)) fun typeParameters => ?_
  refine .cons (.list (.self .gathered .typeUse)) fun superTypes => ?_
  refine .cons (.list (.self .gathered .typeUse)) fun contextReceivers => ?_
  refine .cons (.list (.self .gathered .constructor)) fun constructors => ?_
  refine .cons (.list .string) fun nestedClassNames => ?_
  refine .cons (.nullable .string) fun companionObjectName => ?_
  refine .cons (.list .string) fun sealedSubclassNames => ?_
  refine .cons (.list .string) fun enumEntryNames => ?_
  refine .cons (.nullable .string) fun underlyingPropertyName => ?_
  refine .cons (.nullable (.self .gathered .typeUse)) fun underlyingPropertyType => ?_
  refine .cons (.nullable .string) fun anonymousObjectOrigin => ?_
  refine .cons (.nullable (.self .gathered .version)) fun versionRequirement => ?_
  exact .last Members.governed

/-- The content of a kind. -/
def Content.payload (kind : String) (m : Entries) : Option Content :=
  match kind with
  | "class" => (ClassInfo.ofEntries? .gathered m).map .classOf
  | "fileFacade" => (Members.ofEntries? .gathered m).map .fileFacade
  | "syntheticClass" =>
    return .synthetic {
      flavor := ← m.namedField .gathered "flavor"
      functions := ← m.listField "functions" (Function.ofJson? .gathered) }
  | "multiFileFacade" => (m.listField "part_class_names" string?).map .multiFileFacade
  | "multiFilePart" =>
    return .multiFilePart {
      facadeName := ← m.required "facade_name" string?
      members := ← Members.ofEntries? .gathered m }
  | _ => none

theorem Content.payload_governed (kind : String) :
    Governed (fun _ => Fields.content kind) (payload kind) := by
  unfold Fields.content
  split
  · exact .map ClassInfo.governed
  · exact .map Members.governed
  · refine .cons .named fun flavor => ?_
    refine .cons (.list (.self .gathered .function)) fun functions => ?_
    exact .done _
  · exact .map (.list .string)
  · refine .cons (.required .string) fun facadeName => ?_
    exact .last Members.governed
  · have hnone : payload kind = fun _ => none := by
      unfold payload
      split <;> first | rfl | contradiction
    rw [hnone]
    exact .fails

theorem Content.governed : Governed
    (Fields.tagged "kind" .plain (kind? .gathered kinds) Fields.content) Content.ofEntries? :=
  .tagged (.kind .gathered kinds) (fun _ _ h => h) Content.payload_governed

/-- The version that a list of parts is. -/
def Version.ofParts? : List UInt32 → Option Version
  | [major, minor, patch] => some { major, minor, patch }
  | _ => none

theorem Version.ofTriple?_eq (v : Json) :
    Version.ofTriple? v = (v.list? uint32?).bind Version.ofParts? := by
  cases v with
  | array xs =>
    rcases xs with _ | ⟨a, _ | ⟨b, _ | ⟨c, _ | ⟨e, rest⟩⟩⟩⟩ <;>
      simp [Version.ofTriple?, Version.ofParts?, list?, Option.bind_assoc]
  | _ => rfl

theorem Version.reads_ofTriple? : (Shape.list .plain).Reads Version.ofTriple? := by
  rw [funext Version.ofTriple?_eq]
  exact .bind _ (.list .uint32)

theorem Metadata.governed : Governed Shape.metadata.known fun m => Metadata.ofJson? (.object m) := by
  have h : Governed Shape.metadata.known fun m => do
      let version ← m.required "version" Version.ofTriple?
      let content ← Content.ofEntries? m
      return ({ version, content } : Metadata) :=
    .cons (.required Version.reads_ofTriple?) fun version => .last Content.governed
  simp only [Metadata.ofJson?, isReadable_object]
  refine h.congr (fun m hm => ?_) fun m hs => ?_
  · rw [hm]
    rfl
  · cases hm : allMembersReadable m with
    | true => simpa [hm, entries?] using hs
    | false => simp [hm, entries?] at hs

theorem Method.governed : Governed Shape.method.known fun m => Method.ofJson? (.object m) := by
  refine .object ?_
  refine .cons (.required .string) fun name => ?_
  refine .cons (.required .string) fun descriptor => ?_
  refine .cons .flags fun access => ?_
  refine .cons (.list (.self .direct .jvmAnnot)) fun annotations => ?_
  exact .done _

theorem Field.governed : Governed Shape.field.known fun m => Field.ofJson? (.object m) := by
  refine .object ?_
  refine .cons (.required .string) fun name => ?_
  refine .cons (.required .string) fun descriptor => ?_
  refine .cons .flags fun access => ?_
  refine .cons (.nullable (.self .direct .constant)) fun constantValue => ?_
  refine .cons (.list (.self .direct .jvmAnnot)) fun annotations => ?_
  exact .done _

theorem Artifact.governed : Governed Shape.artifact.known fun m => Artifact.ofJson? (.object m) := by
  refine .object ?_
  refine .cons (.required .string) fun name => ?_
  refine .cons .flags fun access => ?_
  refine .cons (.list (.self .direct .method)) fun methods => ?_
  refine .cons (.list (.self .direct .field)) fun fields => ?_
  refine .cons (.list (.self .direct .jvmAnnot)) fun annotations => ?_
  refine .cons (.nullable (.self .direct .metadata)) fun metadata => ?_
  exact .done _

theorem PoolDocument.governed : Governed Shape.pool.known fun m => PoolDocument.ofJson? (.object m) := by
  refine .object ?_
  refine .cons (.required (.list (.self .direct .artifact))) fun artifacts => ?_
  exact .done _

/-! ## All shapes -/

/-- The reader of every open shape is governed by the keys the shape knows. -/
theorem Shape.governed (d : Delivery) {s : Shape} (h : s.isOpen = true) :
    Governed s.known fun m => s.read d (.object m) := by
  cases s with
  | plain | nothing | name | list s | typeArgument => cases h
  | pool => exact PoolDocument.governed
  | artifact => exact Artifact.governed
  | method => exact Method.governed
  | field => exact Field.governed
  | constant => exact Constant.governed d
  | jvmAnnot => exact JvmAnnot.governed d
  | element => exact Element.governed d
  | elementValue => exact ElementValue.governed d
  | metadata => exact Metadata.governed
  | version => exact Version.governed
  | methodRef => exact MethodRef.governed
  | fieldRef => exact FieldRef.governed
  | constructor => exact Constructor.governed
  | function => exact Function.governed
  | accessor => exact Accessor.governed
  | property => exact Property.governed
  | typeAlias => exact TypeAlias.governed
  | typeParameter => exact TypeParameter.governed
  | valueParameter => exact ValueParameter.governed
  | typeUse => exact TypeUse.governed
  | kotlinAnnot => exact KotlinAnnot.governed
  | annotArgument => exact AnnotArgument.governed
  | annotValue => exact AnnotValue.governed
  | classLiteral => exact AnnotValue.classLiteral_governed
  | enumEntry => exact AnnotValue.enumEntry_governed

theorem Fields.tagged_forall {key : String} {s : Shape} {tag : Json → Option String}
    {fields : String → Fields} {P : Fields → Prop} (m : Entries) (hnone : P [(key, s)])
    (htag : ∀ t, P ((key, s) :: fields t)) : P (Fields.tagged key s tag fields m) := by
  unfold Fields.tagged
  cases m.required key tag with
  | none => exact hnone
  | some t => exact htag t

/-- No key stands twice in the table of an open shape. -/
theorem Shape.known_nodup {s : Shape} (h : s.isOpen = true) (m : Entries) :
    ((s.known m).map Prod.fst).Nodup := by
  cases s with
  | plain | nothing | name | list s | typeArgument => cases h
  | elementValue =>
    refine Fields.tagged_forall (P := fun K => (K.map Prod.fst).Nodup) m (by decide) fun kind => ?_
    unfold Fields.elementValue
    split <;> decide
  | annotValue =>
    refine Fields.tagged_forall (P := fun K => (K.map Prod.fst).Nodup) m (by decide) fun tag => ?_
    unfold Fields.annotValue
    split <;> decide
  | metadata =>
    refine Fields.tagged_forall (P := fun K => ("version" :: K.map Prod.fst).Nodup) m (by decide)
      fun kind => ?_
    unfold Fields.content
    split <;> decide
  | _ =>
    simp only [Shape.known]
    decide

end KotlinMetadata
