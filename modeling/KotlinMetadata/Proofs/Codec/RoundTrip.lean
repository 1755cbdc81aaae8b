/-
Reading what was written. A value whose leaves are exact, its flags declared
and its numbers finite, is read back as it was, one lemma for each type: the
members of its object are looked up one by one, in the order in which the
reader asks for them.
-/
import KotlinMetadata.Proofs.Codec.Field
import KotlinMetadata.Proofs.Codec.Nesting

namespace KotlinMetadata

open Json

/-! ## Annotations in the metadata -/

/-- An argument as a document value. -/
def AnnotArgument.toJson (a : AnnotArgument) : Json :=
  .object [("name", .string a.name), ("value", a.value.toJson)]

theorem AnnotArgument.listToJson_eq (args : List AnnotArgument) :
    AnnotArgument.listToJson args = args.map AnnotArgument.toJson := by
  induction args with
  | nil => rfl
  | cons a rest ih =>
    obtain ⟨name, value⟩ := a
    rw [AnnotArgument.listToJson, ih, List.map_cons, AnnotArgument.toJson]

theorem AnnotValue.listToJson_eq (values : List AnnotValue) :
    AnnotValue.listToJson values = values.map AnnotValue.toJson := by
  induction values with
  | nil => rfl
  | cons v rest ih => rw [AnnotValue.listToJson, ih, List.map_cons]

/-- A tagged value is read by its tag, which stands first. -/
theorem AnnotValue.ofDelivered?_tagged {d : Delivery} {tag : String} {value : Json} {v : AnnotValue}
    (h : payload (KotlinAnnot.ofDelivered? d) (AnnotValue.ofDelivered? d) tag value = some v) :
    AnnotValue.ofDelivered? d (.object [("type", .string tag), ("value", value)]) = some v := by
  rw [AnnotValue.ofDelivered?_eq]
  exact h

theorem AnnotValue.classLiteralOfJson?_object (name : String) (dimensions : UInt32) :
    AnnotValue.classLiteralOfJson? (.object [("class_name", .string name),
      ("array_dimensions", .ofInt dimensions.toNat)]) = some (.classLiteral name dimensions) := by
  let m : Entries := [("class_name", .string name), ("array_dimensions", .ofInt dimensions.toNat)]
  change AnnotValue.classLiteralOfJson? (.object m) = _
  have className : m.required "class_name" string? = some name := Entries.required_of rfl rfl
  have arrayDimensions : m.withDefault "array_dimensions" 0 uint32? = some dimensions :=
    Entries.withDefault_of rfl (uint32?_ofInt dimensions)
  simp only [AnnotValue.classLiteralOfJson?, entries?, className, arrayDimensions,
    Option.bind_eq_bind, Option.bind_some]
  rfl

mutual
theorem KotlinAnnot.ofDelivered?_toJson (d : Delivery) : ∀ a : KotlinAnnot,
    (∀ l ∈ a.leaves, l.Exact) → KotlinAnnot.ofDelivered? d a.toJson = some a
  | ⟨className, args⟩, h => by
    rw [KotlinAnnot.leaves] at h
    have hargs := AnnotArgument.ofDelivered?_toJson_of_mem d args h
    have arguments : Entries.listField [("class_name", .string className),
        ("arguments", .ofList AnnotArgument.toJson args)] "arguments" (AnnotArgument.ofDelivered? d) =
          some args := Entries.listField_of rfl hargs
    rw [KotlinAnnot.ofDelivered?_eq, KotlinAnnot.toJson, AnnotArgument.listToJson_eq, ← ofList]
    simp only [fields?, Option.bind_eq_bind, Option.bind_some, arguments]
    rfl
theorem AnnotArgument.ofDelivered?_toJson_of_mem (d : Delivery) : ∀ args : List AnnotArgument,
    (∀ l ∈ AnnotArgument.leavesOf args, l.Exact) →
      ∀ a ∈ args, AnnotArgument.ofDelivered? d a.toJson = some a
  | [], _, a, ha => by simp at ha
  | ⟨name, v⟩ :: rest, h, a, ha => by
    rw [AnnotArgument.leavesOf, List.forall_mem_append] at h
    have hvalue := AnnotValue.ofDelivered?_toJson d v h.1
    have hrest := AnnotArgument.ofDelivered?_toJson_of_mem d rest h.2
    rcases List.mem_cons.1 ha with rfl | ha
    · have value : Entries.required [("name", .string name), ("value", v.toJson)] "value"
          (AnnotValue.ofDelivered? d) = some v := Entries.required_of rfl hvalue
      rw [AnnotArgument.ofDelivered?_eq, AnnotArgument.toJson]
      simp only [fields?, Option.bind_eq_bind, Option.bind_some, value]
      rfl
    · exact hrest a ha
theorem AnnotValue.ofDelivered?_toJson (d : Delivery) : ∀ v : AnnotValue,
    (∀ l ∈ v.leaves, l.Exact) → AnnotValue.ofDelivered? d v.toJson = some v
  | .byte v, _ => AnnotValue.ofDelivered?_tagged (read_map (int8?_ofInt v))
  | .char v, _ => AnnotValue.ofDelivered?_tagged (read_map (char?_string v))
  | .short v, _ => AnnotValue.ofDelivered?_tagged (read_map (int16?_ofInt v))
  | .int v, _ => AnnotValue.ofDelivered?_tagged (read_map (int32?_ofInt v))
  | .long v, _ => AnnotValue.ofDelivered?_tagged (read_map (int64?_ofInt v))
  | .float v, h => by
    have hv : v.isFinite = true := by simpa [AnnotValue.leaves] using h
    exact AnnotValue.ofDelivered?_tagged (read_map (single?_ofSingle hv))
  | .double v, h => by
    have hv : v.isFinite = true := by simpa [AnnotValue.leaves] using h
    exact AnnotValue.ofDelivered?_tagged (read_map (double?_ofDouble hv))
  | .boolean v, _ => AnnotValue.ofDelivered?_tagged rfl
  | .ubyte v, _ => AnnotValue.ofDelivered?_tagged (read_map (uint8?_ofInt v))
  | .ushort v, _ => AnnotValue.ofDelivered?_tagged (read_map (uint16?_ofInt v))
  | .uint v, _ => AnnotValue.ofDelivered?_tagged (read_map (uint32?_ofInt v))
  | .ulong v, _ => AnnotValue.ofDelivered?_tagged (read_map (uint64?_ofInt v))
  | .string v, _ => AnnotValue.ofDelivered?_tagged rfl
  | .classLiteral className dimensions, _ =>
    AnnotValue.ofDelivered?_tagged (AnnotValue.classLiteralOfJson?_object className dimensions)
  | .enumEntry className entryName, _ => AnnotValue.ofDelivered?_tagged rfl
  | .annot a, h => by
    rw [AnnotValue.leaves] at h
    have ha := KotlinAnnot.ofDelivered?_toJson d a h
    exact AnnotValue.ofDelivered?_tagged (read_map ha)
  | .array values, h => by
    rw [AnnotValue.leaves] at h
    have hvalues := AnnotValue.ofDelivered?_toJson_of_mem d values h
    rw [AnnotValue.toJson, AnnotValue.listToJson_eq]
    exact AnnotValue.ofDelivered?_tagged (read_map (list?_ofList hvalues))
theorem AnnotValue.ofDelivered?_toJson_of_mem (d : Delivery) : ∀ values : List AnnotValue,
    (∀ l ∈ AnnotValue.leavesOf values, l.Exact) →
      ∀ v ∈ values, AnnotValue.ofDelivered? d v.toJson = some v
  | [], _, v, hv => by simp at hv
  | value :: rest, h, v, hv => by
    rw [AnnotValue.leavesOf, List.forall_mem_append] at h
    have hvalue := AnnotValue.ofDelivered?_toJson d value h.1
    have hrest := AnnotValue.ofDelivered?_toJson_of_mem d rest h.2
    rcases List.mem_cons.1 hv with rfl | hv
    · exact hvalue
    · exact hrest v hv
end

mutual
@[simp] theorem KotlinAnnot.toJson_isReadable : ∀ a : KotlinAnnot, a.toJson.isReadable = true
  | ⟨className, arguments⟩ => by
    have hargs := AnnotArgument.listToJson_isReadable arguments
    simp [KotlinAnnot.toJson, isReadable, hargs]
theorem AnnotArgument.listToJson_isReadable : ∀ args : List AnnotArgument,
    allReadable (AnnotArgument.listToJson args) = true
  | [] => rfl
  | ⟨name, value⟩ :: rest => by
    have hvalue := AnnotValue.toJson_isReadable value
    have hrest := AnnotArgument.listToJson_isReadable rest
    simp [AnnotArgument.listToJson, allReadable, hvalue, hrest]
@[simp] theorem AnnotValue.toJson_isReadable : ∀ v : AnnotValue, v.toJson.isReadable = true
  | .annot a => by
    have ha := KotlinAnnot.toJson_isReadable a
    simp [AnnotValue.toJson, ha]
  | .array values => by
    have hvalues := AnnotValue.listToJson_isReadable values
    simp [AnnotValue.toJson, isReadable, hvalues]
  | .byte _ | .char _ | .short _ | .int _ | .long _ | .float _ | .double _ | .boolean _ | .ubyte _
  | .ushort _ | .uint _ | .ulong _ | .string _ | .classLiteral _ _ | .enumEntry _ _ => by
    simp [AnnotValue.toJson]
theorem AnnotValue.listToJson_isReadable : ∀ values : List AnnotValue,
    allReadable (AnnotValue.listToJson values) = true
  | [] => rfl
  | value :: rest => by
    have hvalue := AnnotValue.toJson_isReadable value
    have hrest := AnnotValue.listToJson_isReadable rest
    simp [AnnotValue.listToJson, allReadable, hvalue, hrest]
end

/-! ## Annotations in the class file -/

@[simp] theorem Constant.toJson_isReadable (c : Constant) : c.toJson.isReadable = true := by
  cases c <;> simp [Constant.toJson]

theorem Constant.ofDelivered?_tagged {d : Delivery} {tag : String} {value : Json} {c : Constant}
    (h : payload tag value = some c) :
    Constant.ofDelivered? d (.object [("type", .string tag), ("value", value)]) = some c := by
  rw [Constant.ofDelivered?_eq]
  exact h

theorem Constant.ofDelivered?_toJson (d : Delivery) (c : Constant) (h : ∀ l ∈ c.leaves, l.Exact) :
    Constant.ofDelivered? d c.toJson = some c := by
  cases c with
  | integer v => exact Constant.ofDelivered?_tagged (read_map (int32?_ofInt v))
  | long v => exact Constant.ofDelivered?_tagged (read_map (int64?_ofInt v))
  | float v =>
    have hv : v.isFinite = true := by simpa [Constant.leaves] using h
    exact Constant.ofDelivered?_tagged (read_map (single?_ofSingle hv))
  | double v =>
    have hv : v.isFinite = true := by simpa [Constant.leaves] using h
    exact Constant.ofDelivered?_tagged (read_map (double?_ofDouble hv))
  | string v => exact Constant.ofDelivered?_tagged rfl
  | classRef v => exact Constant.ofDelivered?_tagged rfl

/-- An element as a document value. -/
def Element.toJson (e : Element) : Json :=
  .object [("name", .ofOption .string e.name), ("value", e.value.toJson)]

theorem Element.listToJson_eq (elements : List Element) :
    Element.listToJson elements = elements.map Element.toJson := by
  induction elements with
  | nil => rfl
  | cons e rest ih =>
    obtain ⟨name, value⟩ := e
    rw [Element.listToJson, ih, List.map_cons, Element.toJson]

mutual
@[simp] theorem JvmAnnot.toJson_isReadable : ∀ a : JvmAnnot, a.toJson.isReadable = true
  | ⟨typeDescriptor, elements⟩ => by
    have helements := Element.listToJson_isReadable elements
    simp [JvmAnnot.toJson, isReadable, helements]
theorem Element.listToJson_isReadable : ∀ elements : List Element,
    allReadable (Element.listToJson elements) = true
  | [] => rfl
  | ⟨name, value⟩ :: rest => by
    have hvalue := ElementValue.toJson_isReadable value
    have hrest := Element.listToJson_isReadable rest
    simp [Element.listToJson, allReadable, hvalue, hrest]
@[simp] theorem ElementValue.toJson_isReadable : ∀ v : ElementValue, v.toJson.isReadable = true
  | .constant v => by simp [ElementValue.toJson]
  | .enumConstant _ _ | .classLiteral _ => by simp [ElementValue.toJson]
  | .annot a => by
    have ha := JvmAnnot.toJson_isReadable a
    simp [ElementValue.toJson, ha]
  | .array values => by
    have hvalues := Element.listToJson_isReadable values
    simp [ElementValue.toJson, isReadable, hvalues]
end

/-- A value is read by its kind, which stands first. -/
theorem ElementValue.ofDelivered?_kind {d : Delivery} {kind : String} {m : Entries} {v : ElementValue}
    (hk : Entries.required (("kind", .string kind) :: m) "kind" (kind? d kinds) = some kind)
    (hr : (object (("kind", .string kind) :: m)).isReadable = true)
    (h : payload (JvmAnnot.ofDelivered? .gathered) (Element.ofDelivered? .gathered) kind
      (("kind", .string kind) :: m) = some v) :
    ElementValue.ofDelivered? d (.object (("kind", .string kind) :: m)) = some v := by
  have hparts : ElementValue.parts? d (.object (("kind", .string kind) :: m)) =
      some { kind, fields := ("kind", .string kind) :: m } := by
    rw [ElementValue.parts?, hk]
    rfl
  rw [ElementValue.ofDelivered?_eq, hparts, Option.bind_some, hr]
  exact h

mutual
theorem JvmAnnot.ofDelivered?_toJson (d : Delivery) : ∀ a : JvmAnnot, (∀ l ∈ a.leaves, l.Exact) →
    JvmAnnot.ofDelivered? d a.toJson = some a
  | ⟨typeDescriptor, es⟩, h => by
    rw [JvmAnnot.leaves] at h
    have hes := Element.ofDelivered?_toJson_of_mem d es h
    have elements : Entries.listField [("type_descriptor", .string typeDescriptor),
        ("elements", .ofList Element.toJson es)] "elements" (Element.ofDelivered? d) = some es :=
      Entries.listField_of rfl hes
    rw [JvmAnnot.ofDelivered?_eq, JvmAnnot.toJson, Element.listToJson_eq, ← ofList]
    simp only [fields?, Option.bind_eq_bind, Option.bind_some, elements]
    rfl
theorem Element.ofDelivered?_toJson_of_mem (d : Delivery) : ∀ elements : List Element,
    (∀ l ∈ Element.leavesOf elements, l.Exact) →
      ∀ e ∈ elements, Element.ofDelivered? d e.toJson = some e
  | [], _, e, he => by simp at he
  | ⟨n, v⟩ :: rest, h, e, he => by
    rw [Element.leavesOf, List.forall_mem_append] at h
    have hvalue := ElementValue.ofDelivered?_toJson d v h.1
    have hrest := Element.ofDelivered?_toJson_of_mem d rest h.2
    rcases List.mem_cons.1 he with rfl | he
    · let m : Entries := [("name", .ofOption .string n), ("value", v.toJson)]
      have name : m.nullable "name" string? = some n := Entries.nullable_of rfl rfl fun _ _ => rfl
      have value : m.required "value" (ElementValue.ofDelivered? d) = some v :=
        Entries.required_of rfl hvalue
      have object : ∀ keys, (Element.toJson ⟨n, v⟩).fields? keys = some m := fun _ => rfl
      rw [Element.ofDelivered?_eq]
      simp only [object, name, value, Option.bind_eq_bind, Option.bind_some]
      rfl
    · exact hrest e he
theorem ElementValue.ofDelivered?_toJson (d : Delivery) : ∀ v : ElementValue,
    (∀ l ∈ v.leaves, l.Exact) → ElementValue.ofDelivered? d v.toJson = some v
  | .constant v, h => by
    rw [ElementValue.leaves] at h
    have hv := Constant.ofDelivered?_toJson .gathered v h
    exact ElementValue.ofDelivered?_kind rfl (ElementValue.toJson_isReadable (.constant v))
      (read_map (Entries.required_of rfl hv))
  | .enumConstant typeDescriptor constantName, _ =>
    ElementValue.ofDelivered?_kind rfl
      (ElementValue.toJson_isReadable (.enumConstant typeDescriptor constantName)) rfl
  | .classLiteral descriptor, _ =>
    ElementValue.ofDelivered?_kind rfl
      (ElementValue.toJson_isReadable (.classLiteral descriptor)) rfl
  | .annot a, h => by
    rw [ElementValue.leaves] at h
    have ha := JvmAnnot.ofDelivered?_toJson .gathered a h
    exact ElementValue.ofDelivered?_kind rfl (ElementValue.toJson_isReadable (.annot a))
      (read_map (Entries.required_of rfl ha))
  | .array values, h => by
    rw [ElementValue.leaves] at h
    have hvalues := Element.ofDelivered?_toJson_of_mem .gathered values h
    have hread := ElementValue.toJson_isReadable (.array values)
    rw [ElementValue.toJson, Element.listToJson_eq] at hread ⊢
    exact ElementValue.ofDelivered?_kind rfl hread
      (read_map (Entries.required_of rfl (list?_ofList hvalues)))
end

/-! ## Types and parameters -/

/-- A type argument as a document value. -/
def TypeArgument.toJson : TypeArgument → Json
  | .star => .string "star"
  | .type t => .object [("type", t.toJson)]

theorem TypeArgument.listToJson_eq (args : List TypeArgument) :
    TypeArgument.listToJson args = args.map TypeArgument.toJson := by
  induction args with
  | nil => rfl
  | cons a rest ih =>
    cases a with
    | star => rw [TypeArgument.listToJson, ih, List.map_cons, TypeArgument.toJson]
    | type t => rw [TypeArgument.listToJson, ih, List.map_cons, TypeArgument.toJson]

mutual
theorem TypeUse.ofJson?_toJson (d : Delivery) : ∀ t : TypeUse, (∀ l ∈ t.leaves, l.Exact) →
    TypeUse.ofJson? d t.toJson = some t
  | ⟨cls, als, id, fs, v, args, annots⟩, h => by
    simp only [TypeUse.leaves, List.forall_mem_cons, List.forall_mem_append, List.forall_mem_flatMap,
      Leaf.exact_flags] at h
    obtain ⟨hflags, harguments, hannotations⟩ := h
    have hargs := TypeArgument.ofJson?_toJson_of_mem d args harguments
    let m : Entries := [("class_name", .ofOption .string cls), ("alias_name", .ofOption .string als),
      ("type_parameter_id", .ofOption (fun id => .ofInt id.toNat) id), ("flags", .ofFlags fs),
      ("variance", .ofNamed v), ("arguments", .ofList TypeArgument.toJson args),
      ("annotations", .ofList KotlinAnnot.toJson annots)]
    have object : (TypeUse.mk cls als id fs v args annots).toJson = .object m := by
      rw [TypeUse.toJson, TypeArgument.listToJson_eq, ← ofList]
    have className : m.nullable "class_name" string? = some cls :=
      Entries.nullable_of rfl rfl fun _ _ => rfl
    have aliasName : m.nullable "alias_name" string? = some als :=
      Entries.nullable_of rfl rfl fun _ _ => rfl
    have parameterId : m.nullable "type_parameter_id" uint32? = some id :=
      Entries.nullable_of rfl rfl fun id _ => uint32?_ofInt id
    have flags : m.flagField d "flags" = some fs := Entries.flagField_of rfl hflags
    have variance : m.namedField d "variance" = some v := Entries.namedField_of rfl
    have arguments : m.listField "arguments" (TypeArgument.ofJson? d) = some args :=
      Entries.listField_of rfl hargs
    have annotations : m.listField "annotations" (KotlinAnnot.ofDelivered? d) = some annots :=
      Entries.listField_of rfl fun a ha => KotlinAnnot.ofDelivered?_toJson d a (hannotations a ha)
    rw [TypeUse.ofJson?_eq, object]
    simp only [fields?, className, aliasName, parameterId, flags, variance, arguments, annotations,
      Option.bind_eq_bind, Option.bind_some]
    rfl
theorem TypeArgument.ofJson?_toJson_of_mem (d : Delivery) : ∀ args : List TypeArgument,
    (∀ l ∈ TypeArgument.leavesOf args, l.Exact) →
      ∀ a ∈ args, TypeArgument.ofJson? d a.toJson = some a
  | [], _, a, ha => by simp at ha
  | .star :: rest, h, a, ha => by
    rw [TypeArgument.leavesOf] at h
    have hrest := TypeArgument.ofJson?_toJson_of_mem d rest h
    rcases List.mem_cons.1 ha with rfl | ha
    · rfl
    · exact hrest a ha
  | .type t :: rest, h, a, ha => by
    rw [TypeArgument.leavesOf, List.forall_mem_append] at h
    have ht := TypeUse.ofJson?_toJson d t h.1
    have hrest := TypeArgument.ofJson?_toJson_of_mem d rest h.2
    rcases List.mem_cons.1 ha with rfl | ha
    · rw [TypeArgument.ofJson?_eq]
      exact read_map ht
    · exact hrest a ha
end

theorem TypeParameter.ofJson?_toJson (d : Delivery) (p : TypeParameter)
    (h : ∀ l ∈ p.leaves, l.Exact) : TypeParameter.ofJson? d p.toJson = some p := by
  simp only [TypeParameter.leaves, List.forall_mem_cons, List.forall_mem_append,
    List.forall_mem_flatMap, Leaf.exact_flags] at h
  obtain ⟨hflags, hbounds, hannotations⟩ := h
  let m : Entries := p.toJson.members
  have object : ∀ keys, p.toJson.fields? keys = some m := fun _ => rfl
  have id : m.required "id" uint32? = some p.id := Entries.required_of rfl (uint32?_ofInt p.id)
  have name : m.required "name" string? = some p.name := Entries.required_of rfl rfl
  have variance : m.namedField d "variance" = some p.variance := Entries.namedField_of rfl
  have flags : m.flagField d "flags" = some p.flags := Entries.flagField_of rfl hflags
  have upperBounds : m.listField "upper_bounds" (TypeUse.ofJson? d) = some p.upperBounds :=
    Entries.listField_of rfl fun t ht => TypeUse.ofJson?_toJson d t (hbounds t ht)
  have annotations : m.listField "annotations" (KotlinAnnot.ofDelivered? d) = some p.annotations :=
    Entries.listField_of rfl fun a ha => KotlinAnnot.ofDelivered?_toJson d a (hannotations a ha)
  rw [TypeParameter.ofJson?, read_bind (object _), read_bind id, read_bind name, read_bind variance,
    read_bind flags, read_bind upperBounds, read_bind annotations]
  rfl

theorem ValueParameter.ofJson?_toJson (d : Delivery) (p : ValueParameter)
    (h : ∀ l ∈ p.leaves, l.Exact) : ValueParameter.ofJson? d p.toJson = some p := by
  simp only [ValueParameter.leaves, List.forall_mem_cons, List.forall_mem_append,
    List.forall_mem_flatMap, Option.mem_toList, Leaf.exact_flags] at h
  obtain ⟨hflags, htype, hvararg⟩ := h
  let m : Entries := p.toJson.members
  have object : ∀ keys, p.toJson.fields? keys = some m := fun _ => rfl
  have name : m.required "name" string? = some p.name := Entries.required_of rfl rfl
  have flags : m.flagField d "flags" = some p.flags := Entries.flagField_of rfl hflags
  have type : m.required "type" (TypeUse.ofJson? d) = some p.type :=
    Entries.required_of rfl (TypeUse.ofJson?_toJson d p.type htype)
  have varargElementType : m.nullable "vararg_element_type" (TypeUse.ofJson? d) =
      some p.varargElementType :=
    Entries.nullable_of rfl rfl fun t ht => TypeUse.ofJson?_toJson d t (hvararg t ht)
  rw [ValueParameter.ofJson?, read_bind (object _), read_bind name, read_bind flags, read_bind type,
    read_bind varargElementType]
  rfl

/-! ## Declarations -/

theorem Version.ofJson?_toJson (v : Version) : Version.ofJson? v.toJson = some v := by
  let m : Entries := v.toJson.members
  have object : ∀ keys, v.toJson.fields? keys = some m := fun _ => rfl
  have major : m.required "major" uint32? = some v.major :=
    Entries.required_of rfl (uint32?_ofInt v.major)
  have minor : m.required "minor" uint32? = some v.minor :=
    Entries.required_of rfl (uint32?_ofInt v.minor)
  have patch : m.withDefault "patch" 0 uint32? = some v.patch :=
    Entries.withDefault_of rfl (uint32?_ofInt v.patch)
  rw [Version.ofJson?, read_bind (object _), read_bind major, read_bind minor, read_bind patch]
  rfl

theorem Version.ofTriple?_toTriple (v : Version) : Version.ofTriple? v.toTriple = some v := by
  simp only [Version.toTriple, Version.ofTriple?, uint32?_ofInt, Option.bind_eq_bind,
    Option.bind_some]
  rfl

theorem MethodRef.ofJson?_toJson (r : MethodRef) : MethodRef.ofJson? r.toJson = some r := by
  let m : Entries := r.toJson.members
  have object : ∀ keys, r.toJson.fields? keys = some m := fun _ => rfl
  have owner : m.nullable "owner" string? = some r.owner :=
    Entries.nullable_of rfl rfl fun _ _ => rfl
  have name : m.required "name" string? = some r.name := Entries.required_of rfl rfl
  have descriptor : m.required "descriptor" string? = some r.descriptor :=
    Entries.required_of rfl rfl
  rw [MethodRef.ofJson?, read_bind (object _), read_bind owner, read_bind name,
    read_bind descriptor]
  rfl

theorem FieldRef.ofJson?_toJson (r : FieldRef) : FieldRef.ofJson? r.toJson = some r := rfl

theorem Constructor.ofJson?_toJson (d : Delivery) (c : Constructor)
    (h : ∀ l ∈ c.leaves, l.Exact) : Constructor.ofJson? d c.toJson = some c := by
  simp only [Constructor.leaves, List.forall_mem_cons, List.forall_mem_flatMap,
    Leaf.exact_flags] at h
  obtain ⟨hflags, hparameters⟩ := h
  let m : Entries := c.toJson.members
  have object : ∀ keys, c.toJson.fields? keys = some m := fun _ => rfl
  have visibility : m.namedField d "visibility" = some c.visibility := Entries.namedField_of rfl
  have flags : m.flagField d "flags" = some c.flags := Entries.flagField_of rfl hflags
  have valueParameters : m.listField "value_parameters" (ValueParameter.ofJson? d) =
      some c.valueParameters :=
    Entries.listField_of rfl fun p hp => ValueParameter.ofJson?_toJson d p (hparameters p hp)
  have versionRequirement : m.nullable "version_requirement" Version.ofJson? =
      some c.versionRequirement := Entries.nullable_of rfl rfl fun v _ => Version.ofJson?_toJson v
  have signature : m.nullable "jvm_signature" MethodRef.ofJson? = some c.signature :=
    Entries.nullable_of rfl rfl fun r _ => MethodRef.ofJson?_toJson r
  rw [Constructor.ofJson?, read_bind (object _), read_bind visibility, read_bind flags,
    read_bind valueParameters, read_bind versionRequirement, read_bind signature]
  rfl

theorem Function.ofJson?_toJson (d : Delivery) (f : Function) (h : ∀ l ∈ f.leaves, l.Exact) :
    Function.ofJson? d f.toJson = some f := by
  simp only [Function.leaves, List.forall_mem_cons, List.forall_mem_append,
    List.forall_mem_flatMap, Option.mem_toList, Leaf.exact_flags] at h
  obtain ⟨hflags, htypeParameters, hreceiver, hcontext, hparameters, hreturn⟩ := h
  let m : Entries := f.toJson.members
  have object : ∀ keys, f.toJson.fields? keys = some m := fun _ => rfl
  have name : m.required "name" string? = some f.name := Entries.required_of rfl rfl
  have visibility : m.namedField d "visibility" = some f.visibility := Entries.namedField_of rfl
  have modality : m.namedField d "modality" = some f.modality := Entries.namedField_of rfl
  have memberKind : m.namedField d "member_kind" = some f.memberKind := Entries.namedField_of rfl
  have flags : m.flagField d "flags" = some f.flags := Entries.flagField_of rfl hflags
  have typeParameters : m.listField "type_parameters" (TypeParameter.ofJson? d) =
      some f.typeParameters :=
    Entries.listField_of rfl fun p hp => TypeParameter.ofJson?_toJson d p (htypeParameters p hp)
  have receiverType : m.nullable "receiver_type" (TypeUse.ofJson? d) = some f.receiverType :=
    Entries.nullable_of rfl rfl fun t ht => TypeUse.ofJson?_toJson d t (hreceiver t ht)
  have contextReceivers : m.listField "context_receivers" (TypeUse.ofJson? d) =
      some f.contextReceivers :=
    Entries.listField_of rfl fun t ht => TypeUse.ofJson?_toJson d t (hcontext t ht)
  have valueParameters : m.listField "value_parameters" (ValueParameter.ofJson? d) =
      some f.valueParameters :=
    Entries.listField_of rfl fun p hp => ValueParameter.ofJson?_toJson d p (hparameters p hp)
  have returnType : m.required "return_type" (TypeUse.ofJson? d) = some f.returnType :=
    Entries.required_of rfl (TypeUse.ofJson?_toJson d f.returnType hreturn)
  have versionRequirement : m.nullable "version_requirement" Version.ofJson? =
      some f.versionRequirement := Entries.nullable_of rfl rfl fun v _ => Version.ofJson?_toJson v
  have signature : m.nullable "jvm_signature" MethodRef.ofJson? = some f.signature :=
    Entries.nullable_of rfl rfl fun r _ => MethodRef.ofJson?_toJson r
  rw [Function.ofJson?, read_bind (object _), read_bind name, read_bind visibility,
    read_bind modality, read_bind memberKind, read_bind flags, read_bind typeParameters,
    read_bind receiverType, read_bind contextReceivers, read_bind valueParameters,
    read_bind returnType, read_bind versionRequirement, read_bind signature]
  rfl

theorem Accessor.ofDelivered?_toJson (d : Delivery) (a : Accessor) (h : ∀ l ∈ a.leaves, l.Exact) :
    Accessor.ofDelivered? d a.toJson = some a := by
  have hflags : a.flags.Declared := by simpa [Accessor.leaves] using h
  let m : Entries := a.toJson.members
  have object : ∀ keys, a.toJson.fields? keys = some m := fun _ => rfl
  have visibility : m.namedField d "visibility" = some a.visibility := Entries.namedField_of rfl
  have modality : m.namedField d "modality" = some a.modality := Entries.namedField_of rfl
  have flags : m.flagField d "flags" = some a.flags := Entries.flagField_of rfl hflags
  have signature : m.nullable "signature" MethodRef.ofJson? = some a.signature :=
    Entries.nullable_of rfl rfl fun r _ => MethodRef.ofJson?_toJson r
  rw [Accessor.ofDelivered?, read_bind (object _), read_bind visibility, read_bind modality,
    read_bind flags, read_bind signature]
  rfl

theorem Property.ofJson?_toJson (d : Delivery) (p : Property) (h : ∀ l ∈ p.leaves, l.Exact) :
    Property.ofJson? d p.toJson = some p := by
  simp only [Property.leaves, List.forall_mem_cons, List.forall_mem_append,
    List.forall_mem_flatMap, Option.mem_toList, Leaf.exact_flags] at h
  obtain ⟨hflags, htypeParameters, hreceiver, hcontext, htype, hgetter, hsetter, hparameter⟩ := h
  let m : Entries := p.toJson.members
  have object : ∀ keys, p.toJson.fields? keys = some m := fun _ => rfl
  have name : m.required "name" string? = some p.name := Entries.required_of rfl rfl
  have visibility : m.namedField d "visibility" = some p.visibility := Entries.namedField_of rfl
  have modality : m.namedField d "modality" = some p.modality := Entries.namedField_of rfl
  have memberKind : m.namedField d "member_kind" = some p.memberKind := Entries.namedField_of rfl
  have flags : m.flagField d "flags" = some p.flags := Entries.flagField_of rfl hflags
  have typeParameters : m.listField "type_parameters" (TypeParameter.ofJson? d) =
      some p.typeParameters :=
    Entries.listField_of rfl fun q hq => TypeParameter.ofJson?_toJson d q (htypeParameters q hq)
  have receiverType : m.nullable "receiver_type" (TypeUse.ofJson? d) = some p.receiverType :=
    Entries.nullable_of rfl rfl fun t ht => TypeUse.ofJson?_toJson d t (hreceiver t ht)
  have contextReceivers : m.listField "context_receivers" (TypeUse.ofJson? d) =
      some p.contextReceivers :=
    Entries.listField_of rfl fun t ht => TypeUse.ofJson?_toJson d t (hcontext t ht)
  have type : m.required "type" (TypeUse.ofJson? d) = some p.type :=
    Entries.required_of rfl (TypeUse.ofJson?_toJson d p.type htype)
  have getter : m.nullable "getter" (Accessor.ofDelivered? d) = some p.getter :=
    Entries.nullable_of rfl rfl fun a ha => Accessor.ofDelivered?_toJson d a (hgetter a ha)
  have setter : m.nullable "setter" (Accessor.ofDelivered? d) = some p.setter :=
    Entries.nullable_of rfl rfl fun a ha => Accessor.ofDelivered?_toJson d a (hsetter a ha)
  have setterParameter : m.nullable "setter_parameter" (ValueParameter.ofJson? d) =
      some p.setterParameter :=
    Entries.nullable_of rfl rfl fun q hq => ValueParameter.ofJson?_toJson d q (hparameter q hq)
  have versionRequirement : m.nullable "version_requirement" Version.ofJson? =
      some p.versionRequirement := Entries.nullable_of rfl rfl fun v _ => Version.ofJson?_toJson v
  have backingField : m.nullable "backing_field" FieldRef.ofJson? = some p.backingField :=
    Entries.nullable_of rfl rfl fun r _ => FieldRef.ofJson?_toJson r
  have annotationsMethod : m.nullable "synthetic_method_for_annotations" MethodRef.ofJson? =
      some p.annotationsMethod := Entries.nullable_of rfl rfl fun r _ => MethodRef.ofJson?_toJson r
  have delegateMethod : m.nullable "synthetic_method_for_delegate" MethodRef.ofJson? =
      some p.delegateMethod := Entries.nullable_of rfl rfl fun r _ => MethodRef.ofJson?_toJson r
  rw [Property.ofJson?, read_bind (object _), read_bind name, read_bind visibility,
    read_bind modality, read_bind memberKind, read_bind flags, read_bind typeParameters,
    read_bind receiverType, read_bind contextReceivers, read_bind type, read_bind getter,
    read_bind setter, read_bind setterParameter, read_bind versionRequirement,
    read_bind backingField, read_bind annotationsMethod, read_bind delegateMethod]
  rfl

theorem TypeAlias.ofJson?_toJson (d : Delivery) (a : TypeAlias) (h : ∀ l ∈ a.leaves, l.Exact) :
    TypeAlias.ofJson? d a.toJson = some a := by
  simp only [TypeAlias.leaves, List.forall_mem_append, List.forall_mem_flatMap,
    Option.mem_toList] at h
  obtain ⟨hannotations, htypeParameters, hunderlying, hexpanded⟩ := h
  let m : Entries := a.toJson.members
  have object : ∀ keys, a.toJson.fields? keys = some m := fun _ => rfl
  have name : m.required "name" string? = some a.name := Entries.required_of rfl rfl
  have visibility : m.namedField d "visibility" = some a.visibility := Entries.namedField_of rfl
  have annotations : m.listField "annotations" (KotlinAnnot.ofDelivered? d) = some a.annotations :=
    Entries.listField_of rfl fun x hx => KotlinAnnot.ofDelivered?_toJson d x (hannotations x hx)
  have typeParameters : m.listField "type_parameters" (TypeParameter.ofJson? d) =
      some a.typeParameters :=
    Entries.listField_of rfl fun p hp => TypeParameter.ofJson?_toJson d p (htypeParameters p hp)
  have underlyingType : m.required "underlying_type" (TypeUse.ofJson? d) = some a.underlyingType :=
    Entries.required_of rfl (TypeUse.ofJson?_toJson d a.underlyingType hunderlying)
  have expandedType : m.nullable "expanded_type" (TypeUse.ofJson? d) = some a.expandedType :=
    Entries.nullable_of rfl rfl fun t ht => TypeUse.ofJson?_toJson d t (hexpanded t ht)
  have versionRequirement : m.nullable "version_requirement" Version.ofJson? =
      some a.versionRequirement := Entries.nullable_of rfl rfl fun v _ => Version.ofJson?_toJson v
  rw [TypeAlias.ofJson?, read_bind (object _), read_bind name, read_bind visibility,
    read_bind annotations, read_bind typeParameters, read_bind underlyingType,
    read_bind expandedType, read_bind versionRequirement]
  rfl

theorem Members.ofEntries?_of {d : Delivery} {m : Entries} {x : Members}
    (hf : m.field? "functions" = some (some (.ofList Function.toJson x.functions)))
    (hp : m.field? "properties" = some (some (.ofList Property.toJson x.properties)))
    (hl : m.field? "local_delegated_properties" =
      some (some (.ofList Property.toJson x.localDelegatedProperties)))
    (ht : m.field? "type_aliases" = some (some (.ofList TypeAlias.toJson x.typeAliases)))
    (h : ∀ l ∈ x.leaves, l.Exact) : Members.ofEntries? d m = some x := by
  simp only [Members.leaves, List.forall_mem_append, List.forall_mem_flatMap] at h
  obtain ⟨hfunctions, hproperties, hlocals, haliases⟩ := h
  have functions : m.listField "functions" (Function.ofJson? d) = some x.functions :=
    Entries.listField_of hf fun f h => Function.ofJson?_toJson d f (hfunctions f h)
  have properties : m.listField "properties" (Property.ofJson? d) = some x.properties :=
    Entries.listField_of hp fun p h => Property.ofJson?_toJson d p (hproperties p h)
  have localDelegatedProperties : m.listField "local_delegated_properties" (Property.ofJson? d) =
      some x.localDelegatedProperties :=
    Entries.listField_of hl fun p h => Property.ofJson?_toJson d p (hlocals p h)
  have typeAliases : m.listField "type_aliases" (TypeAlias.ofJson? d) = some x.typeAliases :=
    Entries.listField_of ht fun a h => TypeAlias.ofJson?_toJson d a (haliases a h)
  rw [Members.ofEntries?, read_bind functions, read_bind properties,
    read_bind localDelegatedProperties, read_bind typeAliases]
  rfl

/-! ## Metadata -/

theorem ClassInfo.ofEntries?_toEntries (d : Delivery) (version kind : Json) (c : ClassInfo)
    (h : ∀ l ∈ c.leaves, l.Exact) :
    ClassInfo.ofEntries? d (("version", version) :: ("kind", kind) :: c.toEntries) = some c := by
  simp only [ClassInfo.leaves, List.forall_mem_cons, List.forall_mem_append,
    List.forall_mem_flatMap, Option.mem_toList, Leaf.exact_flags] at h
  obtain ⟨hflags, htypeParameters, hsuper, hcontext, hconstructors, hunderlying, hmembers⟩ := h
  let m : Entries := ("version", version) :: ("kind", kind) :: c.toEntries
  change ClassInfo.ofEntries? d m = some c
  have className : m.required "class_name" string? = some c.className := Entries.required_of rfl rfl
  have classKind : m.namedField d "class_kind" = some c.kind := Entries.namedField_of rfl
  have visibility : m.namedField d "visibility" = some c.visibility := Entries.namedField_of rfl
  have modality : m.namedField d "modality" = some c.modality := Entries.namedField_of rfl
  have flags : m.flagField d "flags" = some c.flags := Entries.flagField_of rfl hflags
  have typeParameters : m.listField "type_parameters" (TypeParameter.ofJson? d) =
      some c.typeParameters :=
    Entries.listField_of rfl fun p hp => TypeParameter.ofJson?_toJson d p (htypeParameters p hp)
  have superTypes : m.listField "super_types" (TypeUse.ofJson? d) = some c.superTypes :=
    Entries.listField_of rfl fun t ht => TypeUse.ofJson?_toJson d t (hsuper t ht)
  have contextReceivers : m.listField "context_receivers" (TypeUse.ofJson? d) =
      some c.contextReceivers :=
    Entries.listField_of rfl fun t ht => TypeUse.ofJson?_toJson d t (hcontext t ht)
  have constructors : m.listField "constructors" (Constructor.ofJson? d) = some c.constructors :=
    Entries.listField_of rfl fun x hx => Constructor.ofJson?_toJson d x (hconstructors x hx)
  have nestedClassNames : m.listField "nested_class_names" string? = some c.nestedClassNames :=
    Entries.listField_of rfl fun _ _ => rfl
  have companionObjectName : m.nullable "companion_object_name" string? =
      some c.companionObjectName := Entries.nullable_of rfl rfl fun _ _ => rfl
  have sealedSubclassNames : m.listField "sealed_subclass_names" string? =
      some c.sealedSubclassNames := Entries.listField_of rfl fun _ _ => rfl
  have enumEntryNames : m.listField "enum_entry_names" string? = some c.enumEntryNames :=
    Entries.listField_of rfl fun _ _ => rfl
  have underlyingPropertyName : m.nullable "underlying_property_name" string? =
      some c.underlyingPropertyName := Entries.nullable_of rfl rfl fun _ _ => rfl
  have underlyingPropertyType : m.nullable "underlying_property_type" (TypeUse.ofJson? d) =
      some c.underlyingPropertyType :=
    Entries.nullable_of rfl rfl fun t ht => TypeUse.ofJson?_toJson d t (hunderlying t ht)
  have anonymousObjectOrigin : m.nullable "anonymous_object_origin_name" string? =
      some c.anonymousObjectOrigin := Entries.nullable_of rfl rfl fun _ _ => rfl
  have versionRequirement : m.nullable "version_requirement" Version.ofJson? =
      some c.versionRequirement :=
    Entries.nullable_of rfl rfl fun v _ => Version.ofJson?_toJson v
  have members : Members.ofEntries? .gathered m = some c.members :=
    Members.ofEntries?_of rfl rfl rfl rfl hmembers
  rw [ClassInfo.ofEntries?, read_bind className, read_bind classKind, read_bind visibility,
    read_bind modality, read_bind flags, read_bind typeParameters, read_bind superTypes,
    read_bind contextReceivers, read_bind constructors, read_bind nestedClassNames,
    read_bind companionObjectName, read_bind sealedSubclassNames, read_bind enumEntryNames,
    read_bind underlyingPropertyName, read_bind underlyingPropertyType,
    read_bind anonymousObjectOrigin, read_bind versionRequirement, read_bind members]
  rfl

theorem Content.ofEntries?_toEntries (version : Json) (c : Content) (h : ∀ l ∈ c.leaves, l.Exact) :
    Content.ofEntries? (("version", version) :: c.toEntries) = some c := by
  let m : Entries := ("version", version) :: c.toEntries
  change Content.ofEntries? m = some c
  cases c with
  | classOf info =>
    have kind : m.required "kind" (kind? .gathered kinds) = some "class" :=
      Entries.required_of rfl rfl
    have class_ : ClassInfo.ofEntries? .gathered m = some info :=
      ClassInfo.ofEntries?_toEntries .gathered version _ info h
    simp only [Content.ofEntries?, kind, class_, Option.bind_eq_bind, Option.bind_some,
      Option.map_some]
  | fileFacade members =>
    have kind : m.required "kind" (kind? .gathered kinds) = some "fileFacade" :=
      Entries.required_of rfl rfl
    have declared : Members.ofEntries? .gathered m = some members :=
      Members.ofEntries?_of rfl rfl rfl rfl h
    simp only [Content.ofEntries?, kind, declared, Option.bind_eq_bind, Option.bind_some,
      Option.map_some]
  | synthetic info =>
    simp only [Content.leaves, List.forall_mem_flatMap] at h
    have kind : m.required "kind" (kind? .gathered kinds) = some "syntheticClass" :=
      Entries.required_of rfl rfl
    have flavor : m.namedField .gathered "flavor" = some info.flavor := Entries.namedField_of rfl
    have functions : m.listField "functions" (Function.ofJson? .gathered) = some info.functions :=
      Entries.listField_of rfl fun f hf => Function.ofJson?_toJson .gathered f (h f hf)
    rw [Content.ofEntries?, read_bind kind, read_bind flavor, read_bind functions]
    rfl
  | multiFileFacade names =>
    have kind : m.required "kind" (kind? .gathered kinds) = some "multiFileFacade" :=
      Entries.required_of rfl rfl
    have partNames : m.listField "part_class_names" string? = some names :=
      Entries.listField_of rfl fun _ _ => rfl
    simp only [Content.ofEntries?, kind, partNames, Option.bind_eq_bind, Option.bind_some,
      Option.map_some]
  | multiFilePart info =>
    have kind : m.required "kind" (kind? .gathered kinds) = some "multiFilePart" :=
      Entries.required_of rfl rfl
    have facadeName : m.required "facade_name" string? = some info.facadeName :=
      Entries.required_of rfl rfl
    have declared : Members.ofEntries? .gathered m = some info.members :=
      Members.ofEntries?_of rfl rfl rfl rfl h
    rw [Content.ofEntries?, read_bind kind, read_bind facadeName, read_bind declared]
    rfl

mutual
@[simp] theorem TypeUse.toJson_isReadable : ∀ t : TypeUse, t.toJson.isReadable = true
  | ⟨className, aliasName, parameterId, flags, variance, arguments, annotations⟩ => by
    have hargs := TypeArgument.listToJson_isReadable arguments
    simp [TypeUse.toJson, isReadable, hargs]
theorem TypeArgument.listToJson_isReadable : ∀ args : List TypeArgument,
    allReadable (TypeArgument.listToJson args) = true
  | [] => rfl
  | .star :: rest => by
    have hrest := TypeArgument.listToJson_isReadable rest
    simp [TypeArgument.listToJson, allReadable, hrest]
  | .type t :: rest => by
    have ht := TypeUse.toJson_isReadable t
    have hrest := TypeArgument.listToJson_isReadable rest
    simp [TypeArgument.listToJson, allReadable, ht, hrest]
end

@[simp] theorem TypeParameter.toJson_isReadable (p : TypeParameter) : p.toJson.isReadable = true := by
  simp [TypeParameter.toJson]

@[simp] theorem ValueParameter.toJson_isReadable (p : ValueParameter) :
    p.toJson.isReadable = true := by
  simp [ValueParameter.toJson]

@[simp] theorem Version.toJson_isReadable (v : Version) : v.toJson.isReadable = true := by
  simp [Version.toJson]

@[simp] theorem Version.toTriple_isReadable (v : Version) : v.toTriple.isReadable = true := by
  simp [Version.toTriple, isReadable, allReadable]

@[simp] theorem MethodRef.toJson_isReadable (r : MethodRef) : r.toJson.isReadable = true := by
  simp [MethodRef.toJson]

@[simp] theorem FieldRef.toJson_isReadable (r : FieldRef) : r.toJson.isReadable = true := by
  simp [FieldRef.toJson]

@[simp] theorem Constructor.toJson_isReadable (c : Constructor) : c.toJson.isReadable = true := by
  simp [Constructor.toJson]

@[simp] theorem Function.toJson_isReadable (f : Function) : f.toJson.isReadable = true := by
  simp [Function.toJson]

@[simp] theorem Accessor.toJson_isReadable (a : Accessor) : a.toJson.isReadable = true := by
  simp [Accessor.toJson]

@[simp] theorem Property.toJson_isReadable (p : Property) : p.toJson.isReadable = true := by
  simp [Property.toJson]

@[simp] theorem TypeAlias.toJson_isReadable (a : TypeAlias) : a.toJson.isReadable = true := by
  simp [TypeAlias.toJson]

theorem Content.toEntries_isReadable (c : Content) : allMembersReadable c.toEntries = true := by
  cases c <;> simp [Content.toEntries, ClassInfo.toEntries, Members.toEntries]

theorem Metadata.ofJson?_toJson (x : Metadata) (h : ∀ l ∈ x.leaves, l.Exact) :
    Metadata.ofJson? x.toJson = some x := by
  have hread : x.toJson.isReadable = true := by
    simp [Metadata.toJson, Content.toEntries_isReadable]
  have hversion : Entries.field? (("version", x.version.toTriple) :: x.content.toEntries) "version" =
      some (some x.version.toTriple) := by
    cases x.content <;> rfl
  have version : Entries.required (("version", x.version.toTriple) :: x.content.toEntries) "version"
      Version.ofTriple? = some x.version :=
    Entries.required_of hversion (Version.ofTriple?_toTriple x.version)
  have content := Content.ofEntries?_toEntries x.version.toTriple x.content h
  rw [Metadata.toJson] at hread ⊢
  simp only [Metadata.ofJson?, entries?, hread, version, content, Option.bind_eq_bind,
    Option.bind_some]
  rfl

/-! ## Artifacts -/

theorem Method.ofJson?_toJson (x : Method) (h : ∀ l ∈ x.leaves, l.Exact) :
    Method.ofJson? x.toJson = some x := by
  simp only [Method.leaves, List.forall_mem_cons, List.forall_mem_flatMap, Leaf.exact_flags] at h
  obtain ⟨haccess, hannotations⟩ := h
  let m : Entries := x.toJson.members
  have object : ∀ keys, x.toJson.fields? keys = some m := fun _ => rfl
  have name : m.required "name" string? = some x.name := Entries.required_of rfl rfl
  have descriptor : m.required "descriptor" string? = some x.descriptor :=
    Entries.required_of rfl rfl
  have access : m.flagField .direct "access" = some x.access := Entries.flagField_of rfl haccess
  have annotations : m.listField "annotations" JvmAnnot.ofJson? = some x.annotations :=
    Entries.listField_of rfl fun a ha => JvmAnnot.ofDelivered?_toJson .direct a (hannotations a ha)
  rw [Method.ofJson?, read_bind (object _), read_bind name, read_bind descriptor, read_bind access,
    read_bind annotations]
  rfl

theorem Field.ofJson?_toJson (x : Field) (h : ∀ l ∈ x.leaves, l.Exact) :
    Field.ofJson? x.toJson = some x := by
  simp only [Field.leaves, List.forall_mem_cons, List.forall_mem_append, List.forall_mem_flatMap,
    Option.mem_toList, Leaf.exact_flags] at h
  obtain ⟨haccess, hconstant, hannotations⟩ := h
  let m : Entries := x.toJson.members
  have object : ∀ keys, x.toJson.fields? keys = some m := fun _ => rfl
  have name : m.required "name" string? = some x.name := Entries.required_of rfl rfl
  have descriptor : m.required "descriptor" string? = some x.descriptor :=
    Entries.required_of rfl rfl
  have access : m.flagField .direct "access" = some x.access := Entries.flagField_of rfl haccess
  have constantValue : m.nullable "constant_value" Constant.ofJson? = some x.constantValue :=
    Entries.nullable_of rfl rfl fun c hc => Constant.ofDelivered?_toJson .direct c (hconstant c hc)
  have annotations : m.listField "annotations" JvmAnnot.ofJson? = some x.annotations :=
    Entries.listField_of rfl fun a ha => JvmAnnot.ofDelivered?_toJson .direct a (hannotations a ha)
  rw [Field.ofJson?, read_bind (object _), read_bind name, read_bind descriptor, read_bind access,
    read_bind constantValue, read_bind annotations]
  rfl

theorem Artifact.ofJson?_toJson (a : Artifact) (h : ∀ l ∈ a.leaves, l.Exact) :
    Artifact.ofJson? a.toJson = some a := by
  simp only [Artifact.leaves, List.forall_mem_cons, List.forall_mem_append,
    List.forall_mem_flatMap, Option.mem_toList, Leaf.exact_flags] at h
  obtain ⟨haccess, hmethods, hfields, hannotations, hmetadata⟩ := h
  let m : Entries := a.toJson.members
  have object : ∀ keys, a.toJson.fields? keys = some m := fun _ => rfl
  have name : m.required "name" string? = some a.name := Entries.required_of rfl rfl
  have access : m.flagField .direct "access" = some a.access := Entries.flagField_of rfl haccess
  have methods : m.listField "methods" Method.ofJson? = some a.methods :=
    Entries.listField_of rfl fun x hx => Method.ofJson?_toJson x (hmethods x hx)
  have fields : m.listField "fields" Field.ofJson? = some a.fields :=
    Entries.listField_of rfl fun x hx => Field.ofJson?_toJson x (hfields x hx)
  have annotations : m.listField "annotations" JvmAnnot.ofJson? = some a.annotations :=
    Entries.listField_of rfl fun x hx => JvmAnnot.ofDelivered?_toJson .direct x (hannotations x hx)
  have metadata : m.nullable "metadata" Metadata.ofJson? = some a.metadata :=
    Entries.nullable_of rfl rfl fun x hx => Metadata.ofJson?_toJson x (hmetadata x hx)
  rw [Artifact.ofJson?, read_bind (object _), read_bind name, read_bind access, read_bind methods,
    read_bind fields, read_bind annotations, read_bind metadata]
  rfl

theorem PoolDocument.ofJson?_toJson (d : PoolDocument) (h : ∀ l ∈ d.leaves, l.Exact) :
    PoolDocument.ofJson? d.toJson = some d := by
  rw [PoolDocument.leaves, List.forall_mem_flatMap] at h
  let m : Entries := d.toJson.members
  have object : ∀ keys, d.toJson.fields? keys = some m := fun _ => rfl
  have artifacts : m.required "artifacts" (list? Artifact.ofJson?) = some d.artifacts :=
    Entries.required_of rfl (list?_ofList fun a ha => Artifact.ofJson?_toJson a (h a ha))
  rw [PoolDocument.ofJson?, read_bind (object _), read_bind artifacts]
  rfl

end KotlinMetadata
