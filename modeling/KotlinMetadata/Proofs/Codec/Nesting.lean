/-
Reading without a bound. The readers of annotations and types take a bound on
the nesting, so that they recur on it. Any bound that covers a value reads it
alike (`KotlinAnnot.readAt_stable`, `JvmAnnot.readAt_stable`,
`TypeUse.readAt_stable`); with the depth of the value as the bound, each
reader has an equation in which no bound occurs, and all other proofs use
these equations only.
-/
import KotlinMetadata.Codec.Artifact

namespace KotlinMetadata

namespace Json

variable {α : Type} {item item' read read' : Json → Option α} {m : Entries} {key : String}

theorem depth_le_of_mem_items {x : Json} {xs : List Json} (h : x ∈ xs) : x.depth ≤ depthItems xs := by
  induction xs with
  | nil => simp at h
  | cons y ys ih =>
    rw [depthItems]
    rcases List.mem_cons.1 h with rfl | hx
    · exact Nat.le_max_left _ _
    · exact Nat.le_trans (ih hx) (Nat.le_max_right _ _)

theorem depth_le_of_mem_members {v : Json} (h : (key, v) ∈ m) : v.depth ≤ depthMembers m := by
  induction m with
  | nil => simp at h
  | cons p rest ih =>
    rw [depthMembers]
    rcases List.mem_cons.1 h with rfl | hv
    · exact Nat.le_max_left _ _
    · exact Nat.le_trans (ih hv) (Nat.le_max_right _ _)

theorem depthMembers_zip_le (keys : List String) (xs : List Json) :
    depthMembers (keys.zip xs) ≤ depthItems xs := by
  induction keys generalizing xs with
  | nil => exact Nat.zero_le _
  | cons key keys ih =>
    cases xs with
    | nil => exact Nat.le_refl _
    | cons x xs =>
      rw [List.zip_cons_cons, depthMembers, depthItems]
      have hrest := ih xs
      omega

/-- The fields of a structure are nested less deeply than the structure. -/
theorem depthMembers_lt_of_fields? {keys : List String} {j : Json} (h : j.fields? keys = some m) :
    depthMembers m < j.depth := by
  unfold fields? at h
  split at h
  · cases h
    exact Nat.lt_succ_self _
  · split at h
    · cases h
      exact Nat.lt_succ_of_le (depthMembers_zip_le _ _)
    · cases h
  · cases h

theorem fields?_of_depth_zero {keys : List String} {j : Json} (h : j.depth = 0) :
    j.fields? keys = none := by
  rw [Option.eq_none_iff_forall_ne_some]
  intro m hm
  have hlt := depthMembers_lt_of_fields? hm
  omega

theorem mapM_congr {xs : List Json} (h : ∀ x ∈ xs, item x = item' x) : xs.mapM item = xs.mapM item' := by
  induction xs with
  | nil => rfl
  | cons x xs ih =>
    rw [List.mapM_cons, List.mapM_cons, h x List.mem_cons_self,
      ih fun y hy => h y (List.mem_cons_of_mem _ hy)]

/-- A list is read alike by two readers that agree on what is nested less deeply. -/
theorem list?_congr {j : Json} (h : ∀ x : Json, x.depth < j.depth → item x = item' x) :
    j.list? item = j.list? item' := by
  cases j with
  | array xs =>
    have hx : ∀ x ∈ xs, item x = item' x := fun x hx =>
      h x (by rw [depth]; exact Nat.lt_succ_of_le (depth_le_of_mem_items hx))
    exact mapM_congr hx
  | _ => rfl

namespace Entries

theorem mem_of_field? {v : Json} (h : m.field? key = some (some v)) : (key, v) ∈ m := by
  unfold field? at h
  split at h
  · cases h
  · rename_i k value heq
    have hmem : (k, value) ∈ m.filter (·.1 = key) := by rw [heq]; exact List.mem_cons_self
    obtain ⟨hm, hk⟩ := List.mem_filter.1 hmem
    simp only [decide_eq_true_eq] at hk
    cases h
    exact hk ▸ hm
  · cases h

theorem required_congr (h : ∀ v : Json, v.depth ≤ depthMembers m → read v = read' v) :
    m.required key read = m.required key read' := by
  unfold required
  split
  · exact h _ (depth_le_of_mem_members (mem_of_field? ‹_›))
  · rfl

theorem listField_congr (h : ∀ x : Json, x.depth < depthMembers m → item x = item' x) :
    m.listField key item = m.listField key item' := by
  unfold listField withDefault
  split
  · rfl
  · rfl
  · have hv := depth_le_of_mem_members (mem_of_field? ‹_›)
    exact list?_congr fun x hx => h x (Nat.lt_of_lt_of_le hx hv)

end Entries

theorem of_tagged? {d : Delivery} {j : Json} {t : Tagged} (h : j.tagged? d = some t) :
    ∃ m, j.fields? ["type", "value"] = some m ∧ m.required "type" (name? d) = some t.tag ∧
      m.field? "value" = some (some t.value) ∧ (t.delivery = d ∨ t.delivery = .gathered) := by
  simp only [tagged?, Option.bind_eq_bind, Option.bind_eq_some_iff] at h
  obtain ⟨m, hm, tag, htag, value, hvalue, h⟩ := h
  have hfield : m.field? "value" = some (some value) := by
    unfold Entries.required at hvalue
    split at hvalue
    · cases hvalue
      assumption
    · cases hvalue
  split at h
  · split at h
    · cases h
      exact ⟨m, hm, htag, hfield, .inr rfl⟩
    · cases h
  · cases h
    exact ⟨m, hm, htag, hfield, .inl rfl⟩

theorem depth_lt_of_tagged? {d : Delivery} {j : Json} {t : Tagged} (h : j.tagged? d = some t) :
    t.value.depth < j.depth := by
  obtain ⟨m, hm, -, hvalue, -⟩ := of_tagged? h
  exact Nat.lt_of_le_of_lt (depth_le_of_mem_members (Entries.mem_of_field? hvalue))
    (depthMembers_lt_of_fields? hm)

theorem tagged?_of_depth_zero {d : Delivery} {j : Json} (h : j.depth = 0) : j.tagged? d = none := by
  rw [tagged?, fields?_of_depth_zero h]
  rfl

end Json

open Json

/-! ## Annotations in the metadata -/

/-- The value of an argument by its tag, with the readers of what may be nested in it. -/
def AnnotValue.payload (annot : Json → Option KotlinAnnot) (item : Json → Option AnnotValue)
    (tag : String) (value : Json) : Option AnnotValue :=
  match tag with
  | "byte" => value.int8?.map .byte
  | "char" => value.char?.map .char
  | "short" => value.int16?.map .short
  | "int" => value.int32?.map .int
  | "long" => value.int64?.map .long
  | "float" => value.single?.map .float
  | "double" => value.double?.map .double
  | "boolean" => value.bool?.map .boolean
  | "uByte" => value.uint8?.map .ubyte
  | "uShort" => value.uint16?.map .ushort
  | "uInt" => value.uint32?.map .uint
  | "uLong" => value.uint64?.map .ulong
  | "string" => value.string?.map .string
  | "class" => AnnotValue.classLiteralOfJson? value
  | "enum" => AnnotValue.enumEntryOfJson? value
  | "annotation" => (annot value).map .annot
  | "array" => (value.list? item).map .array
  | _ => none

theorem AnnotValue.readAt_succ (d : Delivery) (bound : Nat) (j : Json) :
    AnnotValue.readAt d (bound + 1) j = (j.tagged? d).bind fun t =>
      payload (KotlinAnnot.readAt t.delivery bound) (AnnotValue.readAt t.delivery bound) t.tag
        t.value := rfl

theorem AnnotValue.payload_congr {annot annot' : Json → Option KotlinAnnot}
    {item item' : Json → Option AnnotValue} {tag : String} {value : Json}
    (ha : annot value = annot' value)
    (hi : ∀ x : Json, x.depth < value.depth → item x = item' x) :
    payload annot item tag value = payload annot' item' tag value := by
  simp only [payload, ha, list?_congr hi]

theorem KotlinAnnot.readAt_stable (d : Delivery) (b b' : Nat) (j : Json) (h : j.depth ≤ b)
    (h' : j.depth ≤ b') :
    KotlinAnnot.readAt d b j = KotlinAnnot.readAt d b' j ∧
      AnnotArgument.readAt d b j = AnnotArgument.readAt d b' j ∧
      AnnotValue.readAt d b j = AnnotValue.readAt d b' j := by
  induction b generalizing d b' j with
  | zero =>
    have hj := Nat.le_zero.1 h
    cases b' <;> simp [KotlinAnnot.readAt, AnnotArgument.readAt, AnnotValue.readAt,
      fields?_of_depth_zero hj, tagged?_of_depth_zero hj]
  | succ b ih =>
    cases b' with
    | zero =>
      have hj := Nat.le_zero.1 h'
      simp [KotlinAnnot.readAt, AnnotArgument.readAt, AnnotValue.readAt, fields?_of_depth_zero hj,
        tagged?_of_depth_zero hj]
    | succ b' =>
      -- Both bounds cover what lies within, with one level to spare.
      have below : ∀ (d : Delivery) (x : Json), x.depth < j.depth → _ := fun d x hx =>
        ih d b' x (by omega) (by omega)
      refine ⟨?_, ?_, ?_⟩
      · simp only [KotlinAnnot.readAt, Option.bind_eq_bind]
        refine Option.bind_congr fun m hm => ?_
        have hlt := depthMembers_lt_of_fields? hm
        rw [Entries.listField_congr fun x hx => (below d x (Nat.lt_trans hx hlt)).2.1]
      · simp only [AnnotArgument.readAt, Option.bind_eq_bind]
        refine Option.bind_congr fun m hm => ?_
        have hlt := depthMembers_lt_of_fields? hm
        rw [Entries.required_congr fun x hx => (below d x (Nat.lt_of_le_of_lt hx hlt)).2.2]
      · simp only [AnnotValue.readAt_succ]
        refine Option.bind_congr fun t ht => ?_
        have hlt := depth_lt_of_tagged? ht
        exact AnnotValue.payload_congr (below t.delivery _ hlt).1
          fun x hx => (below t.delivery x (Nat.lt_trans hx hlt)).2.2

/-- The argument that a delivered document value is. -/
def AnnotArgument.ofDelivered? (d : Delivery) (j : Json) : Option AnnotArgument :=
  AnnotArgument.readAt d j.depth j

/-- The value of an argument that a delivered document value is. -/
def AnnotValue.ofDelivered? (d : Delivery) (j : Json) : Option AnnotValue :=
  AnnotValue.readAt d j.depth j

/-- At one level more than the depth the readers give what they give at the depth. -/
theorem KotlinAnnot.readAt_depth_succ (d : Delivery) (j : Json) :
    KotlinAnnot.ofDelivered? d j = KotlinAnnot.readAt d (j.depth + 1) j ∧
      AnnotArgument.ofDelivered? d j = AnnotArgument.readAt d (j.depth + 1) j ∧
      AnnotValue.ofDelivered? d j = AnnotValue.readAt d (j.depth + 1) j :=
  KotlinAnnot.readAt_stable d _ _ j (Nat.le_refl _) (Nat.le_succ _)

/-- What lies within is covered by the depth of the whole. -/
theorem KotlinAnnot.readAt_of_depth_le {d : Delivery} {bound : Nat} {x : Json} (h : x.depth ≤ bound) :
    KotlinAnnot.readAt d bound x = KotlinAnnot.ofDelivered? d x ∧
      AnnotArgument.readAt d bound x = AnnotArgument.ofDelivered? d x ∧
      AnnotValue.readAt d bound x = AnnotValue.ofDelivered? d x :=
  KotlinAnnot.readAt_stable d _ _ x h (Nat.le_refl _)

theorem KotlinAnnot.ofDelivered?_eq (d : Delivery) (j : Json) : KotlinAnnot.ofDelivered? d j = do
    let m ← j.fields? ["class_name", "arguments"]
    return {
      className := ← m.required "class_name" string?
      arguments := ← m.listField "arguments" (AnnotArgument.ofDelivered? d) } := by
  rw [(KotlinAnnot.readAt_depth_succ d j).1]
  simp only [KotlinAnnot.readAt, Option.bind_eq_bind]
  refine Option.bind_congr fun m hm => ?_
  have hlt := depthMembers_lt_of_fields? hm
  rw [Entries.listField_congr fun x hx =>
    (KotlinAnnot.readAt_of_depth_le (Nat.le_of_lt (Nat.lt_trans hx hlt))).2.1]

theorem AnnotArgument.ofDelivered?_eq (d : Delivery) (j : Json) :
    AnnotArgument.ofDelivered? d j = do
    let m ← j.fields? ["name", "value"]
    return {
      name := ← m.required "name" string?
      value := ← m.required "value" (AnnotValue.ofDelivered? d) } := by
  rw [(KotlinAnnot.readAt_depth_succ d j).2.1]
  simp only [AnnotArgument.readAt, Option.bind_eq_bind]
  refine Option.bind_congr fun m hm => ?_
  have hlt := depthMembers_lt_of_fields? hm
  rw [Entries.required_congr fun x hx =>
    (KotlinAnnot.readAt_of_depth_le (Nat.le_of_lt (Nat.lt_of_le_of_lt hx hlt))).2.2]

theorem AnnotValue.ofDelivered?_eq (d : Delivery) (j : Json) : AnnotValue.ofDelivered? d j =
    (j.tagged? d).bind fun t =>
      payload (KotlinAnnot.ofDelivered? t.delivery) (AnnotValue.ofDelivered? t.delivery) t.tag
        t.value := by
  rw [(KotlinAnnot.readAt_depth_succ d j).2.2, AnnotValue.readAt_succ]
  refine Option.bind_congr fun t ht => ?_
  have hlt := depth_lt_of_tagged? ht
  exact AnnotValue.payload_congr (KotlinAnnot.readAt_of_depth_le (Nat.le_of_lt hlt)).1
    fun x hx => (KotlinAnnot.readAt_of_depth_le (Nat.le_of_lt (Nat.lt_trans hx hlt))).2.2

/-! ## Annotations in the class file -/

/-- The constant of a tag. -/
def Constant.payload (tag : String) (value : Json) : Option Constant :=
  match tag with
  | "integer" => value.int32?.map .integer
  | "long" => value.int64?.map .long
  | "float" => value.single?.map .float
  | "double" => value.double?.map .double
  | "string" => value.string?.map .string
  | "class" => value.string?.map .classRef
  | _ => none

theorem Constant.ofDelivered?_eq (d : Delivery) (j : Json) : Constant.ofDelivered? d j =
    (j.tagged? d).bind fun t => payload t.tag t.value := rfl

/-- The value of an element by its kind, with the readers of what may be nested in it. -/
def ElementValue.payload (annot : Json → Option JvmAnnot) (item : Json → Option Element)
    (kind : String) (m : Entries) : Option ElementValue :=
  match kind with
  | "constant" => (m.required "value" (Constant.ofDelivered? .gathered)).map .constant
  | "enumConstant" =>
    return .enumConstant (← m.required "type_descriptor" string?)
      (← m.required "constant_name" string?)
  | "class" => (m.required "descriptor" string?).map .classLiteral
  | "annotation" => (m.required "annotation" annot).map .annot
  | "array" => (m.required "values" (list? item)).map .array
  | _ => none

theorem ElementValue.readAt_succ (d : Delivery) (bound : Nat) (j : Json) :
    ElementValue.readAt d (bound + 1) j = (ElementValue.parts? d j).bind fun t =>
      if !j.isReadable then none
      else payload (JvmAnnot.readAt .gathered bound) (Element.readAt .gathered bound) t.kind
        t.fields := rfl

theorem ElementValue.payload_congr {annot annot' : Json → Option JvmAnnot}
    {item item' : Json → Option Element} {kind : String} {m : Entries}
    (ha : ∀ v : Json, v.depth ≤ depthMembers m → annot v = annot' v)
    (hi : ∀ v : Json, v.depth ≤ depthMembers m → item v = item' v) :
    payload annot item kind m = payload annot' item' kind m := by
  have hl : ∀ v : Json, v.depth ≤ depthMembers m → v.list? item = v.list? item' := fun v hv =>
    list?_congr fun x hx => hi x (Nat.le_of_lt (Nat.lt_of_lt_of_le hx hv))
  simp only [payload, Entries.required_congr ha, Entries.required_congr hl]

theorem ElementValue.depthMembers_lt_of_parts? {d : Delivery} {j : Json} {t : ElementValue.Parts}
    (h : ElementValue.parts? d j = some t) : depthMembers t.fields < j.depth := by
  unfold ElementValue.parts? at h
  split at h
  · obtain ⟨kind, -, hkind⟩ := Option.bind_eq_some_iff.1 h
    cases hkind
    exact Nat.lt_succ_self _
  · rename_i first rest
    obtain ⟨kind, -, h⟩ := Option.bind_eq_some_iff.1 h
    obtain ⟨m, hm, hfields⟩ := Option.bind_eq_some_iff.1 h
    cases hfields
    have hlt := depthMembers_lt_of_fields? hm
    simp only [depth, depthItems] at hlt ⊢
    omega
  · cases h

theorem ElementValue.parts?_of_depth_zero {d : Delivery} {j : Json} (h : j.depth = 0) :
    ElementValue.parts? d j = none := by
  rw [Option.eq_none_iff_forall_ne_some]
  intro t ht
  have hlt := ElementValue.depthMembers_lt_of_parts? ht
  omega

theorem JvmAnnot.readAt_stable (d : Delivery) (b b' : Nat) (j : Json) (h : j.depth ≤ b)
    (h' : j.depth ≤ b') :
    JvmAnnot.readAt d b j = JvmAnnot.readAt d b' j ∧ Element.readAt d b j = Element.readAt d b' j ∧
      ElementValue.readAt d b j = ElementValue.readAt d b' j := by
  induction b generalizing d b' j with
  | zero =>
    have hj := Nat.le_zero.1 h
    cases b' <;> simp [JvmAnnot.readAt, Element.readAt, ElementValue.readAt,
      fields?_of_depth_zero hj, ElementValue.parts?_of_depth_zero hj]
  | succ b ih =>
    cases b' with
    | zero =>
      have hj := Nat.le_zero.1 h'
      simp [JvmAnnot.readAt, Element.readAt, ElementValue.readAt, fields?_of_depth_zero hj,
        ElementValue.parts?_of_depth_zero hj]
    | succ b' =>
      have below : ∀ (d : Delivery) (x : Json), x.depth < j.depth → _ := fun d x hx =>
        ih d b' x (by omega) (by omega)
      refine ⟨?_, ?_, ?_⟩
      · simp only [JvmAnnot.readAt, Option.bind_eq_bind]
        refine Option.bind_congr fun m hm => ?_
        have hlt := depthMembers_lt_of_fields? hm
        rw [Entries.listField_congr fun x hx => (below d x (Nat.lt_trans hx hlt)).2.1]
      · simp only [Element.readAt, Option.bind_eq_bind]
        refine Option.bind_congr fun m hm => ?_
        have hlt := depthMembers_lt_of_fields? hm
        rw [Entries.required_congr fun x hx => (below d x (Nat.lt_of_le_of_lt hx hlt)).2.2]
      · simp only [ElementValue.readAt_succ]
        refine Option.bind_congr fun t ht => ?_
        have hlt := ElementValue.depthMembers_lt_of_parts? ht
        rw [ElementValue.payload_congr
          (fun x hx => (below .gathered x (Nat.lt_of_le_of_lt hx hlt)).1)
          fun x hx => (below .gathered x (Nat.lt_of_le_of_lt hx hlt)).2.1]

/-- The element that a delivered document value is. -/
def Element.ofDelivered? (d : Delivery) (j : Json) : Option Element := Element.readAt d j.depth j

/-- The value of an element that a delivered document value is. -/
def ElementValue.ofDelivered? (d : Delivery) (j : Json) : Option ElementValue :=
  ElementValue.readAt d j.depth j

theorem JvmAnnot.readAt_depth_succ (d : Delivery) (j : Json) :
    JvmAnnot.ofDelivered? d j = JvmAnnot.readAt d (j.depth + 1) j ∧
      Element.ofDelivered? d j = Element.readAt d (j.depth + 1) j ∧
      ElementValue.ofDelivered? d j = ElementValue.readAt d (j.depth + 1) j :=
  JvmAnnot.readAt_stable d _ _ j (Nat.le_refl _) (Nat.le_succ _)

theorem JvmAnnot.readAt_of_depth_le {d : Delivery} {bound : Nat} {x : Json} (h : x.depth ≤ bound) :
    JvmAnnot.readAt d bound x = JvmAnnot.ofDelivered? d x ∧
      Element.readAt d bound x = Element.ofDelivered? d x ∧
      ElementValue.readAt d bound x = ElementValue.ofDelivered? d x :=
  JvmAnnot.readAt_stable d _ _ x h (Nat.le_refl _)

theorem JvmAnnot.ofDelivered?_eq (d : Delivery) (j : Json) : JvmAnnot.ofDelivered? d j = do
    let m ← j.fields? ["type_descriptor", "elements"]
    return {
      typeDescriptor := ← m.required "type_descriptor" string?
      elements := ← m.listField "elements" (Element.ofDelivered? d) } := by
  rw [(JvmAnnot.readAt_depth_succ d j).1]
  simp only [JvmAnnot.readAt, Option.bind_eq_bind]
  refine Option.bind_congr fun m hm => ?_
  have hlt := depthMembers_lt_of_fields? hm
  rw [Entries.listField_congr fun x hx =>
    (JvmAnnot.readAt_of_depth_le (Nat.le_of_lt (Nat.lt_trans hx hlt))).2.1]

theorem Element.ofDelivered?_eq (d : Delivery) (j : Json) : Element.ofDelivered? d j = do
    let m ← j.fields? ["name", "value"]
    return {
      name := ← m.nullable "name" string?
      value := ← m.required "value" (ElementValue.ofDelivered? d) } := by
  rw [(JvmAnnot.readAt_depth_succ d j).2.1]
  simp only [Element.readAt, Option.bind_eq_bind]
  refine Option.bind_congr fun m hm => ?_
  have hlt := depthMembers_lt_of_fields? hm
  rw [Entries.required_congr fun x hx =>
    (JvmAnnot.readAt_of_depth_le (Nat.le_of_lt (Nat.lt_of_le_of_lt hx hlt))).2.2]

theorem ElementValue.ofDelivered?_eq (d : Delivery) (j : Json) : ElementValue.ofDelivered? d j =
    (ElementValue.parts? d j).bind fun t =>
      if !j.isReadable then none
      else payload (JvmAnnot.ofDelivered? .gathered) (Element.ofDelivered? .gathered) t.kind
        t.fields := by
  rw [(JvmAnnot.readAt_depth_succ d j).2.2, ElementValue.readAt_succ]
  refine Option.bind_congr fun t ht => ?_
  have hlt := ElementValue.depthMembers_lt_of_parts? ht
  have stable := fun (x : Json) (hx : x.depth ≤ depthMembers t.fields) =>
    JvmAnnot.readAt_of_depth_le (d := .gathered) (Nat.le_of_lt (Nat.lt_of_le_of_lt hx hlt))
  rw [ElementValue.payload_congr (fun x hx => (stable x hx).1) fun x hx => (stable x hx).2.1]

/-! ## Types -/

/-- A type argument, with the reader of the type in it. -/
def TypeArgument.form (d : Delivery) (type : Json → Option TypeUse) : Json → Option TypeArgument
  | .string "star" => some .star
  | .object [("star", nothing)] => if nothing.isNothing d then some .star else none
  | .object [("type", t)] => (type t).map .type
  | _ => none

theorem TypeArgument.readAt_zero (d : Delivery) (type : Json → Option TypeUse) {j : Json}
    (h : j.depth = 0) : TypeArgument.readAt d 0 j = form d type j := by
  unfold form
  split
  · rfl
  · simp [depth] at h
  · simp [depth] at h
  · rename_i h₁ h₂ h₃
    exact TypeArgument.readAt.eq_5 d _ j (fun _ => h₁) (fun _ _ => h₁) (fun _ x _ => h₂ x)
      fun _ t _ => h₃ t

theorem TypeArgument.readAt_succ (d : Delivery) (bound : Nat) (j : Json) :
    TypeArgument.readAt d (bound + 1) j = form d (TypeUse.readAt d bound) j := by
  unfold form
  split
  · rfl
  · rfl
  · rfl
  · rename_i h₁ h₂ h₃
    exact TypeArgument.readAt.eq_5 d _ j (fun _ => h₁) (fun _ _ => h₁) (fun _ x _ => h₂ x)
      fun _ t _ => h₃ t

theorem TypeArgument.form_congr {d : Delivery} {type type' : Json → Option TypeUse} {j : Json}
    (h : ∀ t : Json, t.depth < j.depth → type t = type' t) : form d type j = form d type' j := by
  unfold form
  split
  · rfl
  · rfl
  · rw [h _ (by simp [depth, depthMembers])]
  · rfl

theorem TypeUse.readAt_stable (d : Delivery) (b b' : Nat) (j : Json) (h : j.depth ≤ b)
    (h' : j.depth ≤ b') : TypeUse.readAt d b j = TypeUse.readAt d b' j ∧
      TypeArgument.readAt d b j = TypeArgument.readAt d b' j := by
  induction b generalizing b' j with
  | zero =>
    have h₀ := Nat.le_zero.1 h
    cases b' with
    | zero => exact ⟨rfl, rfl⟩
    | succ b' =>
      refine ⟨by simp [TypeUse.readAt, fields?_of_depth_zero h₀], ?_⟩
      rw [TypeArgument.readAt_succ, TypeArgument.readAt_zero d _ h₀]
  | succ b ih =>
    cases b' with
    | zero =>
      have h₀ := Nat.le_zero.1 h'
      refine ⟨by simp [TypeUse.readAt, fields?_of_depth_zero h₀], ?_⟩
      rw [TypeArgument.readAt_succ, TypeArgument.readAt_zero d _ h₀]
    | succ b' =>
      have below : ∀ x : Json, x.depth < j.depth → _ := fun x hx => ih b' x (by omega) (by omega)
      constructor
      · simp only [TypeUse.readAt, Option.bind_eq_bind]
        refine Option.bind_congr fun m hm => ?_
        have hlt := depthMembers_lt_of_fields? hm
        rw [Entries.listField_congr fun x hx => (below x (Nat.lt_trans hx hlt)).2]
      · rw [TypeArgument.readAt_succ, TypeArgument.readAt_succ]
        exact TypeArgument.form_congr fun t ht => (below t ht).1

/-- The type argument that a document value is. -/
def TypeArgument.ofJson? (d : Delivery) (j : Json) : Option TypeArgument :=
  TypeArgument.readAt d j.depth j

theorem TypeUse.ofJson?_eq (d : Delivery) (j : Json) : TypeUse.ofJson? d j = do
    let m ← j.fields? ["class_name", "alias_name", "type_parameter_id", "flags", "variance",
      "arguments", "annotations"]
    return {
      className := ← m.nullable "class_name" string?
      aliasName := ← m.nullable "alias_name" string?
      parameterId := ← m.nullable "type_parameter_id" uint32?
      flags := ← m.flagField d "flags"
      variance := ← m.namedField d "variance"
      arguments := ← m.listField "arguments" (TypeArgument.ofJson? d)
      annotations := ← m.listField "annotations" (KotlinAnnot.ofDelivered? d) } := by
  rw [TypeUse.ofJson?, (TypeUse.readAt_stable d _ (j.depth + 1) j (Nat.le_refl _) (Nat.le_succ _)).1]
  simp only [TypeUse.readAt, Option.bind_eq_bind]
  refine Option.bind_congr fun m hm => ?_
  have hlt := depthMembers_lt_of_fields? hm
  have hargs : m.listField "arguments" (TypeArgument.readAt d j.depth) =
      m.listField "arguments" (TypeArgument.ofJson? d) := Entries.listField_congr fun x hx =>
    (TypeUse.readAt_stable d _ x.depth x (Nat.le_of_lt (Nat.lt_trans hx hlt)) (Nat.le_refl _)).2
  rw [hargs]

theorem TypeArgument.ofJson?_eq (d : Delivery) (j : Json) :
    TypeArgument.ofJson? d j = form d (TypeUse.ofJson? d) j := by
  unfold TypeArgument.ofJson?
  cases hj : j.depth with
  | zero => exact TypeArgument.readAt_zero d _ hj
  | succ n =>
    rw [TypeArgument.readAt_succ]
    exact TypeArgument.form_congr fun t ht =>
      (TypeUse.readAt_stable d _ t.depth t (by omega) (Nat.le_refl _)).1

end KotlinMetadata
