/-
The shapes of the parts of a pool document: which reader a part is given to,
and which keys that reader knows in an object. The keys known for a tagged
value depend on its tag, wherever the tag stands; the items of an array stand
for the known keys in their order.

A reader is governed by a table of keys when it depends on nothing but the
members with those keys, each through the reader of its own shape, and
succeeds only if all of them can be read. Readers made step by step are
governed by the keys of their steps (`Governed.cons`).
-/
import KotlinMetadata.Proofs.Codec.Field
import KotlinMetadata.Proofs.Codec.Nesting

namespace KotlinMetadata

open Json

/-- What a part of a document is read as. -/
inductive Shape where
  /-- A value without parts: a text, a number, a truth value. -/
  | plain
  /-- A string, or an object whose one key it is. -/
  | name
  /-- The value that stands beside a key that is a name. -/
  | nothing
  | list (s : Shape)
  | pool | artifact | method | field | constant
  | jvmAnnot | element | elementValue
  | metadata | version | methodRef | fieldRef
  | constructor | function | accessor | property | typeAlias
  | typeParameter | valueParameter | typeUse | typeArgument
  | kotlinAnnot | annotArgument | annotValue | classLiteral | enumEntry

/-- Keys, each with the shape of its value. -/
abbrev Fields := List (String × Shape)

/-! ## The keys of each shape -/

namespace Fields

def members : Fields :=
  [("functions", .list .function), ("properties", .list .property),
   ("local_delegated_properties", .list .property), ("type_aliases", .list .typeAlias)]

/-- The keys of a content, by its kind. -/
def content : String → Fields
  | "class" =>
    [("class_name", .plain), ("class_kind", .name), ("visibility", .name), ("modality", .name),
     ("flags", .list .name), ("type_parameters", .list .typeParameter),
     ("super_types", .list .typeUse), ("context_receivers", .list .typeUse),
     ("constructors", .list .constructor), ("nested_class_names", .list .plain),
     ("companion_object_name", .plain), ("sealed_subclass_names", .list .plain),
     ("enum_entry_names", .list .plain), ("underlying_property_name", .plain),
     ("underlying_property_type", .typeUse), ("anonymous_object_origin_name", .plain),
     ("version_requirement", .version)] ++ members
  | "fileFacade" => members
  | "syntheticClass" => [("flavor", .name), ("functions", .list .function)]
  | "multiFileFacade" => [("part_class_names", .list .plain)]
  | "multiFilePart" => ("facade_name", .plain) :: members
  | _ => []

/-- The keys of an element value, by its kind. -/
def elementValue : String → Fields
  | "constant" => [("value", .constant)]
  | "enumConstant" => [("type_descriptor", .plain), ("constant_name", .plain)]
  | "class" => [("descriptor", .plain)]
  | "annotation" => [("annotation", .jvmAnnot)]
  | "array" => [("values", .list .element)]
  | _ => []

/-- The keys of the value of an argument beside its type, by that type. -/
def annotValue : String → Fields
  | "class" => [("value", .classLiteral)]
  | "enum" => [("value", .enumEntry)]
  | "annotation" => [("value", .kotlinAnnot)]
  | "array" => [("value", .list .annotValue)]
  | _ => [("value", .plain)]

/-- The keys of a tagged value: the key of its tag, and those of that tag. -/
def tagged (key : String) (s : Shape) (tag : Json → Option String) (fields : String → Fields)
    (m : Entries) : Fields :=
  (key, s) :: ((m.required key tag).map fields).getD []

end Fields

namespace Shape

/-- The keys known in an object of a shape. A tag is read as leniently as anywhere: where less is
accepted for a tag, the value is refused whatever its other keys are. -/
def known : Shape → Entries → Fields
  | plain, _ | nothing, _ | list _, _ => []
  | name, m => m.map fun p => (p.1, nothing)
  | pool, _ => [("artifacts", .list artifact)]
  | artifact, _ =>
    [("name", plain), ("access", .list name), ("methods", .list method), ("fields", .list field),
     ("annotations", .list jvmAnnot), ("metadata", metadata)]
  | method, _ =>
    [("name", plain), ("descriptor", plain), ("access", .list name),
     ("annotations", .list jvmAnnot)]
  | field, _ =>
    [("name", plain), ("descriptor", plain), ("access", .list name), ("constant_value", constant),
     ("annotations", .list jvmAnnot)]
  | constant, _ => [("type", name), ("value", plain)]
  | jvmAnnot, _ => [("type_descriptor", plain), ("elements", .list element)]
  | element, _ => [("name", plain), ("value", elementValue)]
  | elementValue, m =>
    Fields.tagged "kind" plain (kind? .gathered ElementValue.kinds) Fields.elementValue m
  | metadata, m =>
    ("version", .list plain)
      :: Fields.tagged "kind" plain (kind? .gathered Content.kinds) Fields.content m
  | version, _ => [("major", plain), ("minor", plain), ("patch", plain)]
  | methodRef, _ => [("owner", plain), ("name", plain), ("descriptor", plain)]
  | fieldRef, _ => [("name", plain), ("descriptor", plain)]
  | constructor, _ =>
    [("visibility", name), ("flags", .list name), ("value_parameters", .list valueParameter),
     ("version_requirement", version), ("jvm_signature", methodRef)]
  | function, _ =>
    [("name", plain), ("visibility", name), ("modality", name), ("member_kind", name),
     ("flags", .list name), ("type_parameters", .list typeParameter), ("receiver_type", typeUse),
     ("context_receivers", .list typeUse), ("value_parameters", .list valueParameter),
     ("return_type", typeUse), ("version_requirement", version), ("jvm_signature", methodRef)]
  | accessor, _ =>
    [("visibility", name), ("modality", name), ("flags", .list name), ("signature", methodRef)]
  | property, _ =>
    [("name", plain), ("visibility", name), ("modality", name), ("member_kind", name),
     ("flags", .list name), ("type_parameters", .list typeParameter), ("receiver_type", typeUse),
     ("context_receivers", .list typeUse), ("type", typeUse), ("getter", accessor),
     ("setter", accessor), ("setter_parameter", valueParameter), ("version_requirement", version),
     ("backing_field", fieldRef), ("synthetic_method_for_annotations", methodRef),
     ("synthetic_method_for_delegate", methodRef)]
  | typeAlias, _ =>
    [("name", plain), ("visibility", name), ("annotations", .list kotlinAnnot),
     ("type_parameters", .list typeParameter), ("underlying_type", typeUse),
     ("expanded_type", typeUse), ("version_requirement", version)]
  | typeParameter, _ =>
    [("id", plain), ("name", plain), ("variance", name), ("flags", .list name),
     ("upper_bounds", .list typeUse), ("annotations", .list kotlinAnnot)]
  | valueParameter, _ =>
    [("name", plain), ("flags", .list name), ("type", typeUse), ("vararg_element_type", typeUse)]
  | typeUse, _ =>
    [("class_name", plain), ("alias_name", plain), ("type_parameter_id", plain),
     ("flags", .list name), ("variance", name), ("arguments", .list typeArgument),
     ("annotations", .list kotlinAnnot)]
  | typeArgument, _ => [("star", nothing), ("type", typeUse)]
  | kotlinAnnot, _ => [("class_name", plain), ("arguments", .list annotArgument)]
  | annotArgument, _ => [("name", plain), ("value", annotValue)]
  | annotValue, m => Fields.tagged "type" name (name? .gathered) Fields.annotValue m
  | classLiteral, _ => [("class_name", plain), ("array_dimensions", plain)]
  | enumEntry, _ => [("class_name", plain), ("entry_name", plain)]

/-- Whether an object of the shape may hold keys beside those it knows: it is read as a structure or
as a tagged value. The objects that are names or type arguments have exactly one key. -/
def isOpen : Shape → Bool
  | plain | nothing | name | list _ | typeArgument => false
  | _ => true

/-- Whether an array may stand for an object of the shape. -/
def takesArrays : Shape → Bool
  | metadata | classLiteral | enumEntry => false
  | s => s.isOpen

/-- The tag by which the items of an array are known. -/
def lead : Shape → List Json → Entries
  | annotValue, first :: _ => [("type", first)]
  | elementValue, first :: _ => [("kind", first)]
  | _, _ => []

/-- The keys that the items of an array stand for. -/
def columns (s : Shape) (items : List Json) : Fields :=
  if s.takesArrays then s.known (s.lead items) else []

/-- The members that the items of an array stand for. -/
def row (s : Shape) (items : List Json) : Option Entries :=
  if s.takesArrays then (Json.array items).fields? ((s.columns items).map Prod.fst) else none

/-- The members of a value, with its keys or by their order. -/
def members? (s : Shape) : Json → Option Entries
  | .object m => some m
  | .array items => s.row items
  | _ => none

/-- The shape of an item of an array. -/
def item : Shape → (items : List Json) → (place : Nat) → Shape
  | list s, _, _ => s
  | s, items, place => (((s.columns items)[place]?).map Prod.snd).getD plain

/-- The shape of a member of an object. -/
def member (s : Shape) (m : Entries) (key : String) : Shape := ((s.known m).lookup key).getD plain

end Shape

/-! ## Reading by shape -/

/-- A value other than a list or an object. -/
def Json.scalar? : Json → Option Json
  | .array _ => none
  | .object _ => none
  | j => some j

namespace Shape

def Result : Shape → Type
  | plain => Json
  | name => String
  | nothing => Unit
  | list s => List s.Result
  | pool => PoolDocument
  | artifact => Artifact
  | method => Method
  | field => Field
  | constant => Constant
  | jvmAnnot => JvmAnnot
  | element => Element
  | elementValue => ElementValue
  | metadata => Metadata
  | version => Version
  | methodRef => MethodRef
  | fieldRef => FieldRef
  | constructor => Constructor
  | function => Function
  | accessor => Accessor
  | property => Property
  | typeAlias => TypeAlias
  | typeParameter => TypeParameter
  | valueParameter => ValueParameter
  | typeUse => TypeUse
  | typeArgument => TypeArgument
  | kotlinAnnot => KotlinAnnot
  | annotArgument => AnnotArgument
  | annotValue => AnnotValue
  | classLiteral => AnnotValue
  | enumEntry => AnnotValue

/-- The reader of a shape. What a plain value must be is left to whoever asks for it. All parts of
metadata are gathered, whichever way the document is delivered. -/
def read (d : Delivery) : (s : Shape) → Json → Option s.Result
  | plain => scalar?
  | name => name? d
  | nothing => fun j => if j.isNothing d then some () else none
  | list s => list? (s.read d)
  | pool => PoolDocument.ofJson?
  | artifact => Artifact.ofJson?
  | method => Method.ofJson?
  | field => Field.ofJson?
  | constant => Constant.ofDelivered? d
  | jvmAnnot => JvmAnnot.ofDelivered? d
  | element => Element.ofDelivered? d
  | elementValue => ElementValue.ofDelivered? d
  | metadata => Metadata.ofJson?
  | version => Version.ofJson?
  | methodRef => MethodRef.ofJson?
  | fieldRef => FieldRef.ofJson?
  | constructor => Constructor.ofJson? .gathered
  | function => Function.ofJson? .gathered
  | accessor => Accessor.ofDelivered? .gathered
  | property => Property.ofJson? .gathered
  | typeAlias => TypeAlias.ofJson? .gathered
  | typeParameter => TypeParameter.ofJson? .gathered
  | valueParameter => ValueParameter.ofJson? .gathered
  | typeUse => TypeUse.ofJson? .gathered
  | typeArgument => TypeArgument.ofJson? .gathered
  | kotlinAnnot => KotlinAnnot.ofDelivered? .gathered
  | annotArgument => AnnotArgument.ofDelivered? .gathered
  | annotValue => AnnotValue.ofDelivered? .gathered
  | classLiteral => AnnotValue.classLiteralOfJson?
  | enumEntry => AnnotValue.enumEntryOfJson?

/-- Two values are the same to the reader of a shape. -/
def Same (s : Shape) (v v' : Json) : Prop := ∀ d, s.read d v = s.read d v'

def Accepts (s : Shape) (v : Json) : Prop := ∃ d, (s.read d v).isSome

end Shape

/-! ## Readers of a shape -/

/-- A reader that goes through the reader of a shape. -/
def Shape.Reads {α : Type} (s : Shape) (r : Json → Option α) : Prop :=
  ∃ d k, ∀ v, r v = (s.read d v).bind k

namespace Shape.Reads

variable {α β : Type} {s : Shape} {r : Json → Option α}

theorem self (d : Delivery) (s : Shape) : s.Reads (s.read d) :=
  ⟨d, some, fun _ => by simp⟩

theorem plain (ha : ∀ xs, r (.array xs) = none) (ho : ∀ m, r (.object m) = none) :
    Shape.plain.Reads r := by
  refine ⟨.direct, r, fun v => ?_⟩
  cases v with
  | array xs => exact ha xs
  | object m => exact ho m
  | _ => rfl

theorem string : Shape.plain.Reads string? := plain (fun _ => rfl) fun _ => rfl

theorem kind (d : Delivery) (kinds : List String) : Shape.plain.Reads (kind? d kinds) :=
  plain (fun _ => rfl) fun _ => rfl

theorem uint32 : Shape.plain.Reads uint32? := plain (fun _ => rfl) fun _ => rfl

theorem bind (f : α → Option β) (h : s.Reads r) : s.Reads fun v => (r v).bind f := by
  obtain ⟨d, k, hk⟩ := h
  refine ⟨d, fun a => (k a).bind f, fun v => ?_⟩
  simp only [hk, Option.bind_assoc]

theorem map (f : α → β) (h : s.Reads r) : s.Reads fun v => (r v).map f := by
  simpa only [Option.map_eq_bind] using h.bind (some ∘ f)

theorem enumerated [Enumerated α] (d : Delivery) :
    Shape.name.Reads (enumerated? d : Json → Option α) := bind Enumerated.ofName? (self d .name)

theorem mapM_bind {γ : Type} {g : Json → Option γ} {k : γ → Option α} (h : ∀ v, r v = (g v).bind k)
    (xs : List Json) : xs.mapM r = (xs.mapM g).bind (List.mapM k) := by
  induction xs with
  | nil => rfl
  | cons x xs ih =>
    rw [List.mapM_cons, List.mapM_cons, h, ih]
    cases g x with
    | none => rfl
    | some a =>
      cases xs.mapM g with
      | none => simp
      | some as => simp [List.mapM_cons]

theorem list (h : s.Reads r) : (Shape.list s).Reads (list? r) := by
  obtain ⟨d, k, hk⟩ := h
  refine ⟨d, List.mapM k, fun v => ?_⟩
  cases v with
  | array xs => exact mapM_bind hk xs
  | _ => rfl

theorem same (h : s.Reads r) {v v' : Json} (hs : s.Same v v') : r v = r v' := by
  obtain ⟨d, k, hk⟩ := h
  rw [hk, hk, hs d]

theorem accepts (h : s.Reads r) {v : Json} (hv : (r v).isSome) : s.Accepts v := by
  obtain ⟨d, k, hk⟩ := h
  refine ⟨d, ?_⟩
  rw [hk] at hv
  cases hd : s.read d v with
  | none => simp [hd] at hv
  | some a => rfl

end Shape.Reads

/-! ## Readers governed by a table of keys -/

/-- The members of a key are the same to the reader of a shape. -/
def FieldSame (s : Shape) (o o' : Option (Option Json)) : Prop :=
  o = o' ∨ ∃ v v', o = some (some v) ∧ o' = some (some v') ∧ s.Same v v' ∧ v ≠ .null ∧ v' ≠ .null

def SameFields (K : Fields) (m m' : Entries) : Prop :=
  ∀ p ∈ K, FieldSame p.2 (m.field? p.1) (m'.field? p.1)

/-- A key is not given twice, and its value, if there is one, is `null` or can be read. -/
def FieldRead (s : Shape) (o : Option (Option Json)) : Prop :=
  ∃ f, o = some f ∧ ∀ v ∈ f, v = .null ∨ s.Accepts v

theorem FieldRead.absent (s : Shape) : FieldRead s (some none) := by
  refine ⟨none, rfl, fun v hv => ?_⟩
  cases hv

theorem FieldRead.null (s : Shape) : FieldRead s (some (some .null)) := by
  refine ⟨some .null, rfl, fun v hv => ?_⟩
  exact .inl (Option.mem_some.1 hv).symm

theorem FieldRead.given {s : Shape} {v : Json} (h : s.Accepts v) : FieldRead s (some (some v)) := by
  refine ⟨some v, rfl, fun w hw => ?_⟩
  exact .inr (Option.mem_some.1 hw ▸ h)

def FieldsRead (K : Fields) (m : Entries) : Prop := ∀ p ∈ K, FieldRead p.2 (m.field? p.1)

theorem SameFields.of_perm {K : Fields} {m m' : Entries} (h : m.Perm m') : SameFields K m m' :=
  fun _ _ => .inl (Entries.field?_perm h)

theorem SameFields.of_insert {K : Fields} {m : Entries} {key : String} {value : Json}
    (h : key ∉ K.map Prod.fst) : SameFields K m ((key, value) :: m) := by
  intro p hp
  have hne : key ≠ p.1 := fun he => h (List.mem_map.2 ⟨p, hp, he.symm⟩)
  exact .inl (Entries.field?_cons_of_ne hne).symm

theorem Fields.lookup_of_mem {K : Fields} (hK : (K.map Prod.fst).Nodup) {key : String} {s : Shape}
    (h : (key, s) ∈ K) : K.lookup key = some s := by
  induction K with
  | nil => simp at h
  | cons p K ih =>
    rw [List.map_cons, List.nodup_cons] at hK
    rcases List.mem_cons.1 h with rfl | h
    · simp
    · have hne : key ≠ p.1 := fun he => hK.1 (he ▸ List.mem_map.2 ⟨_, h, rfl⟩)
      rw [List.lookup_cons, beq_false_of_ne hne]
      exact ih hK.2 h

theorem SameFields.of_member {K : Fields} (hK : (K.map Prod.fst).Nodup) {before after : Entries}
    {key : String} {x x' : Json} (h : ((K.lookup key).getD .plain).Same x x') (hn : x ≠ .null)
    (hn' : x' ≠ .null) :
    SameFields K (before ++ (key, x) :: after) (before ++ (key, x') :: after) := by
  rintro ⟨k, s⟩ hp
  by_cases hk : key = k
  · subst hk
    rw [Fields.lookup_of_mem hK hp] at h
    rcases Entries.field?_replace key before after x x' with ⟨hx, hx'⟩ | ⟨hx, hx'⟩
    · exact .inr ⟨x, x', hx, hx', h, hn, hn'⟩
    · exact .inl (hx.trans hx'.symm)
  · exact .inl (Entries.field?_replace_of_ne hk)

/-- A reader of the members of an object depends on the keys of a table only, and needs all of them
to be readable. -/
structure Governed {α : Type} (K : Entries → Fields) (read : Entries → Option α) : Prop where
  same : ∀ {m m' : Entries}, allMembersReadable m = true → allMembersReadable m' = true →
    SameFields (K m) m m' → read m = read m'
  strict : ∀ {m : Entries}, (read m).isSome → FieldsRead (K m) m

namespace Governed

variable {α β : Type} {s : Shape} {r : Json → Option α} {key : String} {p : String × Shape}
  {K : Entries → Fields}

theorem required (h : s.Reads r) :
    Governed (fun _ => [(key, s)]) fun m : Entries => m.required key r where
  same _ _ hs := by
    unfold Entries.required
    rcases hs (key, s) List.mem_cons_self with he | ⟨v, v', hv, hv', hsame, -, -⟩
    · rw [he]
    · rw [hv, hv']
      exact h.same hsame
  strict hsome := by
    refine List.forall_mem_singleton.2 ?_
    unfold Entries.required at hsome
    split at hsome
    · rename_i heq
      rw [heq]
      exact .given (h.accepts hsome)
    · cases hsome

theorem withDefault {default : α} (h : s.Reads r) :
    Governed (fun _ => [(key, s)]) fun m : Entries => m.withDefault key default r where
  same _ _ hs := by
    unfold Entries.withDefault
    rcases hs (key, s) List.mem_cons_self with he | ⟨v, v', hv, hv', hsame, -, -⟩
    · rw [he]
    · rw [hv, hv']
      exact h.same hsame
  strict hsome := by
    refine List.forall_mem_singleton.2 ?_
    unfold Entries.withDefault at hsome
    split at hsome
    · cases hsome
    · rename_i heq
      rw [heq]
      exact .absent s
    · rename_i heq
      rw [heq]
      exact .given (h.accepts hsome)

theorem nullable (h : s.Reads r) :
    Governed (fun _ => [(key, s)]) fun m : Entries => m.nullable key r where
  same _ _ hs := by
    unfold Entries.nullable
    rcases hs (key, s) List.mem_cons_self with he | ⟨v, v', hv, hv', hsame, hn, hn'⟩
    · rw [he]
    · simp only [hv, hv', h.same hsame]
  strict hsome := by
    refine List.forall_mem_singleton.2 ?_
    unfold Entries.nullable at hsome
    split at hsome
    · cases hsome
    · rename_i heq
      rw [heq]
      exact .absent s
    · rename_i heq
      rw [heq]
      exact .null s
    · rename_i heq
      rw [Option.isSome_map] at hsome
      rw [heq]
      exact .given (h.accepts hsome)

theorem list (h : s.Reads r) :
    Governed (fun _ => [(key, .list s)]) fun m : Entries => m.listField key r :=
  withDefault h.list

theorem named [Enumerated α] [Inhabited α] {d : Delivery} :
    Governed (fun _ => [(key, .name)]) fun m : Entries => (m.namedField d key : Option α) :=
  withDefault (.enumerated d)

theorem flags {F : Type} [Flag F] {d : Delivery} : Governed (fun _ => [(key, .list .name)])
    fun m : Entries => (m.flagField d key : Option (FlagSet F)) :=
  withDefault (.map FlagSet.ofList (.list (.enumerated d)))

theorem done (a : α) : Governed (fun _ => []) fun _ => some a where
  same _ _ _ := rfl
  strict _ := by simp [FieldsRead]

theorem fails : Governed K fun _ => (none : Option α) where
  same _ _ _ := rfl
  strict h := by cases h

/-- A step that reads one key, then the steps after it. -/
theorem cons {read : Entries → Option α} {k : α → Entries → Option β}
    (h : Governed (fun _ => [p]) read) (hk : ∀ a, Governed K (k a)) :
    Governed (fun m => p :: K m) fun m => read m >>= fun a => k a m where
  same {m m'} hm hm' hs := by
    have hfirst : read m = read m' :=
      h.same hm hm' (List.forall_mem_singleton.2 (hs p List.mem_cons_self))
    rw [hfirst]
    cases read m' with
    | none => rfl
    | some a => exact (hk a).same hm hm' fun q hq => hs q (List.mem_cons_of_mem _ hq)
  strict {m} hsome := by
    cases hread : read m with
    | none => simp [hread] at hsome
    | some a =>
      rw [hread] at hsome
      have hfirst := h.strict (by rw [hread]; rfl)
      exact List.forall_mem_cons.2 ⟨hfirst p List.mem_cons_self, (hk a).strict hsome⟩

theorem map {read : Entries → Option α} {f : α → β} (h : Governed K read) :
    Governed K fun m => (read m).map f where
  same hm hm' hs := by rw [h.same hm hm' hs]
  strict hsome := h.strict (by rwa [Option.isSome_map] at hsome)

theorem last {read : Entries → Option α} {f : α → β} (h : Governed K read) :
    Governed K fun m => read m >>= fun a => some (f a) where
  same hm hm' hs := by rw [h.same hm hm' hs]
  strict {m} hsome := by
    refine h.strict ?_
    cases hread : read m with
    | none => simp [hread] at hsome
    | some a => rfl

/-- The members are reached through the object. -/
theorem entries {read : Entries → Option α} (h : Governed K read) :
    Governed K fun m => (Json.object m).entries? >>= read := h

/-- The fields of an object are its members, whatever keys an array would stand for. -/
theorem object {keys : List String} {read : Entries → Option α} (h : Governed K read) :
    Governed K fun m => (Json.object m).fields? keys >>= read := h

/-- A reader may be replaced by one that agrees on readable members, and accepts no more. -/
theorem congr {read read' : Entries → Option α} (h : Governed K read')
    (he : ∀ m, allMembersReadable m = true → read m = read' m)
    (hs : ∀ m, (read m).isSome → (read' m).isSome) : Governed K read where
  same {m m'} hm hm' hsame := by rw [he m hm, he m' hm', h.same hm hm' hsame]
  strict {m} hsome := h.strict (hs m hsome)

/-- A tag, and then the keys of that tag. The table may read the tag more leniently. -/
theorem tagged {t t' : Json → Option String} {fields : String → Fields}
    {k : String → Entries → Option β} (ht : s.Reads t) (hle : ∀ v tag, t v = some tag → t' v = some tag)
    (h : ∀ tag, Governed (fun _ => fields tag) (k tag)) :
    Governed (Fields.tagged key s t' fields) fun m => m.required key t >>= fun tag => k tag m := by
  have hread : ∀ {m : Entries} {tag : String}, m.required key t = some tag →
      Fields.tagged key s t' fields m = (key, s) :: fields tag := by
    intro m tag htag
    have htag' : m.required key t' = some tag := by
      unfold Entries.required at htag ⊢
      split at htag
      · exact hle _ _ htag
      · cases htag
    rw [Fields.tagged, htag', Option.map_some, Option.getD_some]
  constructor
  · intro m m' hm hm' hs
    have hfirst : m.required key t = m'.required key t :=
      (required ht).same hm hm' (List.forall_mem_singleton.2 (hs _ List.mem_cons_self))
    rw [← hfirst]
    cases htag : m.required key t with
    | none => rfl
    | some tag =>
      rw [hread htag] at hs
      exact (h tag).same hm hm' fun q hq => hs q (List.mem_cons_of_mem _ hq)
  · intro m hsome
    cases htag : m.required key t with
    | none => simp [htag] at hsome
    | some tag =>
      rw [htag] at hsome
      have hfirst : FieldsRead [(key, s)] m := (required ht).strict (by rw [htag]; rfl)
      have hrest := (h tag).strict hsome
      rw [hread htag]
      exact List.forall_mem_cons.2 ⟨hfirst _ List.mem_cons_self, hrest⟩

end Governed

end KotlinMetadata
