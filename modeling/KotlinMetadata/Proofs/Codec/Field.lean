/-
Reading back single values and the members of objects, as far as nothing is
lost: what each writer of the format's common ground writes, its reader
reads. Whatever is written is readable.
-/
import KotlinMetadata.Proofs.Codec.Leaf

namespace KotlinMetadata

namespace Json

variable {α β : Type}

/-! ## Single values -/

theorem integerIn?_ofInt {low high i : Int} (hl : low ≤ i) (hh : i ≤ high) :
    (ofInt i).integerIn? low high = some i := by
  simp [integerIn?, integer?, ofInt, hl, hh]

theorem int8?_ofInt (v : Int8) : (ofInt v.toInt).int8? = some v := by
  rw [int8?, integerIn?_ofInt v.minValue_le_toInt v.toInt_le, Option.map_some, v.ofInt_toInt]

theorem int16?_ofInt (v : Int16) : (ofInt v.toInt).int16? = some v := by
  rw [int16?, integerIn?_ofInt v.minValue_le_toInt v.toInt_le, Option.map_some, v.ofInt_toInt]

theorem int32?_ofInt (v : Int32) : (ofInt v.toInt).int32? = some v := by
  rw [int32?, integerIn?_ofInt v.minValue_le_toInt v.toInt_le, Option.map_some, v.ofInt_toInt]

theorem int64?_ofInt (v : Int64) : (ofInt v.toInt).int64? = some v := by
  rw [int64?, integerIn?_ofInt v.minValue_le_toInt v.toInt_le, Option.map_some, v.ofInt_toInt]

theorem integerIn?_ofNat {size n : Nat} (h : n < size) :
    (ofInt n).integerIn? 0 (size - 1) = some (n : Int) := integerIn?_ofInt (by omega) (by omega)

theorem uint8?_ofInt (v : UInt8) : (ofInt v.toNat).uint8? = some v := by
  rw [uint8?, integerIn?_ofNat v.toNat_lt_size]
  simp

theorem uint16?_ofInt (v : UInt16) : (ofInt v.toNat).uint16? = some v := by
  rw [uint16?, integerIn?_ofNat v.toNat_lt_size]
  simp

theorem uint32?_ofInt (v : UInt32) : (ofInt v.toNat).uint32? = some v := by
  rw [uint32?, integerIn?_ofNat v.toNat_lt_size]
  simp

theorem uint64?_ofInt (v : UInt64) : (ofInt v.toNat).uint64? = some v := by
  rw [uint64?, integerIn?_ofNat v.toNat_lt_size]
  simp

theorem single?_ofSingle {x : Number.Single} (h : x.isFinite = true) : (ofSingle x).single? = some x := by
  simp [ofSingle, h, single?]

theorem double?_ofDouble {x : Number.Double} (h : x.isFinite = true) : (ofDouble x).double? = some x := by
  simp [ofDouble, h, double?]

theorem char?_string (c : Char) : (Json.string c.toString).char? = some c := by
  simp [char?, string?]

theorem enumerated?_ofNamed [Enumerated α] (d : Delivery) (a : α) :
    enumerated? d (ofNamed a) = some a := by
  simp [enumerated?, ofNamed, name?]

theorem list?_ofList {read : Json → Option α} {write : α → Json} {xs : List α}
    (h : ∀ x ∈ xs, read (write x) = some x) : list? read (ofList write xs) = some xs := by
  simp only [list?, ofList]
  induction xs with
  | nil => rfl
  | cons x xs ih =>
    rw [List.map_cons, List.mapM_cons, h x List.mem_cons_self,
      ih fun y hy => h y (List.mem_cons_of_mem _ hy)]
    rfl

theorem flagSet?_ofList {F : Type} [Flag F] (d : Delivery) (flags : List F) :
    flagSet? d (ofList ofNamed flags) = some (FlagSet.ofList flags) := by
  have hlist : list? (enumerated? d) (ofList ofNamed flags) = some flags :=
    list?_ofList fun f _ => enumerated?_ofNamed d f
  rw [flagSet?, hlist, Option.map_some]

theorem flags?_ofList {F : Type} [Flag F] (flags : List F) :
    flags? (ofList ofNamed flags) = some (FlagSet.ofList flags) := flagSet?_ofList .direct flags

theorem flagSet?_ofFlags {F : Type} [Flag F] (d : Delivery) {s : FlagSet F} (h : s.Declared) :
    flagSet? d (ofFlags s) = some s := by
  rw [ofFlags, ← ofList, flagSet?_ofList, FlagSet.ofList_toList h]

/-! ## Readable values -/

theorem allReadable_iff {xs : List Json} : allReadable xs = true ↔ ∀ x ∈ xs, x.isReadable = true := by
  induction xs with
  | nil => simp [allReadable]
  | cons x xs ih => simp [allReadable, ih]

@[simp] theorem isReadable_object (m : Entries) : (object m).isReadable = allMembersReadable m := by
  rw [isReadable]

@[simp] theorem allMembersReadable_nil : allMembersReadable [] = true := by rw [allMembersReadable]

@[simp] theorem allMembersReadable_cons (p : String × Json) (m : Entries) :
    allMembersReadable (p :: m) = (p.2.isReadable && allMembersReadable m) := by
  rw [allMembersReadable]

@[simp] theorem isReadable_string (s : String) : (string s).isReadable = true := by simp [isReadable]

@[simp] theorem isReadable_bool (b : Bool) : (bool b).isReadable = true := by simp [isReadable]

@[simp] theorem isReadable_ofInt (i : Int) : (ofInt i).isReadable = true := by simp [ofInt, isReadable]

@[simp] theorem isReadable_ofSingle (x : Number.Single) : (ofSingle x).isReadable = true := by
  unfold ofSingle
  split <;> simp [isReadable]

@[simp] theorem isReadable_ofDouble (x : Number.Double) : (ofDouble x).isReadable = true := by
  unfold ofDouble
  split <;> simp [isReadable]

@[simp] theorem isReadable_ofNamed [Enumerated α] (a : α) : (ofNamed a).isReadable = true := by
  simp [ofNamed]

@[simp] theorem isReadable_ofList {write : α → Json} {xs : List α} :
    (ofList write xs).isReadable = true ↔ ∀ x ∈ xs, (write x).isReadable = true := by
  rw [ofList, isReadable, allReadable_iff, List.forall_mem_map]

@[simp] theorem isReadable_ofFlags {F : Type} [Flag F] (s : FlagSet F) :
    (ofFlags s).isReadable = true := by
  rw [ofFlags, ← ofList, isReadable_ofList]
  exact fun f _ => isReadable_ofNamed f

@[simp] theorem isReadable_ofOption {write : α → Json} {o : Option α} :
    (ofOption write o).isReadable = true ↔ ∀ a ∈ o, (write a).isReadable = true := by
  cases o <;> simp [ofOption, isReadable]

/-! ## Entries -/

namespace Entries

variable {d : Delivery} {m : Entries} {key : String} {read : Json → Option α}

theorem required_of {v : Json} {a : α} (hf : m.field? key = some (some v)) (hr : read v = some a) :
    m.required key read = some a := by
  simp [required, hf, hr]

theorem withDefault_of {v : Json} {a default : α} (hf : m.field? key = some (some v))
    (hr : read v = some a) : m.withDefault key default read = some a := by
  simp [withDefault, hf, hr]

theorem listField_of {write : α → Json} {xs : List α}
    (hf : m.field? key = some (some (ofList write xs))) (h : ∀ x ∈ xs, read (write x) = some x) :
    m.listField key read = some xs :=
  withDefault_of hf (list?_ofList h)

theorem flagField_of {F : Type} [Flag F] {s : FlagSet F}
    (hf : m.field? key = some (some (ofFlags s))) (h : s.Declared) : m.flagField d key = some s :=
  withDefault_of hf (flagSet?_ofFlags d h)

theorem namedField_of [Enumerated α] [Inhabited α] {a : α}
    (hf : m.field? key = some (some (ofNamed a))) : m.namedField d key = some a :=
  withDefault_of hf (enumerated?_ofNamed d a)

/-- What is written is never taken for a value left out, since no reader accepts `null`. -/
theorem nullable_of {write : α → Json} {o : Option α}
    (hf : m.field? key = some (some (ofOption write o))) (hn : read .null = none)
    (h : ∀ a ∈ o, read (write a) = some a) : m.nullable key read = some o := by
  cases o with
  | none => simp [nullable, hf, ofOption]
  | some a =>
    have ha := h a rfl
    have hne : write a ≠ .null := fun he => by simp [he, hn] at ha
    simp only [nullable, hf, ofOption]
    rw [ha]
    rfl

/-! ### Looking up keys -/

variable {m' before after : Entries} {k : String} {x x' : Json}

theorem field?_perm (h : m.Perm m') : m.field? key = m'.field? key := by
  have hp := h.filter (fun p => decide (p.1 = key))
  unfold field?
  generalize m.filter _ = l at hp
  generalize m'.filter _ = l' at hp
  match l with
  | [] => rw [hp.symm.eq_nil]
  | [p] => rw [List.perm_singleton.1 hp.symm]
  | a :: b :: l =>
    match l' with
    | [] => exact absurd hp.length_eq (by simp)
    | [_] => exact absurd hp.length_eq (by simp)
    | _ :: _ :: _ => rfl

theorem field?_cons_of_ne (h : k ≠ key) : field? ((k, x) :: m) key = field? m key := by
  simp [field?, h]

theorem field?_cons_self (h : key ∉ m.map Prod.fst) : field? ((key, x) :: m) key = some (some x) := by
  have hm : m.filter (fun p => decide (p.1 = key)) = [] := by
    refine List.filter_eq_nil_iff.2 fun p hp => ?_
    have hne : p.1 ≠ key := fun he => h (he ▸ List.mem_map_of_mem hp)
    simpa using hne
  unfold field?
  rw [List.filter_cons_of_pos (by simp), hm]

theorem field?_replace_of_ne (h : k ≠ key) :
    field? (before ++ (k, x) :: after) key = field? (before ++ (k, x') :: after) key := by
  simp [field?, List.filter_append, h]

theorem field?_replace (key : String) (before after : Entries) (x x' : Json) :
    (field? (before ++ (key, x) :: after) key = some (some x) ∧
      field? (before ++ (key, x') :: after) key = some (some x')) ∨
    (field? (before ++ (key, x) :: after) key = none ∧
      field? (before ++ (key, x') :: after) key = none) := by
  simp only [field?, List.filter_append, List.filter_cons, decide_true, if_true]
  generalize before.filter (fun p => decide (p.1 = key)) = b
  generalize after.filter (fun p => decide (p.1 = key)) = a
  match b, a with
  | [], [] => exact .inl ⟨rfl, rfl⟩
  | [], _ :: _ => exact .inr ⟨rfl, rfl⟩
  | [_], _ => exact .inr ⟨rfl, rfl⟩
  | _ :: _ :: _, _ => exact .inr ⟨rfl, rfl⟩

/-- The value that is found is the only one of its key. -/
theorem field?_eq_some_of_mem {o : Option Json} (h : m.field? key = some o) (hx : (key, x) ∈ m) :
    o = some x := by
  have hmem : (key, x) ∈ m.filter (fun p => decide (p.1 = key)) := List.mem_filter.2 ⟨hx, by simp⟩
  unfold field? at h
  split at h
  · rename_i heq
    simp [heq] at hmem
  · rename_i heq
    rw [heq, List.mem_singleton] at hmem
    cases hmem
    exact (Option.some.inj h).symm
  · cases h

end Entries

/-- The members of an object. -/
def members : Json → Entries
  | .object m => m
  | _ => []

end Json

theorem read_map {α β : Type} {o : Option α} {a : α} {f : α → β} (h : o = some a) :
    o.map f = some (f a) := by
  rw [h]
  rfl

/-- A reader goes on with what a member of the object was read as. -/
theorem read_bind {α β : Type} {o : Option α} {a : α} {f : α → Option β} (h : o = some a) :
    (o >>= f) = f a := by
  rw [h]
  rfl

end KotlinMetadata
