/-
Structures and tagged values written as arrays. Reading the array is reading
the object whose members are its items, with the keys of the shape in their
order (`Shape.read_array`), so the table of keys that governs the members of
an object also governs the items of an array: an item may be replaced by one
that is the same to the reader of its place (`Shape.same_of_item`).
-/
import KotlinMetadata.Proofs.Codec.Governed

namespace KotlinMetadata

open Json

namespace Json

variable {keys : List String} {items rest : List Json} {key : String} {first : Json}

theorem allMembersReadable_zip (h : items.length ≤ keys.length) :
    allMembersReadable (keys.zip items) = allReadable items := by
  induction items generalizing keys with
  | nil => rw [List.zip_nil_right, allMembersReadable_nil, allReadable]
  | cons x xs ih =>
    cases keys with
    | nil => cases h
    | cons key keys =>
      rw [List.zip_cons_cons, allMembersReadable_cons, allReadable, ih (Nat.le_of_succ_le_succ h)]

/-- The first item is the value of the first key. -/
theorem fields?_cons : (array (first :: rest)).fields? (key :: keys) =
    ((array rest).fields? keys).map fun m => (key, first) :: m := by
  simp only [fields?, List.length_cons, Nat.add_le_add_iff_right, List.zip_cons_cons]
  split <;> rfl

theorem tagged?_array (d : Delivery) (items : List Json) : (array items).tagged? d =
    ((array items).fields? ["type", "value"]).bind fun m => (object m).tagged? d := rfl

theorem fields?_eq_some {m : Entries} (h : (array items).fields? keys = some m) :
    items.length ≤ keys.length ∧ m = keys.zip items := by
  simp only [fields?] at h
  split at h
  · cases h
    exact ⟨‹_›, rfl⟩
  · cases h

theorem allMembersReadable_of_fields? {m : Entries} (h : (array items).fields? keys = some m) :
    allMembersReadable m = allReadable items := by
  obtain ⟨hlen, rfl⟩ := fields?_eq_some h
  exact allMembersReadable_zip hlen

theorem not_mem_of_fields? {m : Entries} (h : (array items).fields? keys = some m)
    (hkey : key ∉ keys) : key ∉ m.map Prod.fst := by
  obtain ⟨-, rfl⟩ := fields?_eq_some h
  intro hmem
  obtain ⟨p, hp, rfl⟩ := List.mem_map.1 hmem
  exact hkey (List.of_mem_zip hp).1

end Json

/-! ## The keys of the items -/

namespace Fields

variable {key : String} {s : Shape} {tag : Json → Option String} {fields : String → Fields}

theorem tagged_cons {m : Entries} {v : Json} (h : key ∉ m.map Prod.fst) :
    tagged key s tag fields ((key, v) :: m) = (key, s) :: ((tag v).map fields).getD [] := by
  rw [tagged, Entries.required, Entries.field?_cons_self h]

/-- The first item is the tag, and the other items are the values of its keys. -/
theorem tagged_row (first : Json) (rest : List Json) :
    (array (first :: rest)).fields? ((tagged key s tag fields [(key, first)]).map Prod.fst) =
      ((array rest).fields? ((((tag first).map fields).getD []).map Prod.fst)).map fun m =>
        (key, first) :: m := by
  rw [tagged_cons List.not_mem_nil, List.map_cons, fields?_cons]

end Fields

namespace Shape

variable {s : Shape} {items before after : List Json} {x x' : Json} {m : Entries}

theorem isOpen_of_takesArrays (h : s.takesArrays = true) : s.isOpen = true := by
  cases s with
  | plain | nothing | name | list s | typeArgument | metadata | classLiteral | enumEntry => cases h
  | _ => rfl

theorem row_eq_some (h : s.row items = some m) : s.takesArrays = true ∧
    (Json.array items).fields? ((s.columns items).map Prod.fst) = some m := by
  unfold row at h
  split at h
  · exact ⟨‹_›, h⟩
  · cases h

theorem columns_nodup (h : s.takesArrays = true) (items : List Json) :
    ((s.columns items).map Prod.fst).Nodup := by
  rw [columns, if_pos h]
  exact known_nodup (isOpen_of_takesArrays h) _

theorem known_tagged_row {key : String} {u : Shape} {tag : Json → Option String}
    {fields : String → Fields} {first : Json} {rest : List Json}
    (hnodup : ((Fields.tagged key u tag fields [(key, first)]).map Prod.fst).Nodup)
    (h : (Json.array (first :: rest)).fields?
      ((Fields.tagged key u tag fields [(key, first)]).map Prod.fst) = some m) :
    Fields.tagged key u tag fields m = Fields.tagged key u tag fields [(key, first)] := by
  rw [Fields.tagged_row] at h
  obtain ⟨rest', hrest, rfl⟩ := Option.map_eq_some_iff.1 h
  have hcolumns : Fields.tagged key u tag fields [(key, first)] =
      (key, u) :: ((tag first).map fields).getD [] := Fields.tagged_cons List.not_mem_nil
  rw [hcolumns, List.map_cons, List.nodup_cons] at hnodup
  rw [hcolumns]
  exact Fields.tagged_cons (not_mem_of_fields? hrest hnodup.1)

/-- The keys by which the items are known are those known among the members they stand for. -/
theorem known_row (h : s.row items = some m) : s.known m = s.columns items := by
  obtain ⟨hs, hm⟩ := row_eq_some h
  have hnodup := columns_nodup hs items
  cases s with
  | plain | nothing | name | list s | typeArgument | metadata | classLiteral | enumEntry => cases hs
  | annotValue =>
    cases items with
    | nil =>
      cases hm
      rfl
    | cons first rest => exact known_tagged_row hnodup hm
  | elementValue =>
    cases items with
    | nil =>
      cases hm
      rfl
    | cons first rest => exact known_tagged_row hnodup hm
  | _ => rfl

end Shape

/-! ## Reading an array -/

/-- The key of the values of all tags is the same. -/
theorem Fields.annotValue_keys (tag : String) : (annotValue tag).map Prod.fst = ["value"] := by
  unfold annotValue
  split <;> rfl

/-- A first item that is no tag makes no tagged value, whatever keys follow that of the tag. -/
theorem Json.tagged?_of_fields? {d : Delivery} {keys : List String} {first : Json}
    {rest : List Json} {m : Entries} (hkeys : "type" ∉ keys) (hfirst : first.name? d = none)
    (h : (array (first :: rest)).fields? ("type" :: keys) = some m) :
    (object m).tagged? d = none := by
  rw [fields?_cons] at h
  obtain ⟨rest', hrest, rfl⟩ := Option.map_eq_some_iff.1 h
  have htag : Entries.required (("type", first) :: rest') "type" (name? d) = none := by
    rw [Entries.required, Entries.field?_cons_self (not_mem_of_fields? hrest hkeys)]
    exact hfirst
  simp only [tagged?, fields?, Option.bind_eq_bind, Option.bind_some, htag, Option.bind_none]

theorem AnnotValue.read_row (items : List Json) :
    AnnotValue.ofDelivered? .gathered (.array items) = (Shape.annotValue.row items).bind fun m =>
      AnnotValue.ofDelivered? .gathered (.object m) := by
  cases items with
  | nil => rfl
  | cons first rest =>
    have hread : AnnotValue.ofDelivered? .gathered (.array (first :: rest)) =
        ((Json.array (first :: rest)).fields? ["type", "value"]).bind fun m =>
          AnnotValue.ofDelivered? .gathered (.object m) := by
      simp only [AnnotValue.ofDelivered?_eq, tagged?_array, Option.bind_assoc]
    have hcolumns : Shape.annotValue.columns (first :: rest) =
        ("type", .name) :: ((first.name? .gathered).map Fields.annotValue).getD [] :=
      Fields.tagged_cons List.not_mem_nil
    have hrow : Shape.annotValue.row (first :: rest) = (Json.array (first :: rest)).fields?
        ((Shape.annotValue.columns (first :: rest)).map Prod.fst) := rfl
    rw [hread, hrow, hcolumns, List.map_cons]
    cases hfirst : first.name? .gathered with
    | some tag => rw [Option.map_some, Option.getD_some, Fields.annotValue_keys]
    | none =>
      have hnone : ∀ keys m, "type" ∉ keys →
          (Json.array (first :: rest)).fields? ("type" :: keys) = some m →
          AnnotValue.ofDelivered? .gathered (.object m) = none := by
        intro keys m hkeys hm
        rw [AnnotValue.ofDelivered?_eq, tagged?_of_fields? hkeys hfirst hm]
        rfl
      have hleft := Option.bind_eq_none_iff.2 fun m => hnone ["value"] m (by decide)
      have hright := Option.bind_eq_none_iff.2 fun m => hnone [] m List.not_mem_nil
      exact hleft.trans hright.symm

theorem ElementValue.keys_eq (kind : String) :
    (Fields.elementValue kind).map Prod.fst = ElementValue.keys kind := by
  unfold Fields.elementValue
  split <;> simp [ElementValue.keys, *]

theorem ElementValue.kind_not_mem_keys (kind : String) : "kind" ∉ ElementValue.keys kind := by
  unfold ElementValue.keys
  split <;> decide

/-- The kind is not among the fields that it governs. -/
theorem ElementValue.payload_cons {kind : String} {m : Entries} {v : Json}
    (h : allMembersReadable (("kind", v) :: m) = true) :
    payload (JvmAnnot.ofDelivered? .gathered) (Element.ofDelivered? .gathered) kind
        (("kind", v) :: m) =
      payload (JvmAnnot.ofDelivered? .gathered) (Element.ofDelivered? .gathered) kind m := by
  have hm : allMembersReadable m = true := by
    rw [allMembersReadable_cons, Bool.and_eq_true] at h
    exact h.2
  have hkind : "kind" ∉ (Fields.elementValue kind).map Prod.fst := by
    rw [ElementValue.keys_eq]
    exact ElementValue.kind_not_mem_keys kind
  exact ((ElementValue.payload_governed kind).same hm h (.of_insert hkind)).symm

/-- The parts of an object whose first member is its kind. -/
theorem ElementValue.parts?_cons {d : Delivery} {m : Entries} {first : Json}
    (h : "kind" ∉ m.map Prod.fst) : parts? d (.object (("kind", first) :: m)) =
      (first.kind? d kinds).map fun kind => { kind, fields := ("kind", first) :: m } := by
  have hrequired : Entries.required (("kind", first) :: m) "kind" (kind? d kinds) =
      first.kind? d kinds := by
    rw [Entries.required, Entries.field?_cons_self h]
  rw [parts?, hrequired, Option.map_eq_bind]
  rfl

theorem ElementValue.read_row (d : Delivery) (items : List Json) :
    ElementValue.ofDelivered? d (.array items) =
      (Shape.elementValue.row items).bind fun m => ElementValue.ofDelivered? d (.object m) := by
  cases items with
  | nil =>
    rw [ElementValue.ofDelivered?_eq]
    exact (ElementValue.ofDelivered?_eq d (.object [])).symm
  | cons first rest =>
    have hrow : Shape.elementValue.row (first :: rest) = ((Json.array rest).fields?
        ((((first.kind? .gathered kinds).map Fields.elementValue).getD []).map Prod.fst)).map
          fun m => ("kind", first) :: m := Fields.tagged_row first rest
    rw [hrow, Option.bind_map]
    cases hkind : first.kind? d kinds with
    | none =>
      have hleft : ElementValue.ofDelivered? d (.array (first :: rest)) = none := by
        rw [ElementValue.ofDelivered?_eq, parts?, hkind]
        rfl
      have hkeys : "kind" ∉
          (((first.kind? .gathered kinds).map Fields.elementValue).getD []).map Prod.fst := by
        cases first.kind? .gathered kinds with
        | none => exact List.not_mem_nil
        | some kind =>
          rw [Option.map_some, Option.getD_some, ElementValue.keys_eq]
          exact ElementValue.kind_not_mem_keys kind
      refine hleft.trans (Option.bind_eq_none_iff.2 fun m hm => ?_).symm
      simp only [Function.comp_apply, ElementValue.ofDelivered?_eq,
        parts?_cons (not_mem_of_fields? hm hkeys), hkind, Option.map_none, Option.bind_none]
    | some kind =>
      rw [kind?_gathered hkind, Option.map_some, Option.getD_some, ElementValue.keys_eq]
      have hleft : ElementValue.ofDelivered? d (.array (first :: rest)) =
          ((Json.array rest).fields? (keys kind)).bind fun m =>
            if !(Json.array (first :: rest)).isReadable then none
            else payload (JvmAnnot.ofDelivered? .gathered) (Element.ofDelivered? .gathered) kind
              m := by
        simp only [ElementValue.ofDelivered?_eq, parts?, hkind, Option.bind_eq_bind,
          Option.bind_some, Option.bind_assoc]
        rfl
      rw [hleft]
      refine Option.bind_congr fun m hm => ?_
      have hkey := not_mem_of_fields? hm (ElementValue.kind_not_mem_keys kind)
      have hreadable : (Json.array (first :: rest)).isReadable =
          allMembersReadable (("kind", first) :: m) := by
        rw [isReadable, allReadable, allMembersReadable_cons, allMembersReadable_of_fields? hm]
      rw [Function.comp_apply, ElementValue.ofDelivered?_eq, parts?_cons hkey, hkind,
        Option.map_some, Option.bind_some, isReadable_object, hreadable]
      cases hr : allMembersReadable (("kind", first) :: m) with
      | false => rfl
      | true => exact (ElementValue.payload_cons hr).symm

namespace Shape

variable {s : Shape} {before after : List Json} {x x' : Json}

/-- Reading an array is reading the members that its items stand for. -/
theorem read_array (d : Delivery) (h : ∀ t, s ≠ .list t) (items : List Json) :
    s.read d (.array items) = (s.row items).bind fun m => s.read d (.object m) := by
  cases s with
  | list t => exact absurd rfl (h t)
  | annotValue => exact AnnotValue.read_row items
  | elementValue => exact ElementValue.read_row d items
  | constant =>
    simp only [read, Constant.ofDelivered?_eq, tagged?_array, Option.bind_assoc]
    rfl
  | jvmAnnot =>
    simp only [read, JvmAnnot.ofDelivered?_eq]
    rfl
  | element =>
    simp only [read, Element.ofDelivered?_eq]
    rfl
  | kotlinAnnot =>
    simp only [read, KotlinAnnot.ofDelivered?_eq]
    rfl
  | annotArgument =>
    simp only [read, AnnotArgument.ofDelivered?_eq]
    rfl
  | typeUse =>
    simp only [read, TypeUse.ofJson?_eq]
    rfl
  | typeArgument => exact TypeArgument.ofJson?_eq .gathered (.array items)
  | _ => rfl

/-! ## Replacing an item -/

/-- A tag is replaced only by one that is read alike, so the items keep their keys. -/
theorem columns_replace (h : (s.item (before ++ x :: after) before.length).Same x x') :
    s.columns (before ++ x :: after) = s.columns (before ++ x' :: after) := by
  cases before with
  | cons first before => cases s <;> rfl
  | nil =>
    cases s with
    | annotValue =>
      have hcolumns : ∀ y, annotValue.columns (y :: after) =
          ("type", name) :: ((y.name? .gathered).map Fields.annotValue).getD [] := fun y =>
        Fields.tagged_cons List.not_mem_nil
      simp only [List.nil_append, List.length_nil, item, hcolumns] at h ⊢
      have htag : x.name? .gathered = x'.name? .gathered := (Reads.self .gathered name).same h
      rw [htag]
    | elementValue =>
      have hcolumns : ∀ y, elementValue.columns (y :: after) =
          ("kind", plain) ::
            ((y.kind? .gathered ElementValue.kinds).map Fields.elementValue).getD [] := fun y =>
        Fields.tagged_cons List.not_mem_nil
      simp only [List.nil_append, List.length_nil, item, hcolumns] at h ⊢
      rw [(Reads.kind .gathered ElementValue.kinds).same h]
    | _ => rfl

/-- The items are as many as before. -/
theorem row_replace (h : s.columns (before ++ x :: after) = s.columns (before ++ x' :: after)) :
    s.row (before ++ x' :: after) = (s.row (before ++ x :: after)).map fun _ =>
      ((s.columns (before ++ x :: after)).map Prod.fst).zip (before ++ x' :: after) := by
  unfold row
  rw [← h]
  simp only [fields?, List.length_append, List.length_cons]
  split
  · split <;> rfl
  · rfl

end Shape

theorem SameFields.of_item {K : Fields} (hK : (K.map Prod.fst).Nodup) {before after : List Json}
    {x x' : Json} (hlen : before.length < K.length)
    (h : (((K[before.length]?).map Prod.snd).getD .plain).Same x x') (hn : x ≠ .null)
    (hn' : x' ≠ .null) : SameFields K ((K.map Prod.fst).zip (before ++ x :: after))
      ((K.map Prod.fst).zip (before ++ x' :: after)) := by
  obtain ⟨front, ⟨key, u⟩, back, hfront, rfl⟩ : ∃ front p back,
      front.length = before.length ∧ K = front ++ p :: back := by
    refine ⟨K.take before.length, K[before.length], K.drop (before.length + 1), ?_, ?_⟩
    · exact List.length_take_of_le (Nat.le_of_lt hlen)
    · rw [← List.drop_eq_getElem_cons, List.take_append_drop]
  have hzip : ∀ y, ((front ++ (key, u) :: back).map Prod.fst).zip (before ++ y :: after) =
      (front.map Prod.fst).zip before ++ (key, y) :: (back.map Prod.fst).zip after := by
    intro y
    rw [List.map_append, List.map_cons, List.zip_append (by rw [List.length_map, hfront]),
      List.zip_cons_cons]
  have hlookup : (front ++ (key, u) :: back).lookup key = some u :=
    Fields.lookup_of_mem hK (List.mem_append_right _ List.mem_cons_self)
  have hitem : (front ++ (key, u) :: back)[before.length]? = some (key, u) := by
    rw [← hfront, List.getElem?_append_right (Nat.le_refl _), Nat.sub_self, List.getElem?_cons_zero]
  rw [hzip, hzip]
  refine .of_member hK ?_ hn hn'
  rw [hlookup]
  rwa [hitem] at h

/-- An item may be replaced by one that is the same to the reader of its place. -/
theorem Shape.same_of_item {s : Shape} (hs : ∀ t, s ≠ .list t) {before after : List Json}
    {x x' : Json} (hr : allReadable (before ++ x :: after) = true)
    (hr' : allReadable (before ++ x' :: after) = true)
    (h : (s.item (before ++ x :: after) before.length).Same x x') (hn : x ≠ .null)
    (hn' : x' ≠ .null) : s.Same (.array (before ++ x :: after)) (.array (before ++ x' :: after)) := by
  intro d
  have hcolumns := columns_replace h
  rw [read_array d hs, read_array d hs, row_replace hcolumns, Option.bind_map]
  refine Option.bind_congr fun m hrow => ?_
  obtain ⟨htakes, hm⟩ := row_eq_some hrow
  obtain ⟨hlen, rfl⟩ := fields?_eq_some hm
  have hplace : before.length < (s.columns (before ++ x :: after)).length := by
    simp only [List.length_append, List.length_cons, List.length_map] at hlen
    omega
  have hitem : s.item (before ++ x :: after) before.length =
      (((s.columns (before ++ x :: after))[before.length]?).map Prod.snd).getD plain := by
    cases s with
    | list t => exact absurd rfl (hs t)
    | _ => rfl
  have hlen' : (before ++ x' :: after).length ≤
      ((s.columns (before ++ x :: after)).map Prod.fst).length := by simpa using hlen
  refine (governed d (isOpen_of_takesArrays htakes)).same ((allMembersReadable_zip hlen).trans hr)
    ((allMembersReadable_zip hlen').trans hr') ?_
  rw [known_row hrow]
  exact .of_item (columns_nodup htakes _) hplace (hitem ▸ h) hn hn'

end KotlinMetadata
