/-
Reading depends neither on the order of keys nor on keys that it does not
know: a document is read alike before and after any sequence of edits, each
of which permutes the members of an object or puts in a member that is
foreign to it (`Edit.same` for one edit). A key that is known is never
ignored, so giving it twice is an error wherever it happens
(`Part.accepts`).
-/
import Mathlib.Logic.Relation
import KotlinMetadata.Proofs.Codec.Arrays

namespace KotlinMetadata

open Json

/-- One edit of a part of a shape: the members of an object are permuted, a foreign member is put
into an object that is read as a structure or as a tagged value, or a part within is edited: an item
of an array or the value of a member. -/
inductive Edit : Shape → Json → Json → Prop where
  | permute {s : Shape} {m m' : Entries} (h : m.Perm m') : Edit s (.object m) (.object m')
  | insert {s : Shape} {m : Entries} {key : String} (value : Json) (ho : s.isOpen = true)
      (hk : key ∉ (s.known m).map Prod.fst) : Edit s (.object m) (.object ((key, value) :: m))
  | item {s : Shape} {before after : List Json} {x x' : Json}
      (h : Edit (s.item (before ++ x :: after) before.length) x x') :
      Edit s (.array (before ++ x :: after)) (.array (before ++ x' :: after))
  | member {s : Shape} {before after : Entries} {key : String} {x x' : Json}
      (h : Edit (s.member (before ++ (key, x) :: after) key) x x') :
      Edit s (.object (before ++ (key, x) :: after)) (.object (before ++ (key, x') :: after))

/-! ## Edits -/

namespace Edit

variable {s : Shape} {v v' : Json}

theorem ne_null (h : Edit s v v') : v ≠ .null ∧ v' ≠ .null := by
  cases h <;> exact ⟨nofun, nofun⟩

/-- Edits make nothing readable. -/
theorem isReadable (h : Edit s v v') : v'.isReadable = true → v.isReadable = true := by
  induction h with
  | permute hp =>
    simp only [isReadable_object, allMembersReadable_iff]
    exact fun hm p hmem => hm p (hp.mem_iff.1 hmem)
  | insert value _ _ =>
    simp only [isReadable_object, allMembersReadable_iff]
    exact fun hm p hmem => hm p (List.mem_cons_of_mem _ hmem)
  | item _ ih =>
    simp only [Json.isReadable, allReadable_iff, List.forall_mem_append, List.forall_mem_cons]
    rintro ⟨hb, hx, ha⟩
    exact ⟨hb, ih hx, ha⟩
  | member _ ih =>
    simp only [isReadable_object, allMembersReadable_iff, List.forall_mem_append,
      List.forall_mem_cons]
    rintro ⟨hb, hx, ha⟩
    exact ⟨hb, ih hx, ha⟩

end Edit

theorem Json.list?_replace {α : Type} {item : Json → Option α} {x x' : Json} (h : item x = item x')
    (before after : List Json) :
    list? item (.array (before ++ x :: after)) = list? item (.array (before ++ x' :: after)) := by
  simp only [list?, List.mapM_append, List.mapM_cons, h]

/-- A name is no object but one with a single member. -/
theorem Json.name?_object {d : Delivery} {m : Entries} (h : ∀ p, m ≠ [p]) :
    name? d (.object m) = none := by
  match m with
  | [] => rfl
  | [p] => exact absurd rfl (h p)
  | _ :: _ :: _ => rfl

theorem Json.name?_single (d : Delivery) (key : String) (x : Json) :
    name? d (.object [(key, x)]) = (Shape.nothing.read d x).map fun _ => key := by
  simp only [name?, Shape.read]
  split <;> rfl

theorem TypeArgument.ofJson?_star (d : Delivery) (x : Json) :
    TypeArgument.ofJson? d (.object [("star", x)]) =
      (Shape.nothing.read d x).map fun _ => .star := by
  rw [TypeArgument.ofJson?_eq]
  simp only [form, Shape.read]
  split <;> rfl

theorem TypeArgument.ofJson?_type (d : Delivery) (t : Json) :
    TypeArgument.ofJson? d (.object [("type", t)]) = (TypeUse.ofJson? d t).map .type := by
  rw [TypeArgument.ofJson?_eq]
  rfl

/-- A type argument is no object but one with a single member. -/
theorem TypeArgument.ofJson?_object {d : Delivery} {m : Entries} (h : ∀ p, m ≠ [p]) :
    TypeArgument.ofJson? d (.object m) = none := by
  rw [TypeArgument.ofJson?_eq]
  unfold form
  split
  · cases ‹Json.object m = _›
  · rename_i heq
    cases heq
    exact absurd rfl (h _)
  · rename_i heq
    cases heq
    exact absurd rfl (h _)
  · rfl

theorem TypeArgument.ofJson?_of_ne {d : Delivery} {key : String} {x : Json} (hs : key ≠ "star")
    (ht : key ≠ "type") : TypeArgument.ofJson? d (.object [(key, x)]) = none := by
  rw [TypeArgument.ofJson?_eq]
  unfold form
  split
  · cases ‹Json.object _ = _›
  · rename_i heq
    cases heq
    exact absurd rfl hs
  · rename_i heq
    cases heq
    exact absurd rfl ht
  · rfl

/-- Lists with the same single members are permuted only if they are equal or have none. -/
theorem Json.Entries.eq_or_of_perm {m m' : Entries} (h : m.Perm m') :
    m = m' ∨ (∀ p, m ≠ [p]) ∧ ∀ p, m' ≠ [p] := by
  by_cases hm : ∃ p, m = [p]
  · obtain ⟨p, rfl⟩ := hm
    exact .inl (List.perm_singleton.1 h.symm).symm
  · refine .inr ⟨fun p hp => hm ⟨p, hp⟩, fun p hp => hm ⟨p, ?_⟩⟩
    rw [hp] at h
    exact List.perm_singleton.1 h

/-- The members of a closed object may be permuted. -/
theorem Shape.same_of_perm {s : Shape} (hs : s.isOpen = false) {m m' : Entries} (h : m.Perm m') :
    s.Same (.object m) (.object m') := by
  intro d
  cases s with
  | plain => rfl
  | list t => rfl
  | name =>
    obtain rfl | ⟨hm, hm'⟩ := Entries.eq_or_of_perm h
    · rfl
    · exact (name?_object hm).trans (name?_object hm').symm
  | nothing =>
    match m, m' with
    | [], [] => rfl
    | [], _ :: _ => exact absurd h.length_eq (by simp)
    | _ :: _, [] => exact absurd h.length_eq (by simp)
    | _ :: _, _ :: _ => rfl
  | typeArgument =>
    obtain rfl | ⟨hm, hm'⟩ := Entries.eq_or_of_perm h
    · rfl
    · exact (TypeArgument.ofJson?_object hm).trans (TypeArgument.ofJson?_object hm').symm
  | _ => cases hs

/-- With members beside it, a member is never the only one. -/
theorem Json.Entries.single_or_ne (before after : Entries) (key : String) :
    (before = [] ∧ after = []) ∨ ∀ y p, before ++ (key, y) :: after ≠ [p] := by
  match before, after with
  | [], [] => exact .inl ⟨rfl, rfl⟩
  | [], _ :: _ => exact .inr fun y p hp => by cases hp
  | [_], _ => exact .inr fun y p hp => by cases hp
  | _ :: _ :: _, _ => exact .inr fun y p hp => by cases hp

/-- A member of a closed object may be replaced by one that is the same to its reader. -/
theorem Shape.same_of_member {s : Shape} (hs : s.isOpen = false) {before after : Entries}
    {key : String} {x x' : Json} (h : (s.member (before ++ (key, x) :: after) key).Same x x') :
    s.Same (.object (before ++ (key, x) :: after)) (.object (before ++ (key, x') :: after)) := by
  intro d
  cases s with
  | plain => rfl
  | list t => rfl
  | nothing =>
    have hne : ∀ y, Shape.nothing.read d (.object (before ++ (key, y) :: after)) = none := by
      intro y
      cases before <;> rfl
    rw [hne, hne]
  | name =>
    change name? d _ = name? d _
    obtain ⟨rfl, rfl⟩ | hne := Entries.single_or_ne before after key
    · have hnothing : Shape.nothing.Same x x' := by
        simpa [Shape.member, Shape.known] using h
      rw [List.nil_append, List.nil_append, name?_single, name?_single, hnothing d]
    · rw [name?_object (hne x), name?_object (hne x')]
  | typeArgument =>
    change TypeArgument.ofJson? .gathered _ = TypeArgument.ofJson? .gathered _
    obtain ⟨rfl, rfl⟩ | hne := Entries.single_or_ne before after key
    · rw [List.nil_append, List.nil_append]
      by_cases hstar : key = "star"
      · subst hstar
        rw [TypeArgument.ofJson?_star, TypeArgument.ofJson?_star]
        exact congrArg _ (h .gathered)
      by_cases htype : key = "type"
      · subst htype
        rw [TypeArgument.ofJson?_type, TypeArgument.ofJson?_type]
        exact congrArg _ (h .gathered)
      rw [TypeArgument.ofJson?_of_ne hstar htype, TypeArgument.ofJson?_of_ne hstar htype]
    · rw [TypeArgument.ofJson?_object (hne x), TypeArgument.ofJson?_object (hne x')]
  | _ => cases hs

/-- An edit changes nothing for the reader of the part. -/
theorem Edit.same {s : Shape} {v v' : Json} (h : Edit s v v') :
    v'.isReadable = true → s.Same v v' := by
  induction h with
  | @permute s m m' hp =>
    intro hr
    have hr' := Edit.isReadable (s := s) (.permute hp) hr
    rw [isReadable_object] at hr hr'
    cases hs : s.isOpen with
    | false => exact Shape.same_of_perm hs hp
    | true => exact fun d => (Shape.governed d hs).same hr' hr (.of_perm hp)
  | @insert s m key value hs hk =>
    intro hr
    have hr' := Edit.isReadable (s := s) (.insert value hs hk) hr
    rw [isReadable_object] at hr hr'
    exact fun d => (Shape.governed d hs).same hr' hr (.of_insert hk)
  | @item s before after x x' he ih =>
    intro hr
    have hr' := Edit.isReadable (s := s) (.item he) hr
    have hx : x'.isReadable = true := by
      rw [Json.isReadable, allReadable_iff] at hr
      exact hr x' (by simp)
    rw [Json.isReadable] at hr hr'
    by_cases hs : ∃ t, s = .list t
    · obtain ⟨t, rfl⟩ := hs
      exact fun d => list?_replace (ih hx d) before after
    · obtain ⟨hn, hn'⟩ := he.ne_null
      exact Shape.same_of_item (fun t ht => hs ⟨t, ht⟩) hr' hr (ih hx) hn hn'
  | @member s before after key x x' he ih =>
    intro hr
    have hr' := Edit.isReadable (s := s) (.member he) hr
    rw [isReadable_object] at hr hr'
    have hx : x'.isReadable = true := allMembersReadable_iff.1 hr (key, x') (by simp)
    -- An open object is read by its table of keys; of the others, names and type arguments have keys.
    cases hs : s.isOpen with
    | false => exact Shape.same_of_member hs (ih hx)
    | true =>
      obtain ⟨hn, hn'⟩ := he.ne_null
      exact fun d => (Shape.governed d hs).same hr' hr
        (.of_member (Shape.known_nodup hs _) (ih hx) hn hn')

theorem Edit.read_eq {v v' : Json} (h : Relation.ReflTransGen (Edit .pool) v v')
    (hr : v'.isReadable = true) : PoolDocument.ofJson? v' = PoolDocument.ofJson? v := by
  induction h with
  | refl => rfl
  | tail hsteps hlast ih =>
    have hread := hlast.isReadable hr
    exact (hlast.same hr .direct).symm.trans (ih hread)

/-! ## Keys given twice -/

/-- An object that is read, with its shape, when a value is read as a shape. The parts of a
structure lie under their keys, also where it is written as an array. -/
inductive Part : Shape → Json → Shape → Entries → Prop where
  | here {s : Shape} {m : Entries} : Part s (.object m) s m
  | item {s t : Shape} {x : Json} {xs : List Json} {m : Entries} (hx : x ∈ xs) (h : Part s x t m) :
      Part (.list s) (.array xs) t m
  | member {s u t : Shape} {v : Json} {key : String} {x : Json} {m' m : Entries}
      (hv : s.members? v = some m') (hk : (key, u) ∈ s.known m') (hx : (key, x) ∈ m')
      (h : Part u x t m) : Part s v t m

theorem Json.isSome_of_mapM {α : Type} {item : Json → Option α} {xs : List Json}
    (h : (xs.mapM item).isSome) {x : Json} (hx : x ∈ xs) : (item x).isSome := by
  induction xs with
  | nil => simp at hx
  | cons y ys ih =>
    obtain ⟨all, hall⟩ := Option.isSome_iff_exists.1 h
    rw [List.mapM_cons] at hall
    obtain ⟨a, ha, hrest⟩ := Option.bind_eq_some_iff.1 hall
    obtain ⟨as, has, -⟩ := Option.bind_eq_some_iff.1 hrest
    rcases List.mem_cons.1 hx with rfl | hx
    · simp [ha]
    · exact ih (by simp [has]) hx

/-- An object is read only if each of its known keys is. -/
theorem Shape.fieldsRead {s : Shape} {m : Entries} (h : s.Accepts (.object m)) :
    FieldsRead (s.known m) m := by
  obtain ⟨d, hd⟩ := h
  cases hs : s.isOpen with
  | true => exact (Shape.governed d hs).strict hd
  | false =>
    cases s with
    | plain | nothing | list t => simp [FieldsRead, Shape.known]
    | name =>
      change (name? d (.object m)).isSome at hd
      by_cases hm : ∃ p, m = [p]
      · obtain ⟨⟨key, x⟩, rfl⟩ := hm
        rw [name?_single, Option.isSome_map] at hd
        have hfield : Entries.field? [(key, x)] key = some (some x) :=
          Entries.field?_cons_self List.not_mem_nil
        refine List.forall_mem_singleton.2 ?_
        rw [hfield]
        exact .given ⟨d, hd⟩
      · rw [name?_object fun p hp => hm ⟨p, hp⟩] at hd
        cases hd
    | typeArgument =>
      change (TypeArgument.ofJson? .gathered (.object m)).isSome at hd
      by_cases hm : ∃ p, m = [p]
      · obtain ⟨⟨key, x⟩, rfl⟩ := hm
        by_cases hstar : key = "star"
        · subst hstar
          rw [TypeArgument.ofJson?_star, Option.isSome_map] at hd
          exact List.forall_mem_cons.2
            ⟨.given ⟨.gathered, hd⟩, List.forall_mem_singleton.2 (.absent .typeUse)⟩
        by_cases htype : key = "type"
        · subst htype
          rw [TypeArgument.ofJson?_type, Option.isSome_map] at hd
          exact List.forall_mem_cons.2
            ⟨.absent .nothing, List.forall_mem_singleton.2 (.given ⟨.gathered, hd⟩)⟩
        rw [TypeArgument.ofJson?_of_ne hstar htype] at hd
        cases hd
      · rw [TypeArgument.ofJson?_object fun p hp => hm ⟨p, hp⟩] at hd
        cases hd
    | _ => cases hs

/-- A value is read only if the members it has, or that its items stand for, are. -/
theorem Shape.accepts_of_members? {s : Shape} {v : Json} {m : Entries} (hm : s.members? v = some m)
    (hv : s.Accepts v) : s.Accepts (.object m) := by
  cases v with
  | object m' =>
    cases hm
    exact hv
  | array items =>
    obtain ⟨d, hd⟩ := hv
    have hrow : s.row items = some m := hm
    have hs : ∀ t, s ≠ .list t := by
      rintro t rfl
      cases hm
    rw [read_array d hs, hrow] at hd
    exact ⟨d, hd⟩
  | _ => cases hm

theorem Part.accepts {s t : Shape} {v : Json} {m : Entries} (h : Part s v t m)
    (hv : s.Accepts v) : t.Accepts (.object m) := by
  induction h with
  | here => exact hv
  | @item s t x xs m hx _ ih =>
    obtain ⟨d, hd⟩ := hv
    exact ih ⟨d, isSome_of_mapM hd hx⟩
  | @member s u t v key x m' m hm hk hx h ih =>
    have hm' := Shape.accepts_of_members? hm hv
    obtain ⟨o, ho, hread⟩ := Shape.fieldsRead hm' (key, u) hk
    have hox := Entries.field?_eq_some_of_mem ho hx
    rcases hread x hox with rfl | hacc
    -- No object lies within `null`.
    · cases h with
      | member hv => cases hv
    · exact ih hacc

/-- The fields of an artifact before its metadata, without their keys. -/
def Artifact.leadingItems : List Json :=
  [.string "pkg/Box", .array [.object [("public", .null)]], .array [], .array [], .array []]

/-- A document of one artifact, written as an array, with the members of its metadata given. -/
def PoolDocument.ofMetadata (m : Entries) : Json :=
  .object [("artifacts", .array [.array (Artifact.leadingItems ++ [.object m])])]

theorem Edit.ofMetadata {m m' : Entries} (h : Edit .metadata (.object m) (.object m')) :
    Edit .pool (PoolDocument.ofMetadata m) (PoolDocument.ofMetadata m') := by
  have hartifact : Edit .artifact (.array (Artifact.leadingItems ++ [.object m]))
      (.array (Artifact.leadingItems ++ [.object m'])) := .item h
  have hartifacts : Edit (.list .artifact)
      (.array [.array (Artifact.leadingItems ++ [.object m])])
      (.array [.array (Artifact.leadingItems ++ [.object m'])]) :=
    @Edit.item (.list .artifact) [] [] _ _ hartifact
  exact @Edit.member .pool [] [] "artifacts" _ _ hartifacts

/-- The members that the items of the artifact stand for. -/
def Artifact.rowOfMetadata (m : Entries) : Entries :=
  ["name", "access", "methods", "fields", "annotations", "metadata"].zip
    (Artifact.leadingItems ++ [.object m])

theorem Part.ofMetadata (m : Entries) : Part .pool (PoolDocument.ofMetadata m) .metadata m := by
  have hrow : Shape.artifact.members? (.array (Artifact.leadingItems ++ [.object m])) =
      some (Artifact.rowOfMetadata m) := rfl
  have hkey : ("metadata", Shape.metadata) ∈ Shape.artifact.known (Artifact.rowOfMetadata m) := by
    simp [Shape.known]
  have hvalue : ("metadata", .object m) ∈ Artifact.rowOfMetadata m := by
    simp [Artifact.rowOfMetadata, Artifact.leadingItems]
  have hartifact : Part .artifact (.array (Artifact.leadingItems ++ [.object m])) .metadata m :=
    .member hrow hkey hvalue .here
  have hartifacts : ("artifacts", Shape.list .artifact) ∈ Shape.pool.known
      [("artifacts", .array [.array (Artifact.leadingItems ++ [.object m])])] := List.mem_cons_self
  exact .member rfl hartifacts List.mem_cons_self (.item List.mem_cons_self hartifact)

end KotlinMetadata
