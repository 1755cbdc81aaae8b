/-
A pool without one of its artifacts. Lookups and scans find what they found
before, the artifact itself aside; a scan is a filter of the pool
(`inner_eq_filter`), since in the order of names nothing comes between two
names with the same beginning that has not got it, too.

A bare artifact has neither metadata nor methods. Whatever asks a pool for
metadata or for a method does not tell whether it is there: containment is
the same without it, and so are the members of all artifacts.
-/
import KotlinMetadata.Proofs.Writes.Artifact

namespace KotlinMetadata

/-! ## Scans -/

section Sorted

variable {α : Type} {p : α → Bool} {l : List α}

/-- What holds of no later item than of an earlier one holds of the first few. -/
theorem takeWhile_eq_filter (h : l.Pairwise fun x y => p y → p x) : l.takeWhile p = l.filter p := by
  induction l with
  | nil => rfl
  | cons a l ih =>
    obtain ⟨ha, hl⟩ := List.pairwise_cons.1 h
    by_cases hp : p a
    · rw [List.takeWhile_cons_of_pos hp, List.filter_cons_of_pos hp, ih hl]
    · have hnone : l.filter p = [] := List.filter_eq_nil_iff.2 fun b hb hpb => hp (ha b hb hpb)
      rw [List.takeWhile_cons_of_neg hp, List.filter_cons_of_neg hp, hnone]

/-- What holds of all items after one that it holds of is left when the others are dropped. -/
theorem dropWhile_eq_filter (h : l.Pairwise fun x y => p x → p y) : l.dropWhile (fun x => !p x) = l.filter p := by
  induction l with
  | nil => rfl
  | cons a l ih =>
    obtain ⟨ha, hl⟩ := List.pairwise_cons.1 h
    by_cases hp : p a
    · have hall : l.filter p = l := List.filter_eq_self.2 fun b hb => ha b hb hp
      rw [List.dropWhile_cons_of_neg (by simp [hp]), List.filter_cons_of_pos hp, hall]
    · rw [List.dropWhile_cons_of_pos (by simp [hp]), List.filter_cons_of_neg hp, ih hl]

end Sorted

/-- In the order of texts, what lies between a text and one that begins with it begins with it, too. -/
theorem prefix_of_between {s t more : List Char} (hst : s < t) (ht : t < s ++ more) : s <+: t := by
  induction s generalizing t with
  | nil => exact List.nil_prefix
  | cons c s ih =>
    cases t with
    | nil => exact absurd hst (List.not_lt_nil _)
    | cons d t =>
      rw [List.cons_lt_cons_iff] at hst
      rw [List.cons_append, List.cons_lt_cons_iff] at ht
      rcases hst with hcd | ⟨rfl, hst⟩
      · rcases ht with hdc | ⟨rfl, -⟩
        · exact absurd (Char.lt_trans hcd hdc) (Char.lt_irrefl c)
        · exact absurd hcd (Char.lt_irrefl _)
      · rcases ht with hdc | ⟨-, ht⟩
        · exact absurd hdc (Char.lt_irrefl c)
        · exact List.cons_prefix_cons.2 ⟨rfl, ih hst ht⟩

namespace Pool

variable {pool : Pool} {m : Artifact}

theorem isSome_innerPart? {enclosing name : String} :
    (innerPart? enclosing name).isSome ↔ (enclosing ++ "$").toList <+: name.toList := by
  rw [innerPart?, Text.after?, Option.isSome_map, List.isSome_isPrefixOf?_eq_isPrefixOf, List.isPrefixOf_iff_prefix]

/-- **A scan filters the pool.** -/
theorem inner_eq_filter (pool : Pool) (enclosing : String) : pool.inner enclosing = pool.artifacts.filter fun a =>
    decide (enclosing ++ "$" < a.name) && (innerPart? enclosing a.name).any fun part => !part.toList.contains '/' := by
  have hsorted : pool.artifacts.Pairwise fun a b => a.name < b.name := List.pairwise_map.1 pool.sorted
  have hdrop := dropWhile_eq_filter (p := fun a => decide (enclosing ++ "$" < a.name)) (l := pool.artifacts)
    (hsorted.imp fun hab ha => by
      rw [decide_eq_true_iff] at ha ⊢
      exact String.lt_trans ha hab)
  have htake := takeWhile_eq_filter (p := fun a => (innerPart? enclosing a.name).isSome)
    (l := pool.artifacts.filter fun a => decide (enclosing ++ "$" < a.name)) (by
      rw [List.pairwise_filter]
      refine hsorted.imp fun {a b} hab ha _ hb => ?_
      rw [decide_eq_true_iff] at ha
      rw [isSome_innerPart?] at hb ⊢
      obtain ⟨more, hmore⟩ := hb
      have hab' := String.lt_iff.1 hab
      rw [← hmore] at hab'
      exact prefix_of_between (String.lt_iff.1 ha) hab')
  rw [inner, hdrop, htake, List.filter_filter, List.filter_filter]
  refine List.filter_congr fun a _ => ?_
  cases innerPart? enclosing a.name with
  | none => simp
  | some part => simp [Bool.and_comm]

/-! ## Pools without an artifact -/

/-- The pool without the artifact of a name. -/
def without (pool : Pool) (name : String) : Pool where
  artifacts := pool.artifacts.filter (·.name ≠ name)
  sorted := pool.sorted.sublist (List.filter_sublist.map _)

theorem get?_without_self (pool : Pool) (name : String) : (pool.without name).get? name = none := by
  rw [get?, without, List.find?_eq_none]
  intro a ha
  simpa using (List.mem_filter.1 ha).2

theorem get?_without_of_ne {name other : String} (h : other ≠ name) :
    (pool.without name).get? other = pool.get? other := by
  rw [get?, without, List.find?_filter, get?]
  congr 1
  funext a
  by_cases ha : a.name = other
  · simp [ha, h]
  · simp [ha]

theorem inner_without (pool : Pool) (name enclosing : String) :
    (pool.without name).inner enclosing = (pool.inner enclosing).filter (·.name ≠ name) := by
  rw [inner_eq_filter, inner_eq_filter, without, List.filter_filter, List.filter_filter]
  exact List.filter_congr fun a _ => Bool.and_comm _ _

theorem size_without_le (pool : Pool) (name : String) : (pool.without name).size ≤ pool.size :=
  List.length_filter_le _ _

end Pool

/-! ## Bare artifacts -/

/-- An artifact that has neither metadata nor methods. -/
structure Artifact.IsBare (m : Artifact) : Prop where
  metadata : m.metadata = none
  methods : m.methods = []

section Bare

variable {pool : Pool} {m : Artifact} (hm : m ∈ pool.artifacts)

include hm

/-- What nothing is asked of the artifact for is answered without it as with it. -/
theorem Pool.bind_get?_without {β : Type} {g : Artifact → Option β} (hg : g m = none) (name : String) :
    ((pool.without m.name).get? name).bind g = (pool.get? name).bind g := by
  by_cases hname : name = m.name
  · rw [hname, get?_without_self, get?_of_mem hm]
    exact hg.symm
  · rw [get?_without_of_ne hname]

variable (hbare : m.IsBare)

include hbare

theorem Pool.frame?_without (name : String) : (pool.without m.name).frame? name = pool.frame? name :=
  bind_get?_without hm (by simp [Artifact.frame?, hbare.metadata]) name

theorem Pool.contains_without : (pool.without m.name).Contains = pool.Contains := by
  funext outer inner
  simp only [Contains, frame?_without hm hbare]

theorem Pool.Acyclic.without (hp : pool.Acyclic) : (pool.without m.name).Acyclic := by
  intro name
  rw [contains_without hm hbare]
  exact hp name

theorem Pool.findMethod?_without : (pool.without m.name).findMethod? = pool.findMethod? := by
  funext artifact r
  unfold findMethod?
  cases r.owner with
  | none => rfl
  | some owner => exact bind_get?_without hm (by simp [Artifact.findMethod?, hbare.methods]) owner

namespace Render

theorem constructor_without : constructor (pool.without m.name) = constructor pool := by
  funext c
  simp only [constructor, constructorAnnots?, Pool.findMethod?_without hm hbare]

theorem function_without : function (pool.without m.name) = function pool := by
  funext f
  simp only [function, methodAnnots, Pool.findMethod?_without hm hbare]

theorem property_without : property (pool.without m.name) = property pool := by
  funext p
  unfold property accessor methodAnnots
  rw [Pool.findMethod?_without hm hbare]

theorem members_without : members (pool.without m.name) = members pool := by
  funext ms
  simp only [members, property_without hm hbare, function_without hm hbare]

theorem syntheticClass_without : syntheticClass (pool.without m.name) = syntheticClass pool := by
  funext f info
  simp only [syntheticClass, function_without hm hbare]

theorem secondaryConstructors_without : secondaryConstructors (pool.without m.name) = secondaryConstructors pool := by
  funext c
  simp only [secondaryConstructors, constructor_without hm hbare]

theorem declareOrigin_without : declareOrigin (pool.without m.name) = declareOrigin pool := by
  funext c
  unfold declareOrigin
  cases c.anonymousObjectOrigin with
  | none => rfl
  | some origin =>
    simp only [Option.bind_some, Pool.bind_get?_without hm hbare.metadata]

theorem nestedArtifacts_without : nestedArtifacts (pool.without m.name) = nestedArtifacts pool := by
  funext c
  have hlookup : ∀ name, ((pool.without m.name).get? name).filter (·.metadata.isSome) =
      (pool.get? name).filter (·.metadata.isSome) := by
    intro name
    rw [← Option.bind_guard, ← Option.bind_guard]
    exact Pool.bind_get?_without hm (by simp [hbare.metadata]) name
  simp only [nestedArtifacts, List.filter_filterMap, hlookup]

end Render

end Bare

end KotlinMetadata
