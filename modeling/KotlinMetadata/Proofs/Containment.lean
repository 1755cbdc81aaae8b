/-
Which artifacts of a pool a rendering can come to from which: an artifact
contains others (as companion, nested classes or parts) and scans for those
named after it. Both are relations between names, since a pool has one
artifact of a name.

`Acyclic`: nothing contains itself, not even through others. `Reached`: the
least set of names that holds some roots and is closed under containment and
under scans, names that are hidden from scans aside. `card_below_lt`: on an
acyclic pool fewer artifacts are below a contained one.
-/
import KotlinMetadata.Pool
import KotlinMetadata.Scope
import Mathlib.Data.Finset.Card
import Mathlib.Logic.Relation

namespace KotlinMetadata

open Relation

/-- An artifact as it is rendered, if it has metadata. -/
def Artifact.frame? (a : Artifact) : Option Frame := a.metadata.map (⟨a, ·⟩)

theorem Artifact.artifact_of_frame? {a : Artifact} {f : Frame} (h : a.frame? = some f) : f.artifact = a := by
  obtain ⟨d, -, rfl⟩ := Option.map_eq_some_iff.1 h
  rfl

/-- The name of the artifact that is rendered. -/
def Frame.name (f : Frame) : String := f.artifact.name

/-- The names of the artifacts that one contains: of a class, its companion and its other nested
classes; of a multi-file facade, its parts other than itself. -/
def Frame.containedNames (f : Frame) : List String :=
  match f.metadata.content with
  | .classOf info => info.companionClassName.toList ++ info.nestedInternalNames
  | .multiFileFacade partNames => partNames.filter (· ≠ f.artifact.name)
  | _ => []

/-- Whether an artifact prints those named after it. -/
def Frame.scans (f : Frame) : Bool :=
  match f.metadata.content with
  | .classOf _ | .fileFacade _ | .multiFilePart _ => true
  | .synthetic _ | .multiFileFacade _ => false

namespace Pool

variable {pool : Pool}

/-- The artifact of a name as it is rendered, if there is one with metadata. -/
def frame? (pool : Pool) (name : String) : Option Frame := (pool.get? name).bind Artifact.frame?

/-- An artifact contains another, which is in the pool with metadata. -/
def Contains (pool : Pool) (outer inner : String) : Prop :=
  ∃ f, pool.frame? outer = some f ∧ inner ∈ f.containedNames ∧ (pool.frame? inner).isSome

/-- An artifact scans for another, which is in the pool with metadata. -/
def Scans (pool : Pool) (outer inner : String) : Prop :=
  ∃ f, pool.frame? outer = some f ∧ f.scans ∧ inner ∈ (pool.inner outer).map (·.name) ∧
    (pool.frame? inner).isSome

instance (outer inner : String) : Decidable (pool.Contains outer inner) :=
  decidable_of_iff (∃ f ∈ pool.frame? outer, inner ∈ f.containedNames ∧ (pool.frame? inner).isSome) Iff.rfl

/-- No artifact contains itself, directly or through others. -/
def Acyclic (pool : Pool) : Prop := ∀ name, ¬ TransGen pool.Contains name name

/-- The least set of names that holds the roots and is closed under containment and under scans for
names that are not hidden. -/
inductive Reached (pool : Pool) (hidden roots : String → Prop) : String → Prop
  | root {n} : roots n → Reached pool hidden roots n
  | contained {x y} : Reached pool hidden roots x → pool.Contains x y → Reached pool hidden roots y
  | scanned {x y} : Reached pool hidden roots x → pool.Scans x y → ¬ hidden y →
      Reached pool hidden roots y

/-! ## Lookups -/

theorem name_of_get? {name : String} {a : Artifact} (h : pool.get? name = some a) : a.name = name := by
  have := List.find?_some h
  simpa using this

theorem mem_of_get? {name : String} {a : Artifact} (h : pool.get? name = some a) :
    a ∈ pool.artifacts := List.mem_of_find?_eq_some h

/-- Names are distinct, so an artifact of the pool is found by its name. -/
theorem get?_of_mem {a : Artifact} (h : a ∈ pool.artifacts) : pool.get? a.name = some a := by
  have hs := pool.sorted
  unfold get?
  generalize pool.artifacts = as at h hs
  induction as with
  | nil => cases h
  | cons x as ih =>
    rw [List.map_cons, List.pairwise_cons] at hs
    rcases List.mem_cons.1 h with rfl | h
    · simp
    · have hne : x.name ≠ a.name := by
        intro he
        have hlt := hs.1 a.name (List.mem_map_of_mem h)
        rw [he] at hlt
        exact String.lt_irrefl _ hlt
      rw [List.find?_cons_of_neg (by simpa using hne)]
      exact ih h hs.2

theorem frame?_eq_some {name : String} {f : Frame} (h : pool.frame? name = some f) :
    f.artifact ∈ pool.artifacts ∧ f.name = name ∧ f.artifact.frame? = some f := by
  obtain ⟨a, ha, hf⟩ := Option.bind_eq_some_iff.1 h
  obtain ⟨d, hd, rfl⟩ := Option.map_eq_some_iff.1 hf
  exact ⟨mem_of_get? ha, name_of_get? ha, hf⟩

theorem frame?_of_mem {a : Artifact} {f : Frame} (ha : a ∈ pool.artifacts) (hf : a.frame? = some f) :
    pool.frame? a.name = some f := by
  simp [frame?, get?_of_mem ha, hf]

theorem mem_names_of_frame? {name : String} {f : Frame} (h : pool.frame? name = some f) :
    name ∈ pool.names := by
  obtain ⟨hm, rfl, -⟩ := frame?_eq_some h
  exact List.mem_map_of_mem hm

theorem mem_of_mem_inner {a : Artifact} {enclosing : String} (h : a ∈ pool.inner enclosing) :
    a ∈ pool.artifacts := by
  have h := (List.mem_filter.1 h).1
  exact (List.dropWhile_sublist _).subset ((List.takeWhile_sublist _).subset h)

/-- What a scan finds is the artifact of its name. -/
theorem frame?_of_mem_inner {f : Frame} {enclosing : String}
    (h : f ∈ (pool.inner enclosing).filterMap Artifact.frame?) : pool.frame? f.name = some f := by
  obtain ⟨a, ha, hf⟩ := List.mem_filterMap.1 h
  rw [Frame.name, Artifact.artifact_of_frame? hf]
  exact frame?_of_mem (mem_of_mem_inner ha) hf

/-! ## Pools without a cycle -/

/-- A pool is acyclic if contained artifacts have a smaller rank. -/
theorem acyclic_of_rank (rank : String → Nat)
    (h : ∀ f ∈ pool.artifacts.filterMap Artifact.frame?, ∀ n ∈ f.containedNames,
      (pool.frame? n).isSome → rank n < rank f.name) : pool.Acyclic := by
  have step : ∀ {x y}, pool.Contains x y → rank y < rank x := by
    rintro x y ⟨f, hf, hy, hsome⟩
    obtain ⟨hm, rfl, hframe⟩ := frame?_eq_some hf
    exact h f (List.mem_filterMap.2 ⟨_, hm, hframe⟩) y hy hsome
  have path : ∀ {x y}, TransGen pool.Contains x y → rank y < rank x := by
    intro x y hxy
    induction hxy with
    | single h => exact step h
    | tail _ h ih => exact (step h).trans ih
  exact fun name hcycle => Nat.lt_irrefl _ (path hcycle)

/-- A class by its name and what else its metadata records. -/
def sampleClass (info : ClassInfo) : Artifact :=
  { name := info.className, metadata := some ⟨⟨1, 9, 0⟩, .classOf info⟩ }

/-- The outermost class of the sample. -/
def sampleOuter : Artifact :=
  sampleClass { className := "pkg/Outer", companionObjectName := some "Companion",
                nestedClassNames := ["Companion", "Companion$Key"] }

/-- The companion of the outermost class. -/
def sampleCompanion : Artifact := sampleClass { className := "pkg/Outer$Companion", kind := .companionObject }

/-- A class with a companion object and a nested class that is named after the companion. -/
def sampleArtifacts : List Artifact :=
  [sampleOuter, sampleCompanion, sampleClass { className := "pkg/Outer$Companion$Key" }]

theorem sampleArtifacts_sorted : (sampleArtifacts.map (·.name)).Pairwise (· < ·) := by decide

/-- The sample as a pool. -/
def sample : Pool := ⟨sampleArtifacts, sampleArtifacts_sorted⟩

theorem sample_acyclic : sample.Acyclic :=
  acyclic_of_rank (fun n => if n = "pkg/Outer" then 1 else 0) (by decide)

open Classical in
/-- The names of the artifacts below one: those it contains, those they contain, and so on. -/
noncomputable def below (pool : Pool) (f : Frame) : Finset String :=
  pool.names.toFinset.filter fun n =>
    ∃ c ∈ f.containedNames, (pool.frame? c).isSome ∧ ReflTransGen pool.Contains c n

theorem mem_below {f : Frame} {n : String} : n ∈ pool.below f ↔ n ∈ pool.names ∧
    ∃ c ∈ f.containedNames, (pool.frame? c).isSome ∧ ReflTransGen pool.Contains c n := by
  simp [below]

theorem card_below_le (f : Frame) : (pool.below f).card ≤ pool.size := by
  have hsub : pool.below f ⊆ pool.names.toFinset := fun n hn => by simpa using (mem_below.1 hn).1
  calc (pool.below f).card ≤ pool.names.toFinset.card := Finset.card_le_card hsub
    _ ≤ pool.names.length := List.toFinset_card_le _
    _ = pool.size := List.length_map _

/-- Fewer artifacts are below a contained artifact than below the one around it. -/
theorem card_below_lt (hp : pool.Acyclic) {f g : Frame} {c : String} (hc : c ∈ f.containedNames)
    (hg : pool.frame? c = some g) : (pool.below g).card < (pool.below f).card := by
  have hsome : (pool.frame? c).isSome := by simp [hg]
  have hcontains : ∀ {d}, d ∈ g.containedNames → (pool.frame? d).isSome → pool.Contains c d :=
    fun hd hsome => ⟨g, hg, hd, hsome⟩
  refine Finset.card_lt_card (Finset.ssubset_iff_of_subset ?_ |>.2 ⟨c, ?_, ?_⟩)
  · intro n hn
    obtain ⟨hname, d, hd, hsd, hdn⟩ := mem_below.1 hn
    exact mem_below.2 ⟨hname, c, hc, hsome, .head (hcontains hd hsd) hdn⟩
  · exact mem_below.2 ⟨mem_names_of_frame? hg, c, hc, hsome, .refl⟩
  · intro hn
    obtain ⟨-, d, hd, hsd, hdc⟩ := mem_below.1 hn
    exact hp c (.head' (hcontains hd hsd) hdc)

end Pool

end KotlinMetadata
