/-
Scans, told by names. The scan of a pool for the artifacts named after one
begins behind a bound and ends at the first name without the beginning that
it looks for. It finds what a look at every artifact would find, in the
order of the UTF-8 bytes of the names.

`Name.IsInner` says which names a scan is for. None of them comes before the
bound, and they stand together (`Pool.inner_eq_filter`); since the order of
texts is the order of their bytes (`Text.bytes_lt_iff`), it makes no
difference in which of the two the bound is meant.
-/
import KotlinMetadata.Proofs.Loading
import KotlinMetadata.Proofs.Removal
import Mathlib.Data.List.TakeWhile

namespace KotlinMetadata

theorem Text.bytes_lt_iff {s t : String} : bytes s < bytes t ↔ s < t := by
  refine ⟨fun h => ?_, bytes_lt⟩
  by_contra hnot
  have hle : t ≤ s := String.not_lt.1 hnot
  by_cases heq : t = s
  · rw [heq] at h
    exact List.lt_irrefl _ h
  · have hlt := bytes_lt (Std.lt_of_le_of_ne hle heq)
    exact List.lt_irrefl _ (List.lt_trans h hlt)

/-- The name of an artifact is that of another, `$` and a rest in the same package. -/
def Name.IsInner (enclosing name : String) : Prop :=
  ∃ rest, rest ≠ "" ∧ '/' ∉ rest.toList ∧ name = enclosing ++ "$" ++ rest

namespace Pool

theorem innerPart?_eq_some {enclosing name rest : String} :
    innerPart? enclosing name = some rest ↔ name = enclosing ++ "$" ++ rest := by
  rw [innerPart?, Text.after?, Option.map_eq_some_iff]
  constructor
  · rintro ⟨more, hmore, rfl⟩
    rw [← String.toList_inj, String.toList_append, String.toList_ofList]
    exact (List.isPrefixOf?_eq_some_iff_append_eq.1 hmore).symm
  · rintro rfl
    refine ⟨rest.toList, ?_, String.ofList_toList⟩
    rw [List.isPrefixOf?_eq_some_iff_append_eq, String.toList_append (t := rest)]

/-- The bound leaves out one name only that begins with it: itself. -/
theorem lt_append_iff {s rest : String} : s < s ++ rest ↔ rest ≠ "" := by
  constructor
  · rintro hlt rfl
    rw [String.append_empty] at hlt
    exact String.lt_irrefl _ hlt
  · intro hne
    obtain ⟨c, cs, hcs⟩ := List.exists_cons_of_ne_nil (mt String.toList_eq_nil_iff.1 hne)
    have hlt : s.toList ++ [] < s.toList ++ c :: cs := List.append_left_lt (List.nil_lt_cons c cs)
    rwa [List.append_nil, ← hcs, ← String.toList_append, ← String.lt_iff] at hlt

/-- A scan looks for the inner names. -/
theorem isInner_iff {enclosing name : String} :
    (decide (enclosing ++ "$" < name) && (innerPart? enclosing name).any fun part => !part.toList.contains '/') = true ↔
      Name.IsInner enclosing name := by
  rw [Bool.and_eq_true, decide_eq_true_iff, Option.any_eq_true]
  constructor
  · rintro ⟨hlt, rest, hrest, hslash⟩
    obtain rfl := innerPart?_eq_some.1 hrest
    exact ⟨rest, lt_append_iff.1 hlt, by simpa using hslash, rfl⟩
  · rintro ⟨rest, hne, hslash, rfl⟩
    exact ⟨lt_append_iff.2 hne, rest, innerPart?_eq_some.2 rfl, by simpa using hslash⟩

instance (enclosing name : String) : Decidable (Name.IsInner enclosing name) := decidable_of_iff _ isInner_iff

/-- The scan along the bytes of names: from behind `enclosing$` on, while names begin so, those without a
`/` after that. -/
def byteScan (pool : Pool) (enclosing : String) : List Artifact :=
  let beginning := enclosing ++ "$"
  ((pool.artifacts.dropWhile fun a => !decide (Text.bytes beginning < Text.bytes a.name)).takeWhile fun a =>
    Text.beginsWith beginning a.name).filter fun a => !(a.name.toList.drop beginning.length).contains '/'

theorem inner_eq_byteScan (pool : Pool) (enclosing : String) : pool.inner enclosing = pool.byteScan enclosing := by
  have hbegins : ∀ a : Artifact, (innerPart? enclosing a.name).isSome = Text.beginsWith (enclosing ++ "$") a.name := by
    intro a
    rw [Bool.eq_iff_iff, isSome_innerPart?, Text.beginsWith, List.isPrefixOf_iff_prefix]
  simp only [inner, byteScan, Text.bytes_lt_iff, hbegins]
  refine List.filter_congr fun a ha => ?_
  have hsome := List.mem_takeWhile_imp ha
  rw [← hbegins, Option.isSome_iff_exists] at hsome
  obtain ⟨rest, hrest⟩ := hsome
  rw [hrest, innerPart?_eq_some.1 hrest, String.toList_append, ← String.length_toList, List.drop_left]
  rfl

end Pool

/-- **A scan finds the inner artifacts.** For every pool and every text, the scan gives the artifacts of
the pool whose name is the text, `$` and a rest that is not empty and has no `/`, and no others: the same
list as a look at every artifact gives, although it begins behind a bound, which may be meant in the order
of texts or of their bytes, and ends at the first name without the beginning. The names go up in the order
of their UTF-8 bytes, and no artifact is given twice. -/
theorem scan_finds_inner_artifacts (pool : Pool) (enclosing : String) :
    (∀ a, a ∈ pool.inner enclosing ↔ a ∈ pool.artifacts ∧
      ∃ rest, rest ≠ "" ∧ '/' ∉ rest.toList ∧ a.name = enclosing ++ "$" ++ rest) ∧
    pool.inner enclosing = pool.artifacts.filter (fun a => Name.IsInner enclosing a.name) ∧
    pool.inner enclosing = pool.byteScan enclosing ∧
    ((pool.inner enclosing).Pairwise fun a b => Text.bytes a.name < Text.bytes b.name) ∧
    (pool.inner enclosing).Nodup := by
  have hfilter : pool.inner enclosing = pool.artifacts.filter fun a => Name.IsInner enclosing a.name := by
    rw [Pool.inner_eq_filter]
    refine List.filter_congr fun a _ => ?_
    rw [Bool.eq_iff_iff, Pool.isInner_iff, decide_eq_true_iff]
  refine ⟨fun a => ?_, hfilter, pool.inner_eq_byteScan enclosing, ?_, ?_⟩
  · rw [hfilter, List.mem_filter, decide_eq_true_iff]
    rfl
  · rw [hfilter]
    exact pool.pairwise_bytes.filter _
  · rw [hfilter]
    exact pool.nodup_artifacts.filter _

end KotlinMetadata
