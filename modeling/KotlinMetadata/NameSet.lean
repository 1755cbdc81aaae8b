/-
Finite sets of names, kept as lists in strictly increasing order, so that
two sets with the same members are equal. Names are compared by their code
points, which is the order of their UTF-8 bytes.

`mem_insert_iff`: what `insert` adds; `ext_mem`: sets with the same members
are equal.
-/
namespace KotlinMetadata

/-- A finite set of names. -/
@[ext] structure NameSet where
  /-- The members, in increasing order. -/
  names : List String
  sorted : names.Pairwise (· < ·)
deriving DecidableEq

namespace NameSet

/-- The set without members. -/
def empty : NameSet := ⟨[], .nil⟩

instance : Inhabited NameSet := ⟨empty⟩

instance : Membership String NameSet := ⟨fun s n => n ∈ s.names⟩

theorem mem_def {n : String} {s : NameSet} : n ∈ s ↔ n ∈ s.names := Iff.rfl

/-- Whether a name is a member. -/
def contains (s : NameSet) (n : String) : Bool := s.names.contains n

/-- The number of members. -/
def size (s : NameSet) : Nat := s.names.length

/-- Whether there is no member. -/
def isEmpty (s : NameSet) : Bool := s.names.isEmpty

/-- A name put into its place in an increasing list, unless it is there. -/
def insertSorted (n : String) : List String → List String
  | [] => [n]
  | x :: xs => if n < x then n :: x :: xs else if n = x then x :: xs else x :: insertSorted n xs

theorem mem_insertSorted {n m : String} {xs : List String} :
    m ∈ insertSorted n xs ↔ m = n ∨ m ∈ xs := by
  induction xs with
  | nil => simp [insertSorted]
  | cons x xs ih =>
    simp only [insertSorted]
    split
    · simp
    · split
      · rename_i h; subst h; simp
      · simp only [List.mem_cons, ih]
        constructor
        · rintro (h | h | h)
          · exact .inr (.inl h)
          · exact .inl h
          · exact .inr (.inr h)
        · rintro (h | h | h)
          · exact .inr (.inl h)
          · exact .inl h
          · exact .inr (.inr h)

theorem pairwise_insertSorted {n : String} {xs : List String} (h : xs.Pairwise (· < ·)) :
    (insertSorted n xs).Pairwise (· < ·) := by
  induction xs with
  | nil => simp [insertSorted]
  | cons x xs ih =>
    rw [List.pairwise_cons] at h
    simp only [insertSorted]
    split
    · rename_i hn
      refine List.pairwise_cons.2 ⟨?_, List.pairwise_cons.2 h⟩
      intro y hy
      rcases List.mem_cons.1 hy with rfl | hy
      · exact hn
      · exact String.lt_trans hn (h.1 y hy)
    · split
      · exact List.pairwise_cons.2 h
      · rename_i hn hne
        refine List.pairwise_cons.2 ⟨?_, ih h.2⟩
        intro y hy
        rcases mem_insertSorted.1 hy with rfl | hy
        · exact Std.lt_of_le_of_ne (String.not_lt.1 hn) (Ne.symm hne)
        · exact h.1 y hy

/-- The set with one name more. -/
def insert (s : NameSet) (n : String) : NameSet := ⟨insertSorted n s.names, pairwise_insertSorted s.sorted⟩

/-- Adds a name and says whether it is new. -/
def mark (s : NameSet) (n : String) : Bool × NameSet := (!s.contains n, s.insert n)

@[simp] theorem contains_iff {s : NameSet} {n : String} : s.contains n = true ↔ n ∈ s := by
  simp [contains, mem_def]

theorem mem_insert_iff {s : NameSet} {n m : String} : m ∈ s.insert n ↔ m = n ∨ m ∈ s :=
  mem_insertSorted

/-- Sets with the same members are equal. -/
theorem ext_mem {s t : NameSet} (h : ∀ n, n ∈ s ↔ n ∈ t) : s = t := by
  have nodup : ∀ {names : List String}, names.Pairwise (· < ·) → names.Nodup := by
    intro names hnames
    refine List.Pairwise.imp (fun {a b} hlt heq => ?_) hnames
    rw [heq] at hlt
    exact String.lt_irrefl _ hlt
  have hperm : s.names.Perm t.names := (List.perm_ext_iff_of_nodup (nodup s.sorted) (nodup t.sorted)).2 h
  refine NameSet.ext (hperm.eq_of_pairwise (fun a b _ _ hab hba => ?_) s.sorted t.sorted)
  exact (String.lt_irrefl a (String.lt_trans hab hba)).elim

end NameSet

end KotlinMetadata
