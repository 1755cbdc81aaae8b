/-
Pools: the artifacts of a batch, by name. A pool lists its artifacts in the
strictly increasing order of their names, so no name occurs twice.

`offer` puts an artifact into its place unless its name is taken there, and
tells the pool as it is afterwards; `insert` gives a pool only where that
went well. `inner` scans the part of the list that holds the names
`enclosing$…`.
-/
import KotlinMetadata.Artifact

namespace KotlinMetadata

/-- A pool of artifacts. -/
structure Pool where
  /-- The artifacts, in increasing order of their names. -/
  artifacts : List Artifact
  sorted : (artifacts.map (·.name)).Pairwise (· < ·)

namespace Pool

theorem sorted_nil : (([] : List Artifact).map (·.name)).Pairwise (· < ·) := List.Pairwise.nil

/-- The pool without artifacts. -/
def empty : Pool := ⟨[], sorted_nil⟩

instance : Inhabited Pool := ⟨empty⟩

/-- Why an artifact cannot join a pool: its name is taken. -/
structure Duplicate where
  name : String
deriving DecidableEq, Repr

/-- The message for a name that is taken. -/
def Duplicate.message (d : Duplicate) : String := "Artifact " ++ d.name ++ " is defined more than once"

/-- An artifact goes to its place in an increasing list: whether its name is taken there, and the list
afterwards. -/
def place (a : Artifact) : List Artifact → Bool × List Artifact
  | [] => (false, [a])
  | x :: xs =>
    if a.name < x.name then (false, a :: x :: xs)
    else if a.name = x.name then (true, x :: xs)
    else ((place a xs).1, x :: (place a xs).2)

theorem mem_of_mem_place {a b : Artifact} {xs : List Artifact} (h : b ∈ (place a xs).2) :
    b = a ∨ b ∈ xs := by
  induction xs with
  | nil => exact .inl (List.mem_singleton.1 h)
  | cons x xs ih =>
    rw [place] at h
    split at h
    · exact List.mem_cons.1 h
    · split at h
      · exact .inr h
      · rcases List.mem_cons.1 h with rfl | h
        · exact .inr List.mem_cons_self
        · exact (ih h).imp_right (List.mem_cons_of_mem _)

theorem pairwise_place {a : Artifact} {xs : List Artifact} (hs : (xs.map (·.name)).Pairwise (· < ·)) :
    ((place a xs).2.map (·.name)).Pairwise (· < ·) := by
  induction xs with
  | nil => exact List.pairwise_singleton ..
  | cons x xs ih =>
    have hcons := hs
    rw [List.map_cons, List.pairwise_cons] at hs
    rw [place]
    split
    · rename_i hlt
      rw [List.map_cons, List.pairwise_cons]
      refine ⟨fun n hn => ?_, hcons⟩
      rcases List.mem_cons.1 hn with rfl | hn
      · exact hlt
      · exact String.lt_trans hlt (hs.1 n hn)
    · split
      · exact hcons
      · rename_i hnlt hne
        rw [List.map_cons, List.pairwise_cons]
        refine ⟨fun n hn => ?_, ih hs.2⟩
        obtain ⟨b, hb, rfl⟩ := List.mem_map.1 hn
        rcases mem_of_mem_place hb with rfl | hb
        · exact Std.lt_of_le_of_ne (String.not_lt.1 hnlt) (Ne.symm hne)
        · exact hs.1 _ (List.mem_map_of_mem hb)

/-- Why an artifact that is offered to a pool is refused, if it is, and the pool afterwards. -/
def offer (p : Pool) (a : Artifact) : Option Duplicate × Pool :=
  (if (place a p.artifacts).1 then some ⟨a.name⟩ else none,
    ⟨(place a p.artifacts).2, pairwise_place p.sorted⟩)

/-- The pool with one artifact more, unless its name is taken. -/
def insert (p : Pool) (a : Artifact) : Except Duplicate Pool :=
  match p.offer a with
  | (none, q) => .ok q
  | (some d, _) => .error d

/-- The pool of a list of artifacts, unless a name occurs twice. -/
def ofList (artifacts : List Artifact) : Except Duplicate Pool := artifacts.foldlM insert empty

/-- The artifact of a name. -/
def get? (p : Pool) (name : String) : Option Artifact := p.artifacts.find? (·.name = name)

/-- The number of artifacts. -/
def size (p : Pool) : Nat := p.artifacts.length

/-- Whether there is no artifact. -/
def isEmpty (p : Pool) : Bool := p.artifacts.isEmpty

/-- The names, in increasing order. -/
def names (p : Pool) : List String := p.artifacts.map (·.name)

/-- What a name has after `enclosing$`, if it begins so. -/
def innerPart? (enclosing name : String) : Option String := Text.after? (enclosing ++ "$") name

/-- The artifacts named `enclosing$…` in the same package, in the order of their names: nested
classes at any depth and what the compiler generates. The scan begins behind the name
`enclosing$` and ends at the first name that does not begin with it. -/
def inner (p : Pool) (enclosing : String) : List Artifact :=
  ((p.artifacts.dropWhile fun a => !decide (enclosing ++ "$" < a.name)).takeWhile fun a =>
    (innerPart? enclosing a.name).isSome).filter fun a =>
      (innerPart? enclosing a.name).any fun part => !part.toList.contains '/'

end Pool

end KotlinMetadata
