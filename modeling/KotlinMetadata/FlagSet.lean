/-
Sets of flags, kept as a word of sixteen bits. Each flag of a vocabulary has
a bit position of its own; bits that belong to no flag are kept but never
listed.

`getLsbD_insert`, `getLsbD_erase`, `getLsbD_union`: each operation, seen
through the bits; `contains_insert`, `contains_erase`, `contains_union`,
`contains_ofList`: seen through membership; `mem_toList_iff`: what is listed
is what is contained.
-/
import KotlinMetadata.Enumerated

namespace KotlinMetadata

/-- A vocabulary of flags, each with its own bit of a sixteen-bit word. -/
class Flag (F : Type) extends Enumerated F where
  /-- The bit of a flag. -/
  position : F → Nat
  position_lt : ∀ f, position f < 16
  position_injective : ∀ f g, position f = position g → f = g

/-- A set of flags. -/
@[ext] structure FlagSet (F : Type) where
  /-- The bits of the set. -/
  word : BitVec 16
deriving DecidableEq

namespace FlagSet

variable {F : Type}

/-- The set without flags. -/
def empty : FlagSet F := ⟨0⟩

instance : Inhabited (FlagSet F) := ⟨empty⟩

/-- The set whose bits are those of a word. -/
def ofWord (word : BitVec 16) : FlagSet F := ⟨word⟩

/-- The flags of either set. -/
def union (s t : FlagSet F) : FlagSet F := ⟨s.word ||| t.word⟩

/-- Whether the set has every bit of another. -/
def containsAll (s t : FlagSet F) : Bool := t.word &&& s.word == t.word

/-- Whether no bit is set. -/
def isEmpty (s : FlagSet F) : Bool := s.word == 0

theorem getLsbD_union (s t : FlagSet F) (i : Nat) :
    (s.union t).word.getLsbD i = true ↔ s.word.getLsbD i = true ∨ t.word.getLsbD i = true := by
  rw [union, BitVec.getLsbD_or, Bool.or_eq_true]

theorem containsAll_iff (s t : FlagSet F) :
    s.containsAll t = true ↔ ∀ i, t.word.getLsbD i = true → s.word.getLsbD i = true := by
  rw [containsAll, beq_iff_eq]
  constructor
  · intro h i hi
    rw [← h, BitVec.getLsbD_and, Bool.and_eq_true] at hi
    exact hi.2
  · intro h
    refine BitVec.eq_of_getLsbD_eq fun i _ => ?_
    rw [BitVec.getLsbD_and, Bool.eq_iff_iff, Bool.and_eq_true]
    exact and_iff_left_of_imp (h i)

/-- Only a set without bits lies within the empty one. -/
theorem isEmpty_eq_containsAll (s : FlagSet F) : s.isEmpty = (empty : FlagSet F).containsAll s := by
  simp [isEmpty, containsAll, empty, Bool.beq_comm]

variable [Flag F]

/-- The word with the bit of one flag. -/
def bit (f : F) : BitVec 16 := BitVec.twoPow 16 (Flag.position f)

/-- The set with one flag more. -/
def insert (s : FlagSet F) (f : F) : FlagSet F := ⟨s.word ||| bit f⟩

/-- The set without a flag. -/
def erase (s : FlagSet F) (f : F) : FlagSet F := ⟨s.word &&& ~~~(bit f)⟩

/-- Whether the set has a flag. -/
def contains (s : FlagSet F) (f : F) : Bool := s.word.getLsbD (Flag.position f)

/-- The set of one flag. -/
def singleton (f : F) : FlagSet F := empty.insert f

/-- The set of the flags of a list. -/
def ofList (flags : List F) : FlagSet F := flags.foldl insert empty

/-- The flags of the set, in the order of their declaration. -/
def toList (s : FlagSet F) : List F := Enumerated.all.filter s.contains

/-- The names of the flags of the set, each with a capital. -/
def labels (s : FlagSet F) : List String := s.toList.map fun f => (Enumerated.name f).capitalize

/-- The set written out: the labels of its flags between braces. -/
def describe (s : FlagSet F) : String := "\x7b" ++ ", ".intercalate s.labels ++ "\x7d"

@[simp] theorem contains_empty (f : F) : (empty : FlagSet F).contains f = false := by
  simp [contains, empty]

theorem position_eq_iff {f g : F} : Flag.position f = Flag.position g ↔ f = g :=
  ⟨Flag.position_injective f g, congrArg Flag.position⟩

theorem getLsbD_bit (f : F) (i : Nat) : (bit f).getLsbD i = true ↔ Flag.position f = i := by
  have hf := Flag.position_lt f
  simp only [bit, BitVec.getLsbD_twoPow, Bool.and_eq_true, decide_eq_true_eq]
  omega

theorem getLsbD_insert (s : FlagSet F) (f : F) (i : Nat) :
    (s.insert f).word.getLsbD i = true ↔ s.word.getLsbD i = true ∨ Flag.position f = i := by
  rw [insert, BitVec.getLsbD_or, Bool.or_eq_true, getLsbD_bit]

theorem getLsbD_erase (s : FlagSet F) (f : F) (i : Nat) :
    (s.erase f).word.getLsbD i = true ↔ s.word.getLsbD i = true ∧ Flag.position f ≠ i := by
  rw [erase, BitVec.getLsbD_and, BitVec.getLsbD_not, Bool.and_eq_true, Bool.and_eq_true, Bool.not_eq_true',
    decide_eq_true_eq, Ne, ← getLsbD_bit, Bool.not_eq_true]
  exact ⟨fun h => ⟨h.1, h.2.2⟩, fun h => ⟨h.1, BitVec.lt_of_getLsbD h.1, h.2⟩⟩

@[simp] theorem contains_insert (s : FlagSet F) (f g : F) :
    (s.insert f).contains g = true ↔ s.contains g = true ∨ f = g := by
  rw [contains, contains, getLsbD_insert, position_eq_iff]

@[simp] theorem contains_erase (s : FlagSet F) (f g : F) :
    (s.erase f).contains g = true ↔ s.contains g = true ∧ f ≠ g := by
  rw [contains, contains, getLsbD_erase, Ne, position_eq_iff]

@[simp] theorem contains_union (s t : FlagSet F) (f : F) :
    (s.union t).contains f = (s.contains f || t.contains f) := by
  simp [contains, union]

theorem contains_foldl_insert (flags : List F) (s : FlagSet F) (f : F) :
    (flags.foldl insert s).contains f = true ↔ s.contains f = true ∨ f ∈ flags := by
  induction flags generalizing s with
  | nil => simp
  | cons g flags ih =>
    rw [List.foldl_cons, ih, contains_insert, List.mem_cons, or_assoc, eq_comm (a := g)]

@[simp] theorem contains_ofList (flags : List F) (f : F) :
    (ofList flags).contains f = true ↔ f ∈ flags := by
  simp [ofList, contains_foldl_insert]

theorem mem_toList_iff (s : FlagSet F) (f : F) : f ∈ s.toList ↔ s.contains f = true := by
  simp [toList, Enumerated.mem_all]

end FlagSet

end KotlinMetadata
