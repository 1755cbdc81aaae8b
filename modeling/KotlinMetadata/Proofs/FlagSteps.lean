/-
Sets of flags, made step by step. Beside the word that each step changes
stands the mathematical set that the steps describe; the word answers every
question as that set does, and lists its members in the order of their
declaration.

`FlagSet.Represents` ties a word to a set. `FlagStep.represents_apply` is
one step, `FlagStep.represents_made` any number of them. What the word
answers follows from `Represents` alone.
-/
import KotlinMetadata.Flags
import KotlinMetadata.Proofs.Codec.Field
import Mathlib.Data.List.Nodup
import Mathlib.Data.Set.Insert

namespace KotlinMetadata

/-! ## Words and sets -/

namespace FlagSet

variable {F : Type} [Flag F] {s t : FlagSet F} {m n : Set F}

/-- Each flag has a lower bit than those after it. -/
def Ascending (flags : List F) : Prop := flags.Pairwise fun f g => Flag.position f < Flag.position g

instance (flags : List F) : Decidable (Ascending flags) := inferInstanceAs (Decidable (flags.Pairwise _))

theorem Ascending.nodup {flags : List F} (h : Ascending flags) : flags.Nodup :=
  List.Pairwise.imp (fun hlt heq => Nat.ne_of_lt hlt (congrArg Flag.position heq)) h

/-- A list names the members of a set: all of them and nothing else, once each, in the order of their
declaration, which is that of their bits. -/
structure IsListing (flags : List F) (m : Set F) : Prop where
  mem_iff : ∀ f, f ∈ flags ↔ f ∈ m
  nodup : flags.Nodup
  sublist : flags.Sublist Enumerated.all
  ascending : Ascending flags

theorem IsListing.unique {flags others : List F} (h : IsListing flags m) (h' : IsListing others m) :
    flags = others := by
  have hperm : flags.Perm others :=
    (List.perm_ext_iff_of_nodup h.nodup h'.nodup).2 fun f => (h.mem_iff f).trans (h'.mem_iff f).symm
  refine List.Perm.eq_of_pairwise (fun f g _ _ hlt hgt => ?_) h.ascending h'.ascending hperm
  exact absurd hgt (Nat.lt_asymm hlt)

/-- A word stands for a set of flags: it contains the members of the set, and no bit is set that belongs to
no flag. -/
structure Represents (s : FlagSet F) (m : Set F) : Prop where
  declared : s.Declared
  contains_iff : ∀ f, s.contains f = true ↔ f ∈ m

theorem represents_ofList (flags : List F) : Represents (ofList flags) {f | f ∈ flags} :=
  ⟨declared_ofList flags, contains_ofList flags⟩

theorem represents_empty : Represents (empty : FlagSet F) ∅ := by
  refine ⟨declared_empty, fun f => ?_⟩
  rw [contains_empty, Set.mem_empty_iff_false, Bool.false_eq_true]

namespace Represents

theorem union (hs : Represents s m) (ht : Represents t n) : Represents (s.union t) (m ∪ n) := by
  constructor
  · intro i hi
    rcases (getLsbD_union s t i).1 hi with hi | hi
    · exact hs.declared i hi
    · exact ht.declared i hi
  · intro f
    rw [contains_union, Bool.or_eq_true, hs.contains_iff, ht.contains_iff, Set.mem_union]

theorem insert (hs : Represents s m) (f : F) : Represents (s.insert f) (m ∪ {f}) := by
  constructor
  · intro i hi
    rcases (getLsbD_insert s f i).1 hi with hi | hi
    · exact hs.declared i hi
    · exact ⟨f, hi⟩
  · intro g
    rw [contains_insert, hs.contains_iff, Set.mem_union, Set.mem_singleton_iff, eq_comm]

theorem erase (hs : Represents s m) (f : F) : Represents (s.erase f) (m \ {f}) := by
  constructor
  · intro i hi
    exact hs.declared i ((getLsbD_erase s f i).1 hi).1
  · intro g
    rw [contains_erase, hs.contains_iff, Set.mem_sdiff, Set.mem_singleton_iff, ne_comm]

theorem containsAll_iff (hs : Represents s m) (ht : Represents t n) : s.containsAll t = true ↔ n ⊆ m := by
  rw [FlagSet.containsAll_iff]
  constructor
  · intro h f hf
    exact (hs.contains_iff f).1 (h _ ((ht.contains_iff f).2 hf))
  · intro h i hi
    -- A bit that belonged to no flag would be asked for, too, though no member has it.
    obtain ⟨f, rfl⟩ := ht.declared i hi
    exact (hs.contains_iff f).2 (h ((ht.contains_iff f).1 hi))

theorem isEmpty_iff (hs : Represents s m) : s.isEmpty = true ↔ m = ∅ := by
  rw [isEmpty_eq_containsAll, represents_empty.containsAll_iff hs, Set.subset_empty_iff]

theorem isListing_toList (hall : Ascending (Enumerated.all : List F)) (hs : Represents s m) :
    IsListing s.toList m where
  mem_iff f := by rw [mem_toList_iff, hs.contains_iff]
  nodup := hall.nodup.filter _
  sublist := List.filter_sublist
  ascending := List.Pairwise.filter _ hall

/-- A word is known from the set it stands for. -/
theorem unique (hs : Represents s m) (ht : Represents t m) : s = t := by
  have hcontains : s.contains = t.contains := by
    funext f
    rw [Bool.eq_iff_iff, hs.contains_iff, ht.contains_iff]
  rw [← ofList_toList hs.declared, ← ofList_toList ht.declared, toList, toList, hcontains]

end Represents

theorem represents_singleton (f : F) : Represents (singleton f) {f} := by
  have h := represents_empty.insert f
  rwa [Set.empty_union] at h

/-- Order and repetitions of a list leave no trace. -/
theorem ofList_congr {flags others : List F} (h : ∀ f, f ∈ flags ↔ f ∈ others) : ofList flags = ofList others := by
  have hmembers : {f | f ∈ flags} = {f | f ∈ others} := Set.ext h
  exact (represents_ofList flags).unique (hmembers ▸ represents_ofList others)

end FlagSet

/-! ## Vocabularies -/

/-- The vocabularies of flags. -/
inductive Vocabulary where
  | classes
  | constructors
  | functions
  | properties
  | accessors
  | types
  | typeParameters
  | valueParameters
  /-- The access flags of the class file format. -/
  | access

namespace Vocabulary

/-- The flags of a vocabulary. -/
def Member : Vocabulary → Type
  | classes => ClassFlag
  | constructors => ConstructorFlag
  | functions => FunctionFlag
  | properties => PropertyFlag
  | accessors => AccessorFlag
  | types => TypeFlag
  | typeParameters => TypeParameterFlag
  | valueParameters => ValueParameterFlag
  | access => AccessFlag

instance : (v : Vocabulary) → Flag v.Member
  | classes => inferInstanceAs (Flag ClassFlag)
  | constructors => inferInstanceAs (Flag ConstructorFlag)
  | functions => inferInstanceAs (Flag FunctionFlag)
  | properties => inferInstanceAs (Flag PropertyFlag)
  | accessors => inferInstanceAs (Flag AccessorFlag)
  | types => inferInstanceAs (Flag TypeFlag)
  | typeParameters => inferInstanceAs (Flag TypeParameterFlag)
  | valueParameters => inferInstanceAs (Flag ValueParameterFlag)
  | access => inferInstanceAs (Flag AccessFlag)

/-- The flags of every vocabulary are declared in the order of their bits. -/
theorem ascending_all : (v : Vocabulary) → FlagSet.Ascending (Enumerated.all : List v.Member)
  | classes => (by decide : FlagSet.Ascending (Enumerated.all : List ClassFlag))
  | constructors => (by decide : FlagSet.Ascending (Enumerated.all : List ConstructorFlag))
  | functions => (by decide : FlagSet.Ascending (Enumerated.all : List FunctionFlag))
  | properties => (by decide : FlagSet.Ascending (Enumerated.all : List PropertyFlag))
  | accessors => (by decide : FlagSet.Ascending (Enumerated.all : List AccessorFlag))
  | types => (by decide : FlagSet.Ascending (Enumerated.all : List TypeFlag))
  | typeParameters => (by decide : FlagSet.Ascending (Enumerated.all : List TypeParameterFlag))
  | valueParameters => (by decide : FlagSet.Ascending (Enumerated.all : List ValueParameterFlag))
  | access => (by decide : FlagSet.Ascending (Enumerated.all : List AccessFlag))

end Vocabulary

/-! ## Steps -/

/-- A step in making a set of flags. -/
inductive FlagStep (F : Type) where
  /-- Begins anew with the flags of a list. -/
  | ofList (flags : List F)
  /-- Begins anew with one flag. -/
  | singleton (f : F)
  /-- Adds a flag to the set, or to a copy that takes its place. -/
  | insert (f : F)
  /-- Joins the set with one that is made by steps of its own. -/
  | union (others : List (FlagStep F))
  | erase (f : F)

namespace FlagStep

variable {F : Type}

mutual
/-- What a step makes of a mathematical set. -/
def effect (m : Set F) : FlagStep F → Set F
  | ofList flags => {f | f ∈ flags}
  | singleton f => {f}
  | insert f => m ∪ {f}
  | union others => m ∪ effects ∅ others
  | erase f => m \ {f}
def effects (m : Set F) : List (FlagStep F) → Set F
  | [] => m
  | step :: steps => effects (effect m step) steps
end

/-- The mathematical set that steps describe, beginning with the empty one. -/
def described (steps : List (FlagStep F)) : Set F := effects ∅ steps

variable [Flag F]

mutual
/-- What a step makes of a word. -/
def apply (s : FlagSet F) : FlagStep F → FlagSet F
  | ofList flags => .ofList flags
  | singleton f => .singleton f
  | insert f => s.insert f
  | union others => s.union (applyAll .empty others)
  | erase f => s.erase f
def applyAll (s : FlagSet F) : List (FlagStep F) → FlagSet F
  | [] => s
  | step :: steps => applyAll (apply s step) steps
end

/-- The word that steps make, beginning with the empty one. -/
def made (steps : List (FlagStep F)) : FlagSet F := applyAll .empty steps

mutual
/-- A step makes of a word what it makes of the set. -/
theorem represents_apply : ∀ {s : FlagSet F} {m : Set F} (step : FlagStep F), s.Represents m →
    (apply s step).Represents (effect m step)
  | _, _, ofList flags, _ => by
    rw [apply, effect]
    exact FlagSet.represents_ofList flags
  | _, _, singleton f, _ => by
    rw [apply, effect]
    exact FlagSet.represents_singleton f
  | _, _, insert f, h => by
    rw [apply, effect]
    exact h.insert f
  | _, _, union others, h => by
    rw [apply, effect]
    -- The joined word has a run of its own, which begins with the empty set.
    exact h.union (represents_applyAll others FlagSet.represents_empty)
  | _, _, erase f, h => by
    rw [apply, effect]
    exact h.erase f
theorem represents_applyAll : ∀ {s : FlagSet F} {m : Set F} (steps : List (FlagStep F)), s.Represents m →
    (applyAll s steps).Represents (effects m steps)
  | _, _, [], h => by
    rw [applyAll, effects]
    exact h
  | _, _, step :: steps, h => by
    rw [applyAll, effects]
    exact represents_applyAll steps (represents_apply step h)
end

/-- The word that steps make stands for the set that they describe. -/
theorem represents_made (steps : List (FlagStep F)) : (made steps).Represents (described steps) :=
  represents_applyAll steps FlagSet.represents_empty

end FlagStep

/-- **A set of flags follows its steps.** Take any vocabulary and any steps, beginning with the empty set. The
word they make contains exactly the flags of the mathematical set they describe, contains all of another such
word exactly if every flag described for that one is described for this, and is empty exactly if no flag is
described. It lists the members once each in the order of their declaration; written as a document or as
text, it shows the names of just these flags in this order. Two lists with the same flags, whatever their
order and repetitions, are read as equal sets, which are written as the same list. -/
theorem flag_sets_follow_steps (v : Vocabulary) (steps : List (FlagStep v.Member)) :
    (∀ f, (FlagStep.made steps).contains f = true ↔ f ∈ FlagStep.described steps) ∧
    (∀ others, (FlagStep.made steps).containsAll (FlagStep.made others) = true ↔
      FlagStep.described others ⊆ FlagStep.described steps) ∧
    ((FlagStep.made steps).isEmpty = true ↔ FlagStep.described steps = ∅) ∧
    FlagSet.IsListing (FlagStep.made steps).toList (FlagStep.described steps) ∧
    (∀ listed, FlagSet.IsListing listed (FlagStep.described steps) →
      Json.ofFlags (FlagStep.made steps) = .array (listed.map fun f => .string (Enumerated.name f)) ∧
      (FlagStep.made steps).describe =
        "\x7b" ++ ", ".intercalate (listed.map fun f => (Enumerated.name f).capitalize) ++ "\x7d") ∧
    ∀ flags others : List v.Member, (∀ f, f ∈ flags ↔ f ∈ others) →
      ∃ (s : FlagSet v.Member) (listed : List v.Member),
      Json.flags? (Json.ofList Json.ofNamed flags) = some s ∧
      Json.flags? (Json.ofList Json.ofNamed others) = some s ∧
      Json.ofFlags s = Json.ofList Json.ofNamed listed ∧ FlagSet.IsListing listed {f | f ∈ flags} := by
  have hmade := FlagStep.represents_made steps
  have hlisting := hmade.isListing_toList v.ascending_all
  refine ⟨hmade.contains_iff, fun others => hmade.containsAll_iff (FlagStep.represents_made others),
    hmade.isEmpty_iff, hlisting, fun listed h => ?_, fun flags others h => ?_⟩
  · rw [h.unique hlisting]
    exact ⟨rfl, rfl⟩
  · refine ⟨.ofList flags, (FlagSet.ofList flags).toList, Json.flags?_ofList flags, ?_, rfl, ?_⟩
    · rw [FlagSet.ofList_congr h]
      exact Json.flags?_ofList others
    · exact (FlagSet.represents_ofList flags).isListing_toList v.ascending_all

/-- Steps to a set of access flags on both sides of the bit that none of them has. -/
def stepsAcrossGap : List (FlagStep AccessFlag) :=
  [.ofList [.isSynthetic, .isPublic, .isPublic], .union [.singleton .isAbstract, .insert .isNative],
   .erase .isPublic]

/-- Three access flags, from steps of every kind; and two lists of the same two. -/
theorem flag_sets_follow_steps_across_gap :
    FlagSet.IsListing [.isNative, .isAbstract, .isSynthetic] (FlagStep.described stepsAcrossGap) ∧
    Json.ofFlags (FlagStep.made stepsAcrossGap) =
      .array [.string "native", .string "abstract", .string "synthetic"] ∧
    (FlagStep.made stepsAcrossGap).describe = "\x7bNative, Abstract, Synthetic\x7d" ∧
    ∃ s : FlagSet AccessFlag,
      Json.flags? (.array [.string "abstract", .string "native", .string "abstract"]) = some s ∧
      Json.flags? (.array [.string "native", .string "native", .string "abstract"]) = some s := by
  obtain ⟨-, -, -, -, hshown, hread⟩ := flag_sets_follow_steps .access stepsAcrossGap
  have hlisting : FlagSet.IsListing [.isNative, .isAbstract, .isSynthetic] (FlagStep.described stepsAcrossGap) := by
    refine ⟨fun f => ?_, by decide, by decide, by decide⟩
    cases f <;> simp [stepsAcrossGap, FlagStep.described, FlagStep.effects, FlagStep.effect]
  have hsame : ∀ f : AccessFlag,
      f ∈ [AccessFlag.isAbstract, .isNative, .isAbstract] ↔ f ∈ [AccessFlag.isNative, .isNative, .isAbstract] := by
    intro f
    cases f <;> decide
  obtain ⟨hdocument, htext⟩ := hshown _ hlisting
  obtain ⟨s, -, hfirst, hsecond, -⟩ := hread _ _ hsame
  exact ⟨hlisting, hdocument, htext, s, hfirst, hsecond⟩

end KotlinMetadata
