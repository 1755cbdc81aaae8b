/-
What a class name filter decides. A text has the entries between its commas,
blanks around them aside, and is a filter if one is not blank. The first
entry that matches a name accepts it, unless the entry is negated; if none
does, the name is accepted exactly if the last entry is negated.

`Decides` says this of entries as they are written, `decides_decideBy` that
the filter's one pass over its patterns comes to the same.
-/
import KotlinMetadata.Proofs.Filter.Pattern
import KotlinMetadata.Proofs.Resolution
import Mathlib.Data.List.TakeWhile

namespace KotlinMetadata

/-! ## Entries -/

namespace Text

variable {s t : List Char}

/-- A text without the blanks at either end is another. -/
structure TrimsTo (s t : List Char) : Prop where
  around : ∃ front back, s = front ++ t ++ back ∧ (∀ c ∈ front, isBlank c = true) ∧ ∀ c ∈ back, isBlank c = true
  first : ∀ c ∈ t.head?, isBlank c = false
  last : ∀ c ∈ t.getLast?, isBlank c = false

theorem not_isBlank_of_head?_dropWhile {c : Char} (h : c ∈ (s.dropWhile isBlank).head?) : isBlank c = false := by
  have hnot := List.head?_dropWhile_not isBlank s
  rw [h] at hnot
  simpa using hnot

theorem trimsTo_trimChars (s : List Char) : TrimsTo s (trimChars s) := by
  generalize hm : s.dropWhile isBlank = m
  have hfront : s = s.takeWhile isBlank ++ m := by rw [← hm, List.takeWhile_append_dropWhile]
  have htrim : trimChars s = (m.reverse.dropWhile isBlank).reverse := by rw [trimChars, hm]
  have hback : m = trimChars s ++ (m.reverse.takeWhile isBlank).reverse := by
    rw [htrim, ← List.reverse_append, List.takeWhile_append_dropWhile, List.reverse_reverse]
  constructor
  · refine ⟨s.takeWhile isBlank, (m.reverse.takeWhile isBlank).reverse, ?_, fun c hc => List.mem_takeWhile_imp hc, ?_⟩
    · rw [List.append_assoc, ← hback]
      exact hfront
    · intro c hc
      exact List.mem_takeWhile_imp (List.mem_reverse.1 hc)
  · intro c hc
    refine not_isBlank_of_head?_dropWhile (s := s) ?_
    rw [hm, hback, List.head?_append, Option.mem_def.1 hc]
    rfl
  · intro c hc
    rw [htrim, List.getLast?_reverse] at hc
    exact not_isBlank_of_head?_dropWhile hc

theorem TrimsTo.eq_nil_iff (h : TrimsTo s t) : t = [] ↔ s.all isBlank = true := by
  obtain ⟨front, back, rfl, hfront, hback⟩ := h.around
  constructor
  · rintro rfl
    simpa using ⟨hfront, hback⟩
  · intro hall
    cases t with
    | nil => rfl
    | cons c t =>
      have hc := h.first c rfl
      simp [hc] at hall

theorem pieces_eq_splitOn (sep : Char) (s : List Char) : pieces sep s = s.splitOn sep := by
  induction s with
  | nil => rfl
  | cons c s ih =>
    rw [pieces, List.splitOn_cons_eq_if_modifyHead, ih, beq_eq_decide]
    by_cases hc : c = sep
    · simp [hc]
    · obtain ⟨piece, rest, hrest⟩ := List.exists_cons_of_ne_nil (List.splitOn_ne_nil sep s)
      simp [hc, hrest]

end Text

namespace ClassFilter

variable {entry : List Char} {entries : List (List Char)} {name : String} {answer : Bool}

/-- Whether an entry is negated. -/
def isNegated (entry : List Char) : Bool := entry.head? = some '!'

/-- A `/` for a `.`, as in internal names. -/
def slashed (c : Char) : Char := if c = '.' then '/' else c

/-- The pattern of an entry: what follows a leading `!`, with a `/` for each `.`. -/
def patternOf (entry : List Char) : List Char :=
  (if isNegated entry then entry.tail else entry).map slashed

/-- An entry matches a name: the name splits into pieces, one for each part that the pattern is written
with. -/
def Matches (entry : List Char) (name : String) : Prop :=
  ∃ parts, Wildcard.Spells (patternOf entry) parts ∧ Wildcard.Splits parts name.toList

/-- What entries decide about a name: the first that matches decides, and if none does, the last one says
the opposite of what it would say of a match. -/
inductive Decides (name : String) : List (List Char) → Bool → Prop
  | first {before entry after} : (∀ e ∈ before, ¬ Matches e name) → Matches entry name →
      Decides name (before ++ entry :: after) (!isNegated entry)
  | last {before entry} : (∀ e ∈ before ++ [entry], ¬ Matches e name) →
      Decides name (before ++ [entry]) (isNegated entry)

theorem replaceEach_eq_map (s : List Char) : Text.replaceEach '.' ['/'] s = s.map slashed :=
  Text.replaceEach_singleton '.' '/' s

/-- An entry is read as its pattern says. -/
theorem read_eq (entry : List Char) : ClassPattern.read entry = ⟨Wildcard.read (patternOf entry), isNegated entry⟩ := by
  unfold ClassPattern.read patternOf
  split
  · next hread =>
    split at hread
    · cases hread
      simp [isNegated, replaceEach_eq_map]
    · next hnot =>
      cases hread
      have hplain : isNegated entry = false := by
        cases entry with
        | nil => rfl
        | cons c entry =>
          have hc : c ≠ '!' := by
            rintro rfl
            exact hnot entry rfl
          simp [isNegated, hc]
      simp [hplain, replaceEach_eq_map]

theorem matches_iff : Matches entry name ↔ Wildcard.Splits (Wildcard.read (patternOf entry)) name.toList := by
  constructor
  · rintro ⟨parts, hparts, h⟩
    rwa [hparts.eq_read] at h
  · intro h
    exact ⟨_, Wildcard.spells_read _, h⟩

theorem covers_read : (ClassPattern.read entry).covers name = true ↔ Matches entry name := by
  rw [read_eq, ClassPattern.covers, Wildcard.accepts_iff, matches_iff]

theorem Decides.cons (h : ¬ Matches entry name) (hrest : Decides name entries answer) :
    Decides name (entry :: entries) answer := by
  cases hrest with
  | first hbefore hmatch => exact .first (List.forall_mem_cons.2 ⟨h, hbefore⟩) hmatch
  | @last before last hnone =>
    have hnone' : ∀ e ∈ entry :: (before ++ [last]), ¬ Matches e name := List.forall_mem_cons.2 ⟨h, hnone⟩
    exact @Decides.last name (entry :: before) last hnone'

theorem decideBy_of_matches (h : Matches entry name) (fallback : Bool) :
    decideBy name fallback ((entry :: entries).map ClassPattern.read) = !isNegated entry := by
  rw [List.map_cons, decideBy, if_pos (covers_read.2 h), read_eq]

theorem decideBy_of_not_matches (h : ¬ Matches entry name) (fallback : Bool) :
    decideBy name fallback ((entry :: entries).map ClassPattern.read) =
      decideBy name (isNegated entry) (entries.map ClassPattern.read) := by
  rw [List.map_cons, decideBy, if_neg (mt covers_read.1 h), read_eq]

/-- One pass over the patterns decides as the entries do. -/
theorem decides_decideBy (fallback : Bool) (entry : List Char) (entries : List (List Char)) :
    Decides name (entry :: entries) (decideBy name fallback ((entry :: entries).map ClassPattern.read)) := by
  induction entries generalizing fallback entry with
  | nil =>
    by_cases hmatch : Matches entry name
    · rw [decideBy_of_matches hmatch]
      exact @Decides.first name [] entry [] (by simp) hmatch
    · rw [decideBy_of_not_matches hmatch]
      exact @Decides.last name [] entry (by simpa using hmatch)
  | cons next entries ih =>
    by_cases hmatch : Matches entry name
    · rw [decideBy_of_matches hmatch]
      exact @Decides.first name [] entry (next :: entries) (by simp) hmatch
    · rw [decideBy_of_not_matches hmatch]
      exact .cons hmatch (ih _ next)

/-- The entries of a text are its pieces that are not blank, trimmed. -/
theorem trimsTo_entries (text : String) :
    List.Forall₂ Text.TrimsTo ((text.toList.splitOn ',').filter (!·.all Text.isBlank)) (ClassFilter.entries text) := by
  rw [ClassFilter.entries, Text.pieces_eq_splitOn]
  induction text.toList.splitOn ',' with
  | nil => exact .nil
  | cons piece pieces ih =>
    have htrim := Text.trimsTo_trimChars piece
    rw [List.map_cons]
    by_cases hblank : piece.all Text.isBlank = true
    · rw [List.filter_cons_of_neg (by simp [hblank]), List.filter_cons_of_neg (by simp [htrim.eq_nil_iff.2 hblank])]
      exact ih
    · have hne : Text.trimChars piece ≠ [] := mt htrim.eq_nil_iff.1 hblank
      rw [List.filter_cons_of_pos (by simpa using hblank), List.filter_cons_of_pos (by simpa using hne)]
      exact .cons htrim ih

theorem entries_eq_nil_iff {text : String} :
    ClassFilter.entries text = [] ↔ ∀ piece ∈ text.toList.splitOn ',', ∀ c ∈ piece, Text.isBlank c = true := by
  have hlength := (trimsTo_entries text).length_eq
  rw [← List.length_eq_zero_iff, ← hlength, List.length_eq_zero_iff, List.filter_eq_nil_iff]
  simp

theorem parse_eq_error_iff {text : String} {e : NoPattern} :
    parse text = .error e ↔ ClassFilter.entries text = [] ∧ e = ⟨text⟩ := by
  unfold parse
  split
  · next hnil => simp [hnil, eq_comm]
  · next hcons => simp [hcons]

theorem parse_eq_ok_iff {text : String} {f : ClassFilter} : parse text = .ok f ↔
    ClassFilter.entries text ≠ [] ∧ f = ⟨(ClassFilter.entries text).map ClassPattern.read⟩ := by
  unfold parse
  split
  · next hnil => simp [hnil]
  · next hcons => simp [hcons, eq_comm]

/-! ## Points and slashes -/

theorem slashed_eq_iff {c d : Char} (hpoint : d ≠ '.') (hslash : d ≠ '/') : slashed c = d ↔ c = d := by
  unfold slashed
  split
  · next hc =>
    subst hc
    exact ⟨fun h => absurd h.symm hslash, fun h => absurd h.symm hpoint⟩
  · exact Iff.rfl

theorem slashed_slashed (c : Char) : slashed (slashed c) = slashed c := by
  unfold slashed
  split
  · rfl
  · rfl

theorem isBlank_slashed (c : Char) : Text.isBlank (slashed c) = Text.isBlank c := by
  unfold slashed
  split
  · next hc =>
    subst hc
    decide
  · rfl

theorem pieces_map_slashed (s : List Char) :
    Text.pieces ',' (s.map slashed) = (Text.pieces ',' s).map (List.map slashed) := by
  induction s with
  | nil => rfl
  | cons c s ih =>
    have hcomma : slashed c = ',' ↔ c = ',' := slashed_eq_iff (by decide) (by decide)
    rw [List.map_cons, Text.pieces, Text.pieces, ih]
    by_cases hc : c = ','
    · rw [if_pos (hcomma.2 hc), if_pos hc]
      rfl
    · rw [if_neg (mt hcomma.1 hc), if_neg hc]
      cases Text.pieces ',' s with
      | nil => rfl
      | cons piece rest => rfl

theorem trimChars_map_slashed (s : List Char) : Text.trimChars (s.map slashed) = (Text.trimChars s).map slashed := by
  have hblank : Text.isBlank ∘ slashed = Text.isBlank := funext isBlank_slashed
  unfold Text.trimChars
  rw [List.dropWhile_map, hblank, ← List.map_reverse, List.dropWhile_map, hblank, ← List.map_reverse]

theorem toList_toInternal (text : String) : (Name.toInternal text).toList = text.toList.map slashed := by
  rw [Name.toInternal, Text.replaceChar, String.toList_ofList]
  exact replaceEach_eq_map _

theorem entries_toInternal (text : String) :
    ClassFilter.entries (Name.toInternal text) = (ClassFilter.entries text).map (List.map slashed) := by
  have htrim : ∀ pieces : List (List Char),
      (pieces.map (List.map slashed)).map Text.trimChars = (pieces.map Text.trimChars).map (List.map slashed) := by
    intro pieces
    simp only [List.map_map, Function.comp_def, trimChars_map_slashed]
  have hempty : (fun s : List Char => !s.isEmpty) ∘ List.map slashed = fun s => !s.isEmpty := by
    funext s
    simp
  rw [ClassFilter.entries, ClassFilter.entries, toList_toInternal, pieces_map_slashed, htrim, List.filter_map, hempty]

theorem read_map_slashed (entry : List Char) : ClassPattern.read (entry.map slashed) = ClassPattern.read entry := by
  have hnegated : isNegated (entry.map slashed) = isNegated entry := by
    cases entry with
    | nil => rfl
    | cons c entry => simp [isNegated, slashed_eq_iff]
  have hbody : patternOf (entry.map slashed) = patternOf entry := by
    rw [patternOf, patternOf, hnegated]
    split <;> simp [slashed_slashed, Function.comp_def]
  rw [read_eq, read_eq, hnegated, hbody]

/-- A filter is the same in internal form. -/
theorem parse_toInternal (text : String) : (parse (Name.toInternal text)).toOption = (parse text).toOption := by
  have hpatterns : (ClassFilter.entries (Name.toInternal text)).map ClassPattern.read =
      (ClassFilter.entries text).map ClassPattern.read := by
    rw [entries_toInternal, List.map_map]
    exact List.map_congr_left fun entry _ => read_map_slashed entry
  have hnil : ClassFilter.entries (Name.toInternal text) = [] ↔ ClassFilter.entries text = [] := by
    rw [entries_toInternal, List.map_eq_nil_iff]
  by_cases hentries : ClassFilter.entries text = []
  · rw [parse_eq_error_iff.2 ⟨hentries, rfl⟩, parse_eq_error_iff.2 ⟨hnil.2 hentries, rfl⟩]
    rfl
  · rw [parse_eq_ok_iff.2 ⟨hentries, rfl⟩, parse_eq_ok_iff.2 ⟨mt hnil.1 hentries, rfl⟩, hpatterns]

end ClassFilter

/-- **A filter decides by the first entry that matches.** A text is no filter exactly if each piece between
its commas is blank. Otherwise its entries are the pieces that are not blank, trimmed; about every name the
first entry that matches it decides, negated or not, and if none matches, the name is accepted exactly if
the last entry is negated. An entry matches a name exactly if the name splits into consecutive pieces, one
for each part of the pattern (`Matches`), and the same names are matched by the pattern written as a regular
expression. Texts that differ only in having points or slashes decide alike. -/
theorem filter_decides_by_first_match (text : String) :
    ((∃ e, ClassFilter.parse text = .error e) ↔
      ∀ piece ∈ text.toList.splitOn ',', ∀ c ∈ piece, Text.isBlank c = true) ∧
    (∀ e, ClassFilter.parse text = .error e → e = ⟨text⟩) ∧
    (∀ f, ClassFilter.parse text = .ok f → ∃ entries,
      List.Forall₂ Text.TrimsTo ((text.toList.splitOn ',').filter (!·.all Text.isBlank)) entries ∧
      (∀ name, ClassFilter.Decides name entries (f.accepts name)) ∧
      ∀ entry ∈ entries, ∀ name : String, ClassFilter.Matches entry name ↔
        Regex.Matches (Wildcard.regexText (ClassFilter.patternOf entry)) name.toList) ∧
    ∀ other, Name.toInternal other = Name.toInternal text →
      (ClassFilter.parse other).toOption = (ClassFilter.parse text).toOption := by
  refine ⟨?_, fun e he => (ClassFilter.parse_eq_error_iff.1 he).2, fun f hf => ?_, fun other hother => ?_⟩
  · simp only [ClassFilter.parse_eq_error_iff, ClassFilter.entries_eq_nil_iff, exists_and_left, exists_eq, and_true]
  · obtain ⟨hne, rfl⟩ := ClassFilter.parse_eq_ok_iff.1 hf
    refine ⟨_, ClassFilter.trimsTo_entries text, fun name => ?_, fun entry _ name => ?_⟩
    · obtain ⟨entry, entries, hentries⟩ := List.exists_cons_of_ne_nil hne
      rw [hentries]
      exact ClassFilter.decides_decideBy false entry entries
    · rw [ClassFilter.matches_iff, Wildcard.matches_regexText]
  · rw [← ClassFilter.parse_toInternal other, hother, ClassFilter.parse_toInternal text]

/-- Two entries, the first of them negated. -/
theorem filter_decides_by_first_match_sample : ∃ f entries,
    ClassFilter.parse "!pkg.internal.**, pkg.**" = .ok f ∧ entries.length = 2 ∧
    (∀ name, ClassFilter.Decides name entries (f.accepts name)) ∧
    (ClassFilter.parse "!pkg/internal/**, pkg/**").toOption =
      (ClassFilter.parse "!pkg.internal.**, pkg.**").toOption := by
  obtain ⟨-, -, hok, hforms⟩ := filter_decides_by_first_match "!pkg.internal.**, pkg.**"
  obtain ⟨entries, htrim, hdecides, -⟩ := hok _ rfl
  refine ⟨_, entries, rfl, ?_, hdecides, hforms _ (by decide)⟩
  rw [← htrim.length_eq]
  decide

end KotlinMetadata
