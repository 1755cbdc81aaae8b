/-
What a pattern of a class name filter stands for. A pattern is a row of
parts (`Wildcard.Spells`), and it covers the names that split into as many
pieces, one for each part (`Wildcard.accepts_iff`).

A pattern can also be written as a regular expression over whole names
(`Wildcard.regexText`). Read by the rules of regular expressions
(`Regex.read`), with languages for their meaning, that text describes the
same names: every character with a meaning of its own is escaped, and no
part runs into the next (`Wildcard.matches_regexText`).
-/
import KotlinMetadata.ClassFilter
import Mathlib.Computability.Language

namespace KotlinMetadata

/-! ## Parts and pieces -/

namespace Wildcard

/-- The parts that a pattern is written with, read from the left: two stars in a row are one part. -/
inductive Spells : List Char → List Wildcard → Prop
  | nil : Spells [] []
  | anything {s p} : Spells s p → Spells ('*' :: '*' :: s) (.anything :: p)
  | segment {s p} : s.head? ≠ some '*' → Spells s p → Spells ('*' :: s) (.segment :: p)
  | one {s p} : Spells s p → Spells ('?' :: s) (.one :: p)
  | exactly {c s p} : c ≠ '*' → c ≠ '?' → Spells s p → Spells (c :: s) (.exactly c :: p)

/-- The pieces of a name that a part can stand for. -/
def StandsFor : Wildcard → List Char → Prop
  | .anything, piece => '\n' ∉ piece
  | .segment, piece => '/' ∉ piece
  | .one, piece => ∃ c, c ≠ '/' ∧ piece = [c]
  | .exactly x, piece => piece = [x]

/-- A text splits into consecutive pieces, one for each part. -/
def Splits (p : List Wildcard) (s : List Char) : Prop :=
  ∃ pieces, List.Forall₂ StandsFor p pieces ∧ pieces.flatten = s

variable {w : Wildcard} {p : List Wildcard} {s piece : List Char}

theorem read_segment (h : s.head? ≠ some '*') : read ('*' :: s) = .segment :: read s := by
  cases s with
  | nil => rfl
  | cons c s =>
    rw [read]
    rintro rest ⟨rfl, -⟩
    exact h rfl

theorem read_exactly {c : Char} (hstar : c ≠ '*') (hquestion : c ≠ '?') : read (c :: s) = .exactly c :: read s := by
  rw [read]
  · exact fun _ hc _ => hstar hc
  · exact hstar
  · exact hquestion

theorem spells_read (s : List Char) : Spells s (read s) := by
  fun_induction read s with
  | case1 => exact .nil
  | case2 s ih => exact .anything ih
  | case3 s hstar ih =>
    refine .segment (fun hhead => ?_) ih
    obtain ⟨rest, rfl⟩ := List.head?_eq_some_iff.1 hhead
    exact hstar rest rfl
  | case4 s ih => exact .one ih
  | case5 c s _ hstar hquestion ih => exact .exactly hstar hquestion ih

theorem Spells.eq_read (h : Spells s p) : p = read s := by
  induction h with
  | nil => rfl
  | anything _ ih => rw [read, ← ih]
  | segment hhead _ ih => rw [read_segment hhead, ← ih]
  | one _ ih => rw [read, ← ih]
  | exactly hstar hquestion _ ih => rw [read_exactly hstar hquestion, ← ih]

theorem standsFor_of_isRun (h : w.isRun = true) : w.StandsFor piece ↔ ∀ c ∈ piece, w.admits c = true := by
  cases w with
  | anything => simp [StandsFor, admits, List.forall_mem_ne']
  | segment => simp [StandsFor, admits, List.forall_mem_ne']
  | one => cases h
  | exactly x => cases h

theorem standsFor_of_not_isRun (h : w.isRun = false) : w.StandsFor piece ↔ ∃ c, w.admits c = true ∧ piece = [c] := by
  cases w with
  | anything => cases h
  | segment => cases h
  | one => simp [StandsFor, admits]
  | exactly x => simp [StandsFor, admits]

theorem splits_nil : Splits [] s ↔ s = [] := by
  constructor
  · rintro ⟨_, hall, rfl⟩
    rw [List.forall₂_nil_left_iff.1 hall]
    rfl
  · rintro rfl
    exact ⟨[], .nil, rfl⟩

/-- The first part takes a piece off the front, the others take the rest. -/
theorem splits_cons : Splits (w :: p) s ↔ ∃ piece rest, w.StandsFor piece ∧ Splits p rest ∧ piece ++ rest = s := by
  constructor
  · rintro ⟨_, hall, rfl⟩
    obtain ⟨piece, pieces, hpiece, hpieces, rfl⟩ := List.forall₂_cons_left_iff.1 hall
    exact ⟨piece, pieces.flatten, hpiece, ⟨pieces, hpieces, rfl⟩, List.flatten_cons.symm⟩
  · rintro ⟨piece, _, hpiece, ⟨pieces, hpieces, rfl⟩, rfl⟩
    exact ⟨piece :: pieces, .cons hpiece hpieces, List.flatten_cons⟩

/-- A run takes any number of characters off the front. -/
theorem accepts_cons_of_isRun (hrun : w.isRun = true) : accepts (w :: p) s = true ↔
    ∃ piece rest, w.StandsFor piece ∧ accepts p rest = true ∧ piece ++ rest = s := by
  simp only [standsFor_of_isRun hrun]
  induction s with
  | nil =>
    rw [accepts_cons_nil, hrun, Bool.true_and]
    constructor
    · intro h
      exact ⟨[], [], by simp, h, rfl⟩
    · rintro ⟨piece, rest, -, hrest, hnil⟩
      obtain ⟨-, rfl⟩ := List.append_eq_nil_iff.1 hnil
      exact hrest
  | cons c s ih =>
    rw [accepts_run hrun, Bool.or_eq_true, Bool.and_eq_true, ih]
    constructor
    · rintro (h | ⟨hc, piece, rest, hpiece, hrest, rfl⟩)
      · exact ⟨[], c :: s, by simp, h, rfl⟩
      · exact ⟨c :: piece, rest, List.forall_mem_cons.2 ⟨hc, hpiece⟩, hrest, rfl⟩
    · rintro ⟨piece, rest, hpiece, hrest, heq⟩
      cases piece with
      | nil =>
        obtain rfl : rest = c :: s := heq
        exact .inl hrest
      | cons d piece =>
        obtain ⟨rfl, rfl⟩ := List.cons.inj heq
        obtain ⟨hd, hpiece⟩ := List.forall_mem_cons.1 hpiece
        exact .inr ⟨hd, piece, rest, hpiece, hrest, rfl⟩

/-- Any other part takes one character off the front. -/
theorem accepts_cons_of_not_isRun (hrun : w.isRun = false) : accepts (w :: p) s = true ↔
    ∃ piece rest, w.StandsFor piece ∧ accepts p rest = true ∧ piece ++ rest = s := by
  simp only [standsFor_of_not_isRun hrun]
  cases s with
  | nil => simp [accepts_cons_nil, hrun]
  | cons c s =>
    rw [accepts_single hrun, Bool.and_eq_true]
    constructor
    · rintro ⟨hc, hrest⟩
      exact ⟨[c], s, ⟨c, hc, rfl⟩, hrest, rfl⟩
    · rintro ⟨_, rest, ⟨d, hd, rfl⟩, hrest, heq⟩
      obtain ⟨rfl, rfl⟩ := List.cons.inj heq
      exact ⟨hd, hrest⟩

/-- A pattern covers a text exactly if the text splits. -/
theorem accepts_iff : accepts p s = true ↔ Splits p s := by
  induction p generalizing s with
  | nil => rw [accepts_nil, List.isEmpty_iff, splits_nil]
  | cons w p ih =>
    simp only [splits_cons, ← ih]
    cases hrun : w.isRun with
    | true => exact accepts_cons_of_isRun hrun
    | false => exact accepts_cons_of_not_isRun hrun

end Wildcard

/-! ## Regular expressions -/

/-- One item of a regular expression: a class of characters, once or any number of times. -/
structure RegexItem where
  admits : Char → Bool
  isRepeated : Bool

/-- A regular expression that is to match whole texts, as the items between `^` and `$`. -/
abbrev Regex := List RegexItem

namespace Regex

open scoped Computability

/-- The characters that have a meaning of their own in regular expressions, so that they stand for
themselves only behind a `\`. -/
def specialChars : List Char :=
  ['\\', '.', '+', '*', '?', '(', ')', '|', '[', ']', '\x7b', '\x7d', '^', '$', '#', '&', '-', '~']

/-- A character as it stands for itself. -/
def escape (c : Char) : List Char := if c ∈ specialChars then ['\\', c] else [c]

/-- The items up to the final `$`, and whether a `*` stands in front of them, which belongs to the item
before. A `.` stands for any character but line feed, `[^c]` for any but the one named. -/
def readItems : List Char → Option (Bool × Regex)
  | [] => none
  | ['$'] => some (false, [])
  | '*' :: s => (readItems s).bind fun (starred, items) => if starred then none else some (true, items)
  | '\\' :: c :: s =>
    if c ∈ specialChars then (readItems s).map fun (starred, items) => (false, ⟨(· = c), starred⟩ :: items) else none
  | '[' :: '^' :: c :: ']' :: s =>
    if c ∈ specialChars then none else (readItems s).map fun (starred, items) => (false, ⟨(· ≠ c), starred⟩ :: items)
  | '.' :: s => (readItems s).map fun (starred, items) => (false, ⟨(· ≠ '\n'), starred⟩ :: items)
  | c :: s =>
    if c ∈ specialChars then none else (readItems s).map fun (starred, items) => (false, ⟨(· = c), starred⟩ :: items)

/-- The regular expression written as a text. -/
def read : List Char → Option Regex
  | '^' :: s => (readItems s).bind fun (starred, items) => if starred then none else some items
  | _ => none

/-- The texts of one character of a class. -/
def charLanguage (admits : Char → Bool) : Language Char := {w | ∃ c, admits c = true ∧ w = [c]}

/-- The texts that an item describes. -/
def itemLanguage (i : RegexItem) : Language Char :=
  if i.isRepeated then (charLanguage i.admits)∗ else charLanguage i.admits

/-- The texts that a regular expression describes: its items one after the other. -/
def language (r : Regex) : Language Char := (r.map itemLanguage).prod

/-- Whether a text is a regular expression that matches a name. -/
def Matches (text name : List Char) : Prop := ∃ r, read text = some r ∧ name ∈ language r

variable {s : List Char} {starred : Bool} {items : Regex}

theorem readItems_star (h : readItems s = some (false, items)) : readItems ('*' :: s) = some (true, items) := by
  simp [readItems, h]

theorem readItems_dot (h : readItems s = some (starred, items)) :
    readItems ('.' :: s) = some (false, ⟨(· ≠ '\n'), starred⟩ :: items) := by
  simp [readItems, h]

theorem readItems_except {c : Char} (hc : c ∉ specialChars) (h : readItems s = some (starred, items)) :
    readItems ('[' :: '^' :: c :: ']' :: s) = some (false, ⟨(· ≠ c), starred⟩ :: items) := by
  simp [readItems, hc, h]

/-- Whatever a character means in regular expressions, escaped it stands for itself. -/
theorem readItems_escape (c : Char) (h : readItems s = some (starred, items)) :
    readItems (escape c ++ s) = some (false, ⟨(· = c), starred⟩ :: items) := by
  unfold escape
  split
  · next hspecial => simp [readItems, hspecial, h]
  · next hplain =>
    rw [List.singleton_append, readItems, if_neg hplain, h]
    · rfl
    -- The other forms begin with special characters, and this one is not.
    all_goals
      intros
      subst_vars
      exact hplain (by decide)

end Regex

namespace Wildcard

/-- A pattern as the regular expression of the names that it covers, without the `^` in front. -/
def regexItems : List Char → List Char
  | [] => ['$']
  | '*' :: '*' :: s => '.' :: '*' :: regexItems s
  | '*' :: s => '[' :: '^' :: '/' :: ']' :: '*' :: regexItems s
  | '?' :: s => '[' :: '^' :: '/' :: ']' :: regexItems s
  | c :: s => Regex.escape c ++ regexItems s

/-- A pattern as a regular expression over whole names. -/
def regexText (s : List Char) : List Char := '^' :: regexItems s

/-- What a part is as an item of a regular expression. -/
def toRegexItem (w : Wildcard) : RegexItem := ⟨w.admits, w.isRun⟩

theorem readItems_regexItems (s : List Char) :
    Regex.readItems (regexItems s) = some (false, (read s).map toRegexItem) := by
  have hslash : '/' ∉ Regex.specialChars := by decide
  fun_induction regexItems s with
  | case1 => rfl
  | case2 s ih => exact Regex.readItems_dot (Regex.readItems_star ih)
  | case3 s hstar ih =>
    have hhead : s.head? ≠ some '*' := fun hhead => by
      obtain ⟨rest, rfl⟩ := List.head?_eq_some_iff.1 hhead
      exact hstar rest rfl
    rw [Regex.readItems_except hslash (Regex.readItems_star ih), read_segment hhead]
    rfl
  | case4 s ih => exact Regex.readItems_except hslash ih
  | case5 c s _ hstar hquestion ih =>
    rw [Regex.readItems_escape c ih, read_exactly hstar hquestion]
    rfl

theorem mem_itemLanguage {w : Wildcard} {piece : List Char} :
    piece ∈ Regex.itemLanguage w.toRegexItem ↔ w.StandsFor piece := by
  cases hrun : w.isRun with
  | false =>
    rw [standsFor_of_not_isRun hrun, Regex.itemLanguage, toRegexItem, if_neg (by simp [hrun])]
    exact Iff.rfl
  | true =>
    rw [standsFor_of_isRun hrun, Regex.itemLanguage, toRegexItem, if_pos hrun, Language.mem_kstar]
    constructor
    · rintro ⟨ones, rfl, hones⟩ c hc
      obtain ⟨one, hone, hmem⟩ := List.mem_flatten.1 hc
      obtain ⟨d, hd, rfl⟩ := hones one hone
      rwa [List.mem_singleton.1 hmem]
    · intro hall
      refine ⟨piece.map ([·]), by rw [← List.flatMap_def, List.flatMap_singleton'], fun one hone => ?_⟩
      obtain ⟨c, hc, rfl⟩ := List.mem_map.1 hone
      exact ⟨c, hall c hc, rfl⟩

theorem mem_language {p : List Wildcard} {name : List Char} :
    name ∈ Regex.language (p.map toRegexItem) ↔ Splits p name := by
  unfold Regex.language
  induction p generalizing name with
  | nil => rw [List.map_nil, List.map_nil, List.prod_nil, Language.mem_one, splits_nil]
  | cons w p ih =>
    rw [List.map_cons, List.map_cons, List.prod_cons, Language.mem_mul, splits_cons]
    constructor
    · rintro ⟨piece, hpiece, rest, hrest, rfl⟩
      exact ⟨piece, rest, mem_itemLanguage.1 hpiece, ih.1 hrest, rfl⟩
    · rintro ⟨piece, rest, hpiece, hrest, rfl⟩
      exact ⟨piece, mem_itemLanguage.2 hpiece, rest, ih.2 hrest, rfl⟩

/-- The regular expression of a pattern matches the names that the pattern covers. -/
theorem matches_regexText {s name : List Char} : Regex.Matches (regexText s) name ↔ Splits (read s) name := by
  have hread : Regex.read (regexText s) = some ((read s).map toRegexItem) := by
    simp [regexText, Regex.read, readItems_regexItems]
  rw [← mem_language]
  constructor
  · rintro ⟨r, hr, hname⟩
    cases hread.symm.trans hr
    exact hname
  · intro hname
    exact ⟨_, hread, hname⟩

end Wildcard

end KotlinMetadata
