/-
What a class name is called in a scope. Each stage of `Scope.shorten` takes a
whole qualifier off the front of a name or leaves the name alone
(`Name.Sheds`), and `Scope.shorten_sheds` joins the stages. No stage finds
anything to take off a name that is foreign to the scope (`Scope.IsForeign`),
and a name without separators is foreign to every scope; so what a name
resolves to is resolved already.

Inside nested classes the frames are asked from the innermost outwards, and
those further out go on with what the innermost has left. In a package they
find nothing there, since their names have a `/` in them; in the default
package they may.
-/
import KotlinMetadata.Scope
import Mathlib.Data.List.Chain
import Mathlib.Data.List.DropRight

namespace KotlinMetadata

/-! ## Texts -/

namespace Text

variable {old c : Char} {new s t : List Char}

theorem replaceEach_of_not_mem (h : old ∉ s) : replaceEach old new s = s := by
  induction s with
  | nil => rfl
  | cons d s ih =>
    rw [List.mem_cons, not_or] at h
    have hs : replaceEach old new s = s := ih h.2
    unfold replaceEach at hs ⊢
    rw [List.flatMap_cons, hs, if_neg (Ne.symm h.1), List.singleton_append]

theorem replaceEach_append (s t : List Char) :
    replaceEach old new (s ++ t) = replaceEach old new s ++ replaceEach old new t := List.flatMap_append

theorem mem_of_mem_replaceEach (h : c ∈ replaceEach old new s) : c ∈ new ∨ c ∈ s ∧ c ≠ old := by
  obtain ⟨d, hd, hc⟩ := List.mem_flatMap.1 h
  split at hc
  · exact .inl hc
  · next hne =>
    cases List.mem_singleton.1 hc
    exact .inr ⟨hd, hne⟩

theorem replaceEach_singleton (old new : Char) (s : List Char) :
    replaceEach old [new] s = s.map fun c => if c = old then new else c := by
  rw [replaceEach, List.map_eq_flatMap]
  congr 1
  funext c
  split
  · rfl
  · rfl

/-- Nothing after the last separator is a separator. -/
theorem not_mem_afterLast (sep : Char) (s : List Char) : sep ∉ (afterLast? sep s).getD s := by
  induction s with
  | nil => exact List.not_mem_nil
  | cons d s ih =>
    rw [afterLast?]
    cases hs : afterLast? sep s with
    | some t =>
      rw [hs] at ih
      exact ih
    | none =>
      rw [hs] at ih
      by_cases hd : d = sep
      · rw [if_pos hd]
        exact ih
      · rw [if_neg hd]
        exact List.not_mem_cons_of_ne_of_not_mem (Ne.symm hd) ih

theorem afterLast?_of_not_mem {sep : Char} (h : sep ∉ s) : afterLast? sep s = none := by
  induction s with
  | nil => rfl
  | cons c s ih =>
    rw [List.mem_cons, not_or] at h
    rw [afterLast?, ih h.2, Option.none_or, if_neg (Ne.symm h.1)]

theorem afterLast?_append {sep : Char} {rest : List Char} (front : List Char) (h : sep ∉ rest) :
    afterLast? sep (front ++ sep :: rest) = some rest := by
  induction front with
  | nil => rw [List.nil_append, afterLast?, afterLast?_of_not_mem h, Option.none_or, if_pos rfl]
  | cons c front ih => rw [List.cons_append, afterLast?, ih, Option.some_or]

end Text

/-! ## Qualifiers -/

namespace Name

variable {name rest kept front : List Char}

/-- Whether a character ends a qualifier of an internal name. -/
def isSeparator (c : Char) : Bool := c = '/' || c = '$'

/-- The simple name: what follows the last separator. -/
def simple (name : List Char) : List Char := name.rtakeWhile fun c => !isSeparator c

/-- Whole qualifiers: nothing, or a text that ends with a separator. -/
def IsQualifier (front : List Char) : Prop := ∀ c ∈ front.getLast?, isSeparator c

instance : DecidablePred IsQualifier := fun front => Option.decidableForallMem front.getLast?

theorem isQualifier_nil : IsQualifier [] := nofun

theorem isQualifier_concat (l : List Char) {c : Char} (h : isSeparator c) : IsQualifier (l ++ [c]) := by
  simpa [IsQualifier] using h

theorem IsQualifier.append {more : List Char} (h : IsQualifier front) (hmore : IsQualifier more) :
    IsQualifier (front ++ more) := by
  intro c hc
  rw [List.getLast?_append] at hc
  cases hlast : more.getLast? with
  | none =>
    rw [hlast] at hc
    exact h c hc
  | some d =>
    rw [hlast] at hc
    cases hc
    exact hmore c hlast

/-- What is left of a name when whole qualifiers are taken off its front. -/
def Sheds (name rest : List Char) : Prop := ∃ front, IsQualifier front ∧ name = front ++ rest

namespace Sheds

theorem refl (name : List Char) : Sheds name name := ⟨[], isQualifier_nil, rfl⟩

theorem trans (h₁ : Sheds name rest) (h₂ : Sheds rest kept) : Sheds name kept := by
  obtain ⟨front, hfront, rfl⟩ := h₁
  obtain ⟨more, hmore, rfl⟩ := h₂
  exact ⟨front ++ more, hfront.append hmore, (List.append_assoc _ _ _).symm⟩

theorem suffix (h : Sheds name rest) : rest <:+ name := by
  obtain ⟨front, -, rfl⟩ := h
  exact List.suffix_append _ _

/-- The simple name is never taken off: a front that reached into it would end inside it. -/
theorem simple_suffix (h : Sheds name rest) : simple name <:+ rest := by
  have hsimple : simple name <:+ name := List.rtakeWhile_suffix _ _
  rcases List.suffix_or_suffix_of_suffix hsimple h.suffix with hs | ⟨part, hpart⟩
  · exact hs
  · obtain ⟨front, hfront, rfl⟩ := h
    have hend : part <:+ front := by
      rw [← hpart] at hsimple
      exact ((List.suffix_append_inj_of_length_eq rfl).1 hsimple).1
    rcases part.eq_nil_or_concat with rfl | ⟨l, c, rfl⟩
    · rw [← hpart]
      exact List.suffix_rfl
    · have hsep : isSeparator c := by
        obtain ⟨l', rfl⟩ := hend
        exact hfront c (by simp)
      have hmem : c ∈ simple (front ++ rest) := by
        rw [← hpart]
        simp
      simpa [hsep] using List.mem_rtakeWhile_imp hmem

end Sheds

/-- A name without a qualifier and the `$` after it, if it begins so. -/
def strip (name : List Char) (qualifier : String) : List Char :=
  ((qualifier.toList ++ ['$']).isPrefixOf? name).getD name

theorem strip_sheds (name : List Char) (qualifier : String) : Sheds name (strip name qualifier) := by
  unfold strip
  cases hrest : (qualifier.toList ++ ['$']).isPrefixOf? name with
  | none => exact .refl name
  | some rest => exact ⟨_, isQualifier_concat _ (by decide), (List.append_eq_of_isPrefixOf?_eq_some hrest).symm⟩

theorem strip_append (qualifier : String) (rest : List Char) :
    strip (qualifier.toList ++ '$' :: rest) qualifier = rest := by
  have hrest : (qualifier.toList ++ ['$']).isPrefixOf? (qualifier.toList ++ '$' :: rest) = some rest :=
    List.isPrefixOf?_eq_some_iff_append_eq.2 (by simp)
  rw [strip, hrest, Option.getD_some]

theorem strip_eq_self_iff {qualifier : String} :
    strip name qualifier = name ↔ ¬ qualifier.toList ++ ['$'] <+: name := by
  unfold strip
  cases hrest : (qualifier.toList ++ ['$']).isPrefixOf? name with
  | none =>
    refine iff_of_true rfl ?_
    rintro ⟨rest, hname⟩
    rw [List.isPrefixOf?_eq_some_iff_append_eq.2 hname] at hrest
    cases hrest
  | some rest =>
    have hname := List.append_eq_of_isPrefixOf?_eq_some hrest
    refine iff_of_false (fun he => ?_) fun h => h ⟨rest, hname⟩
    rw [Option.getD_some] at he
    have hlength := congrArg List.length hname
    rw [he, List.length_append, List.length_append, List.length_singleton] at hlength
    omega

theorem foldl_strip_sheds (qualifiers : List String) (name : List Char) :
    Sheds name (qualifiers.foldl strip name) := by
  induction qualifiers generalizing name with
  | nil => exact .refl name
  | cons qualifier qualifiers ih => exact (strip_sheds name qualifier).trans (ih _)

/-- Several qualifiers leave a name alone exactly if each of them does: what one has taken off the
others do not put back. -/
theorem foldl_strip_eq_self_iff {qualifiers : List String} :
    qualifiers.foldl strip name = name ↔ ∀ q ∈ qualifiers, ¬ q.toList ++ ['$'] <+: name := by
  induction qualifiers with
  | nil => simp
  | cons qualifier qualifiers ih =>
    rw [List.foldl_cons, List.forall_mem_cons, ← strip_eq_self_iff]
    by_cases hstrip : strip name qualifier = name
    · rw [hstrip, ih, and_iff_right rfl]
    · refine iff_of_false (fun he => hstrip ?_) fun h => hstrip h.1
      have hsuffix := (foldl_strip_sheds qualifiers (strip name qualifier)).suffix
      rw [he] at hsuffix
      exact hsuffix.eq_of_length_le (strip_sheds name qualifier).suffix.length_le |>.symm

end Name

theorem Frame.foldl_shorten (frames : List Frame) (name : List Char) :
    frames.foldl Frame.shorten name = (frames.filterMap Frame.qualifier?).foldl Name.strip name := by
  induction frames generalizing name with
  | nil => rfl
  | cons f frames ih =>
    rw [List.foldl_cons, ih, List.filterMap_cons, Frame.shorten]
    cases f.qualifier? with
    | none => rfl
    | some qualifier => rfl

/-! ## Packages -/

/-- The packages whose classes need no import, each with its separator. -/
def importedPackages : List String := "kotlin/" :: defaultPackages.map ("kotlin/" ++ · ++ "/") ++ ["java/lang/"]

theorem isQualifier_importedPackages : ∀ package ∈ importedPackages, Name.IsQualifier package.toList := by
  decide

theorem slash_mem_importedPackages : ∀ package ∈ importedPackages, '/' ∈ package.toList := by decide

theorem classIn?_eq_some {beginnings : List String} {name rest : List Char} (h : classIn? beginnings name = some rest) :
    ∃ beginning ∈ beginnings, name = beginning.toList ++ rest ∧ '/' ∉ rest := by
  obtain ⟨beginning, hmem, hfilter⟩ := List.exists_of_findSome?_eq_some h
  obtain ⟨hrest, hslash⟩ := Option.filter_eq_some_iff.1 hfilter
  refine ⟨beginning, hmem, (List.append_eq_of_isPrefixOf?_eq_some hrest).symm, ?_⟩
  simpa using hslash

namespace Scope

variable (s : Scope)

theorem dropPackage_cases (qualified : String) (name : List Char) : s.dropPackage qualified name = name ∨
    s.package ≠ "" ∧ name = s.package.toList ++ '/' :: (Name.short qualified).toList ∧
      s.dropPackage qualified name = (Name.short qualified).toList := by
  unfold dropPackage
  split
  · exact .inl rfl
  · next hpackage =>
    split
    · exact .inl rfl
    · next rest hrest =>
      split
      · next hshort =>
        refine .inr ⟨fun h => hpackage (String.isEmpty_iff.2 h), ?_, hshort⟩
        rw [← hshort, ← List.append_eq_of_isPrefixOf?_eq_some hrest]
        simp
      · exact .inl rfl

theorem shorten_sheds (qualified : String) : Name.Sheds qualified.toList (s.shorten qualified) := by
  have hframes := Name.foldl_strip_sheds (s.frames.filterMap Frame.qualifier?) qualified.toList
  rw [← Frame.foldl_shorten] at hframes
  have hpackage : Name.Sheds (s.frames.foldl Frame.shorten qualified.toList)
      (s.dropPackage qualified (s.frames.foldl Frame.shorten qualified.toList)) := by
    rcases s.dropPackage_cases qualified (s.frames.foldl Frame.shorten qualified.toList) with h | ⟨-, hname, h⟩
    · rw [h]
      exact .refl _
    · rw [h]
      exact ⟨s.package.toList ++ ['/'], Name.isQualifier_concat _ (by decide), by simpa using hname⟩
  refine (hframes.trans hpackage).trans ?_
  rw [shorten]
  cases himport : defaultImport? (s.dropPackage qualified (s.frames.foldl Frame.shorten qualified.toList)) with
  | none => exact .refl _
  | some rest =>
    obtain ⟨package, hmem, hname, -⟩ := classIn?_eq_some himport
    exact ⟨_, isQualifier_importedPackages package hmem, hname⟩

/-- A name that a scope takes nothing off: it does not begin with the qualifier of a frame and `$`, it
is no class right in the package, and none that needs no import. -/
structure IsForeign (name : List Char) : Prop where
  frames : ∀ f ∈ s.frames, ∀ qualifier ∈ f.qualifier?, ¬ qualifier.toList ++ ['$'] <+: name
  package : s.package ≠ "" → ∀ short, '/' ∉ short → name ≠ s.package.toList ++ '/' :: short
  imports : ∀ package ∈ importedPackages, ∀ short, '/' ∉ short → name ≠ package.toList ++ short

/-- A name is foreign if it begins with nothing that a scope could take off. -/
theorem IsForeign.of_not_begins {s : Scope} {name : List Char}
    (hframes : ∀ f ∈ s.frames, ∀ qualifier ∈ f.qualifier?, ¬ qualifier.toList ++ ['$'] <+: name)
    (hpackage : ¬ s.package.toList ++ ['/'] <+: name)
    (himports : ∀ package ∈ importedPackages, ¬ package.toList <+: name) : s.IsForeign name where
  frames := hframes
  package _ short _ he := hpackage ⟨short, by simp [he]⟩
  imports package hmem short _ he := himports package hmem ⟨short, he.symm⟩

/-- What the frames leave of a name stays if it is in no package that need not be named. -/
theorem shorten_eq {s : Scope} {qualified : String} {kept : List Char}
    (hframes : s.frames.foldl Frame.shorten qualified.toList = kept)
    (hpackage : s.package ≠ "" → ∀ short, '/' ∉ short → kept ≠ s.package.toList ++ '/' :: short)
    (himports : ∀ package ∈ importedPackages, ∀ short, '/' ∉ short → kept ≠ package.toList ++ short) :
    s.shorten qualified = kept := by
  have hdrop : s.dropPackage qualified kept = kept := by
    rcases s.dropPackage_cases qualified kept with hsame | ⟨hne, hname, -⟩
    · exact hsame
    · refine absurd hname (hpackage hne _ ?_)
      rw [Name.short, String.toList_ofList]
      exact Text.not_mem_afterLast '/' qualified.toList
  have hnone : defaultImport? kept = none := by
    cases hrest : defaultImport? kept with
    | none => rfl
    | some rest =>
      obtain ⟨package, hmem, hname, hslash⟩ := classIn?_eq_some hrest
      exact absurd hname (himports package hmem rest hslash)
  rw [shorten, hframes, hdrop, hnone, Option.getD_none]

theorem shorten_of_isForeign {s : Scope} {qualified : String} (h : s.IsForeign qualified.toList) :
    s.shorten qualified = qualified.toList := by
  refine shorten_eq ?_ h.package h.imports
  rw [Frame.foldl_shorten, Name.foldl_strip_eq_self_iff]
  intro qualifier hqualifier
  obtain ⟨f, hf, hq⟩ := List.mem_filterMap.1 hqualifier
  exact h.frames f hf qualifier hq

/-- A class right in the package of the scope goes by its simple name. -/
theorem shorten_in_package {name : String} (hpackage : s.package ≠ "")
    (hdollar : '$' ∉ s.package.toList) (hname : ∀ c ∈ name.toList, ¬ Name.isSeparator c) :
    s.shorten (s.package ++ "/" ++ name) = name.toList := by
  have hslash : '/' ∉ name.toList := fun hc => hname _ hc rfl
  have hlist : (s.package ++ "/" ++ name).toList = s.package.toList ++ '/' :: name.toList := by simp
  have hframes : s.frames.foldl Frame.shorten (s.package ++ "/" ++ name).toList = (s.package ++ "/" ++ name).toList := by
    rw [Frame.foldl_shorten, Name.foldl_strip_eq_self_iff]
    intro qualifier _ hbegins
    -- A frame takes off what ends with `$`, and there is none.
    have hmem : '$' ∈ (s.package ++ "/" ++ name).toList := hbegins.subset (by simp)
    rw [hlist, List.mem_append, List.mem_cons] at hmem
    rcases hmem with hmem | hmem | hmem
    · exact hdollar hmem
    · exact absurd hmem (by decide)
    · exact hname _ hmem rfl
  have hshort : (Name.short (s.package ++ "/" ++ name)).toList = name.toList := by
    rw [Name.short, hlist, Text.afterLast?_append _ hslash, Option.getD_some, String.toList_ofList]
  have hrest : (s.package.toList ++ ['/']).isPrefixOf? (s.package ++ "/" ++ name).toList = some name.toList :=
    List.isPrefixOf?_eq_some_iff_append_eq.2 (by simp)
  have hdrop : s.dropPackage (s.package ++ "/" ++ name) (s.package ++ "/" ++ name).toList = name.toList := by
    rw [dropPackage, if_neg fun h => hpackage (String.isEmpty_iff.1 h), hrest]
    simp only [hshort, if_true]
  have himport : defaultImport? name.toList = none := by
    cases hfound : defaultImport? name.toList with
    | none => rfl
    | some rest =>
      obtain ⟨package, hmem, hbegins, -⟩ := classIn?_eq_some hfound
      exact absurd (hbegins ▸ List.mem_append_left _ (slash_mem_importedPackages package hmem)) hslash
  rw [shorten, hframes, hdrop, himport, Option.getD_none]

end Scope

/-! ## Source form -/

namespace Name

/-- A text that can start a name, with `_` in front where it could not. -/
def startable (text : List Char) : List Char :=
  if text.head?.any isIdentifierStart then text else '_' :: text

theorem suffix_startable (text : List Char) : text <:+ startable text := by
  unfold startable
  split
  · exact List.suffix_rfl
  · exact List.suffix_cons _ _

/-- A text in which each `$` has given way to another text, and then each `/` to a point. -/
def dotted (nesting : String) (name : List Char) : List Char :=
  Text.replaceEach '/' ['.'] (Text.replaceEach '$' nesting.toList name)

theorem dotted_of_simple {name : List Char} (nesting : String) (h : ∀ c ∈ name, ¬ isSeparator c) :
    dotted nesting name = name := by
  have hdollar : '$' ∉ name := fun hc => h _ hc rfl
  have hslash : '/' ∉ name := fun hc => h _ hc rfl
  rw [dotted, Text.replaceEach_of_not_mem hdollar, Text.replaceEach_of_not_mem hslash]

theorem suffix_dotted {name rest : List Char} (nesting : String) (h : rest <:+ name) :
    dotted nesting rest <:+ dotted nesting name := by
  obtain ⟨front, rfl⟩ := h
  rw [dotted, dotted, Text.replaceEach_append, Text.replaceEach_append]
  exact List.suffix_append _ _

end Name

theorem Scope.toList_resolve (s : Scope) {qualified : String} (h : qualified ≠ "") (nesting : String) :
    (s.resolve qualified nesting).toList = Name.startable (Name.dotted nesting (s.shorten qualified)) := by
  rw [resolve, if_neg fun he => h (String.isEmpty_iff.1 he), String.toList_ofList]
  rfl

/-- A class by its name as a frame. -/
def Frame.ofClass (className : String) : Frame :=
  ⟨{ name := className }, ⟨⟨1, 9, 0⟩, .classOf { className }⟩⟩

/-- The scope inside a class and a class nested in it. -/
def Scope.inNested (outer segment : String) : Scope :=
  (Scope.empty.enter (Frame.ofClass outer)).enter (Frame.ofClass (Name.nested outer segment))

/-- **Only whole qualifiers are taken off a name.** What a name is called in a scope is a rest of it in
source form, with `_` in front where it could not start so, and the front that is taken off is empty or
ends with a separator; so the simple name is always there in full. Nothing is taken off a name that is
foreign to the scope. -/
theorem resolving_takes_whole_qualifiers (s : Scope) {qualified : String} (h : qualified ≠ "") (nesting : String) :
    ∃ front kept, qualified.toList = front ++ kept ∧ Name.IsQualifier front ∧
      (s.resolve qualified nesting).toList = Name.startable (Name.dotted nesting kept) ∧
      Name.simple qualified.toList <:+ (s.resolve qualified nesting).toList ∧
      (s.IsForeign qualified.toList → front = []) := by
  obtain ⟨front, hfront, hname⟩ := s.shorten_sheds qualified
  refine ⟨front, s.shorten qualified, hname, hfront, s.toList_resolve h nesting, ?_, fun hforeign => ?_⟩
  · have hsimple : Name.dotted nesting (Name.simple qualified.toList) = Name.simple qualified.toList :=
      Name.dotted_of_simple nesting fun c hc => by simpa using List.mem_rtakeWhile_imp hc
    rw [s.toList_resolve h, ← hsimple]
    exact (Name.suffix_dotted nesting (s.shorten_sheds qualified).simple_suffix).trans (Name.suffix_startable _)
  · rw [Scope.shorten_of_isForeign hforeign] at hname
    exact List.self_eq_append_left.1 hname

/-- A nested class of another package keeps all its qualifiers. -/
theorem resolving_takes_whole_qualifiers_sample :
    (Scope.inNested "pkg/Outer" "Inner").IsForeign "other/Thing$Nested".toList ∧
    ((Scope.inNested "pkg/Outer" "Inner").resolve "other/Thing$Nested" ".").toList =
      Name.startable (Name.dotted "." "other/Thing$Nested".toList) := by
  have hforeign : (Scope.inNested "pkg/Outer" "Inner").IsForeign "other/Thing$Nested".toList :=
    .of_not_begins (by decide) (by decide) (by decide)
  have hne : "other/Thing$Nested" ≠ "" := by decide
  obtain ⟨front, kept, hname, -, hresolve, -, hfront⟩ :=
    resolving_takes_whole_qualifiers (Scope.inNested "pkg/Outer" "Inner") hne "."
  refine ⟨hforeign, ?_⟩
  rw [hname, hfront hforeign, List.nil_append]
  exact hresolve

/-! ## Names that are resolved -/

/-- A name that no scope has to resolve: it has no separators, and it starts as a name can. -/
structure Name.IsResolved (name : String) : Prop where
  slash : '/' ∉ name.toList
  dollar : '$' ∉ name.toList
  start : ∃ c ∈ name.toList.head?, Text.isAlphabetic c ∨ c = '_'

namespace Name.IsResolved

variable {name : String}

theorem ne_empty (h : IsResolved name) : name ≠ "" := by
  rintro rfl
  obtain ⟨c, hc, -⟩ := h.start
  cases hc

/-- Every qualifier that a scope could take off has a separator. -/
theorem isForeign (h : IsResolved name) (s : Scope) : s.IsForeign name.toList := by
  refine .of_not_begins (fun f _ qualifier _ hbegin => ?_) (fun hbegin => ?_) fun package hpackage hbegin => ?_
  · exact h.dollar (hbegin.subset (by simp))
  · exact h.slash (hbegin.subset (by simp))
  · exact h.slash (hbegin.subset (slash_mem_importedPackages package hpackage))

theorem resolve_eq (h : IsResolved name) (s : Scope) (nesting : String) : s.resolve name nesting = name := by
  have hdotted : dotted nesting name.toList = name.toList := by
    refine dotted_of_simple nesting fun c hc hsep => ?_
    rcases Bool.or_eq_true_iff.1 hsep with he | he
    · exact h.slash (of_decide_eq_true he ▸ hc)
    · exact h.dollar (of_decide_eq_true he ▸ hc)
  have hstart : name.toList.head?.any isIdentifierStart = true := by
    obtain ⟨c, hc, hletter⟩ := h.start
    rw [hc, Option.any_some, isIdentifierStart]
    rcases hletter with hletter | rfl
    · rw [hletter]
      rfl
    · simp
  rw [← String.toList_inj, s.toList_resolve h.ne_empty, Scope.shorten_of_isForeign (h.isForeign s), hdotted,
    startable, if_pos hstart]

end Name.IsResolved

theorem Name.isResolved_startable {text : List Char} (h : ∀ c ∈ text, ¬ isSeparator c) :
    IsResolved (String.ofList (startable text)) := by
  have hslash : '/' ∉ text := fun hc => h _ hc rfl
  have hdollar : '$' ∉ text := fun hc => h _ hc rfl
  unfold startable
  split
  · next hstart =>
    obtain ⟨c, hc, hletter⟩ := (Option.any_eq_true _ _).1 hstart
    rw [← String.toList_ofList (l := text)] at hslash hdollar hc
    refine ⟨hslash, hdollar, c, hc, ?_⟩
    have hne : c ≠ '$' := fun he => hdollar (he ▸ List.mem_of_mem_head? hc)
    simpa [isIdentifierStart, hne] using hletter
  · refine ⟨?_, ?_, '_', ?_, .inr rfl⟩
    · simpa using hslash
    · simpa using hdollar
    · simp

theorem Scope.resolve_isResolved (s : Scope) {qualified nesting : String} (h : qualified ≠ "")
    (hdollar : '$' ∉ nesting.toList) : Name.IsResolved (s.resolve qualified nesting) := by
  rw [← String.ofList_toList (s := s.resolve qualified nesting), s.toList_resolve h]
  refine Name.isResolved_startable fun c hc hsep => ?_
  -- The points come last, so no `/` of the text for `$` is left either.
  rcases Text.mem_of_mem_replaceEach hc with hpoint | ⟨hc, hslash⟩
  · cases List.mem_singleton.1 hpoint
    cases hsep
  · have he : c = '$' := by simpa [Name.isSeparator, hslash] using hsep
    rcases Text.mem_of_mem_replaceEach hc with hc | ⟨-, hne⟩
    · exact hdollar (he ▸ hc)
    · exact hne he

/-- **Resolving again changes nothing.** What a name is called in a scope has no separators and starts
as a name can, and such a name every scope leaves as it is, whatever is to stand for `$`. -/
theorem resolving_again_changes_nothing (s : Scope) {qualified nesting : String} (h : qualified ≠ "")
    (hdollar : '$' ∉ nesting.toList) :
    s.resolve qualified nesting ≠ "" ∧ Name.IsResolved (s.resolve qualified nesting) ∧
      ∀ (t : Scope) (nesting' : String),
        t.resolve (s.resolve qualified nesting) nesting' = s.resolve qualified nesting :=
  have hresolved := s.resolve_isResolved h hdollar
  ⟨hresolved.ne_empty, hresolved, hresolved.resolve_eq⟩

/-- A name that cannot start with its first character, resolved inside its class and then anywhere. -/
theorem resolving_again_changes_nothing_sample :
    '$' ∉ "_".toList ∧ (Scope.inNested "pkg/Outer" "Inner").resolve "pkg/Outer$Inner$1" "_" = "_1" ∧
      ∀ (t : Scope) (nesting : String), t.resolve "_1" nesting = "_1" := by
  have hdollar : '$' ∉ "_".toList := by decide
  have hname : (Scope.inNested "pkg/Outer" "Inner").resolve "pkg/Outer$Inner$1" "_" = "_1" := by decide +kernel
  have hne : "pkg/Outer$Inner$1" ≠ "" := by decide
  have hagain := (resolving_again_changes_nothing (Scope.inNested "pkg/Outer" "Inner") hne hdollar).2.2
  rw [hname] at hagain
  exact ⟨hdollar, hname, hagain⟩

/-! ## Nested classes -/

/-- The class name of a frame of a class. -/
def Frame.className? (f : Frame) : Option String :=
  match f.metadata.content with
  | .classOf info => some info.className
  | _ => none

theorem Frame.qualifier?_of_className? {f : Frame} {name : String} (h : f.className? = some name) :
    f.qualifier? = some name := by
  unfold className? at h
  unfold qualifier?
  split at h
  · next info hcontent =>
    cases h
    rw [hcontent]
  · cases h

/-- Frames of classes, each nested in the next one, by their class names, the innermost first. -/
structure Frame.Nest (frames : List Frame) (names : List String) : Prop where
  classes : frames.map Frame.className? = names.map some
  nested : names.IsChain fun inner outer => ∃ segment, inner = Name.nested outer segment

namespace Frame.Nest

variable {frames : List Frame} {names : List String}

theorem qualifiers (h : Nest frames names) : frames.filterMap Frame.qualifier? = names := by
  have hclasses := h.classes
  clear h
  induction frames generalizing names with
  | nil =>
    cases names with
    | nil => rfl
    | cons => cases hclasses
  | cons f frames ih =>
    cases names with
    | nil => cases hclasses
    | cons name names =>
      rw [List.map_cons, List.map_cons, List.cons.injEq] at hclasses
      rw [List.filterMap_cons, Frame.qualifier?_of_className? hclasses.1, ih hclasses.2]

/-- The outermost class decides whether the frames take anything off a name: every class name inside
begins with its name. -/
theorem foldl_strip_eq_self_iff (h : names.IsChain fun inner outer => ∃ segment, inner = Name.nested outer segment)
    {name : List Char} :
    names.foldl Name.strip name = name ↔ ∀ o ∈ names.getLast?, ¬ o.toList ++ ['$'] <+: name := by
  rw [Name.foldl_strip_eq_self_iff]
  refine ⟨fun hall o ho => hall o (List.mem_of_mem_getLast? ho), fun hlast => ?_⟩
  refine h.backwards_induction _ _ ?_ fun hne => hlast _ (List.getLast?_eq_some_getLast hne)
  rintro inner outer ⟨segment, rfl⟩ houter hbegin
  have hbegins : outer.toList ++ ['$'] <+: (Name.nested outer segment).toList ++ ['$'] := by
    simp [Name.nested]
  exact houter (hbegins.trans hbegin)

end Frame.Nest

theorem Scope.shorten_nested {s : Scope} {innermost rest : String} {outer : List String}
    (h : Frame.Nest s.frames (innermost :: outer)) (hslash : '/' ∉ rest.toList) :
    s.shorten (Name.nested innermost rest) = outer.foldl Name.strip rest.toList := by
  have hname : (Name.nested innermost rest).toList = innermost.toList ++ '$' :: rest.toList := by
    simp [Name.nested]
  -- What is left has no `/`, so no package can be in front of it.
  have hkept : '/' ∉ outer.foldl Name.strip rest.toList :=
    fun hc => hslash ((Name.foldl_strip_sheds outer rest.toList).suffix.subset hc)
  refine shorten_eq ?_ (fun _ short _ he => hkept (he ▸ by simp)) fun package hmem short _ he => hkept ?_
  · rw [Frame.foldl_shorten, h.qualifiers, hname, List.foldl_cons, Name.strip_append]
  · exact he ▸ List.mem_append_left _ (slash_mem_importedPackages package hmem)

/-- **A nested class is named relative to the innermost class around it, and to those further out.** In
the scope of nested classes, a name inside the innermost one becomes what the others leave of its rest,
in source form. They leave all of it exactly if it does not begin with the name of the outermost class
and `$`. So it becomes the whole rest, with a text for each `$`, in every package, in every class that is
not nested, and in the default package unless the name of the outermost class comes again. -/
theorem nested_name_from_innermost_class {s : Scope} {innermost rest : String} {outer : List String}
    (h : Frame.Nest s.frames (innermost :: outer)) (hslash : '/' ∉ rest.toList) :
    (∀ nesting, (s.resolve (Name.nested innermost rest) nesting).toList =
      Name.startable (Name.dotted nesting (outer.foldl Name.strip rest.toList))) ∧
    (outer.foldl Name.strip rest.toList = rest.toList ↔
      ∀ o ∈ outer.getLast?, ¬ o.toList ++ ['$'] <+: rest.toList) ∧
    ((∀ o ∈ outer.getLast?, '/' ∈ o.toList ∨ ¬ o.toList ++ ['$'] <+: rest.toList) →
      ∀ nesting, '/' ∉ nesting.toList → (s.resolve (Name.nested innermost rest) nesting).toList =
        Name.startable (Text.replaceEach '$' nesting.toList rest.toList)) := by
  have hne : Name.nested innermost rest ≠ "" := by simp [Name.nested]
  have hresolve : ∀ nesting, (s.resolve (Name.nested innermost rest) nesting).toList =
      Name.startable (Name.dotted nesting (outer.foldl Name.strip rest.toList)) := fun nesting => by
    rw [s.toList_resolve hne, Scope.shorten_nested h hslash]
  have houter : outer.foldl Name.strip rest.toList = rest.toList ↔
      ∀ o ∈ outer.getLast?, ¬ o.toList ++ ['$'] <+: rest.toList :=
    Frame.Nest.foldl_strip_eq_self_iff h.nested.tail
  refine ⟨hresolve, houter, fun hlast nesting hnesting => ?_⟩
  have hkept : outer.foldl Name.strip rest.toList = rest.toList := by
    refine houter.2 fun o ho hbegin => ?_
    rcases hlast o ho with hpackage | hother
    · exact hslash (hbegin.subset (List.mem_append_left _ hpackage))
    · exact hother hbegin
  have hdotted : '/' ∉ Text.replaceEach '$' nesting.toList rest.toList := fun hc => by
    rcases Text.mem_of_mem_replaceEach hc with hc | ⟨hc, -⟩
    · exact hnesting hc
    · exact hslash hc
  rw [hresolve, hkept, Name.dotted, Text.replaceEach_of_not_mem hdotted]

theorem Scope.inNested_nest (outer segment : String) :
    Frame.Nest (Scope.inNested outer segment).frames [Name.nested outer segment, outer] :=
  ⟨rfl, .cons_cons ⟨segment, rfl⟩ (.singleton outer)⟩

/-- In a package the name of the outermost class may come again. -/
theorem nested_name_from_innermost_class_sample :
    Frame.Nest (Scope.inNested "pkg/A" "B").frames ["pkg/A$B", "pkg/A"] ∧ '/' ∉ "A$C".toList ∧
    ((Scope.inNested "pkg/A" "B").resolve "pkg/A$B$A$C" ".").toList = "A.C".toList := by
  have hnest : Frame.Nest (Scope.inNested "pkg/A" "B").frames ["pkg/A$B", "pkg/A"] := Scope.inNested_nest "pkg/A" "B"
  have hslash : '/' ∉ "A$C".toList := by decide
  have hname := (nested_name_from_innermost_class hnest hslash).2.2 (by decide) "." (by decide)
  refine ⟨hnest, hslash, hname.trans ?_⟩
  decide +kernel

/-- In the default package it may not: the outermost class takes its own name off a second time, and the
class is called `C` where the rest of its name is `A$C`. -/
theorem nested_name_cut_by_outer_class :
    Frame.Nest (Scope.inNested "A" "B").frames ["A$B", "A"] ∧ '/' ∉ "A$C".toList ∧
    (Scope.inNested "A" "B").resolve (Name.nested "A$B" "A$C") "." = "C" ∧
    Name.startable (Text.replaceEach '$' ".".toList "A$C".toList) = "A.C".toList := by
  refine ⟨Scope.inNested_nest "A" "B", ?_, ?_, ?_⟩
  · decide
  · decide +kernel
  · decide +kernel

end KotlinMetadata
