/-
The text of an annotation in a class file. Its law (`JvmAnnot.text`): a comma
stands between each element and the next, and between the members of an
array; a nested annotation is written like an outer one, without the sign.

As in the metadata, the renderer finds out from the last character written
whether a comma is due, here after `(` and `{`. What an element ends with goes
back to a name: the constant of an enum, a class constant, or the class that a
descriptor names, whose last character a scope does not change
(`Scope.isClosed_called`). Where none of them ends with such a bracket
(`JvmAnnot.isClosed`) every comma is there.
-/
import KotlinMetadata.Proofs.AnnotationText
import KotlinMetadata.Proofs.Resolution

namespace KotlinMetadata

/-! ## The text of an annotation -/

/-- What stands before the value of an element: its name, unless that is left out. -/
def Element.label : Option String → String
  | none => ""
  | some name => if name = "value" then "" else name ++ " = "

section

variable (called : String → String)

mutual
/-- The text of an annotation: what its class is called, and its elements in brackets if it has any. -/
def JvmAnnot.text : JvmAnnot → String
  | ⟨typeDescriptor, elements⟩ =>
    called (Descriptor.className typeDescriptor) ++
      if elements.isEmpty then "" else "(" ++ Text.joinWith ", " (Element.texts elements) ++ ")"
/-- The texts of elements. -/
def Element.texts : List Element → List String
  | [] => []
  | ⟨name, value⟩ :: rest => (Element.label name ++ value.text) :: Element.texts rest
/-- The text of a value. -/
def ElementValue.text : ElementValue → String
  | .constant v => v.source
  | .enumConstant typeDescriptor constantName =>
    called (Descriptor.className typeDescriptor) ++ "." ++ constantName
  | .classLiteral descriptor =>
    called (if Descriptor.isPrimitive descriptor then primitiveLiteral descriptor
      else Descriptor.className descriptor)
  | .annot a => a.text
  | .array values => "\x7b" ++ Text.joinWith ", " (Element.texts values) ++ "\x7d"
end

end

/-! ## Names that end with a bracket -/

/-- The brackets after which no comma is written before an element. -/
def elementBrackets : List Char := ['(', '{']

/-- Whether a descriptor does not end with an opening bracket, a `;` at its end aside. -/
def Descriptor.isClosed (d : String) : Bool :=
  !Text.endsIn elementBrackets (String.ofList ((Text.dropEnding? [';'] d.toList).getD d.toList))

/-- Whether a constant is no class, or one whose text is not empty and does not end with an opening
bracket. -/
def Constant.isClosed : Constant → Bool
  | .classRef name => !name.isEmpty && !Text.endsIn elementBrackets name
  | _ => true

mutual
/-- Whether no name in an annotation, at any depth, ends with an opening bracket. -/
def JvmAnnot.isClosed : JvmAnnot → Bool
  | ⟨typeDescriptor, elements⟩ => Descriptor.isClosed typeDescriptor && Element.areClosed elements
def Element.areClosed : List Element → Bool
  | [] => true
  | ⟨_, value⟩ :: rest => value.isClosed && Element.areClosed rest
def ElementValue.isClosed : ElementValue → Bool
  | .constant v => v.isClosed
  | .enumConstant typeDescriptor constantName =>
    Descriptor.isClosed typeDescriptor && !Text.endsIn elementBrackets constantName
  | .classLiteral descriptor => Descriptor.isClosed descriptor
  | .annot a => a.isClosed
  | .array values => Element.areClosed values
end

/-! ## Texts after which a comma is written -/

/-- A text with a last character, which is no opening bracket. -/
structure Text.IsClosed (text : String) : Prop where
  ne_empty : text ≠ ""
  ends : endsIn elementBrackets text = false

namespace Text

variable {s t : String}

theorem IsClosed.append (h : IsClosed t) (s : String) : IsClosed (s ++ t) := by
  refine ⟨fun he => h.ne_empty ?_, ?_⟩
  · simpa using (String.append_eq_empty_iff.1 he).2
  · rw [endsIn_append h.ne_empty, h.ends]

theorem IsClosed.append_of_ends (h : IsClosed s) (ht : endsIn elementBrackets t = false) : IsClosed (s ++ t) := by
  refine ⟨fun he => h.ne_empty ?_, ?_⟩
  · simpa using (String.append_eq_empty_iff.1 he).1
  · rw [endsIn_append_of_not h.ends, ht]

theorem isClosed_of_numerals (hne : t ≠ "") (h : ∀ c ∈ t.toList, Number.isNumeral c) : IsClosed t :=
  ⟨hne, endsIn_of_numerals (by decide) h⟩

end Text

theorem Number.toString_int_ne_empty (n : Int) : toString n ≠ "" := by
  rw [Int.toString_eq_repr, Int.repr_eq_if]
  split
  · intro he
    have hdigits := congrArg String.toList he
    simp [Nat.toList_repr] at hdigits
  · simp

theorem Number.positional_ne_nil (digits : List Char) (place : Int) : positional digits place ≠ [] := by
  unfold positional
  split
  · simp
  · simp

theorem Number.scientific_ne_nil (digits : List Char) (exponent : Int) : scientific digits exponent ≠ [] := by
  simp [scientific]

theorem Number.text_ne_empty {F : Format} (l : Layout) (x : Binary F) : x.text l ≠ "" := by
  have hdecimal : (x.shortest l.tie).text l ≠ [] := by
    unfold Decimal.text
    extract_lets digits place
    split
    · exact positional_ne_nil _ _
    · exact scientific_ne_nil _ _
  have hmagnitude : (if x.isZero then ['0', '.', '0']
      else if x.isFinite then (x.shortest l.tie).text l else ['i', 'n', 'f']) ≠ [] := by
    split
    · simp
    · split
      · exact hdecimal
      · simp
  unfold Binary.text
  extract_lets magnitude
  intro he
  have hlist : (if x.negative then '-' :: magnitude else magnitude) = [] := by
    simpa using congrArg String.toList he
  split at hlist
  · cases hlist
  · exact hmagnitude hlist

theorem Constant.isClosed_source {v : Constant} (h : v.isClosed) : Text.IsClosed v.source := by
  cases v with
  | integer v | long v =>
    exact Text.isClosed_of_numerals (Number.toString_int_ne_empty _) fun _ => Number.isNumeral_of_mem_int
  | float v | double v =>
    exact Text.isClosed_of_numerals (Number.text_ne_empty _ _) fun _ => Number.isNumeral_of_mem_binary _ _
  | string v => exact Text.IsClosed.append ⟨by decide, by decide⟩ _
  | classRef name =>
    simp only [Constant.isClosed, Bool.and_eq_true, Bool.not_eq_true', String.isEmpty_eq_false_iff] at h
    exact ⟨h.1, h.2⟩

/-! ## Names in a scope -/

theorem Name.startable_ne_nil (text : List Char) : startable text ≠ [] := by
  unfold startable
  cases text with
  | nil => simp
  | cons c text => split <;> simp

/-- The last character of a name in source form is that of the name, or a point or `_` that stands for
something else. -/
theorem Name.getLast?_startable_dotted (name : List Char) {c : Char}
    (h : (startable (dotted "." name)).getLast? = some c) : name.getLast? = some c ∨ c = '.' ∨ c = '_' := by
  rcases name.eq_nil_or_concat' with rfl | ⟨front, last, rfl⟩
  · right; right
    simpa [dotted, Text.replaceEach, startable] using h.symm
  · have hdotted : dotted "." (front ++ [last]) =
        dotted "." front ++ [if isSeparator last then '.' else last] := by
      simp only [dotted, Text.replaceEach_append, List.append_cancel_left_eq]
      by_cases hdollar : last = '$'
      · subst hdollar; decide
      · by_cases hslash : last = '/'
        · subst hslash; decide
        · simp [Text.replaceEach, isSeparator, hdollar, hslash]
    obtain ⟨more, hmore⟩ := suffix_startable (dotted "." (front ++ [last]))
    rw [← hmore, hdotted, ← List.append_assoc, List.getLast?_concat, Option.some.injEq] at h
    rw [List.getLast?_concat, Option.some.injEq]
    split at h
    · exact .inr (.inl h.symm)
    · exact .inl h

/-- What a name is called ends with an opening bracket only if the name does. -/
theorem Scope.isClosed_called (s : Scope) {qualified : String}
    (h : Text.endsIn elementBrackets qualified = false) : Text.IsClosed (s.called qualified) := by
  unfold called
  by_cases hempty : qualified = ""
  · have hinvalid : Text.IsClosed invalidClassName := ⟨by decide, by decide⟩
    rw [hempty]
    exact hinvalid
  · have htext := s.toList_resolve hempty "."
    refine ⟨fun he => ?_, ?_⟩
    · rw [he] at htext
      exact Name.startable_ne_nil _ htext.symm
    · rw [Text.endsIn, htext]
      cases hlast : (Name.startable (Name.dotted "." (s.shorten qualified))).getLast? with
      | none => rfl
      | some c =>
        rcases Name.getLast?_startable_dotted _ hlast with hname | rfl | rfl
        · -- What is left of the name ends like the whole.
          obtain ⟨front, hfront⟩ := (s.shorten_sheds qualified).suffix
          rw [Text.endsIn, ← hfront, List.getLast?_append, hname, Option.some_or] at h
          exact h
        · decide
        · decide

theorem Descriptor.endsIn_className {d : String} (h : Descriptor.isClosed d) :
    Text.endsIn elementBrackets (Descriptor.className d) = false := by
  unfold Descriptor.isClosed at h
  unfold Descriptor.className
  cases hbody : Text.dropEnding? [';'] d.toList with
  | none => simpa [hbody] using h
  | some body =>
    have hd : d.toList = body ++ [';'] := by
      obtain ⟨rest, hrest, rfl⟩ := Option.map_eq_some_iff.1 hbody
      have := congrArg List.reverse (List.append_eq_of_isPrefixOf?_eq_some hrest)
      simpa using this.symm
    simp only [hbody, Option.getD_some] at h ⊢
    cases hname : body.dropWhile (· ≠ 'L') with
    | nil =>
      simp only [Text.endsIn, hd, List.getLast?_concat]
      decide
    | cons c name =>
      have hsuffix : c :: name <:+ body := by
        rw [← hname]
        exact List.dropWhile_suffix _
      obtain ⟨front, rfl⟩ := hsuffix
      cases name with
      | nil => rfl
      | cons c' name =>
        rw [Bool.not_eq_true', Text.endsIn, String.toList_ofList, List.getLast?_append_of_ne_nil _ (by simp),
          List.getLast?_cons_cons] at h
        rwa [Text.endsIn, String.toList_ofList]

theorem isClosed_primitiveLiteral (letter : String) : Text.endsIn elementBrackets (primitiveLiteral letter) = false := by
  unfold primitiveLiteral
  split <;> decide

section

variable (s : Scope)

theorem JvmAnnot.isClosed_text {a : JvmAnnot} (h : a.isClosed) : Text.IsClosed (a.text s.called) := by
  obtain ⟨typeDescriptor, elements⟩ := a
  simp only [JvmAnnot.isClosed, Bool.and_eq_true] at h
  have hname := s.isClosed_called (Descriptor.endsIn_className h.1)
  rw [JvmAnnot.text]
  split
  · rwa [String.append_empty]
  · exact hname.append_of_ends (by rw [Text.endsIn_append (by decide)]; decide)

theorem ElementValue.isClosed_text {value : ElementValue} (h : value.isClosed) :
    Text.IsClosed (value.text s.called) := by
  cases value with
  | constant v =>
    rw [ElementValue.text]
    exact Constant.isClosed_source h
  | enumConstant typeDescriptor constantName =>
    simp only [ElementValue.isClosed, Bool.and_eq_true, Bool.not_eq_true'] at h
    rw [ElementValue.text]
    have hpoint : Text.IsClosed (s.called (Descriptor.className typeDescriptor) ++ ".") :=
      Text.IsClosed.append ⟨by decide, by decide⟩ _
    exact hpoint.append_of_ends h.2
  | classLiteral descriptor =>
    rw [ElementValue.text]
    refine s.isClosed_called ?_
    split
    · exact isClosed_primitiveLiteral _
    · exact Descriptor.endsIn_className h
  | annot a =>
    rw [ElementValue.text]
    exact JvmAnnot.isClosed_text s h
  | array values =>
    rw [ElementValue.text]
    exact Text.IsClosed.append ⟨by decide, by decide⟩ _

end

/-! ## What the renderer writes -/

theorem Element.isEmpty_texts (called : String → String) (elements : List Element) :
    (texts called elements).isEmpty = elements.isEmpty := by
  cases elements with
  | nil => rfl
  | cons element rest =>
    obtain ⟨name, value⟩ := element
    rw [texts]
    rfl

namespace Render.Adds

theorem elementName (name : Option String) {s : Session} (hs : s.out.stack ≠ []) :
    Adds s (Element.label name) (elementName name) := by
  cases name with
  | none => exact pure hs
  | some name =>
    unfold Render.elementName Element.label
    simp only
    split
    · exact pure hs
    · refine seq (write hs name) fun _ hout _ => ?_
      exact write hout " = "

mutual
theorem jvmAnnotBody : ∀ (a : JvmAnnot) {s : Session}, a.isClosed → s.out.stack ≠ [] →
    Adds s (a.text s.scope.called) (jvmAnnotBody a)
  | ⟨typeDescriptor, elements⟩, s, h, hs => by
    simp only [JvmAnnot.isClosed, Bool.and_eq_true] at h
    rw [Render.jvmAnnotBody, JvmAnnot.text]
    refine resolve (seq (write hs _) fun out hout _ => ?_)
    split
    · exact pure hout
    · rw [String.append_assoc]
      refine seq (write hout "(") fun out' hout' hopen => ?_
      refine seq ?_ fun out'' hout'' _ => write hout'' ")"
      exact opened hopen (by decide) (jvmElements elements (s := { s with out := out' }) h.2 hout')
theorem jvmElements : ∀ (elements : List Element) {s : Session}, Element.areClosed elements → s.out.stack ≠ [] →
    Adds s ((if elements.isEmpty || s.out.previousChar?.any elementBrackets.contains then "" else ", ") ++
      Text.joinWith ", " (Element.texts s.scope.called elements)) (jvmElements elements)
  | [], s, _, hs => by
    rw [Render.jvmElements, Element.texts, List.isEmpty_nil, Bool.true_or, if_pos rfl]
    exact pure hs
  | ⟨name, value⟩ :: rest, s, h, hs => by
    simp only [Element.areClosed, Bool.and_eq_true] at h
    rw [Render.jvmElements, Element.texts, Text.joinWith_cons, Element.isEmpty_texts, List.isEmpty_cons, Bool.false_or]
    simp only [String.append_assoc]
    refine seq (separate hs elementBrackets) fun out₁ h₁ _ => ?_
    refine seq (elementName name h₁) fun out₂ h₂ hname => ?_
    refine seq (elementValue value h.1 h₂) fun out₃ h₃ hvalue => ?_
    -- The element does not end with a bracket, so the next one comes after a comma.
    have hclosed := (ElementValue.isClosed_text s.scope h.1).append (Element.label name)
    have hrest := jvmElements rest (s := { s with out := out₃ }) h.2 h₃
    rw [Buffers.endsIn_of_write (Buffers.write_write hname hvalue) hclosed.ne_empty, hclosed.ends, Bool.or_false] at hrest
    exact hrest
theorem elementValue : ∀ (value : ElementValue) {s : Session}, value.isClosed → s.out.stack ≠ [] →
    Adds s (value.text s.scope.called) (elementValue value)
  | .constant v, s, _, hs => by
    rw [Render.elementValue, ElementValue.text]
    exact write hs _
  | .enumConstant typeDescriptor constantName, s, _, hs => by
    rw [Render.elementValue, ElementValue.text]
    exact resolve (write hs _)
  | .classLiteral descriptor, s, _, hs => by
    rw [Render.elementValue, ElementValue.text]
    exact resolve (write hs _)
  | .annot a, s, h, hs => by
    rw [Render.elementValue, ElementValue.text]
    exact jvmAnnotBody a h hs
  | .array values, s, h, hs => by
    rw [Render.elementValue, ElementValue.text, String.append_assoc]
    refine seq (write hs "\x7b") fun out hout hopen => ?_
    refine seq ?_ fun out' hout' _ => write hout' "\x7d"
    exact opened hopen (by decide) (jvmElements values (s := { s with out }) h hout)
end

end Render.Adds

/-- What stands after an annotation of a class file: the line is ended where it has one of its own. -/
def Placement.lineEnd : Placement → String
  | .inline => ""
  | .block => "\n"

theorem Render.Adds.jvmAnnot (placement : Placement) {a : JvmAnnot} (h : a.isClosed) {s : Session}
    (hs : s.out.stack ≠ []) :
    Adds s (placement.opening s.out.depth ++ a.text s.scope.called ++ placement.lineEnd) (jvmAnnot placement a) := by
  rw [String.append_assoc]
  refine seq (annotSign placement hs) fun out hout _ => ?_
  refine seq (jvmAnnotBody a (s := { s with out }) h hout) fun out' hout' _ => ?_
  cases placement with
  | inline => exact pure hout'
  | block => exact write hout' "\n"

/-- **Annotations of a class file are listed with every comma.** Where no name in them ends with an opening
bracket, the annotations come down to one text: of those that are to be printed, in their order, each
with its sign, on an indented line of its own in block placement and without anything after it in inline
placement; with a comma between its elements, and between the members of each array inside, and no sign
on the annotations inside. -/
theorem class_file_annotations_listed (placement : Placement) {annots : List JvmAnnot}
    (h : ∀ a ∈ annots, a.isClosed) {s : Session} (hs : s.out.stack ≠ []) :
    Render.Adds s
      (String.join ((annots.filter JvmAnnot.isPrintable).map fun a =>
        placement.opening s.out.depth ++ a.text s.scope.called ++ placement.lineEnd))
      (Render.jvmAnnots placement annots) := by
  refine Render.Adds.each hs fun a ha out hout hdepth => ?_
  rw [← hdepth]
  exact Render.Adds.jvmAnnot placement (h a (List.mem_filter.1 ha).1) (s := { s with out }) hout

/-- An annotation with an enum constant, an array of class literals and two annotations inside. -/
def sampleListing : List JvmAnnot :=
  [⟨"Lkotlin/Metadata;", [⟨some "k", .constant (.integer 1)⟩]⟩,
   ⟨"Lpkg/Listing;",
    [⟨some "value", .enumConstant "Lpkg/Mode;" "FAST"⟩,
     ⟨some "types", .array [⟨none, .classLiteral "I"⟩, ⟨none, .classLiteral "Ljava/lang/String;"⟩]⟩,
     ⟨some "marks", .array [⟨none, .annot ⟨"Lpkg/Mark;", []⟩⟩, ⟨none, .annot ⟨"Lpkg/Mark;",
       [⟨none, .array []⟩, ⟨some "level", .constant (.integer (-3))⟩]⟩⟩]⟩]⟩]

/-- A state one level deep in a file. -/
def Session.inSampleBody : Session := { Session.inSampleFile [] with out := ⟨["head\n"], 1⟩ }

/-- The annotation on an indented line of its own. -/
theorem class_file_annotations_listed_sample : (∀ a ∈ sampleListing, a.isClosed) ∧
    (Render.jvmAnnots .block sampleListing Session.inSampleBody).map (·.2.out.stack) =
      .ok ["head\n    @Listing(Mode.FAST, types = \x7bInt::class, String\x7d, " ++
        "marks = \x7bMark, Mark(\x7b\x7d, level = -3)\x7d)\n"] := by
  have hclosed : ∀ a ∈ sampleListing, a.isClosed := by decide
  obtain ⟨out, hout, hrun⟩ := class_file_annotations_listed .block hclosed (s := Session.inSampleBody)
    (List.cons_ne_nil _ _)
  refine ⟨hclosed, ?_⟩
  rw [hrun, ← Except.ok.inj hout]
  decide +kernel

end KotlinMetadata
