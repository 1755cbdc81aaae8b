/-
The descriptors that are read are those of the grammar. A type is written in
one way, `FieldType.descriptor`, and a text is read as a type exactly if it
is written so and no class name in it has a `;`; methods likewise. The
readers stop where a type ends, whatever follows (`readType_append`,
`readParameters_append`), so no text is read in two ways.

The class name of a descriptor is found by a reader of its own, which looks
for the first `L` and a `;` at the end. Of a class it finds the name, and it
leaves primitives and their arrays as they are; but of an array of classes
it finds the class, too (`className_of_object`).
-/
import KotlinMetadata.Descriptor
import Mathlib.Data.List.Basic

namespace KotlinMetadata.Descriptor

/-! ## The grammar -/

/-- A class name that a descriptor can have: nothing in it ends it. -/
def Element.IsProper : Element → Prop
  | .primitive _ => True
  | .object name => ';' ∉ name

/-- The same of a type. -/
def FieldType.IsProper (t : FieldType) : Prop := t.element.IsProper

/-- The same of the types of a method. -/
def MethodType.IsProper (m : MethodType) : Prop := (∀ t ∈ m.parameters, t.IsProper) ∧ m.result.IsProper

instance (e : Element) : Decidable e.IsProper :=
  match e with
  | .primitive _ => inferInstanceAs (Decidable True)
  | .object name => inferInstanceAs (Decidable (';' ∉ name))

instance (t : FieldType) : Decidable t.IsProper := inferInstanceAs (Decidable t.element.IsProper)

instance (m : MethodType) : Decidable m.IsProper :=
  inferInstanceAs (Decidable ((∀ t ∈ m.parameters, t.IsProper) ∧ m.result.IsProper))

/-- The text is the type: `[` for each dimension, then the letter of a primitive or a class name
between `L` and `;`. -/
def FieldType.Spells (t : FieldType) (s : List Char) : Prop := t.IsProper ∧ s = t.descriptor

/-- The text is the method: types between `(` and `)`, and then one more. -/
def MethodType.Spells (m : MethodType) (s : List Char) : Prop := m.IsProper ∧ s = m.descriptor

/-! ## Elements -/

theorem Primitive.ofLetter?_letter (p : Primitive) : ofLetter? p.letter = some p := by
  cases p <;> decide

theorem Primitive.ofLetter?_eq_some {c : Char} {p : Primitive} : ofLetter? c = some p ↔ p.letter = c := by
  constructor
  · intro h
    simpa using List.find?_some h
  · rintro rfl
    exact p.ofLetter?_letter

theorem Primitive.ofLetter?_eq_none {c : Char} : ofLetter? c = none ↔ ∀ p : Primitive, p.letter ≠ c := by
  rw [Option.eq_none_iff_forall_ne_some]
  exact forall_congr' fun p => not_congr ofLetter?_eq_some

theorem readClassName_append {name : List Char} (h : ';' ∉ name) (left : List Char) :
    readClassName (name ++ ';' :: left) = .ok (name, left) := by
  induction name with
  | nil => simp [readClassName]
  | cons c name ih =>
    obtain ⟨hc, hname⟩ := List.ne_and_not_mem_of_not_mem_cons h
    simp [readClassName, Ne.symm hc, ih hname]

theorem of_readClassName {s name left : List Char} (h : readClassName s = .ok (name, left)) :
    ';' ∉ name ∧ s = name ++ ';' :: left := by
  induction s generalizing name with
  | nil => cases h
  | cons c s ih =>
    rw [readClassName] at h
    split at h
    · next hc =>
      cases h
      exact ⟨List.not_mem_nil, by rw [hc, List.nil_append]⟩
    · next hc =>
      split at h
      · next name' left' hread =>
        cases h
        obtain ⟨hname, rfl⟩ := ih hread
        exact ⟨List.not_mem_cons_of_ne_of_not_mem (Ne.symm hc) hname, rfl⟩
      · cases h

theorem of_readClassName_error {s : List Char} {stop : Stop} (h : readClassName s = .error stop) :
    stop = .ended ∧ ';' ∉ s := by
  induction s with
  | nil =>
    cases h
    exact ⟨rfl, List.not_mem_nil⟩
  | cons c s ih =>
    rw [readClassName] at h
    split at h
    · cases h
    · next hc =>
      split at h
      · cases h
      · next hread =>
        cases h
        obtain ⟨hstop, hs⟩ := ih hread
        exact ⟨hstop, List.not_mem_cons_of_ne_of_not_mem (Ne.symm hc) hs⟩

/-- No type begins with these: they go on before it or end the list it stands in. -/
theorem Element.descriptor_eq_cons (e : Element) :
    ∃ c s, e.descriptor = c :: s ∧ c ≠ '[' ∧ c ≠ ')' := by
  cases e with
  | primitive p => cases p <;> exact ⟨_, [], rfl, by decide, by decide⟩
  | object name => exact ⟨'L', name ++ [';'], rfl, by decide, by decide⟩

theorem readElement_append {e : Element} (h : e.IsProper) (left : List Char) :
    readElement (e.descriptor ++ left) = .ok (e, left) := by
  cases e with
  | primitive p => simp [Element.descriptor, readElement, Primitive.ofLetter?_letter]
  | object name =>
    have hletter : Primitive.ofLetter? 'L' = none := by decide
    have hname : readClassName (name ++ ';' :: left) = .ok (name, left) := readClassName_append h left
    simp [Element.descriptor, readElement, hletter, hname]

theorem of_readElement {s left : List Char} {e : Element} (h : readElement s = .ok (e, left)) :
    e.IsProper ∧ s = e.descriptor ++ left := by
  cases s with
  | nil => cases h
  | cons c s =>
    rw [readElement] at h
    split at h
    · next p hp =>
      cases h
      exact ⟨trivial, by rw [Element.descriptor, Primitive.ofLetter?_eq_some.1 hp]; rfl⟩
    · split at h
      · next hc =>
        split at h
        · next name left' hread =>
          cases h
          obtain ⟨hname, rfl⟩ := of_readClassName hread
          exact ⟨hname, by simp [Element.descriptor, hc]⟩
        · cases h
      · cases h

/-! ## Types -/

theorem FieldType.descriptor_zero (e : Element) : (⟨0, e⟩ : FieldType).descriptor = e.descriptor := rfl

theorem FieldType.descriptor_succ (n : Nat) (e : Element) :
    (⟨n + 1, e⟩ : FieldType).descriptor = '[' :: (⟨n, e⟩ : FieldType).descriptor := rfl

/-- A type begins neither the list it stands in nor its end. -/
theorem FieldType.descriptor_eq_cons (t : FieldType) : ∃ c s, t.descriptor = c :: s ∧ c ≠ ')' := by
  obtain ⟨n, e⟩ := t
  cases n with
  | zero =>
    obtain ⟨c, s, hs, -, hc⟩ := e.descriptor_eq_cons
    exact ⟨c, s, hs, hc⟩
  | succ n => exact ⟨'[', _, rfl, by decide⟩

theorem readType_append {t : FieldType} (h : t.IsProper) (left : List Char) :
    readType (t.descriptor ++ left) = .ok (t, left) := by
  obtain ⟨n, e⟩ := t
  induction n with
  | zero =>
    obtain ⟨c, s, hs, hc, -⟩ := e.descriptor_eq_cons
    have helement := readElement_append (e := e) h left
    rw [hs, List.cons_append] at helement
    rw [FieldType.descriptor_zero, hs, List.cons_append, readType, if_neg hc, helement]
  | succ n ih =>
    rw [FieldType.descriptor_succ, List.cons_append, readType, if_pos rfl, ih h]

theorem of_readType {s left : List Char} {t : FieldType} (h : readType s = .ok (t, left)) :
    t.IsProper ∧ s = t.descriptor ++ left := by
  induction s generalizing t with
  | nil => cases h
  | cons c s ih =>
    rw [readType] at h
    split at h
    · next hc =>
      split at h
      · next u left' hread =>
        cases h
        obtain ⟨hproper, rfl⟩ := ih hread
        exact ⟨hproper, by rw [hc]; rfl⟩
      · cases h
    · split at h
      · next e left' hread =>
        cases h
        exact of_readElement hread
      · cases h

/-- A type is read off a text exactly if the text begins with it. -/
theorem readType_eq_ok {s left : List Char} {t : FieldType} :
    readType s = .ok (t, left) ↔ t.IsProper ∧ s = t.descriptor ++ left := by
  constructor
  · exact of_readType
  · rintro ⟨hproper, rfl⟩
    exact readType_append hproper left

/-! ## Parameters -/

/-- Types are read off the front of a list, whatever follows them. -/
theorem readParameters_types_append {ts : List FieldType} (h : ∀ t ∈ ts, t.IsProper) (rest : List Char) :
    readParameters (ts.flatMap FieldType.descriptor ++ rest) =
      match readParameters rest with
      | .ok (us, left) => .ok (ts ++ us, left)
      | .error stop => .error stop := by
  induction ts with
  | nil =>
    rw [List.flatMap_nil, List.nil_append]
    cases readParameters rest with
    | ok r => rfl
    | error stop => rfl
  | cons t ts ih =>
    obtain ⟨ht, hts⟩ := List.forall_mem_cons.1 h
    have hread := readType_append ht (ts.flatMap FieldType.descriptor ++ rest)
    obtain ⟨c, s, hs, hc⟩ := t.descriptor_eq_cons
    rw [hs, List.cons_append] at hread
    rw [List.flatMap_cons, List.append_assoc, hs, List.cons_append, readParameters, if_neg hc]
    split
    · next hstop => cases hread.symm.trans hstop
    · next heq =>
      cases hread.symm.trans heq
      rw [ih hts]
      cases readParameters rest with
      | ok r => rfl
      | error stop => rfl

theorem readParameters_append {ts : List FieldType} (h : ∀ t ∈ ts, t.IsProper) (left : List Char) :
    readParameters (ts.flatMap FieldType.descriptor ++ ')' :: left) = .ok (ts, left) := by
  rw [readParameters_types_append h, readParameters, if_pos rfl]
  simp only [List.append_nil]

theorem of_readParameters {s left : List Char} {ts : List FieldType} (h : readParameters s = .ok (ts, left)) :
    (∀ t ∈ ts, t.IsProper) ∧ s = ts.flatMap FieldType.descriptor ++ ')' :: left := by
  fun_induction readParameters s generalizing ts with
  | case1 => cases h
  | case2 rest =>
    cases h
    exact ⟨by simp, rfl⟩
  | case3 => cases h
  | case4 c rest hc t left' hread ts' left'' hrest ih =>
    cases h
    obtain ⟨hts, rfl⟩ := ih hrest
    obtain ⟨ht, hs⟩ := of_readType hread
    exact ⟨List.forall_mem_cons.2 ⟨ht, hts⟩, by rw [hs, List.flatMap_cons, List.append_assoc]⟩
  | case5 => cases h

/-! ## Descriptors -/

theorem parseType_eq_ok {d : String} {t : FieldType} : parseType d = .ok t ↔ t.Spells d.toList := by
  have hread : readType d.toList = .ok (t, []) ↔ t.IsProper ∧ d.toList = t.descriptor ++ [] := readType_eq_ok
  rw [List.append_nil] at hread
  rw [FieldType.Spells, ← hread, parseType]
  constructor
  · intro h
    split at h
    · next heq =>
      cases h
      exact heq
    · cases h
    · cases h
  · intro h
    rw [h]

theorem parseMethod_eq_ok {d : String} {m : MethodType} : parseMethod d = .ok m ↔ m.Spells d.toList := by
  constructor
  · intro h
    rw [parseMethod] at h
    split at h
    · next s hd =>
      split at h
      · cases h
      · cases h
      · next ts left hparameters =>
        split at h
        · next result hresult =>
          cases h
          obtain ⟨hts, rfl⟩ := of_readParameters hparameters
          obtain ⟨hproper, rfl⟩ := of_readType hresult
          exact ⟨⟨hts, hproper⟩, by rw [hd, List.append_nil]; rfl⟩
        · cases h
        · cases h
    · cases h
  · rintro ⟨⟨hts, hresult⟩, hd⟩
    have hparameters := readParameters_append hts m.result.descriptor
    have hread := readType_append hresult []
    rw [List.append_nil] at hread
    rw [MethodType.descriptor, List.cons_append] at hd
    rw [parseMethod, hd]
    simp only [hparameters, hread]

/-- The characters of an element in source form: the keyword of a primitive, or the class name with a
point for each `/`. -/
def Element.shown : Element → List Char
  | .primitive p => p.keyword.toList
  | .object name => name.map fun c => if c = '/' then '.' else c

theorem toList_replaceChar_slash (name : List Char) :
    (Name.toExternal (String.ofList name)).toList = name.map fun c => if c = '/' then '.' else c := by
  have heach : (fun c => if c = '/' then ".".toList else [c]) = fun c => [if c = '/' then '.' else c] := by
    funext c
    split <;> rfl
  simp only [Name.toExternal, Text.replaceChar, Text.replaceEach, String.toList_ofList, heach, List.map_eq_flatMap]

theorem toList_times (n : Nat) (s : String) : (Text.times n s).toList = (List.replicate n s.toList).flatten := by
  rw [Text.times, String.toList_join, List.flatMap_def, List.map_replicate]

theorem FieldType.toList_source (t : FieldType) :
    t.source.toList = t.element.shown ++ (List.replicate t.dimensions ['[', ']']).flatten := by
  obtain ⟨n, e⟩ := t
  rw [source, String.toList_append, toList_times]
  cases e with
  | primitive p => rfl
  | object name =>
    rw [Element.source, toList_replaceChar_slash]
    rfl

/-- **The grammar of descriptors.** A text is read as a type exactly if it is written as one, and as a
method exactly if it is written as one, so it is so in one way only. In source form a type is the
keyword of its primitive or its class name with points, and a pair of brackets for each dimension. -/
theorem descriptors_read_by_grammar (d : String) :
    (∀ t, parseType d = .ok t ↔ t.Spells d.toList) ∧
    (∀ m, parseMethod d = .ok m ↔ m.Spells d.toList) ∧
    (∀ t u : FieldType, t.Spells d.toList → u.Spells d.toList → t = u) ∧
    (∀ m n : MethodType, m.Spells d.toList → n.Spells d.toList → m = n) ∧
    ∀ t : FieldType, t.source.toList = t.element.shown ++ (List.replicate t.dimensions ['[', ']']).flatten := by
  refine ⟨fun t => parseType_eq_ok, fun m => parseMethod_eq_ok, fun t u ht hu => ?_, fun m n hm hn => ?_,
    FieldType.toList_source⟩
  · cases (parseType_eq_ok.2 ht).symm.trans (parseType_eq_ok.2 hu)
    rfl
  · cases (parseMethod_eq_ok.2 hm).symm.trans (parseMethod_eq_ok.2 hn)
    rfl

/-- Brackets in a class name end neither it nor the list of parameters. -/
theorem descriptors_read_by_grammar_sample :
    parseMethod "([Lé/[a)b(;[[J)Lé;" =
      .ok ⟨[⟨1, .object ['é', '/', '[', 'a', ')', 'b', '(']⟩, ⟨2, .primitive .long⟩], ⟨0, .object ['é']⟩⟩ :=
  ((descriptors_read_by_grammar _).2.1 _).2 ⟨by decide, by decide⟩

/-! ## Class names -/

theorem dropEnding?_eq_some {ending s front : List Char} :
    Text.dropEnding? ending s = some front ↔ s = front ++ ending := by
  rw [Text.dropEnding?, Option.map_eq_some_iff]
  constructor
  · rintro ⟨rest, hrest, rfl⟩
    have h := congrArg List.reverse (List.append_eq_of_isPrefixOf?_eq_some hrest)
    simpa using h.symm
  · rintro rfl
    refine ⟨front.reverse, List.isPrefixOf?_eq_some_iff_append_eq.2 ?_, List.reverse_reverse front⟩
    exact List.reverse_append.symm

theorem dropEnding?_concat_of_ne {c d : Char} (h : d ≠ c) (s : List Char) :
    Text.dropEnding? [c] (s ++ [d]) = none := by
  rw [Option.eq_none_iff_forall_ne_some]
  intro front hfront
  have hlast := (List.append_inj' (dropEnding?_eq_some.1 hfront) rfl).2
  exact h (List.cons.inj hlast).1

theorem className_of_object {d : String} {n : Nat} {name : List Char}
    (h : d.toList = (⟨n, .object name⟩ : FieldType).descriptor) : className d = String.ofList name := by
  have hd : d.toList = (List.replicate n '[' ++ 'L' :: name) ++ [';'] := by
    rw [h]
    simp [FieldType.descriptor, Element.descriptor]
  have hfirst : (List.replicate n '[' ++ 'L' :: name).dropWhile (· ≠ 'L') = 'L' :: name := by
    rw [List.dropWhile_append_of_pos (by simp)]
    simp
  rw [className, hd, dropEnding?_eq_some.2 rfl]
  simp only [hfirst]

theorem className_of_primitive {d : String} {n : Nat} {p : Primitive}
    (h : d.toList = (⟨n, .primitive p⟩ : FieldType).descriptor) : className d = d := by
  have hletter : p.letter ≠ ';' := by cases p <;> decide
  rw [className, h]
  simp only [FieldType.descriptor, Element.descriptor, dropEnding?_concat_of_ne hletter]

/-- **Class names of types.** Of a class, and of an array of any number of dimensions of it, the class
name is found; it is the type in source form if there are no dimensions. The descriptor is its own
answer exactly for the primitives and their arrays. -/
theorem class_name_of_type {d : String} {t : FieldType} (h : parseType d = .ok t) :
    (∀ name, t.element = .object name → className d = String.ofList name) ∧
    (∀ name, t = ⟨0, .object name⟩ → Name.toExternal (className d) = t.source) ∧
    (className d = d ↔ ∃ p, t.element = .primitive p) := by
  obtain ⟨-, hd⟩ := parseType_eq_ok.1 h
  obtain ⟨n, e⟩ := t
  cases e with
  | primitive p =>
    refine ⟨by simp, by simp, ?_⟩
    simp [className_of_primitive hd]
  | object name =>
    have hname := className_of_object hd
    refine ⟨fun _ heq => ?_, fun _ heq => ?_, ?_⟩
    · cases heq
      exact hname
    · cases heq
      rw [hname]
      simp [FieldType.source, Element.source, Text.times]
    · -- The name is shorter than the descriptor that has it.
      have hlength : d.toList.length = n + name.length + 2 := by
        rw [hd]
        simp [FieldType.descriptor, Element.descriptor]
        omega
      constructor
      · intro heq
        rw [← heq, hname, String.toList_ofList] at hlength
        omega
      · rintro ⟨p, hp⟩
        cases hp

/-- The descriptor of a class whose name has brackets and an `L`. -/
theorem class_name_of_type_sample :
    parseType "Lpkg/[L);" = .ok ⟨0, .object ['p', 'k', 'g', '/', '[', 'L', ')']⟩ ∧
      className "Lpkg/[L);" = "pkg/[L)" :=
  have h : parseType "Lpkg/[L);" = .ok ⟨0, .object ['p', 'k', 'g', '/', '[', 'L', ')']⟩ :=
    parseType_eq_ok.2 ⟨by decide, by decide⟩
  ⟨h, (class_name_of_type h).1 _ rfl⟩

/-- Not every descriptor that is not one of a class is its own answer: an array of classes is not. -/
theorem class_array_not_unchanged : ¬ ∀ (d : String) (t : FieldType), parseType d = .ok t →
    (0 < t.dimensions ∨ ∃ p, t.element = .primitive p) → className d = d := by
  intro hunchanged
  have h := hunchanged "[Lpkg/Name;" ⟨1, .object ['p', 'k', 'g', '/', 'N', 'a', 'm', 'e']⟩
    (parseType_eq_ok.2 ⟨by decide, by decide⟩) (.inl Nat.one_pos)
  exact absurd h (by decide)

end KotlinMetadata.Descriptor
