/-
Why a text is no descriptor, told accurately: each error of the readers says
what is wrong with the text, and each is given exactly where it should be.

A reader that stops in a type does so at a place where one is awaited
(`Stopped`), so that the text before it can be completed. A character that
is not expected stays so, whatever follows; a text that has only ended can
go on, and a text that goes on behind a descriptor never becomes one. From
these facts (`Sorts`) the errors are told apart for types and methods alike.
-/
import KotlinMetadata.Proofs.Descriptor.Offsets

namespace KotlinMetadata.Descriptor

/-! ## Where the reading of a type stops -/

/-- A character that neither begins a type nor goes on with one. -/
def IsForeign (c : Char) : Prop := c ≠ '[' ∧ c ≠ 'L' ∧ ∀ p : Primitive, c ≠ p.letter

theorem readElement_of_foreign {c : Char} (hc : IsForeign c) (after : List Char) :
    readElement (c :: after) = .error (.unexpected c (c :: after)) := by
  obtain ⟨-, hclass, hletter⟩ := hc
  have hnone : Primitive.ofLetter? c = none := Primitive.ofLetter?_eq_none.2 fun p => Ne.symm (hletter p)
  simp only [readElement, hnone, if_neg hclass]

theorem readType_of_foreign {c : Char} (hc : IsForeign c) (n : Nat) (after : List Char) :
    readType (List.replicate n '[' ++ c :: after) = .error (.unexpected c (c :: after)) := by
  induction n with
  | zero => rw [List.replicate_zero, List.nil_append, readType, if_neg hc.1, readElement_of_foreign hc]
  | succ n ih => rw [List.replicate_succ, List.cons_append, readType, if_pos rfl, ih]

/-- What stops the reading of an element: a foreign character, or the end in a class name. -/
theorem of_readElement_error {c : Char} {s : List Char} {stop : Stop} (hc : c ≠ '[')
    (h : readElement (c :: s) = .error stop) :
    (IsForeign c ∧ stop = .unexpected c (c :: s)) ∨ (c = 'L' ∧ ';' ∉ s ∧ stop = .ended) := by
  rw [readElement] at h
  split at h
  · cases h
  · next hletter =>
    split at h
    · next hclass =>
      split at h
      · cases h
      · next hread =>
        cases h
        obtain ⟨rfl, hs⟩ := of_readClassName_error hread
        exact .inr ⟨hclass, hs, rfl⟩
    · next hclass =>
      cases h
      exact .inl ⟨⟨hc, hclass, fun p => Ne.symm (Primitive.ofLetter?_eq_none.1 hletter p)⟩, rfl⟩

theorem of_readType_unexpected {s left : List Char} {c : Char} (h : readType s = .error (.unexpected c left)) :
    IsForeign c ∧ ∃ n after, left = c :: after ∧ s = List.replicate n '[' ++ left := by
  induction s with
  | nil => cases h
  | cons x s ih =>
    rw [readType] at h
    split at h
    · next hx =>
      split at h
      · cases h
      · next hread =>
        cases h
        obtain ⟨hc, n, after, hleft, hs⟩ := ih hread
        exact ⟨hc, n + 1, after, hleft, by rw [hx, hs, List.replicate_succ, List.cons_append]⟩
    · next hx =>
      split at h
      · cases h
      · next hread =>
        cases h
        rcases of_readElement_error hx hread with ⟨hc, hstop⟩ | ⟨-, -, hstop⟩
        · cases hstop
          exact ⟨hc, 0, s, rfl, rfl⟩
        · cases hstop

/-- A text that ends inside a type can go on to one. -/
theorem of_readType_ended {s : List Char} (h : readType s = .error .ended) :
    ∃ (t : FieldType) (more : List Char), t.IsProper ∧ more ≠ [] ∧ s ++ more = t.descriptor := by
  induction s with
  | nil => exact ⟨⟨0, .primitive .void⟩, ['V'], trivial, by simp, rfl⟩
  | cons x s ih =>
    rw [readType] at h
    split at h
    · next hx =>
      split at h
      · cases h
      · next hread =>
        cases h
        obtain ⟨⟨n, e⟩, more, hproper, hmore, heq⟩ := ih hread
        exact ⟨⟨n + 1, e⟩, more, hproper, hmore, by rw [hx, List.cons_append, heq]; rfl⟩
    · next hx =>
      split at h
      · cases h
      · next hread =>
        cases h
        rcases of_readElement_error hx hread with ⟨-, hstop⟩ | ⟨hclass, hs, -⟩
        · cases hstop
        · exact ⟨⟨0, .object s⟩, [';'], hs, by simp, by rw [hclass]; rfl⟩

theorem of_readParameters_error {s : List Char} {stop : ParameterStop} (h : readParameters s = .error stop) :
    ∃ (ts : List FieldType) (rest : List Char), (∀ t ∈ ts, t.IsProper) ∧
      s = ts.flatMap FieldType.descriptor ++ rest ∧
      (rest = [] ∧ stop = .unclosed ∨
        ∃ c after inner, rest = c :: after ∧ c ≠ ')' ∧ readType rest = .error inner ∧ stop = .inType inner) := by
  fun_induction readParameters s generalizing stop with
  | case1 =>
    cases h
    exact ⟨[], [], by simp, rfl, .inl ⟨rfl, rfl⟩⟩
  | case2 => cases h
  | case3 c rest hc inner hread =>
    cases h
    exact ⟨[], c :: rest, by simp, rfl, .inr ⟨c, rest, inner, rfl, hc, hread, rfl⟩⟩
  | case4 => cases h
  | case5 c rest hc t left hread stop' hrest ih =>
    cases h
    obtain ⟨ts, rest', hts, rfl, hstop⟩ := ih hrest
    obtain ⟨ht, hs⟩ := of_readType hread
    exact ⟨t :: ts, rest', List.forall_mem_cons.2 ⟨ht, hts⟩, by rw [hs, List.flatMap_cons, List.append_assoc], hstop⟩

/-! ## The errors of a reader -/

section Readers

variable {α : Type} {parse : String → Except Malformed α} {short : String → Prop} {d : String} {stop : Stop}

/-- The reader takes the text for a descriptor. -/
def Accepts (parse : String → Except Malformed α) (s : String) : Prop := ∃ a, parse s = .ok a

/-- A proper beginning of the text is a descriptor. -/
def Exceeds (parse : String → Except Malformed α) (d : String) : Prop :=
  ∃ before more, d = before ++ more ∧ more ≠ "" ∧ Accepts parse before

/-- The text is a proper beginning of a descriptor. -/
def CanGoOn (parse : String → Except Malformed α) (d : String) : Prop :=
  ∃ more, more ≠ "" ∧ Accepts parse (d ++ more)

/-- The reader stops in a type, at a place where one is awaited: any type there can be completed. No
text that goes on after a character that is not expected is a descriptor. -/
structure Stopped (parse : String → Except Malformed α) (d : String) (stop : Stop) : Prop where
  place : ∃ front close rest, d.toList = front ++ rest ∧ readType rest = .error stop ∧
    ∀ t : FieldType, t.IsProper → Accepts parse (String.ofList (front ++ t.descriptor ++ close))
  lasts : ∀ found left more, stop = .unexpected found left → ¬ Accepts parse (d ++ more)

/-- The character that is not expected stands where it is said to, and the text before it can go on to
a descriptor. -/
theorem Stopped.unexpected {found : Char} {left : List Char} (h : Stopped parse d (.unexpected found left)) :
    ∃ before after, d = before ++ String.singleton found ++ after ∧
      before.utf8ByteSize = byteCount d.toList - byteCount left ∧ IsForeign found ∧
      ∃ more, Accepts parse (before ++ more) := by
  obtain ⟨front, close, rest, hd, hread, hawaits⟩ := h.place
  obtain ⟨hforeign, n, after, rfl, rfl⟩ := of_readType_unexpected hread
  have hbefore : d.toList = (front ++ List.replicate n '[') ++ found :: after := by
    rw [hd, List.append_assoc]
  refine ⟨String.ofList (front ++ List.replicate n '['), String.ofList after, ?_, ?_, hforeign, ?_⟩
  · apply String.toList_injective
    rw [hbefore]
    simp [String.toList_append]
  · rw [← byteCount_eq, hbefore, byteCount_append (front ++ List.replicate n '[')]
    omega
  · refine ⟨String.ofList ('V' :: close), ?_⟩
    have hvoid := hawaits ⟨n, .primitive .void⟩ trivial
    rw [← String.ofList_append]
    simpa [FieldType.descriptor, Element.descriptor, Primitive.letter] using hvoid

/-- A text that only ended can go on to a descriptor. -/
theorem Stopped.canGoOn (h : Stopped parse d .ended) : CanGoOn parse d := by
  obtain ⟨front, close, rest, hd, hread, hawaits⟩ := h.place
  obtain ⟨t, more, hproper, hmore, ht⟩ := of_readType_ended hread
  refine ⟨String.ofList (more ++ close), fun hempty => ?_, ?_⟩
  · have hnil := congrArg String.toList hempty
    rw [String.toList_ofList, String.toList_empty] at hnil
    exact hmore (List.append_eq_nil_iff.1 hnil).1
  · have hcomplete := hawaits t hproper
    rw [← ht] at hcomplete
    have htext : d ++ String.ofList (more ++ close) = String.ofList (front ++ (rest ++ more) ++ close) := by
      apply String.toList_injective
      simp [String.toList_append, hd]
    rw [htext]
    exact hcomplete

/-- How a reader sorts what it does not accept; the texts that are too `short` even to go on with have
errors of their own. -/
structure Sorts (parse : String → Except Malformed α) (short : String → Prop) : Prop where
  errors : ∀ {d e}, parse d = .error e → (∃ stop, Stopped parse d stop ∧ e = stop.malformed d) ∨
    (Exceeds parse d ∧ e = .trailing d) ∨ (short d ∧ e = .noParameters d)
  trailing : ∀ {d}, Exceeds parse d → parse d = .error (.trailing d)
  apart : ∀ {d}, short d → ∀ e, parse d ≠ .error (.unterminated e)
  empty : short ""

theorem Exceeds.append (h : Exceeds parse d) (more : String) : Exceeds parse (d ++ more) := by
  obtain ⟨before, rest, rfl, hrest, haccepts⟩ := h
  refine ⟨before, rest ++ more, by rw [String.append_assoc], fun hempty => ?_, haccepts⟩
  exact hrest (String.append_eq_empty_iff.1 hempty).1

namespace Sorts

/-- The errors one by one. -/
theorem cases (h : Sorts parse short) {e : Malformed} (herror : parse d = .error e) :
    (d = "" ∧ e = .empty) ∨ (Stopped parse d .ended ∧ e = .unterminated d) ∨
    (∃ found left, Stopped parse d (.unexpected found left) ∧
      e = .unexpected d (byteCount d.toList - byteCount left) found) ∨
    (Exceeds parse d ∧ e = .trailing d) ∨ (short d ∧ e = .noParameters d) := by
  rcases h.errors herror with ⟨stop, hstopped, rfl⟩ | hrest
  · cases stop with
    | ended =>
      rw [Stop.malformed]
      split
      · next hempty => exact .inl ⟨String.isEmpty_iff.1 hempty, rfl⟩
      · exact .inr (.inl ⟨hstopped, rfl⟩)
    | unexpected found left => exact .inr (.inr (.inl ⟨found, left, hstopped, rfl⟩))
  · exact .inr (.inr (.inr hrest))

theorem not_accepts (h : Sorts parse short) (hd : Exceeds parse d) : ¬ Accepts parse d := by
  rintro ⟨a, ha⟩
  cases ha.symm.trans (h.trailing hd)

theorem unexpected (h : Sorts parse short) {e : String} {offset : Nat} {found : Char}
    (herror : parse d = .error (.unexpected e offset found)) :
    e = d ∧ ∃ before after, d = before ++ String.singleton found ++ after ∧ before.utf8ByteSize = offset ∧
      IsForeign found ∧ ∃ more, Accepts parse (before ++ more) := by
  rcases h.cases herror with ⟨-, heq⟩ | ⟨-, heq⟩ | ⟨c, left, hstopped, heq⟩ | ⟨-, heq⟩ | ⟨-, heq⟩ <;> cases heq
  exact ⟨rfl, hstopped.unexpected⟩

theorem trailing_iff (h : Sorts parse short) (e : String) :
    parse d = .error (.trailing e) ↔ e = d ∧ Exceeds parse d := by
  constructor
  · intro herror
    rcases h.cases herror with ⟨-, heq⟩ | ⟨-, heq⟩ | ⟨c, left, -, heq⟩ | ⟨hexceeds, heq⟩ | ⟨-, heq⟩ <;> cases heq
    exact ⟨rfl, hexceeds⟩
  · rintro ⟨rfl, hexceeds⟩
    exact h.trailing hexceeds

theorem unterminated_iff (h : Sorts parse short) (e : String) :
    parse d = .error (.unterminated e) ↔ e = d ∧ ¬ short d ∧ CanGoOn parse d := by
  constructor
  · intro herror
    rcases h.cases herror with ⟨-, heq⟩ | ⟨hstopped, heq⟩ | ⟨c, left, -, heq⟩ | ⟨-, heq⟩ | ⟨-, heq⟩ <;> cases heq
    exact ⟨rfl, fun hshort => h.apart hshort d herror, hstopped.canGoOn⟩
  · rintro ⟨rfl, hlong, more, hmore, haccepts⟩
    -- Whatever else is wrong with the text is wrong with each that it begins.
    cases hparse : parse e with
    | ok a => exact absurd haccepts (h.not_accepts ⟨e, more, rfl, hmore, a, hparse⟩)
    | error err =>
      rcases h.cases hparse with ⟨rfl, -⟩ | ⟨-, rfl⟩ | ⟨c, left, hstopped, -⟩ | ⟨hexceeds, -⟩ | ⟨hshort, -⟩
      · exact absurd h.empty hlong
      · rfl
      · exact absurd haccepts (hstopped.lasts c left more rfl)
      · exact absurd haccepts (h.not_accepts (hexceeds.append more))
      · exact absurd hshort hlong

/-- Nothing but the empty text is said to be empty. -/
theorem eq_empty (h : Sorts parse short) (hempty : parse d = .error .empty) : d = "" := by
  rcases h.cases hempty with ⟨hd, -⟩ | ⟨-, heq⟩ | ⟨c, left, -, heq⟩ | ⟨-, heq⟩ | ⟨-, heq⟩
  · exact hd
  all_goals cases heq

/-- A text without parameters is too short. -/
theorem of_noParameters (h : Sorts parse short) {e : String} (herror : parse d = .error (.noParameters e)) :
    e = d ∧ short d := by
  rcases h.cases herror with ⟨-, heq⟩ | ⟨-, heq⟩ | ⟨c, left, -, heq⟩ | ⟨-, heq⟩ | ⟨hshort, heq⟩ <;> cases heq
  exact ⟨rfl, hshort⟩

end Sorts

end Readers

/-! ## Types -/

theorem parseType_of_append {d : String} {t : FieldType} {left : List Char} (ht : t.IsProper)
    (hd : d.toList = t.descriptor ++ left) (hleft : left ≠ []) : parseType d = .error (.trailing d) := by
  rw [parseType, hd, readType_append ht]
  cases left with
  | nil => exact absurd rfl hleft
  | cons c left => rfl

theorem parseType_of_stop {d : String} {stop : Stop} (h : readType d.toList = .error stop) :
    parseType d = .error (stop.malformed d) := by
  rw [parseType, h]

theorem parseType_sorts : Sorts parseType (· = "") where
  errors {d e} h := by
    cases hread : readType d.toList with
    | ok r =>
      obtain ⟨t, left⟩ := r
      obtain ⟨ht, hd⟩ := of_readType hread
      cases left with
      | nil =>
        rw [List.append_nil] at hd
        cases h.symm.trans (parseType_eq_ok.2 ⟨ht, hd⟩)
      | cons c left =>
        cases h.symm.trans (parseType_of_append ht hd (by simp))
        refine .inr (.inl ⟨⟨String.ofList t.descriptor, String.ofList (c :: left), ?_, ?_, t, ?_⟩, rfl⟩)
        · rw [← String.ofList_append, ← hd, String.ofList_toList]
        · simp
        · exact parseType_eq_ok.2 ⟨ht, String.toList_ofList⟩
    | error stop =>
      cases h.symm.trans (parseType_of_stop hread)
      refine .inl ⟨stop, ⟨⟨[], [], d.toList, rfl, hread, fun t ht => ⟨t, ?_⟩⟩, ?_⟩, rfl⟩
      · exact parseType_eq_ok.2 ⟨ht, by simp⟩
      · rintro found left more rfl ⟨t, ht⟩
        obtain ⟨hforeign, n, after, rfl, hd⟩ := of_readType_unexpected hread
        have hstop := readType_of_foreign hforeign n (after ++ more.toList)
        have hmore : (d ++ more).toList = List.replicate n '[' ++ found :: (after ++ more.toList) := by
          rw [String.toList_append, hd, List.append_assoc, List.cons_append]
        rw [← hmore] at hstop
        cases ht.symm.trans (parseType_of_stop hstop)
  trailing {d} h := by
    obtain ⟨before, more, rfl, hmore, t, ht⟩ := h
    obtain ⟨hproper, hbefore⟩ := parseType_eq_ok.1 ht
    refine parseType_of_append hproper (by rw [String.toList_append, hbefore]) ?_
    rwa [Ne, String.toList_eq_nil_iff]
  apart {d} h e herror := by
    subst h
    cases herror
  empty := rfl

/-! ## Methods -/

/-- The text does not begin with `(`, or it is that and complete types. -/
def LacksParameters (d : String) : Prop :=
  (∀ s, d.toList ≠ '(' :: s) ∨
    ∃ ts : List FieldType, (∀ t ∈ ts, t.IsProper) ∧ d.toList = '(' :: ts.flatMap FieldType.descriptor

theorem parseMethod_of_lacksParameters {d : String} (h : LacksParameters d) :
    parseMethod d = .error (.noParameters d) := by
  rcases h with hopen | ⟨ts, hts, hd⟩
  · rw [parseMethod]
    split
    · next s hs => exact absurd hs (hopen s)
    · rfl
  · have hread := readParameters_types_append hts []
    rw [List.append_nil, readParameters] at hread
    rw [parseMethod, hd]
    simp only [hread]

theorem parseMethod_of_stop {d : String} {ts : List FieldType} {c : Char} {rest : List Char} {stop : Stop}
    (hts : ∀ t ∈ ts, t.IsProper) (hd : d.toList = '(' :: ts.flatMap FieldType.descriptor ++ c :: rest)
    (hc : c ≠ ')') (hread : readType (c :: rest) = .error stop) : parseMethod d = .error (stop.malformed d) := by
  have hparameters : readParameters (c :: rest) = .error (.inType stop) := by
    rw [readParameters, if_neg hc]
    split
    · next heq =>
      cases hread.symm.trans heq
      rfl
    · next heq => cases hread.symm.trans heq
  rw [List.cons_append] at hd
  rw [parseMethod, hd]
  simp only [readParameters_types_append hts, hparameters]

/-- Behind its parameters a method is read as a type is. -/
theorem parseMethod_of_close {d : String} {ts : List FieldType} {left : List Char}
    (hts : ∀ t ∈ ts, t.IsProper) (hd : d.toList = '(' :: ts.flatMap FieldType.descriptor ++ ')' :: left) :
    parseMethod d =
      match readType left with
      | .ok (result, []) => .ok ⟨ts, result⟩
      | .ok (_, _ :: _) => .error (.trailing d)
      | .error stop => .error (stop.malformed d) := by
  rw [List.cons_append] at hd
  rw [parseMethod, hd]
  cases hread : readType left with
  | error stop => simp only [readParameters_append hts, hread]
  | ok r =>
    obtain ⟨result, rest⟩ := r
    cases rest with
    | nil => simp only [readParameters_append hts, hread]
    | cons c rest => simp only [readParameters_append hts, hread]

/-- Where the reading of the parameters ends: it finds none, it stops in a type, or it comes to their
end. -/
theorem parameters_cases (d : String) :
    LacksParameters d ∨ ∃ (ts : List FieldType) (c : Char) (rest : List Char), (∀ t ∈ ts, t.IsProper) ∧
      d.toList = '(' :: ts.flatMap FieldType.descriptor ++ c :: rest ∧
      (c = ')' ∨ c ≠ ')' ∧ ∃ stop, readType (c :: rest) = .error stop) := by
  by_cases hopen : ∃ s, d.toList = '(' :: s
  · obtain ⟨s, hd⟩ := hopen
    cases hread : readParameters s with
    | error stop =>
      obtain ⟨ts, rest, hts, rfl, hstop⟩ := of_readParameters_error hread
      rcases hstop with ⟨rfl, -⟩ | ⟨c, after, inner, rfl, hc, hinner, -⟩
      · rw [List.append_nil] at hd
        exact .inl (.inr ⟨ts, hts, hd⟩)
      · exact .inr ⟨ts, c, after, hts, hd, .inr ⟨hc, inner, hinner⟩⟩
    | ok r =>
      obtain ⟨ts, left⟩ := r
      obtain ⟨hts, rfl⟩ := of_readParameters hread
      exact .inr ⟨ts, ')', left, hts, hd, .inl rfl⟩
  · exact .inl (.inl fun s hs => hopen ⟨s, hs⟩)

theorem accepts_method {ts : List FieldType} {t : FieldType} (hts : ∀ u ∈ ts, u.IsProper) (ht : t.IsProper) :
    Accepts parseMethod
      (String.ofList ('(' :: ts.flatMap FieldType.descriptor ++ ')' :: t.descriptor)) :=
  ⟨⟨ts, t⟩, parseMethod_eq_ok.2 ⟨⟨hts, ht⟩, String.toList_ofList⟩⟩

/-- A type in the list of parameters can be completed, and then the list be closed. -/
theorem stopped_in_parameters {d : String} {ts : List FieldType} {c : Char} {rest : List Char} {stop : Stop}
    (hts : ∀ t ∈ ts, t.IsProper) (hd : d.toList = '(' :: ts.flatMap FieldType.descriptor ++ c :: rest)
    (hc : c ≠ ')') (hread : readType (c :: rest) = .error stop) : Stopped parseMethod d stop where
  place := by
    refine ⟨'(' :: ts.flatMap FieldType.descriptor, [')', 'V'], c :: rest, hd, hread, fun t ht => ?_⟩
    have hmore : ∀ u ∈ ts ++ [t], u.IsProper := by simpa [or_imp, forall_and] using ⟨hts, ht⟩
    have haccepts := accepts_method (t := ⟨0, .primitive .void⟩) hmore trivial
    simpa [FieldType.descriptor, Element.descriptor, Primitive.letter] using haccepts
  lasts := by
    rintro found left more rfl ⟨m, hm⟩
    obtain ⟨hforeign, n, after, rfl, hrest⟩ := of_readType_unexpected hread
    have hstop := readType_of_foreign hforeign n (after ++ more.toList)
    have hmore : List.replicate n '[' ++ found :: (after ++ more.toList) = c :: (rest ++ more.toList) := by
      rw [← List.cons_append, ← List.append_assoc, ← hrest, List.cons_append]
    rw [hmore] at hstop
    have hd' : (d ++ more).toList = '(' :: ts.flatMap FieldType.descriptor ++ c :: (rest ++ more.toList) := by
      rw [String.toList_append, hd, List.append_assoc]
      rfl
    cases hm.symm.trans (parseMethod_of_stop hts hd' hc hstop)

/-- The result can be completed as it is. -/
theorem stopped_in_result {d : String} {ts : List FieldType} {left : List Char} {stop : Stop}
    (hts : ∀ t ∈ ts, t.IsProper) (hd : d.toList = '(' :: ts.flatMap FieldType.descriptor ++ ')' :: left)
    (hread : readType left = .error stop) : Stopped parseMethod d stop where
  place := by
    refine ⟨'(' :: ts.flatMap FieldType.descriptor ++ [')'], [], left, ?_, hread, fun t ht => ?_⟩
    · rw [hd, List.append_assoc, List.singleton_append]
    · have haccepts := accepts_method hts ht
      simpa using haccepts
  lasts := by
    rintro found left' more rfl ⟨m, hm⟩
    obtain ⟨hforeign, n, after, rfl, hleft⟩ := of_readType_unexpected hread
    have hstop := readType_of_foreign hforeign n (after ++ more.toList)
    have hd' : (d ++ more).toList = '(' :: ts.flatMap FieldType.descriptor ++
        ')' :: (List.replicate n '[' ++ found :: (after ++ more.toList)) := by
      rw [String.toList_append, hd, hleft]
      simp
    have hparse := parseMethod_of_close hts hd'
    rw [hstop] at hparse
    cases hm.symm.trans hparse

theorem parseMethod_sorts : Sorts parseMethod LacksParameters where
  errors {d e} h := by
    rcases parameters_cases d with hlacks | ⟨ts, c, rest, hts, hd, rfl | ⟨hc, stop, hread⟩⟩
    · cases h.symm.trans (parseMethod_of_lacksParameters hlacks)
      exact .inr (.inr ⟨hlacks, rfl⟩)
    · have hparse := parseMethod_of_close hts hd
      cases hread : readType rest with
      | error stop =>
        rw [hread] at hparse
        cases h.symm.trans hparse
        exact .inl ⟨stop, stopped_in_result hts hd hread, rfl⟩
      | ok r =>
        obtain ⟨t, left⟩ := r
        rw [hread] at hparse
        cases left with
        | nil => cases h.symm.trans hparse
        | cons x left =>
          cases h.symm.trans hparse
          obtain ⟨ht, rfl⟩ := of_readType hread
          refine .inr (.inl ⟨⟨_, String.ofList (x :: left), ?_, ?_, accepts_method hts ht⟩, rfl⟩)
          · apply String.toList_injective
            rw [hd]
            simp
          · simp
    · cases h.symm.trans (parseMethod_of_stop hts hd hc hread)
      exact .inl ⟨stop, stopped_in_parameters hts hd hc hread, rfl⟩
  trailing {d} h := by
    obtain ⟨before, more, rfl, hmore, m, hm⟩ := h
    obtain ⟨⟨hts, ht⟩, hbefore⟩ := parseMethod_eq_ok.1 hm
    have hd : (before ++ more).toList =
        '(' :: m.parameters.flatMap FieldType.descriptor ++ ')' :: (m.result.descriptor ++ more.toList) := by
      rw [String.toList_append, hbefore, MethodType.descriptor, List.append_assoc]
      rfl
    rw [parseMethod_of_close hts hd, readType_append ht]
    cases hlist : more.toList with
    | nil => exact absurd (String.toList_eq_nil_iff.1 hlist) hmore
    | cons c left => rfl
  apart {d} h e herror := by
    cases herror.symm.trans (parseMethod_of_lacksParameters h)
  empty := .inl fun s hs => by simp at hs

/-! ## The errors of both readers -/

/-- What the errors of a reader say of the text. A character that is not expected stands at the given
number of bytes, begins no type, and what precedes it can go on to a descriptor. There is more behind a
descriptor, or less than one, exactly if the reader says so; the texts that are too `short` have errors
of their own. -/
structure TellsAccurately {α : Type} (parse : String → Except Malformed α) (short : String → Prop)
    (d : String) : Prop where
  unexpected : ∀ e offset found, parse d = .error (.unexpected e offset found) →
    e = d ∧ ∃ before after, d = before ++ String.singleton found ++ after ∧ before.utf8ByteSize = offset ∧
      IsForeign found ∧ ∃ more, Accepts parse (before ++ more)
  trailing : ∀ e, parse d = .error (.trailing e) ↔ e = d ∧ Exceeds parse d
  unterminated : ∀ e, parse d = .error (.unterminated e) ↔ e = d ∧ ¬ short d ∧ CanGoOn parse d

theorem Sorts.tellsAccurately {α : Type} {parse : String → Except Malformed α} {short : String → Prop}
    (h : Sorts parse short) (d : String) : TellsAccurately parse short d where
  unexpected _ _ _ := h.unexpected
  trailing := h.trailing_iff
  unterminated := h.unterminated_iff

theorem parseType_ne_noParameters (d e : String) : parseType d ≠ .error (.noParameters e) := by
  intro h
  obtain ⟨-, rfl⟩ := parseType_sorts.of_noParameters h
  cases h

theorem parseMethod_eq_noParameters {d e : String} :
    parseMethod d = .error (.noParameters e) ↔ e = d ∧ LacksParameters d := by
  constructor
  · exact parseMethod_sorts.of_noParameters
  · rintro ⟨rfl, hlacks⟩
    exact parseMethod_of_lacksParameters hlacks

theorem parseType_eq_empty {d : String} : parseType d = .error .empty ↔ d = "" := by
  constructor
  · exact parseType_sorts.eq_empty
  · rintro rfl
    rfl

theorem parseMethod_ne_empty (d : String) : parseMethod d ≠ .error .empty := by
  intro h
  rw [parseMethod_sorts.eq_empty h] at h
  cases h

/-- **Malformed descriptors.** Reading by offsets gives the same answers as reading characters, so that
no text makes a cut go wrong, and each type moves the offset on. All errors are accurate. -/
theorem malformed_told_accurately (d : String) :
    ByOffset.parseType d = (parseType d).mapError .malformed ∧
    ByOffset.parseMethod d = (parseMethod d).mapError .malformed ∧
    (∀ offset t next, ByOffset.typeAt d offset = .ok (t, next) → offset < next) ∧
    TellsAccurately parseType (· = "") d ∧
    TellsAccurately parseMethod LacksParameters d ∧
    (∀ e, parseMethod d = .error (.noParameters e) ↔ e = d ∧ LacksParameters d) ∧
    (∀ e, parseType d ≠ .error (.noParameters e)) ∧
    (parseType d = .error .empty ↔ d = "") ∧
    parseMethod d ≠ .error .empty := by
  have hadvances : ∀ offset t next, ByOffset.typeAt d offset = .ok (t, next) → offset < next :=
    fun _ _ _ h => (ByOffset.typeAt_advances h).1
  exact ⟨ByOffset.parseType_eq d, ByOffset.parseMethod_eq d, hadvances, parseType_sorts.tellsAccurately d,
    parseMethod_sorts.tellsAccurately d, fun _ => parseMethod_eq_noParameters, parseType_ne_noParameters d,
    parseType_eq_empty, parseMethod_ne_empty d⟩

/-- Behind a name of two-byte characters the offset is one of bytes. -/
theorem malformed_told_accurately_sample :
    parseMethod "(Lé/ü;[" = .error (.unterminated "(Lé/ü;[") ∧
      CanGoOn parseMethod "(Lé/ü;[" ∧
      ∃ before after, "(Lé/ü;[)V" = before ++ ")" ++ after ∧ before.utf8ByteSize = 9 := by
  have hproper : ∀ t ∈ [(⟨0, .object ['é', '/', 'ü']⟩ : FieldType)], t.IsProper := by decide
  have hopen : readType ['['] = .error .ended := rfl
  have hclosed : readType ['[', ')', 'V'] = .error (.unexpected ')' [')', 'V']) := rfl
  have hended : parseMethod "(Lé/ü;[" = .error (.unterminated "(Lé/ü;[") :=
    parseMethod_of_stop hproper rfl (by decide) hopen
  have hstop : parseMethod "(Lé/ü;[)V" = .error (.unexpected "(Lé/ü;[)V" 9 ')') :=
    parseMethod_of_stop hproper rfl (by decide) hclosed
  have htold := (malformed_told_accurately "(Lé/ü;[").2.2.2.2.1
  obtain ⟨-, before, after, hd, hsize, -⟩ :=
    (malformed_told_accurately "(Lé/ü;[)V").2.2.2.2.1.unexpected _ _ _ hstop
  exact ⟨hended, ((htold.unterminated _).1 hended).2.2, before, after, hd, hsize⟩

end KotlinMetadata.Descriptor
