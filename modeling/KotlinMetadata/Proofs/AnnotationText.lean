/-
The text of an annotation in the metadata. By its law (`KotlinAnnot.text` with
`Text.joinWith ", "`) a comma stands between each argument and the next. The
renderer finds out whether a comma is due from the last character written, so
it leaves the comma out after an argument that ends with an opening bracket
(`Text.listed`).

`Render.Adds` says which text an action appends to the active buffer, and
`Render.Adds.kotlinAnnotBody` that this is the text of the annotation with its
arguments so listed. `Trims` compares that text with the law: it is the same
or shorter, and the same exactly if no comma is missing at any depth.
-/
import KotlinMetadata.Proofs.AppendOnly

namespace KotlinMetadata

/-! ## Lists of texts -/

namespace Text

variable {brackets : List Char} {s t : String}

/-- Whether a text ends with one of some brackets. -/
def endsIn (brackets : List Char) (text : String) : Bool := text.toList.getLast?.any brackets.contains

/-- Texts one after the other: a comma after each but the last, unless it ends with one of some brackets. -/
def listed (brackets : List Char) : List String → String
  | [] => ""
  | text :: rest => text ++ (if rest.isEmpty || endsIn brackets text then "" else ", ") ++ listed brackets rest

theorem joinWith_cons (separator text : String) (rest : List String) : joinWith separator (text :: rest) =
    text ++ (if rest.isEmpty then "" else separator) ++ joinWith separator rest := by
  cases rest with
  | nil => simp [joinWith]
  | cons next rest => simp [joinWith, String.append_assoc]

theorem endsIn_append (h : t ≠ "") : endsIn brackets (s ++ t) = endsIn brackets t := by
  have ht : t.toList.getLast? ≠ none := by simpa using h
  obtain ⟨c, hc⟩ := Option.ne_none_iff_exists'.1 ht
  rw [endsIn, endsIn, String.toList_append, List.getLast?_append, hc, Option.some_or]

theorem endsIn_append_of_not (h : endsIn brackets s = false) : endsIn brackets (s ++ t) = endsIn brackets t := by
  by_cases ht : t = ""
  · rw [ht, String.append_empty, h]
    rfl
  · exact endsIn_append ht

theorem endsIn_of_forall (h : ∀ c ∈ t.toList, c ∉ brackets) : endsIn brackets t = false := by
  unfold endsIn
  cases hc : t.toList.getLast? with
  | none => rfl
  | some c => simpa using h c (List.mem_of_getLast? hc)

end Text

/-- A text is another one or shorter, and the same exactly under a condition. -/
structure Trims (x y : String) (p : Prop) : Prop where
  length_le : x.length ≤ y.length
  eq_iff : x = y ↔ p

namespace Trims

variable {x y x' y' : String} {p p' : Prop}

theorem refl (x : String) : Trims x x True := ⟨le_rfl, iff_of_true rfl trivial⟩

theorem congr (h : Trims x y p) (hp : p ↔ p') : Trims x y p' := ⟨h.length_le, h.eq_iff.trans hp⟩

/-- Texts put together are the same only if their parts are: neither part can make up for the other. -/
theorem append (h : Trims x y p) (h' : Trims x' y' p') : Trims (x ++ x') (y ++ y') (p ∧ p') := by
  have hle := h.length_le
  have hle' := h'.length_le
  refine ⟨?_, ?_⟩
  · rw [String.length_append, String.length_append]
    omega
  · rw [← h.eq_iff, ← h'.eq_iff]
    refine ⟨fun he => ?_, fun ⟨hx, hx'⟩ => by rw [hx, hx']⟩
    have hlength := congrArg String.length he
    rw [String.length_append, String.length_append] at hlength
    have he' := congrArg String.toList he
    rw [String.toList_append, String.toList_append] at he'
    have hsplit := List.append_inj he' (by rw [String.length_toList, String.length_toList]; omega)
    exact ⟨String.toList_inj.1 hsplit.1, String.toList_inj.1 hsplit.2⟩

end Trims

/-! ## The text of an annotation -/

section

variable (called : String → String) (list : List String → String)

mutual
/-- The text of an annotation: what its class is called, and its arguments in brackets if it has any,
listed in one way or another. -/
def KotlinAnnot.text : KotlinAnnot → String
  | ⟨className, arguments⟩ =>
    called className ++ if arguments.isEmpty then "" else "(" ++ list (AnnotArgument.texts arguments) ++ ")"
/-- The texts of arguments. -/
def AnnotArgument.texts : List AnnotArgument → List String
  | [] => []
  | ⟨name, value⟩ :: rest => (name ++ " = " ++ value.text) :: AnnotArgument.texts rest
/-- The text of a value. The values of an array always have a comma between them. -/
def AnnotValue.text : AnnotValue → String
  | .byte v => toString v.toInt
  | .char v => v.toString
  | .short v => toString v.toInt
  | .int v => toString v.toInt
  | .long v => toString v.toInt
  | .float v => v.text sourceNumbers
  | .double v => v.text sourceNumbers
  | .boolean v => if v then "true" else "false"
  | .ubyte v => toString v.toNat
  | .ushort v => toString v.toNat
  | .uint v => toString v.toNat
  | .ulong v => toString v.toNat
  | .string v => "\"" ++ v ++ "\""
  | .classLiteral className dimensions => arrayLiteral (called className) dimensions.toNat
  | .enumEntry className entryName => called className ++ "." ++ entryName
  | .annot a => a.text
  | .array values => "[" ++ Text.joinWith ", " (AnnotValue.texts values) ++ "]"
/-- The texts of the values of an array. -/
def AnnotValue.texts : List AnnotValue → List String
  | [] => []
  | value :: rest => value.text :: AnnotValue.texts rest
end

end

/-! ## Numbers -/

namespace Number

/-- The characters that numbers are written with. -/
def isNumeral (c : Char) : Bool := c.isDigit || ['-', '.', 'e', 'i', 'n', 'f'].contains c

theorem isNumeral_of_mem_toDigits {n : Nat} {c : Char} (h : c ∈ Nat.toDigits 10 n) : isNumeral c := by
  rw [isNumeral, Nat.isDigit_of_mem_toDigits (by decide) (by decide) h, Bool.true_or]

theorem isNumeral_of_mem_nat {n : Nat} {c : Char} (h : c ∈ (toString n).toList) : isNumeral c := by
  rw [Nat.toString_eq_repr, Nat.toList_repr] at h
  exact isNumeral_of_mem_toDigits h

theorem isNumeral_of_mem_int {n : Int} {c : Char} (h : c ∈ (toString n).toList) : isNumeral c := by
  rw [Int.toString_eq_repr, Int.repr_eq_if] at h
  split at h
  · rw [Nat.toList_repr] at h
    exact isNumeral_of_mem_toDigits h
  · rw [String.toList_append, Nat.toList_repr] at h
    rcases List.mem_append.1 h with h | h
    · cases List.mem_singleton.1 h
      rfl
    · exact isNumeral_of_mem_toDigits h

variable {digits : List Char}

theorem isNumeral_of_mem_positional (hdigits : ∀ c ∈ digits, isNumeral c) {place : Int} {c : Char}
    (h : c ∈ positional digits place) : isNumeral c := by
  unfold positional at h
  split at h
  · simp only [List.mem_append, List.mem_cons, List.mem_replicate, List.not_mem_nil, or_false] at h
    rcases h with ((rfl | rfl) | ⟨-, rfl⟩) | h
    · rfl
    · rfl
    · rfl
    · exact hdigits c h
  · simp only [List.mem_append, List.mem_cons, List.mem_replicate] at h
    rcases h with (h | ⟨-, rfl⟩) | rfl | h
    · exact hdigits c (List.mem_of_mem_take h)
    · rfl
    · rfl
    · split at h
      · cases List.mem_singleton.1 h
        rfl
      · exact hdigits c (List.mem_of_mem_drop h)

theorem isNumeral_of_mem_scientific (hdigits : ∀ c ∈ digits, isNumeral c) {exponent : Int} {c : Char}
    (h : c ∈ scientific digits exponent) : isNumeral c := by
  unfold scientific at h
  rcases List.mem_append.1 h with h | h
  · cases digits with
    | nil => cases h
    | cons d rest =>
      rcases List.mem_cons.1 h with rfl | h
      · exact hdigits _ List.mem_cons_self
      · split at h
        · cases h
        · rcases List.mem_cons.1 h with rfl | h
          · rfl
          · exact hdigits c (List.mem_cons_of_mem _ h)
  · rcases List.mem_cons.1 h with rfl | h
    · rfl
    · exact isNumeral_of_mem_int h

theorem isNumeral_of_mem_decimal {l : Layout} {d : Decimal} {c : Char} (h : c ∈ d.text l) : isNumeral c := by
  unfold Decimal.text at h
  extract_lets digits place at h
  split at h
  · exact isNumeral_of_mem_positional (fun _ => isNumeral_of_mem_toDigits) h
  · exact isNumeral_of_mem_scientific (fun _ => isNumeral_of_mem_toDigits) h

theorem isNumeral_of_mem_binary {F : Format} (l : Layout) (x : Binary F) {c : Char} (h : c ∈ (x.text l).toList) :
    isNumeral c := by
  have hmagnitude : ∀ {c}, c ∈ (if x.isZero then ['0', '.', '0']
      else if x.isFinite then (x.shortest l.tie).text l else ['i', 'n', 'f']) → isNumeral c := by
    intro c h
    have hzero : ['0', '.', '0'].all isNumeral := by decide
    have hinfinity : ['i', 'n', 'f'].all isNumeral := by decide
    split at h
    · exact List.all_eq_true.1 hzero c h
    · split at h
      · exact isNumeral_of_mem_decimal h
      · exact List.all_eq_true.1 hinfinity c h
  rw [Binary.text, String.toList_ofList] at h
  split at h
  · rcases List.mem_cons.1 h with rfl | h
    · rfl
    · exact hmagnitude h
  · exact hmagnitude h

end Number

/-! ## Missing commas -/

/-- The brackets after which no comma is written before an argument. -/
def argumentBrackets : List Char := ['(', '[']

theorem Text.endsIn_of_numerals {brackets : List Char} (hother : brackets.all fun c => !Number.isNumeral c)
    {t : String} (h : ∀ c ∈ t.toList, Number.isNumeral c) : endsIn brackets t = false := by
  refine endsIn_of_forall fun c hc hbracket => ?_
  have hnot : (!Number.isNumeral c) = true := List.all_eq_true.1 hother c hbracket
  rw [h c hc] at hnot
  cases hnot

section

variable (called : String → String)

/-- Whether the text of a value ends with an opening bracket: that of a character, of an enum entry, or
of an annotation without arguments can. -/
def AnnotValue.endsOpen : AnnotValue → Bool
  | .char c => argumentBrackets.contains c
  | .enumEntry _ entryName => Text.endsIn argumentBrackets entryName
  | .annot ⟨className, []⟩ => Text.endsIn argumentBrackets (called className)
  | _ => false

theorem AnnotValue.endsIn_text (list : List String → String) (value : AnnotValue) :
    Text.endsIn argumentBrackets (value.text called list) = value.endsOpen called := by
  cases value with
  | byte v | short v | int v | long v =>
    rw [text, Text.endsIn_of_numerals (by decide) fun _ => Number.isNumeral_of_mem_int]
    rfl
  | ubyte v | ushort v | uint v | ulong v =>
    rw [text, Text.endsIn_of_numerals (by decide) fun _ => Number.isNumeral_of_mem_nat]
    rfl
  | float v | double v =>
    rw [text, Text.endsIn_of_numerals (by decide) fun _ => Number.isNumeral_of_mem_binary _ _]
    rfl
  | char v => simp [text, Text.endsIn, endsOpen]
  | boolean v =>
    have hwords : ∀ b : Bool, Text.endsIn argumentBrackets (if b then "true" else "false") = false := by decide
    rw [text, hwords]
    rfl
  | string v =>
    rw [text, Text.endsIn_append (by decide)]
    rfl
  | classLiteral className dimensions =>
    rw [text, arrayLiteral]
    split
    · rw [Text.endsIn_append (by decide)]
      rfl
    · rw [Text.endsIn_append (by decide)]
      rfl
  | enumEntry className entryName =>
    rw [text, Text.endsIn_append_of_not (by rw [Text.endsIn_append (by decide)]; rfl)]
    rfl
  | annot a =>
    obtain ⟨className, arguments⟩ := a
    rw [text, KotlinAnnot.text]
    cases arguments with
    | nil =>
      rw [List.isEmpty_nil, if_pos rfl, String.append_empty]
      rfl
    | cons argument rest =>
      rw [List.isEmpty_cons, if_neg Bool.false_ne_true, ← String.append_assoc, Text.endsIn_append (by decide)]
      rfl
  | array values =>
    rw [text, Text.endsIn_append (by decide)]
    rfl

mutual
/-- Whether no comma is missing in the text of an annotation: no argument but the last of its list, here
or further inside, ends with an opening bracket. -/
def KotlinAnnot.isSeparated : KotlinAnnot → Bool
  | ⟨_, arguments⟩ => AnnotArgument.areSeparated arguments
def AnnotArgument.areSeparated : List AnnotArgument → Bool
  | [] => true
  | ⟨_, value⟩ :: rest =>
    value.isSeparated && (rest.isEmpty || !value.endsOpen called) && AnnotArgument.areSeparated rest
def AnnotValue.isSeparated : AnnotValue → Bool
  | .annot a => a.isSeparated
  | .array values => AnnotValue.areSeparated values
  | _ => true
def AnnotValue.areSeparated : List AnnotValue → Bool
  | [] => true
  | value :: rest => value.isSeparated && AnnotValue.areSeparated rest
end

end

theorem AnnotArgument.isEmpty_texts (called : String → String) (list : List String → String)
    (arguments : List AnnotArgument) : (texts called list arguments).isEmpty = arguments.isEmpty := by
  cases arguments with
  | nil => rfl
  | cons argument rest =>
    obtain ⟨name, value⟩ := argument
    rw [texts]
    rfl

theorem AnnotValue.isEmpty_texts (called : String → String) (list : List String → String)
    (values : List AnnotValue) : (texts called list values).isEmpty = values.isEmpty := by
  cases values with
  | nil => rfl
  | cons value rest => rfl

/-- A comma is there or not. -/
theorem Trims.comma (last opens : Bool) : Trims (if last || opens then "" else ", ")
    (if last then "" else ", ") (last || !opens) := by
  refine ⟨?_, ?_⟩
  · revert last opens
    decide
  · revert last opens
    decide

section

variable (called : String → String)

mutual
theorem KotlinAnnot.trims : ∀ a : KotlinAnnot, Trims (a.text called (Text.listed argumentBrackets))
    (a.text called (Text.joinWith ", ")) (a.isSeparated called)
  | ⟨className, arguments⟩ => by
    rw [KotlinAnnot.text, KotlinAnnot.text, KotlinAnnot.isSeparated]
    have harguments : Trims
        (if arguments.isEmpty then "" else
          "(" ++ Text.listed argumentBrackets
            (AnnotArgument.texts called (Text.listed argumentBrackets) arguments) ++ ")")
        (if arguments.isEmpty then "" else
          "(" ++ Text.joinWith ", " (AnnotArgument.texts called (Text.joinWith ", ") arguments) ++ ")")
        (AnnotArgument.areSeparated called arguments) := by
      split
      · next hnone =>
        rw [List.isEmpty_iff.1 hnone, AnnotArgument.areSeparated]
        exact (Trims.refl "").congr (by simp)
      · have hbrackets := ((Trims.refl "(").append (AnnotArgument.trims arguments)).append (Trims.refl ")")
        exact hbrackets.congr (by simp)
    exact ((Trims.refl (called className)).append harguments).congr (by simp)
theorem AnnotArgument.trims : ∀ arguments : List AnnotArgument,
    Trims (Text.listed argumentBrackets (AnnotArgument.texts called (Text.listed argumentBrackets) arguments))
      (Text.joinWith ", " (AnnotArgument.texts called (Text.joinWith ", ") arguments))
      (AnnotArgument.areSeparated called arguments)
  | [] => (Trims.refl "").congr (by simp [AnnotArgument.areSeparated])
  | ⟨name, value⟩ :: rest => by
    have hopens : Text.endsIn argumentBrackets (name ++ " = " ++ value.text called (Text.listed argumentBrackets)) =
        value.endsOpen called := by
      rw [Text.endsIn_append_of_not (by rw [Text.endsIn_append (by decide)]; rfl), AnnotValue.endsIn_text]
    rw [AnnotArgument.texts, AnnotArgument.texts, Text.listed, Text.joinWith_cons, AnnotArgument.isEmpty_texts,
      AnnotArgument.isEmpty_texts, hopens, AnnotArgument.areSeparated]
    have hargument := (Trims.refl (name ++ " = ")).append (AnnotValue.trims value)
    refine ((hargument.append (.comma rest.isEmpty (value.endsOpen called))).append (AnnotArgument.trims rest)).congr ?_
    simp only [true_and, Bool.and_eq_true]
theorem AnnotValue.trims : ∀ value : AnnotValue, Trims (value.text called (Text.listed argumentBrackets))
    (value.text called (Text.joinWith ", ")) (value.isSeparated called)
  | .byte _ | .char _ | .short _ | .int _ | .long _ | .float _ | .double _ | .boolean _ | .ubyte _
  | .ushort _ | .uint _ | .ulong _ | .string _ | .classLiteral _ _ | .enumEntry _ _ => by
    simp only [AnnotValue.text, AnnotValue.isSeparated]
    exact (Trims.refl _).congr (by simp)
  | .annot a => by
    rw [AnnotValue.text, AnnotValue.text, AnnotValue.isSeparated]
    exact KotlinAnnot.trims a
  | .array values => by
    rw [AnnotValue.text, AnnotValue.text, AnnotValue.isSeparated]
    exact (((Trims.refl "[").append (AnnotValue.trims_texts values)).append (Trims.refl "]")).congr (by simp)
theorem AnnotValue.trims_texts : ∀ values : List AnnotValue,
    Trims (Text.joinWith ", " (AnnotValue.texts called (Text.listed argumentBrackets) values))
      (Text.joinWith ", " (AnnotValue.texts called (Text.joinWith ", ") values))
      (AnnotValue.areSeparated called values)
  | [] => (Trims.refl "").congr (by simp [AnnotValue.areSeparated])
  | value :: rest => by
    rw [AnnotValue.texts, AnnotValue.texts, Text.joinWith_cons, Text.joinWith_cons, AnnotValue.isEmpty_texts,
      AnnotValue.isEmpty_texts, AnnotValue.areSeparated]
    have hvalue := (AnnotValue.trims value).append (Trims.refl (if rest.isEmpty then "" else ", "))
    exact (hvalue.append (AnnotValue.trims_texts rest)).congr (by simp)
end

end

/-! ## What the renderer writes -/

/-- After a text was written, it decides what the buffer ends with. -/
theorem Buffers.endsIn_of_write {b c : Buffers} {text : String} {brackets : List Char} (h : b.write text = .ok c)
    (htext : text ≠ "") : c.previousChar?.any brackets.contains = Text.endsIn brackets text := by
  have hlast : text.toList.getLast? ≠ none := by simpa using htext
  obtain ⟨d, hd⟩ := Option.ne_none_iff_exists'.1 hlast
  rw [previousChar?_of_write h, hd, Option.some_or, Text.endsIn, hd]

/-- What a class is called in the annotations of a scope. -/
def Scope.called (s : Scope) (className : String) : String := s.resolve className "."

namespace Render

/-- An action appends a text and does no more. -/
def Adds (s : Session) (text : String) (m : Render Unit) : Prop :=
  ∃ out, s.out.write text = .ok out ∧ m s = .ok ((), { s with out })

namespace Adds

variable {s : Session} {text more : String} {m k : Render Unit}

theorem pure (hs : s.out.stack ≠ []) : Adds s "" (pure ()) := ⟨s.out, Buffers.write_empty hs, rfl⟩

theorem write (hs : s.out.stack ≠ []) (text : String) : Adds s text (write text) := by
  obtain ⟨out, hout⟩ := Buffers.exists_write hs text
  exact ⟨out, hout, by simp [Render.write, changeOut, hout]⟩

theorem seq (hm : Adds s text m)
    (hk : ∀ out, out.stack ≠ [] → s.out.write text = .ok out → Adds { s with out } more k) :
    Adds s (text ++ more) (do m; k) := by
  obtain ⟨out, hout, hrun⟩ := hm
  obtain ⟨out', hout', hrun'⟩ := hk out (Buffers.stack_ne_nil_of_write hout) hout
  exact ⟨out', Buffers.write_write hout hout', by rw [bind_of_ok hrun, hrun']⟩

/-- A comma is written unless the buffer ends with one of some brackets. -/
theorem separate (hs : s.out.stack ≠ []) (brackets : List Char) :
    Adds s (if s.out.previousChar?.any brackets.contains then "" else ", ") (separateUnlessAfter brackets) := by
  change Adds s _ (fun s => (if s.out.previousChar?.any brackets.contains then Pure.pure () else Render.write ", " :
    Render Unit) s)
  unfold Adds
  simp only
  split
  · exact pure hs
  · exact write hs ", "

theorem resolve {qualified nesting : String} {k : String → Render Unit}
    (hk : Adds s text (k (s.scope.resolve qualified nesting))) : Adds s text (resolve qualified nesting >>= k) := hk

/-- Right after an opening bracket no comma is due. -/
theorem opened {brackets : List Char} {bracket : String} {none : Bool} {out : Buffers}
    (hopen : s.out.write bracket = .ok out) (hbracket : Text.endsIn brackets bracket = true)
    (h : Adds { s with out } ((if none || out.previousChar?.any brackets.contains then "" else ", ") ++ text) m) :
    Adds { s with out } text m := by
  have hne : bracket ≠ "" := by
    rintro rfl
    cases hbracket
  rwa [Buffers.endsIn_of_write hopen hne, hbracket, Bool.or_true, if_pos rfl, String.empty_append] at h

theorem each {α : Type} {act : α → Render Unit} {line : α → String} {items : List α} (hs : s.out.stack ≠ [])
    (h : ∀ a ∈ items, ∀ out : Buffers, out.stack ≠ [] → out.depth = s.out.depth →
      Adds { s with out } (line a) (act a)) : Adds s (String.join (items.map line)) (each act items) := by
  induction items generalizing s with
  | nil => exact pure hs
  | cons a items ih =>
    rw [Render.each, List.map_cons, String.join_cons]
    refine seq (h a List.mem_cons_self s.out hs rfl) fun out hout hwrite => ?_
    refine ih (s := { s with out }) hout fun b hb out' hout' hdepth => ?_
    exact h b (List.mem_cons_of_mem a hb) out' hout' (hdepth.trans (Buffers.depth_of_write hwrite))

mutual
theorem kotlinAnnotBody : ∀ (a : KotlinAnnot) {s : Session}, s.out.stack ≠ [] →
    Adds s (a.text s.scope.called (Text.listed argumentBrackets)) (kotlinAnnotBody a)
  | ⟨className, arguments⟩, s, hs => by
    rw [Render.kotlinAnnotBody, KotlinAnnot.text]
    refine resolve (seq (write hs _) fun out hout _ => ?_)
    split
    · exact pure hout
    · rw [String.append_assoc]
      refine seq (write hout "(") fun out' hout' hopen => ?_
      refine seq ?_ fun out'' hout'' _ => write hout'' ")"
      exact opened hopen (by decide) (annotArguments arguments (s := { s with out := out' }) hout')
theorem annotArguments : ∀ (arguments : List AnnotArgument) {s : Session}, s.out.stack ≠ [] →
    Adds s ((if arguments.isEmpty || s.out.previousChar?.any argumentBrackets.contains then "" else ", ") ++
      Text.listed argumentBrackets (AnnotArgument.texts s.scope.called (Text.listed argumentBrackets) arguments))
      (annotArguments arguments)
  | [], s, hs => by
    rw [Render.annotArguments, AnnotArgument.texts, Text.listed, List.isEmpty_nil, Bool.true_or, if_pos rfl,
      String.append_empty]
    exact pure hs
  | ⟨name, value⟩ :: rest, s, hs => by
    rw [Render.annotArguments, AnnotArgument.texts, Text.listed, AnnotArgument.isEmpty_texts, List.isEmpty_cons,
      Bool.false_or]
    simp only [String.append_assoc]
    refine seq (separate hs argumentBrackets) fun out₁ h₁ _ => ?_
    refine seq (write h₁ name) fun out₂ h₂ hname => ?_
    refine seq (write h₂ " = ") fun out₃ h₃ hequals => ?_
    refine seq (annotValue value h₃) fun out₄ h₄ hvalue => ?_
    have hargument := Buffers.write_write hname (Buffers.write_write hequals hvalue)
    have hrest := annotArguments rest (s := { s with out := out₄ }) h₄
    rw [Buffers.endsIn_of_write hargument (by simp)] at hrest
    exact hrest
theorem annotValue : ∀ (value : AnnotValue) {s : Session}, s.out.stack ≠ [] →
    Adds s (value.text s.scope.called (Text.listed argumentBrackets)) (annotValue value)
  | .byte _, s, hs | .char _, s, hs | .short _, s, hs | .int _, s, hs | .long _, s, hs | .float _, s, hs
  | .double _, s, hs | .boolean _, s, hs | .ubyte _, s, hs | .ushort _, s, hs | .uint _, s, hs | .ulong _, s, hs
  | .string _, s, hs => by
    rw [Render.annotValue, AnnotValue.text]
    exact write hs _
  | .classLiteral className dimensions, s, hs => by
    rw [Render.annotValue, AnnotValue.text]
    exact resolve (write hs _)
  | .enumEntry className entryName, s, hs => by
    rw [Render.annotValue, AnnotValue.text]
    exact resolve (write hs _)
  | .annot a, s, hs => by
    rw [Render.annotValue, AnnotValue.text]
    exact kotlinAnnotBody a hs
  | .array values, s, hs => by
    rw [Render.annotValue, AnnotValue.text, String.append_assoc]
    refine seq (write hs "[") fun out hout _ => ?_
    refine seq ?_ fun out' hout' _ => write hout' "]"
    have hvalues := annotValues true values (s := { s with out }) hout
    rw [Bool.true_or, if_pos rfl, String.empty_append] at hvalues
    exact hvalues
theorem annotValues : ∀ (first : Bool) (values : List AnnotValue) {s : Session}, s.out.stack ≠ [] →
    Adds s ((if first || values.isEmpty then "" else ", ") ++
      Text.joinWith ", " (AnnotValue.texts s.scope.called (Text.listed argumentBrackets) values))
      (annotValues first values)
  | first, [], s, hs => by
    rw [Render.annotValues, AnnotValue.texts, List.isEmpty_nil, Bool.or_true, if_pos rfl]
    exact pure hs
  | first, value :: rest, s, hs => by
    have htail : ∀ {s : Session}, s.out.stack ≠ [] → Adds s
        (Text.joinWith ", " (AnnotValue.texts s.scope.called (Text.listed argumentBrackets) (value :: rest)))
        (do Render.annotValue value; Render.annotValues false rest) := by
      intro s hs
      rw [AnnotValue.texts, Text.joinWith_cons, AnnotValue.isEmpty_texts, String.append_assoc]
      refine seq (annotValue value hs) fun out hout _ => ?_
      exact annotValues false rest (s := { s with out }) hout
    rw [Render.annotValues, List.isEmpty_cons, Bool.or_false]
    split
    · rw [String.empty_append]
      exact htail hs
    · refine seq (write hs ", ") fun out hout _ => ?_
      exact htail (s := { s with out }) hout
end

end Adds

end Render

namespace Placement

/-- What stands before the name of an annotation, at a depth. -/
def opening (depth : Nat) : Placement → String
  | .inline => "@"
  | .block => Buffers.indentation depth ++ "@"

/-- What stands after an annotation. -/
def closing : Placement → String
  | .inline => " "
  | .block => "\n"

end Placement

theorem Render.Adds.annotSign (placement : Placement) {s : Session} (hs : s.out.stack ≠ []) :
    Adds s (placement.opening s.out.depth) (annotSign placement) := by
  cases placement with
  | inline => exact write hs "@"
  | block => exact write hs _

theorem Render.Adds.kotlinAnnot (placement : Placement) (a : KotlinAnnot) {s : Session} (hs : s.out.stack ≠ []) :
    Adds s (placement.opening s.out.depth ++ a.text s.scope.called (Text.listed argumentBrackets) ++ placement.closing)
      (kotlinAnnot placement a) := by
  rw [String.append_assoc]
  refine seq (annotSign placement hs) fun out hout _ => ?_
  refine seq (kotlinAnnotBody a (s := { s with out }) hout) fun out' hout' _ => ?_
  cases placement with
  | inline => exact write hout' " "
  | block => exact write hout' "\n"

/-- **Arguments are listed with commas, but for those behind an opening bracket.** In every state the
rendering of an annotation comes down to one text, written into the active buffer: the sign, what its
class is called, and in brackets its arguments, with a comma after each but the last unless it ends with
an opening bracket; nested annotations likewise, and arrays always with commas. So the commas are all
there exactly if no argument but the last of its list ends with a bracket, at any depth: none but a
character, an enum entry and an annotation without arguments can. -/
theorem annotation_arguments_listed (placement : Placement) (a : KotlinAnnot) (s : Session) :
    Render.kotlinAnnot placement a s =
      (s.out.write (placement.opening s.out.depth ++ a.text s.scope.called (Text.listed argumentBrackets) ++
        placement.closing)).map (fun out => ((), { s with out })) ∧
    (a.text s.scope.called (Text.listed argumentBrackets) = a.text s.scope.called (Text.joinWith ", ") ↔
      a.isSeparated s.scope.called) := by
  refine ⟨?_, (a.trims s.scope.called).eq_iff⟩
  by_cases hs : s.out.stack = []
  · -- Without a buffer not even the sign can be written.
    have hwrite : ∀ text, s.out.write text = .error .noActiveBuffer := fun text => by simp [Buffers.write, hs]
    have hsign : Render.annotSign placement s = .error .noActiveBuffer := by
      cases placement with
      | inline => simp [Render.annotSign, Render.write, Render.changeOut, hwrite]
      | block => simp [Render.annotSign, Render.writeIndented, Render.changeOut, Buffers.writeIndented, hwrite]
    change Except.bind (Render.annotSign placement s) _ = _
    rw [hsign, hwrite]
    rfl
  · obtain ⟨out, hout, hrun⟩ := Render.Adds.kotlinAnnot placement a hs
    rw [hrun, hout]
    rfl

/-- An annotation with two characters as arguments, the first an opening bracket. -/
def sampleBrackets : KotlinAnnot := ⟨"pkg/Brackets", [⟨"open", .char '('⟩, ⟨"close", .char ')'⟩]⟩

/-- A comma can be missing: after the opening bracket. -/
theorem annotation_comma_missing : ¬ ∀ (placement : Placement) (a : KotlinAnnot) (s : Session), s.out.stack ≠ [] →
    ∃ out, s.out.write (placement.opening s.out.depth ++ a.text s.scope.called (Text.joinWith ", ") ++
        placement.closing) = .ok out ∧
      Render.kotlinAnnot placement a s = .ok ((), { s with out }) := by
  intro h
  obtain ⟨out, hout, hrun⟩ := h .inline sampleBrackets (Session.inSampleFile [""]) (List.cons_ne_nil _ _)
  have hwritten : (Render.kotlinAnnot .inline sampleBrackets (Session.inSampleFile [""])).map (·.2.out.stack) =
      .ok ["@Brackets(open = (close = )) "] := by decide +kernel
  have hlaw : ((Session.inSampleFile [""]).out.write
      (Placement.inline.opening (Session.inSampleFile [""]).out.depth ++
        sampleBrackets.text (Session.inSampleFile [""]).scope.called (Text.joinWith ", ") ++
        Placement.inline.closing)).map (·.stack) = .ok ["@Brackets(open = (, close = )) "] := by decide +kernel
  rw [hrun] at hwritten
  rw [hout] at hlaw
  have htexts := Except.ok.inj (hwritten.symm.trans hlaw)
  revert htexts
  decide

end KotlinMetadata
