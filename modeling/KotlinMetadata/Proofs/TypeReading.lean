/-
Whether a text says which type it is the text of. The types are those built of
classes of the package `pkg` and function types (`PlainType`), and
`PlainType.ofText?` reads them back from their text.

A function type that is not nullable has no bracket around it, and its result
goes on as far as it can. As the receiver of an extension type it therefore
takes the rest of the text into its own result: the text is that of a function
that returns an extension type. `PlainType.settle` turns a type into the one
that its text is read as, and two types have the same text exactly if they
settle to the same type (`PlainType.text_eq_iff`). No other types are taken
for each other.
-/
import KotlinMetadata.Proofs.Resolution
import KotlinMetadata.Proofs.TypeText

namespace KotlinMetadata

/-! ## Types of classes and functions -/

/-- A type built of the classes of one package and of function types, each of them nullable or not. -/
inductive PlainType where
  | named (name : String) (nullable : Bool)
  | function (parameters : List PlainType) (result : PlainType) (nullable : Bool)
  | extension (receiver : PlainType) (parameters : List PlainType) (result : PlainType) (nullable : Bool)

namespace PlainType

/-- The flags of a type that is nullable or not. -/
def flags (nullable : Bool) : FlagSet TypeFlag := if nullable then .ofList [.nullable] else .empty

mutual
/-- The type as a declaration uses it. -/
def toUse : PlainType → TypeUse
  | .named name nullable => { className := some ("pkg/" ++ name), flags := flags nullable }
  | .function parameters result nullable =>
    { className := some (functionTypeStem ++ toString parameters.length)
      flags := flags nullable
      arguments := toArguments parameters ++ [.type result.toUse] }
  | .extension receiver parameters result nullable =>
    { className := some (functionTypeStem ++ toString (parameters.length + 1))
      flags := flags nullable
      arguments := .type receiver.toUse :: toArguments parameters ++ [.type result.toUse]
      annotations := [⟨extensionMark, []⟩] }
/-- Types as arguments. -/
def toArguments : List PlainType → List TypeArgument
  | [] => []
  | t :: rest => .type t.toUse :: toArguments rest
end

mutual
/-- Whether the names are of letters, and the numbers of parameters fit into 64 bits. -/
def isProper : PlainType → Bool
  | .named name _ => !name.isEmpty && name.toList.all Char.isAlpha
  | .function parameters result _ =>
    decide (parameters.length < UInt64.size) && areProper parameters && result.isProper
  | .extension receiver parameters result _ =>
    decide (parameters.length + 1 < UInt64.size) && receiver.isProper && areProper parameters && result.isProper
/-- Whether all types of a list are so. -/
def areProper : List PlainType → Bool
  | [] => true
  | t :: rest => t.isProper && areProper rest
end

section proper

variable {receiver result t : PlainType} {parameters ts : List PlainType} {nullable : Bool}

theorem isProper_named {name : String} :
    (named name nullable).isProper ↔ name ≠ "" ∧ ∀ c ∈ name.toList, c.isAlpha := by
  simp [isProper]

theorem isProper_function : (function parameters result nullable).isProper ↔
    parameters.length < UInt64.size ∧ areProper parameters ∧ result.isProper := by
  simp [isProper, and_assoc]

theorem isProper_extension : (extension receiver parameters result nullable).isProper ↔
    parameters.length + 1 < UInt64.size ∧ receiver.isProper ∧ areProper parameters ∧ result.isProper := by
  simp [isProper, and_assoc]

theorem areProper_cons : areProper (t :: ts) ↔ t.isProper ∧ areProper ts := by
  simp [areProper]

end proper

/-- A nullable function type stands in brackets. -/
def bracketed (nullable : Bool) (form : String) : String := if nullable then "(" ++ form ++ ")?" else form

mutual
/-- The text of the type inside the package. -/
def text : PlainType → String
  | .named name nullable => name ++ if nullable then "?" else ""
  | .function parameters result nullable => bracketed nullable (functionForm false (texts parameters) result.text)
  | .extension receiver parameters result nullable =>
    bracketed nullable (functionForm true (receiver.text :: texts parameters) result.text)
/-- The texts of types. -/
def texts : List PlainType → List String
  | [] => []
  | t :: rest => t.text :: texts rest
end

end PlainType

/-! ## Names of the package -/

/-- A class of the package is called by its name. -/
theorem Scope.called_in_package {s : Scope} (hs : s.package = "pkg") {name : String} (hne : name ≠ "")
    (hletters : ∀ c ∈ name.toList, c.isAlpha) : s.called ("pkg/" ++ name) = name := by
  have hsimple : ∀ c ∈ name.toList, ¬ Name.isSeparator c := by
    intro c hc hsep
    have halpha := hletters c hc
    simp only [Name.isSeparator, Bool.or_eq_true, decide_eq_true_eq] at hsep
    rcases hsep with rfl | rfl <;> exact absurd halpha (by decide)
  have hshorten : s.shorten ("pkg/" ++ name) = name.toList := by
    have hpackage := s.shorten_in_package (by simp [hs]) (by simp [hs]) hsimple
    rwa [hs] at hpackage
  have hstart : name.toList.head?.any isIdentifierStart := by
    cases hlist : name.toList with
    | nil => exact absurd (by simpa using hlist) hne
    | cons c rest =>
      have hc := Text.isAlphabetic_of_isAlpha (hletters c (by simp [hlist]))
      simp [isIdentifierStart, hc]
  have hlong : "pkg/" ++ name ≠ "" := by simp
  rw [called, ← String.toList_inj, s.toList_resolve hlong, hshorten, Name.dotted_of_simple _ hsimple, Name.startable,
    if_pos hstart]

namespace PlainType

/-! ## The text of a type as it is used -/

theorem contains_flags (nullable : Bool) : (flags nullable).contains .nullable = nullable ∧
    (flags nullable).contains .definitelyNonNull = false := by
  cases nullable <;> decide

theorem typeFront_flags (s : Scope) {annots : List KotlinAnnot} (h : annots = [] ∨ annots = [⟨extensionMark, []⟩])
    (nullable : Bool) : s.typeFront annots (flags nullable) .invariant = "" := by
  have hplain : plainAnnots annots = [] := by rcases h with rfl | rfl <;> decide
  have hname : parameterName? annots = none := by rcases h with rfl | rfl <;> decide
  have hkeywords : typeKeywords (flags nullable) = "" := by cases nullable <;> decide
  simp [Scope.typeFront, hplain, hname, hkeywords, Variance.keyword]

@[simp] theorem length_toArguments (ts : List PlainType) : (toArguments ts).length = ts.length := by
  induction ts with
  | nil => rfl
  | cons t ts ih => rw [toArguments, List.length_cons, ih, List.length_cons]

/-- A function type has its form, in brackets if it is nullable. -/
theorem text_of_arguments (s : Scope) {annots : List KotlinAnnot}
    (hannots : annots = [] ∨ annots = [⟨extensionMark, []⟩]) (parameters : List TypeArgument)
    (hfits : parameters.length < UInt64.size) (result : TypeArgument) (nullable : Bool) :
    TypeUse.text s
      { className := some (functionTypeStem ++ toString parameters.length)
        flags := flags nullable
        arguments := parameters ++ [result]
        annotations := annots } =
      bracketed nullable (functionForm (isExtension annots) (parameters.map (·.text s)) (result.text s)) := by
  obtain ⟨hnullable, hnonNull⟩ := contains_flags nullable
  rw [TypeUse.text_of_function s rfl hfits rfl]
  simp only [typeFront_flags s hannots, hnullable, hnonNull, Bool.false_eq_true, if_false, String.empty_append,
    String.append_empty]
  cases nullable with
  | false => simp [bracketed]
  | true => simp [bracketed]

mutual
/-- In its package a type has its text. -/
theorem text_toUse {s : Scope} (hs : s.package = "pkg") : (t : PlainType) → t.isProper → t.toUse.text s = t.text
  | .named name nullable => by
    intro h
    obtain ⟨hne, hletters⟩ := isProper_named.1 h
    have hclass : Text.beginsWith functionTypeStem ("pkg/" ++ name) = false := by
      rw [Text.beginsWith, String.toList_append]
      rfl
    obtain ⟨hnullable, hnonNull⟩ := contains_flags nullable
    rw [toUse, TypeUse.text, typeFront_flags s (.inl rfl)]
    simp [Option.filter_some, hclass, Scope.typeName, Scope.called_in_package hs hne hletters, hnullable, hnonNull,
      text]
  | .function parameters result nullable => by
    intro h
    obtain ⟨hfits, hparameters, hresult⟩ := isProper_function.1 h
    have hform := text_of_arguments s (.inl rfl) (toArguments parameters) (by simpa using hfits)
      (.type result.toUse) nullable
    rw [length_toArguments, text_toArguments hs parameters hparameters, TypeArgument.text,
      text_toUse hs result hresult] at hform
    rw [toUse, text, hform]
    rfl
  | .extension receiver parameters result nullable => by
    intro h
    obtain ⟨hfits, hreceiver, hparameters, hresult⟩ := isProper_extension.1 h
    have hform := text_of_arguments s (.inr rfl) (.type receiver.toUse :: toArguments parameters)
      (by simpa using hfits) (.type result.toUse) nullable
    rw [List.length_cons, length_toArguments, List.map_cons, text_toArguments hs parameters hparameters,
      TypeArgument.text, TypeArgument.text, text_toUse hs receiver hreceiver, text_toUse hs result hresult] at hform
    rw [toUse, text, hform]
    rfl
theorem text_toArguments {s : Scope} (hs : s.package = "pkg") : (ts : List PlainType) → areProper ts →
    (toArguments ts).map (·.text s) = texts ts
  | [], _ => rfl
  | t :: ts, h => by
    obtain ⟨ht, hts⟩ := areProper_cons.1 h
    rw [toArguments, List.map_cons, TypeArgument.text, text_toUse hs t ht, text_toArguments hs ts hts, texts]
end

/-! ## Settled types -/

/-- Whether a type takes what stands behind it into its result: a function type that no bracket closes. -/
def isOpen : PlainType → Bool
  | .named _ _ => false
  | .function _ _ nullable | .extension _ _ _ nullable => !nullable

mutual
/-- Whether no receiver in the type is open. -/
def isSettled : PlainType → Bool
  | .named _ _ => true
  | .function parameters result _ => areSettled parameters && result.isSettled
  | .extension receiver parameters result _ =>
    !receiver.isOpen && receiver.isSettled && areSettled parameters && result.isSettled
/-- Whether this holds of all types of a list. -/
def areSettled : List PlainType → Bool
  | [] => true
  | t :: rest => t.isSettled && areSettled rest
end

/-- The extension type with a receiver, as its text is read: an open receiver has the rest as the
receiver of its own result. -/
def behind (parameters : List PlainType) (result : PlainType) : (receiver : PlainType) → (nullable : Bool) → PlainType
  | .function ps r false, nullable => .function ps (behind parameters result r false) nullable
  | .extension receiver ps r false, nullable => .extension receiver ps (behind parameters result r false) nullable
  | receiver, nullable => .extension receiver parameters result nullable

mutual
/-- The type that the text of a type is read as. -/
def settle : PlainType → PlainType
  | .named name nullable => .named name nullable
  | .function parameters result nullable => .function (settleAll parameters) result.settle nullable
  | .extension receiver parameters result nullable =>
    behind (settleAll parameters) result.settle receiver.settle nullable
/-- The types that texts are read as. -/
def settleAll : List PlainType → List PlainType
  | [] => []
  | t :: rest => t.settle :: settleAll rest
end

section settled

variable {receiver result t : PlainType} {parameters ts : List PlainType} {nullable : Bool}

theorem isSettled_function :
    (function parameters result nullable).isSettled ↔ areSettled parameters ∧ result.isSettled := by
  simp [isSettled]

theorem isSettled_extension : (extension receiver parameters result nullable).isSettled ↔
    receiver.isOpen = false ∧ receiver.isSettled ∧ areSettled parameters ∧ result.isSettled := by
  simp [isSettled, and_assoc]

theorem areSettled_cons : areSettled (t :: ts) ↔ t.isSettled ∧ areSettled ts := by
  simp [areSettled]

theorem text_behind (nullable : Bool) :
    (behind parameters result receiver nullable).text = (extension receiver parameters result nullable).text := by
  fun_induction behind parameters result receiver nullable with
  | case1 ps r nullable ih => simp [text, ih, bracketed, functionForm, String.append_assoc]
  | case2 receiver ps r nullable ih => simp [text, ih, bracketed, functionForm, String.append_assoc]
  | case3 => rfl

theorem behind_of_not_isOpen (h : receiver.isOpen = false) (nullable : Bool) :
    behind parameters result receiver nullable = extension receiver parameters result nullable := by
  unfold behind
  split
  · cases h
  · cases h
  · rfl

theorem isSettled_behind (hreceiver : receiver.isSettled) (hparameters : areSettled parameters)
    (hresult : result.isSettled) (nullable : Bool) : (behind parameters result receiver nullable).isSettled := by
  fun_induction behind parameters result receiver nullable with
  | case1 ps r nullable ih =>
    obtain ⟨hps, hr⟩ := isSettled_function.1 hreceiver
    exact isSettled_function.2 ⟨hps, ih hr⟩
  | case2 receiver ps r nullable ih =>
    obtain ⟨hclosed, hinner, hps, hr⟩ := isSettled_extension.1 hreceiver
    exact isSettled_extension.2 ⟨hclosed, hinner, hps, ih hr⟩
  | case3 receiver nullable hfunction hextension =>
    have hclosed : receiver.isOpen = false := by
      cases receiver with
      | named => rfl
      | function ps r q => cases q with
        | false => exact absurd rfl (hfunction ps r)
        | true => rfl
      | extension a ps r q => cases q with
        | false => exact absurd rfl (hextension a ps r)
        | true => rfl
    exact isSettled_extension.2 ⟨hclosed, hreceiver, hparameters, hresult⟩

theorem isProper_behind (h : (extension receiver parameters result nullable).isProper) :
    (behind parameters result receiver nullable).isProper := by
  fun_induction behind parameters result receiver nullable with
  | case1 ps r nullable ih =>
    obtain ⟨hfits, hreceiver, hparameters, hresult⟩ := isProper_extension.1 h
    obtain ⟨hfits', hps, hr⟩ := isProper_function.1 hreceiver
    exact isProper_function.2 ⟨hfits', hps, ih (isProper_extension.2 ⟨hfits, hr, hparameters, hresult⟩)⟩
  | case2 receiver ps r nullable ih =>
    obtain ⟨hfits, hreceiver, hparameters, hresult⟩ := isProper_extension.1 h
    obtain ⟨hfits', hinner, hps, hr⟩ := isProper_extension.1 hreceiver
    exact isProper_extension.2 ⟨hfits', hinner, hps, ih (isProper_extension.2 ⟨hfits, hr, hparameters, hresult⟩)⟩
  | case3 => exact h

end settled

@[simp] theorem length_settleAll (ts : List PlainType) : (settleAll ts).length = ts.length := by
  induction ts with
  | nil => rfl
  | cons t ts ih => rw [settleAll, List.length_cons, ih, List.length_cons]

mutual
/-- A type and the type that it settles to have the same text. -/
theorem text_settle : (t : PlainType) → t.settle.text = t.text
  | .named _ _ => rfl
  | .function parameters result _ => by
    rw [settle, text, text, texts_settleAll parameters, text_settle result]
  | .extension receiver parameters result _ => by
    rw [settle, text_behind, text, text, text_settle receiver, texts_settleAll parameters, text_settle result]
theorem texts_settleAll : (ts : List PlainType) → texts (settleAll ts) = texts ts
  | [] => rfl
  | t :: ts => by rw [settleAll, texts, texts, text_settle t, texts_settleAll ts]
end

mutual
theorem isSettled_settle : (t : PlainType) → t.settle.isSettled
  | .named _ _ => rfl
  | .function parameters result _ =>
    isSettled_function.2 ⟨areSettled_settleAll parameters, isSettled_settle result⟩
  | .extension receiver parameters result nullable =>
    isSettled_behind (isSettled_settle receiver) (areSettled_settleAll parameters) (isSettled_settle result) nullable
theorem areSettled_settleAll : (ts : List PlainType) → areSettled (settleAll ts)
  | [] => rfl
  | t :: ts => areSettled_cons.2 ⟨isSettled_settle t, areSettled_settleAll ts⟩
end

mutual
theorem isProper_settle : (t : PlainType) → t.isProper → t.settle.isProper
  | .named _ _, h => h
  | .function parameters result _, h => by
    obtain ⟨hfits, hparameters, hresult⟩ := isProper_function.1 h
    rw [← length_settleAll] at hfits
    exact isProper_function.2 ⟨hfits, areProper_settleAll parameters hparameters, isProper_settle result hresult⟩
  | .extension receiver parameters result _, h => by
    obtain ⟨hfits, hreceiver, hparameters, hresult⟩ := isProper_extension.1 h
    rw [← length_settleAll] at hfits
    exact isProper_behind (isProper_extension.2 ⟨hfits, isProper_settle receiver hreceiver,
      areProper_settleAll parameters hparameters, isProper_settle result hresult⟩)
theorem areProper_settleAll : (ts : List PlainType) → areProper ts → areProper (settleAll ts)
  | [], _ => rfl
  | t :: ts, h => by
    obtain ⟨ht, hts⟩ := areProper_cons.1 h
    exact areProper_cons.2 ⟨isProper_settle t ht, areProper_settleAll ts hts⟩
end

mutual
theorem settle_of_isSettled : (t : PlainType) → t.isSettled → t.settle = t
  | .named _ _, _ => rfl
  | .function parameters result _, h => by
    obtain ⟨hparameters, hresult⟩ := isSettled_function.1 h
    rw [settle, settleAll_of_areSettled parameters hparameters, settle_of_isSettled result hresult]
  | .extension receiver parameters result _, h => by
    obtain ⟨hclosed, hreceiver, hparameters, hresult⟩ := isSettled_extension.1 h
    rw [settle, settle_of_isSettled receiver hreceiver, settleAll_of_areSettled parameters hparameters,
      settle_of_isSettled result hresult, behind_of_not_isOpen hclosed]
theorem settleAll_of_areSettled : (ts : List PlainType) → areSettled ts → settleAll ts = ts
  | [], _ => rfl
  | t :: ts, h => by
    obtain ⟨ht, hts⟩ := areSettled_cons.1 h
    rw [settleAll, settle_of_isSettled t ht, settleAll_of_areSettled ts hts]
end

/-! ## Reading -/

end PlainType

namespace Text

variable {token : String} {text : List Char}

/-- The rest of a text behind a token that it begins with. -/
def past? (token : String) (text : List Char) : Option (List Char) := token.toList.isPrefixOf? text

@[simp] theorem past?_append (token : String) (rest : List Char) : past? token (token.toList ++ rest) = some rest :=
  List.isPrefixOf?_eq_some_iff_append_eq.2 rfl

/-- A text does not begin with a token that has another first character. -/
theorem past?_eq_none (c : Char) (htoken : token.toList.head? = some c) (h : c ∉ text.head?) :
    past? token text = none := by
  cases hrest : past? token text with
  | none => rfl
  | some rest =>
    have htext := List.append_eq_of_isPrefixOf?_eq_some hrest
    refine absurd ?_ h
    rw [← htext, List.head?_append, htoken, Option.some_or]
    rfl

end Text

namespace PlainType

/-- The nullable form of a type. -/
def orNull : PlainType → PlainType
  | .named name _ => .named name true
  | .function parameters result _ => .function parameters result true
  | .extension receiver parameters result _ => .extension receiver parameters result true

/-- Reads an arrow and the result of a function type. -/
def readResult (read : List Char → Option (PlainType × List Char)) (build : PlainType → PlainType)
    (text : List Char) : Option (PlainType × List Char) := do
  let (result, rest) ← read (← Text.past? " -> " text)
  return (build result, rest)

mutual
/-- Reads a type off the front of a text, and returns the rest. The bound is on the number of calls, one
inside the other. -/
def readType : Nat → List Char → Option (PlainType × List Char)
  | 0, _ => none
  | n + 1, text =>
    match Text.past? "(" text with
    | some text => do
      let (types, rest) ← readTypes n text
      -- The brackets are those of a nullable type, or they hold the parameters of a function.
      match types, Text.past? "?" rest with
      | [t], some rest => readBehind n t.orNull rest
      | types, _ => readResult (readType n) (.function types · false) rest
    | none =>
      let name := String.ofList (text.takeWhile Char.isAlpha)
      let rest := text.dropWhile Char.isAlpha
      match Text.past? "?" rest with
      | some rest => readBehind n (.named name true) rest
      | none => readBehind n (.named name false) rest
/-- Reads what follows a type that may be a receiver. -/
def readBehind : Nat → PlainType → List Char → Option (PlainType × List Char)
  | 0, t, text => some (t, text)
  | n + 1, t, text =>
    match Text.past? ".(" text with
    | some text => do
      let (types, rest) ← readTypes n text
      readResult (readType n) (.extension t types · false) rest
    | none => some (t, text)
/-- Reads types up to a closing bracket. -/
def readTypes : Nat → List Char → Option (List PlainType × List Char)
  | 0, _ => none
  | n + 1, text =>
    match Text.past? ")" text with
    | some rest => some ([], rest)
    | none => do
      let (t, rest) ← readType n text
      let (types, rest) ← readTypes n ((Text.past? ", " rest).getD rest)
      return (t :: types, rest)
end

/-- A text that ends a type: nothing, a comma or a closing bracket. -/
def Stops (text : List Char) : Prop := ∀ c ∈ text.head?, c = ',' ∨ c = ')'

/-- A text that no name goes on into. -/
def Parts (text : List Char) : Prop := ∀ c ∈ text.head?, ¬ c.isAlpha ∧ c ≠ '?'

/-- A type is read off the front of a text that goes on with a stop. -/
def Reads (t : PlainType) : Prop :=
  ∀ n rest, 2 * t.text.toList.length ≤ n → Stops rest → readType n (t.text.toList ++ rest) = some (t, rest)

/-- A type is read off the front of a text, and may be the receiver of what follows. -/
def ReadsClosed (t : PlainType) : Prop :=
  ∀ n rest, 2 * t.text.toList.length ≤ n + 1 → Parts rest →
    readType (n + 1) (t.text.toList ++ rest) = readBehind n t rest

/-- Types are read with the commas between them. -/
def ReadsAll (ts : List PlainType) : Prop :=
  ∀ n rest, 2 * (Text.joinWith ", " (texts ts)).toList.length < n →
    readTypes n ((Text.joinWith ", " (texts ts)).toList ++ ')' :: rest) = some (ts, rest)

theorem head_text : (t : PlainType) → t.isProper → ∃ c ∈ t.text.toList.head?, c = '(' ∨ c.isAlpha
  | .named name nullable, h => by
    obtain ⟨hne, hletters⟩ := isProper_named.1 h
    cases hlist : name.toList with
    | nil => exact absurd (by simpa using hlist) hne
    | cons c rest => exact ⟨c, by simp [text, hlist], .inr (hletters c (by simp [hlist]))⟩
  | .function parameters result nullable, _ => by
    refine ⟨'(', ?_, .inl rfl⟩
    cases nullable <;> simp [text, bracketed, functionForm]
  | .extension receiver parameters result true, _ => ⟨'(', by simp [text, bracketed], .inl rfl⟩
  | .extension receiver parameters result false, h => by
    obtain ⟨-, hreceiver, -, -⟩ := isProper_extension.1 h
    obtain ⟨c, hc, hfirst⟩ := head_text receiver hreceiver
    refine ⟨c, ?_, hfirst⟩
    simp only [Option.mem_def] at hc
    simp [text, bracketed, functionForm, hc]

theorem length_text_pos {t : PlainType} (h : t.isProper) : 0 < t.text.toList.length := by
  obtain ⟨c, hc, -⟩ := head_text t h
  refine List.length_pos_iff.2 fun hnil => ?_
  simp [hnil] at hc

theorem readBehind_of_stops (t : PlainType) (n : Nat) {rest : List Char} (h : Stops rest) :
    readBehind n t rest = some (t, rest) := by
  have hnone : Text.past? ".(" rest = none :=
    Text.past?_eq_none '.' rfl fun hc => absurd (h _ hc) (by decide)
  cases n with
  | zero => rfl
  | succ n => rw [readBehind, hnone]

theorem ReadsClosed.reads {t : PlainType} (ht : t.isProper) (h : ReadsClosed t) : Reads t := by
  intro n rest hn hstops
  have hpos := length_text_pos ht
  obtain ⟨n, rfl⟩ : ∃ m, n = m + 1 := ⟨n - 1, by omega⟩
  have hparts : Parts rest := by
    intro c hc
    rcases hstops c hc with rfl | rfl <;> decide
  rw [h n rest hn hparts, readBehind_of_stops t n hstops]

theorem readsClosed_named {name : String} {nullable : Bool} (h : (named name nullable).isProper) :
    ReadsClosed (named name nullable) := by
  obtain ⟨hne, hletters⟩ := isProper_named.1 h
  intro n rest _ hparts
  have hsplit : ∀ more : List Char, (∀ c ∈ more.head?, ¬ c.isAlpha) →
      (name.toList ++ more).takeWhile Char.isAlpha = name.toList ∧
      (name.toList ++ more).dropWhile Char.isAlpha = more := by
    intro more hmore
    rw [List.takeWhile_append_of_pos hletters, List.dropWhile_append_of_pos hletters]
    cases more with
    | nil => simp
    | cons c more => simp [hmore c rfl]
  have hopening : ∀ more, Text.past? "(" (name.toList ++ more) = none := by
    intro more
    cases hlist : name.toList with
    | nil => exact absurd (by simpa using hlist) hne
    | cons c rest =>
      refine Text.past?_eq_none '(' rfl fun hc => ?_
      cases Option.some.inj hc
      exact absurd (hletters '(' (by simp [hlist])) (by decide)
  rw [text, String.toList_append, List.append_assoc, readType, hopening]
  cases nullable with
  | false =>
    have hmark : Text.past? "?" rest = none := Text.past?_eq_none '?' rfl fun hc => (hparts _ hc).2 rfl
    obtain ⟨htake, hdrop⟩ := hsplit rest fun c hc => (hparts c hc).1
    simp only [Bool.false_eq_true, if_false, String.toList_empty, List.nil_append, htake, hdrop, hmark,
      String.ofList_toList]
  | true =>
    have hmark : Text.past? "?" ("?".toList ++ rest) = some rest := Text.past?_append "?" rest
    obtain ⟨htake, hdrop⟩ := hsplit ("?".toList ++ rest) fun c hc => by cases Option.some.inj hc; decide
    simp only [if_true, htake, hdrop, hmark, String.ofList_toList]

theorem readsAll_nil : ReadsAll [] := by
  intro n rest hn
  obtain ⟨n, rfl⟩ : ∃ m, n = m + 1 := ⟨n - 1, by omega⟩
  have hclosing : Text.past? ")" (')' :: rest) = some rest := Text.past?_append ")" rest
  simp [readTypes, texts, Text.joinWith, hclosing]

/-- Behind a type of a list comes a stop, and the rest of the list behind the comma, if there is one. -/
theorem stops_listed (ts : List PlainType) (rest : List Char) {more : List Char}
    (hmore : (if (texts ts).isEmpty then "" else ", ").toList ++
      ((Text.joinWith ", " (texts ts)).toList ++ ')' :: rest) = more) :
    Stops more ∧ (Text.past? ", " more).getD more = (Text.joinWith ", " (texts ts)).toList ++ ')' :: rest := by
  subst hmore
  cases ts with
  | nil =>
    have hcomma : Text.past? ", " (')' :: rest) = none := Text.past?_eq_none ',' rfl (by simp)
    simp [texts, Text.joinWith, Stops, hcomma]
  | cons t ts =>
    refine ⟨by simp [Stops, texts], ?_⟩
    simp only [texts, List.isEmpty_cons, Bool.false_eq_true, if_false, Text.past?_append, Option.getD_some]

theorem readsAll_cons {t : PlainType} {ts : List PlainType} (ht : t.isProper) (h : Reads t) (hs : ReadsAll ts) :
    ReadsAll (t :: ts) := by
  intro n rest hn
  obtain ⟨n, rfl⟩ : ∃ m, n = m + 1 := ⟨n - 1, by omega⟩
  obtain ⟨c, hc, hfirst⟩ := head_text t ht
  have hclosing : ∀ more, Text.past? ")" (t.text.toList ++ more) = none := by
    intro more
    refine Text.past?_eq_none ')' rfl fun hmem => ?_
    rw [List.head?_append, Option.mem_def.1 hc, Option.some_or] at hmem
    cases Option.some.inj hmem
    exact absurd hfirst (by decide)
  obtain ⟨hstops, hcomma⟩ := stops_listed ts rest rfl
  have hpos := length_text_pos ht
  rw [texts, Text.joinWith_cons] at hn ⊢
  simp only [String.toList_append, List.length_append] at hn
  rw [String.toList_append, String.toList_append, List.append_assoc, List.append_assoc, readTypes, hclosing]
  simp only [h n _ (by omega) hstops, hcomma, hs n rest (by omega), Option.bind_eq_bind, Option.bind_some,
    Option.pure_def]

theorem readResult_of_reads {t : PlainType} (h : Reads t) (build : PlainType → PlainType) {n : Nat}
    (hn : 2 * t.text.toList.length ≤ n) {rest : List Char} (hstops : Stops rest) :
    readResult (readType n) build (" -> ".toList ++ (t.text.toList ++ rest)) = some (build t, rest) := by
  simp only [readResult, Text.past?_append, h n rest hn hstops, Option.bind_eq_bind, Option.bind_some, Option.pure_def]

theorem reads_function {parameters : List PlainType} {result : PlainType} (hparameters : ReadsAll parameters)
    (hresult : Reads result) : Reads (function parameters result false) := by
  intro n rest hn hstops
  have htext : (function parameters result false).text.toList ++ rest =
      "(".toList ++ ((Text.joinWith ", " (texts parameters)).toList ++
        ')' :: (" -> ".toList ++ (result.text.toList ++ rest))) := by
    simp [text, bracketed, functionForm]
  have hlength := congrArg List.length htext
  simp only [List.length_append, List.length_cons] at hlength
  obtain ⟨n, rfl⟩ : ∃ m, n = m + 1 := ⟨n - 1, by omega⟩
  have hmark : Text.past? "?" (" -> ".toList ++ (result.text.toList ++ rest)) = none :=
    Text.past?_eq_none '?' rfl (by simp)
  rw [htext, readType, Text.past?_append]
  simp only [hparameters n _ (by omega), Option.bind_eq_bind, Option.bind_some, hmark,
    readResult_of_reads hresult _ (n := n) (by omega) hstops]

theorem reads_extension {receiver : PlainType} {parameters : List PlainType} {result : PlainType}
    (hreceiver : ReadsClosed receiver) (hparameters : ReadsAll parameters) (hresult : Reads result) :
    Reads (extension receiver parameters result false) := by
  intro n rest hn hstops
  have htext : (extension receiver parameters result false).text.toList ++ rest =
      receiver.text.toList ++ (".(".toList ++ ((Text.joinWith ", " (texts parameters)).toList ++
        ')' :: (" -> ".toList ++ (result.text.toList ++ rest)))) := by
    simp [text, bracketed, functionForm]
  have hlength := congrArg List.length htext
  have hdot : ".(".toList.length = 2 := rfl
  simp only [List.length_append, List.length_cons] at hlength
  obtain ⟨n, rfl⟩ : ∃ m, n = m + 2 := ⟨n - 2, by omega⟩
  have hparts : ∀ more, Parts (".(".toList ++ more) := by
    intro more c hc
    cases Option.some.inj hc
    decide
  rw [htext, hreceiver (n + 1) _ (by omega) (hparts _), readBehind, Text.past?_append]
  simp only [hparameters n _ (by omega), Option.bind_eq_bind, Option.bind_some,
    readResult_of_reads hresult _ (n := n) (by omega) hstops]

theorem readsClosed_orNull {t : PlainType} (ht : t.isProper) (hopen : t.isOpen) (h : Reads t) :
    ReadsClosed t.orNull := by
  intro n rest hn _
  have htext : t.orNull.text = "(" ++ t.text ++ ")?" := by
    cases t with
    | named => cases hopen
    | function => simp_all [orNull, text, bracketed, isOpen]
    | extension => simp_all [orNull, text, bracketed, isOpen]
  have hsplit : t.orNull.text.toList ++ rest =
      "(".toList ++ ((Text.joinWith ", " (texts [t])).toList ++ ')' :: ("?".toList ++ rest)) := by
    simp [htext, texts, Text.joinWith]
  have hlength := congrArg List.length hsplit
  simp only [List.length_append, List.length_cons] at hlength
  rw [hsplit, readType, Text.past?_append]
  simp only [readsAll_cons ht h readsAll_nil n _ (by omega), Option.bind_eq_bind, Option.bind_some, Text.past?_append]

/-- A function type is read with its brackets if it is read without them. -/
theorem reads_orNull {t : PlainType} (ht : t.isProper) (hopen : t.isOpen) (h : Reads t) :
    Reads t.orNull ∧ (t.orNull.isOpen = false → ReadsClosed t.orNull) := by
  have hproper : t.orNull.isProper := by
    cases t with
    | named => exact ht
    | function => exact ht
    | extension => exact ht
  have hclosed := readsClosed_orNull ht hopen h
  exact ⟨hclosed.reads hproper, fun _ => hclosed⟩

mutual
/-- A settled type is read, and unless it is open it may be a receiver. -/
theorem reads : (t : PlainType) → t.isProper → t.isSettled → Reads t ∧ (t.isOpen = false → ReadsClosed t)
  | .named name nullable, hproper, _ =>
    have hclosed := readsClosed_named hproper
    ⟨hclosed.reads hproper, fun _ => hclosed⟩
  | .function parameters result nullable, hproper, hsettled => by
    have hbare : (function parameters result false).isProper := hproper
    have hform : Reads (.function parameters result false) := by
      obtain ⟨-, hparameters, hresult⟩ := isProper_function.1 hproper
      obtain ⟨hparameters', hresult'⟩ := isSettled_function.1 hsettled
      exact reads_function (readsAll parameters hparameters hparameters') (reads result hresult hresult').1
    cases nullable with
    | false => exact ⟨hform, nofun⟩
    | true => simpa only [orNull] using reads_orNull hbare rfl hform
  | .extension receiver parameters result nullable, hproper, hsettled => by
    have hbare : (extension receiver parameters result false).isProper := hproper
    have hform : Reads (.extension receiver parameters result false) := by
      obtain ⟨-, hreceiver, hparameters, hresult⟩ := isProper_extension.1 hproper
      obtain ⟨hclosed, hreceiver', hparameters', hresult'⟩ := isSettled_extension.1 hsettled
      exact reads_extension ((reads receiver hreceiver hreceiver').2 hclosed)
        (readsAll parameters hparameters hparameters') (reads result hresult hresult').1
    cases nullable with
    | false => exact ⟨hform, nofun⟩
    | true => simpa only [orNull] using reads_orNull hbare rfl hform
theorem readsAll : (ts : List PlainType) → areProper ts → areSettled ts → ReadsAll ts
  | [], _, _ => readsAll_nil
  | t :: ts, hproper, hsettled => by
    obtain ⟨ht, hts⟩ := areProper_cons.1 hproper
    obtain ⟨ht', hts'⟩ := areSettled_cons.1 hsettled
    exact readsAll_cons ht (reads t ht ht').1 (readsAll ts hts hts')
end

/-- The type that a text is read as. -/
def ofText? (text : String) : Option PlainType := (readType (2 * text.toList.length) text.toList).map (·.1)

/-- The text of a type is read as the type that it settles to. -/
theorem ofText?_text {t : PlainType} (h : t.isProper) : ofText? t.text = some t.settle := by
  have hread := (reads t.settle (isProper_settle t h) (isSettled_settle t)).1 _ [] le_rfl nofun
  rw [text_settle, List.append_nil] at hread
  rw [ofText?, hread, Option.map_some]

theorem text_eq_iff {t u : PlainType} (ht : t.isProper) (hu : u.isProper) :
    t.text = u.text ↔ t.settle = u.settle := by
  constructor
  · intro h
    have hread := ofText?_text ht
    rw [h, ofText?_text hu] at hread
    exact (Option.some.inj hread).symm
  · intro h
    rw [← text_settle t, h, text_settle u]

end PlainType

/-- **Types have the same text exactly if they settle to the same type.** Where a buffer is open, in the
package `pkg`, two types of its classes and of functions are rendered alike exactly if they become the
same type once each open receiver has taken the rest into its result. So all types are told apart in
which no receiver is a function type that is not nullable. -/
theorem printed_types_same_iff (s : Session) (hs : s.out.stack ≠ []) (hpackage : s.scope.package = "pkg")
    {t u : PlainType} (ht : t.isProper) (hu : u.isProper) :
    (Render.typeUse t.toUse s = Render.typeUse u.toUse s ↔ t.settle = u.settle) ∧
    (t.isSettled → u.isSettled → (Render.typeUse t.toUse s = Render.typeUse u.toUse s ↔ t = u)) := by
  have hsame : Render.typeUse t.toUse s = Render.typeUse u.toUse s ↔ t.settle = u.settle := by
    rw [Render.typeUse_eq_write, Render.typeUse_eq_write, PlainType.text_toUse hpackage t ht,
      PlainType.text_toUse hpackage u hu, ← PlainType.text_eq_iff ht hu]
    refine ⟨fun h => ?_, fun h => by rw [h]⟩
    obtain ⟨out, hout, hrun⟩ := Render.Adds.write hs t.text
    obtain ⟨out', hout', hrun'⟩ := Render.Adds.write hs u.text
    rw [hrun, hrun'] at h
    cases h
    exact Buffers.eq_of_write_eq hs (hout.trans hout'.symm)
  refine ⟨hsame, fun hsettled hsettled' => ?_⟩
  rw [hsame, PlainType.settle_of_isSettled t hsettled, PlainType.settle_of_isSettled u hsettled']

/-- An extension of a function. -/
def sampleExtended : PlainType := .extension (.function [] (.named "A" false) false) [] (.named "B" false) false

/-- A function that returns an extension. -/
def sampleReturning : PlainType := .function [] (.extension (.named "A" false) [] (.named "B" false) false) false

/-- An extension of a function that may be missing. -/
def sampleOptional : PlainType := .extension (.function [] (.named "A" false) true) [] (.named "B" false) false

/-- An extension of a function is read as a function that returns an extension, and brackets tell the two
apart where the function is nullable. -/
theorem printed_types_same_iff_sample :
    (Session.inSampleFile [""]).out.stack ≠ [] ∧ (Session.inSampleFile [""]).scope.package = "pkg" ∧
    sampleExtended.isProper ∧ sampleReturning.isProper ∧ sampleOptional.isProper ∧
    sampleExtended.settle = sampleReturning ∧ sampleReturning.isSettled ∧ sampleOptional.isSettled ∧
    Render.typeUse sampleExtended.toUse (Session.inSampleFile [""]) =
      Render.typeUse sampleReturning.toUse (Session.inSampleFile [""]) ∧
    Render.typeUse sampleOptional.toUse (Session.inSampleFile [""]) ≠
      Render.typeUse sampleReturning.toUse (Session.inSampleFile [""]) := by
  have hopen : (Session.inSampleFile [""]).out.stack ≠ [] := by decide
  have hextended : sampleExtended.isProper := by decide
  have hreturning : sampleReturning.isProper := by decide
  have hoptional : sampleOptional.isProper := by decide
  have hpackage : (Session.inSampleFile [""]).scope.package = "pkg" := by decide
  refine ⟨hopen, hpackage, hextended, hreturning, hoptional, rfl, rfl, rfl, ?_, ?_⟩
  · exact (printed_types_same_iff _ hopen hpackage hextended hreturning).1.2 rfl
  · intro h
    have hsame := ((printed_types_same_iff _ hopen hpackage hoptional hreturning).2 rfl rfl).1 h
    cases hsame

/-- Types with the same text need not be the same: an extension of a function and a function that returns
an extension both have the text `() -> A.() -> B`. -/
theorem extension_of_function_mistaken : ¬ ∀ (s : Session) (t u : PlainType), s.out.stack ≠ [] →
    s.scope.package = "pkg" → t.isProper → u.isProper → Render.typeUse t.toUse s = Render.typeUse u.toUse s →
    t.toUse = u.toUse := by
  intro h
  have hpackage : (Session.inSampleFile [""]).scope.package = "pkg" := by decide
  have hextended : sampleExtended.isProper := by decide
  have hreturning : sampleReturning.isProper := by decide
  have hrendered : Render.typeUse sampleExtended.toUse (Session.inSampleFile [""]) =
      Render.typeUse sampleReturning.toUse (Session.inSampleFile [""]) := by
    rw [Render.typeUse_eq_write, Render.typeUse_eq_write, PlainType.text_toUse hpackage _ hextended,
      PlainType.text_toUse hpackage _ hreturning]
    rfl
  have hsame := h _ _ _ (by decide) hpackage hextended hreturning hrendered
  have hname := congrArg TypeUse.className hsame
  revert hname
  decide +kernel

end KotlinMetadata
