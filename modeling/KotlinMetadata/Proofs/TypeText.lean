/-
The text of a type. `TypeUse.text` says what the rendering of a type comes
down to, by recursion on the type, and `Render.typeUse_eq_write` that in every
state it is the same as to write that text. So the rendering of a type leaves
no trace but its text, and a type may be rendered on trial into a buffer of
its own, as the declared type of a `vararg` parameter is.

The renderer picks what stands before each argument of a function type by the
index of the argument (`functionSeparator`). `functionListed_eq` puts these
pieces together: the parameters in brackets, the first in front of them if it
is the receiver, and the result behind an arrow (`functionForm`).
-/
import KotlinMetadata.Proofs.AnnotationText

namespace KotlinMetadata

/-! ## The text of a type -/

/-- The texts of the arguments of a function type from an index on, each behind what the index puts
before it. -/
def functionListed (arity : Nat) (extension : Bool) : (index : Nat) → List String → String
  | _, [] => ""
  | index, text :: rest =>
    Render.functionSeparator arity extension index ++ text ++ functionListed arity extension (index + 1) rest

namespace Scope

variable (s : Scope)

/-- What stands in front of a type: annotations, keyword, parameter name, variance. -/
def typeFront (annots : List KotlinAnnot) (flags : FlagSet TypeFlag) (variance : Variance) : String :=
  String.join ((plainAnnots annots).map fun a => "@" ++ a.text s.called (Text.listed argumentBrackets) ++ " ") ++
    typeKeywords flags ++ (parameterName? annots).elim "" (· ++ ": ") ++ variance.keyword

/-- The name of a type: of its type parameter, else of its alias, else of its class. -/
def typeName (parameterId : Option UInt32) (aliasName className : Option String) : String :=
  match parameterId with
  | some id => s.typeParameter id
  | none => (aliasName.or className).elim invalidClassName s.called

end Scope

section

variable (s : Scope)

mutual
/-- The text of a type in a scope. -/
def TypeUse.text : TypeUse → String
  | ⟨className, aliasName, parameterId, flags, variance, arguments, annots⟩ =>
    s.typeFront annots flags variance ++
      (match className.filter (Text.beginsWith functionTypeStem) with
      | some name =>
        (if flags.contains .nullable then "(" else "") ++
          functionListed (functionArity name) (isExtension annots) 0 (TypeArgument.texts arguments) ++
          if flags.contains .nullable then ")?" else ""
      | none =>
        s.typeName parameterId aliasName className ++
          (if arguments.isEmpty then "" else "<" ++ Text.joinWith ", " (TypeArgument.texts arguments) ++ ">") ++
          if flags.contains .nullable then "?" else "") ++
      if flags.contains .definitelyNonNull then " & Any" else ""
/-- The texts of arguments. -/
def TypeArgument.texts : List TypeArgument → List String
  | [] => []
  | argument :: rest => argument.text :: TypeArgument.texts rest
/-- The text of an argument. -/
def TypeArgument.text : TypeArgument → String
  | .star => "*"
  | .type t => t.text
end

theorem TypeArgument.texts_eq_map (arguments : List TypeArgument) :
    TypeArgument.texts s arguments = arguments.map (TypeArgument.text s) := by
  induction arguments with
  | nil => rfl
  | cons argument rest ih => rw [TypeArgument.texts, ih, List.map_cons]

end

/-! ## What the renderer writes -/

namespace Render

namespace Adds

variable {s : Session} {text more : String} {m k : Render Unit}

/-- A text is written under a condition, and then the rest. -/
theorem ifWrite {c : Prop} [Decidable c] {rest : Unit → Render Unit} (hs : s.out.stack ≠ [])
    (hrest : ∀ out : Buffers, out.stack ≠ [] → Adds { s with out } more (rest ())) :
    Adds s ((if c then text else "") ++ more) (if c then Render.write text >>= rest else rest ()) := by
  split
  · exact seq (write hs text) fun out hout _ => hrest out hout
  · rw [String.empty_append]
    exact hrest s.out hs

/-- The marks behind a type: each of two texts is written under a condition of its own. -/
theorem marks {c d : Prop} [Decidable c] [Decidable d] (hs : s.out.stack ≠ []) :
    Adds s ((if c then text else "") ++ if d then more else "")
      (if c then Render.write text >>= fun _ => if d then Render.write more else Pure.pure ()
        else if d then Render.write more else Pure.pure ()) := by
  refine ifWrite hs fun out hout => ?_
  split
  · exact write hout more
  · exact pure hout

theorem onSome {α : Type} {act : α → Render Unit} {line : α → String} (o : Option α) (hs : s.out.stack ≠ [])
    (h : ∀ a, Adds s (line a) (act a)) : Adds s (o.elim "" line) (onSome act o) := by
  cases o with
  | none => exact pure hs
  | some a => exact h a

theorem typeFront (annots : List KotlinAnnot) (flags : FlagSet TypeFlag) (variance : Variance)
    (hs : s.out.stack ≠ []) :
    Adds s (s.scope.typeFront annots flags variance) (typeFront annots flags variance) := by
  unfold Scope.typeFront Render.typeFront
  simp only [String.append_assoc]
  refine seq (each hs fun a _ out hout _ => ?_) fun out hout _ => ?_
  · have hannot := kotlinAnnot .inline a (s := { s with out }) hout
    rwa [String.append_assoc] at hannot
  · refine seq (write hout _) fun out' hout' _ => ?_
    refine seq (onSome _ hout' fun name => write hout' _) fun out'' hout'' _ => ?_
    exact write hout'' _

theorem typeName (parameterId : Option UInt32) (aliasName className : Option String) (hs : s.out.stack ≠ []) :
    Adds s (s.scope.typeName parameterId aliasName className) (typeName parameterId aliasName className) := by
  unfold Scope.typeName Render.typeName
  cases parameterId with
  | some id => exact write hs _
  | none =>
    cases aliasName.or className with
    | some name => exact resolve (write hs _)
    | none => exact write hs _

mutual
theorem typeUse : ∀ (t : TypeUse) {s : Session}, s.out.stack ≠ [] → Adds s (t.text s.scope) (typeUse t)
  | ⟨className, aliasName, parameterId, flags, variance, arguments, annots⟩, s, hs => by
    rw [Render.typeUse, TypeUse.text]
    simp only [String.append_assoc]
    refine seq (typeFront annots flags variance hs) fun out hout _ => ?_
    cases className.filter (Text.beginsWith functionTypeStem) with
    | some name =>
      simp only [String.append_assoc]
      refine ifWrite (s := { s with out }) hout fun out₁ h₁ => ?_
      refine seq (functionArguments _ _ 0 arguments (s := { s with out := out₁ }) h₁) fun out₂ h₂ _ => ?_
      exact marks (s := { s with out := out₂ }) h₂
    | none =>
      simp only [String.append_assoc]
      refine seq (typeName parameterId aliasName className (s := { s with out }) hout) fun out₁ h₁ _ => ?_
      split
      · rw [String.empty_append]
        exact marks (s := { s with out := out₁ }) h₁
      · simp only [String.append_assoc]
        refine seq (write h₁ "<") fun out₂ h₂ _ => ?_
        have harguments := typeArguments true arguments (s := { s with out := out₂ }) h₂
        rw [Bool.true_or, if_pos rfl, String.empty_append] at harguments
        refine seq harguments fun out₃ h₃ _ => ?_
        exact seq (write h₃ ">") fun out₄ h₄ _ => marks (s := { s with out := out₄ }) h₄
theorem typeArguments : ∀ (first : Bool) (arguments : List TypeArgument) {s : Session}, s.out.stack ≠ [] →
    Adds s ((if first || arguments.isEmpty then "" else ", ") ++
      Text.joinWith ", " (TypeArgument.texts s.scope arguments)) (typeArguments first arguments)
  | first, [], s, hs => by
    rw [Render.typeArguments, TypeArgument.texts, List.isEmpty_nil, Bool.or_true, if_pos rfl]
    exact pure hs
  | first, argument :: rest, s, hs => by
    have htail : ∀ {s : Session}, s.out.stack ≠ [] →
        Adds s (Text.joinWith ", " (TypeArgument.texts s.scope (argument :: rest)))
          (do Render.typeArgument argument; Render.typeArguments false rest) := by
      intro s hs
      rw [TypeArgument.texts_eq_map, List.map_cons, Text.joinWith_cons, List.isEmpty_map, String.append_assoc,
        ← TypeArgument.texts_eq_map]
      exact seq (typeArgument argument hs) fun out hout _ => typeArguments false rest (s := { s with out }) hout
    rw [Render.typeArguments, List.isEmpty_cons, Bool.or_false]
    split
    · rw [String.empty_append]
      exact htail hs
    · exact seq (write hs ", ") fun out hout _ => htail (s := { s with out }) hout
theorem functionArguments (arity : Nat) (extension : Bool) : ∀ (index : Nat) (arguments : List TypeArgument)
    {s : Session}, s.out.stack ≠ [] →
    Adds s (functionListed arity extension index (TypeArgument.texts s.scope arguments))
      (functionArguments arity extension index arguments)
  | index, [], s, hs => by
    rw [Render.functionArguments, TypeArgument.texts]
    exact pure hs
  | index, argument :: rest, s, hs => by
    rw [Render.functionArguments, TypeArgument.texts, functionListed, String.append_assoc]
    refine seq (write hs _) fun out hout _ => ?_
    refine seq (typeArgument argument (s := { s with out }) hout) fun out' hout' _ => ?_
    exact functionArguments arity extension (index + 1) rest (s := { s with out := out' }) hout'
theorem typeArgument : ∀ (argument : TypeArgument) {s : Session}, s.out.stack ≠ [] →
    Adds s (argument.text s.scope) (typeArgument argument)
  | .star, s, hs => by
    rw [Render.typeArgument, TypeArgument.text]
    exact write hs "*"
  | .type t, s, hs => by
    rw [Render.typeArgument, TypeArgument.text]
    exact typeUse t hs
end

end Adds

/-! ## States without a buffer -/

section

variable {s : Session}

theorem write_of_no_buffer (hs : s.out.stack = []) (text : String) : write text s = .error .noActiveBuffer := by
  simp [write, changeOut, Buffers.write, hs]

theorem open_of_write {t : Session} {text : String} {u : Unit} (h : write text s = .ok (u, t)) : t.out.stack ≠ [] := by
  by_cases hs : s.out.stack = []
  · rw [write_of_no_buffer hs] at h
    cases h
  · obtain ⟨out, hout, hrun⟩ := Adds.write hs text
    cases hrun.symm.trans h
    exact Buffers.stack_ne_nil_of_write hout

theorem typeFront_of_no_buffer (hs : s.out.stack = []) (annots : List KotlinAnnot) (flags : FlagSet TypeFlag)
    (variance : Variance) : typeFront annots flags variance s = .error .noActiveBuffer := by
  unfold typeFront kotlinAnnots
  cases plainAnnots annots with
  | nil =>
    have hnone : each (kotlinAnnot .inline) [] s = .ok ((), s) := rfl
    rw [bind_of_ok hnone]
    exact bind_of_error (write_of_no_buffer hs _)
  | cons a annots => exact bind_of_error (bind_of_error (bind_of_error (write_of_no_buffer hs "@")))

theorem Adds.eq_write {m : Render Unit} {text : String} (h : Adds s text m) : m s = Render.write text s := by
  obtain ⟨out, hout, hrun⟩ := h
  rw [hrun]
  simp [Render.write, changeOut, hout]

/-- An action that adds a text where a buffer is open, and breaks off where none is, writes the text. -/
theorem eq_write {m : Render Unit} {text : String} (hopen : s.out.stack ≠ [] → Adds s text m)
    (hnone : s.out.stack = [] → m s = .error .noActiveBuffer) : m s = write text s := by
  by_cases hs : s.out.stack = []
  · rw [hnone hs, write_of_no_buffer hs]
  · exact (hopen hs).eq_write

end

theorem typeFront_eq_write (annots : List KotlinAnnot) (flags : FlagSet TypeFlag) (variance : Variance) (s : Session) :
    typeFront annots flags variance s = write (s.scope.typeFront annots flags variance) s :=
  eq_write (Adds.typeFront annots flags variance) fun hs => typeFront_of_no_buffer hs annots flags variance

/-- To render a type is to write its text. -/
theorem typeUse_eq_write (t : TypeUse) (s : Session) : typeUse t s = write (t.text s.scope) s := by
  refine eq_write (Adds.typeUse t) fun hs => ?_
  obtain ⟨className, aliasName, parameterId, flags, variance, arguments, annots⟩ := t
  rw [typeUse]
  exact bind_of_error (typeFront_of_no_buffer hs annots flags variance)

theorem typeArgument_eq_write (a : TypeArgument) (s : Session) : typeArgument a s = write (a.text s.scope) s := by
  cases a with
  | star => rw [typeArgument, TypeArgument.text]
  | type t => rw [typeArgument, TypeArgument.text, typeUse_eq_write]

end Render

/-! ## Function types -/

/-- A function type with the texts of its parameters and its result: the parameters in brackets, behind the
first of them if that is the receiver. A type marked as an extension without a parameter lacks the
opening bracket. -/
def functionForm (extension : Bool) (parameters : List String) (result : String) : String :=
  match extension, parameters with
  | false, _ => "(" ++ Text.joinWith ", " parameters ++ ") -> " ++ result
  | true, receiver :: rest => receiver ++ ".(" ++ Text.joinWith ", " rest ++ ") -> " ++ result
  | true, [] => ") -> " ++ result

/-- Where the brackets are open, the index of the result puts the arrow and every other one a comma. -/
theorem functionSeparator_behind {extension : Bool} {index : Nat} (h : (if extension then 1 else 0) < index)
    (arity : Nat) : Render.functionSeparator arity extension index = if index = arity then ") -> " else ", " := by
  have hzero : index ≠ 0 := by omega
  cases extension with
  | false => simp [Render.functionSeparator, hzero, Nat.pos_of_ne_zero hzero]
  | true =>
    have hone : 1 < index := h
    simp [Render.functionSeparator, hone, Nat.ne_of_gt hone]

theorem functionListed_behind (extension : Bool) (result : String) (rest : List String) {arity index : Nat}
    (hindex : (if extension then 1 else 0) < index) (harity : index + rest.length = arity) :
    functionListed arity extension index (rest ++ [result]) =
      (if rest.isEmpty then "" else ", ") ++ Text.joinWith ", " rest ++ ") -> " ++ result := by
  induction rest generalizing index with
  | nil =>
    have hlast : index = arity := by simpa using harity
    rw [List.nil_append, functionListed, functionSeparator_behind hindex, if_pos hlast]
    simp [functionListed, Text.joinWith]
  | cons text rest ih =>
    have hlength : index + 1 + rest.length = arity := by rw [← harity, List.length_cons]; omega
    have hnot : index ≠ arity := by omega
    rw [List.cons_append, functionListed, functionSeparator_behind hindex, if_neg hnot,
      ih (Nat.lt_succ_of_lt hindex) hlength, Text.joinWith_cons]
    simp only [List.isEmpty_cons, Bool.false_eq_true, if_false, String.append_assoc]

/-- The arguments of a function type, one by one, come to the form of the type. -/
theorem functionListed_eq (extension : Bool) (parameters : List String) (result : String) :
    functionListed parameters.length extension 0 (parameters ++ [result]) = functionForm extension parameters result := by
  cases extension with
  | false =>
    cases parameters with
    | nil => simp [functionListed, functionForm, Render.functionSeparator, Text.joinWith]
    | cons first rest =>
      have hopening : Render.functionSeparator (first :: rest).length false 0 = "(" := by
        simp [Render.functionSeparator]
      rw [List.cons_append, functionListed, hopening, functionForm, Text.joinWith_cons,
        functionListed_behind false result rest (by simp) (by simp; omega)]
      simp only [String.append_assoc]
  | true =>
    cases parameters with
    | nil => simp [functionListed, functionForm, Render.functionSeparator]
    | cons receiver rest =>
      have hreceiver : Render.functionSeparator (receiver :: rest).length true 0 = "" := by
        simp [Render.functionSeparator]
      rw [List.cons_append, functionListed, hreceiver, functionForm]
      cases rest with
      | nil =>
        have harrow : Render.functionSeparator [receiver].length true 1 = ".(" ++ ") -> " := rfl
        rw [List.nil_append, functionListed, harrow, functionListed]
        simp only [Text.joinWith, String.intercalate_nil, String.append_assoc, String.empty_append, String.append_empty]
      | cons first rest =>
        have hopening : Render.functionSeparator (receiver :: first :: rest).length true 1 = ".(" := by
          simp [Render.functionSeparator]
        rw [List.cons_append, functionListed, hopening, Text.joinWith_cons,
          functionListed_behind true result rest (by simp) (by simp; omega)]
        simp only [String.append_assoc, String.empty_append]

theorem digitsValue_eq (digits : List Char) : digitsValue digits = Nat.ofDigitChars 10 digits 0 := by
  simp only [digitsValue, Nat.ofDigitChars, Nat.mul_comm]

/-- The name of a function type says how many parameters it has. -/
theorem functionArity_of_name {n : Nat} (h : n < UInt64.size) : functionArity (functionTypeStem ++ toString n) = n := by
  have hdigits : (toString n).toList = Nat.toDigits 10 n := by rw [Nat.toString_eq_repr, Nat.toList_repr]
  have hrest : functionTypeStem.toList.isPrefixOf? (functionTypeStem ++ toString n).toList = some (Nat.toDigits 10 n) := by
    rw [String.toList_append, hdigits]
    exact List.isPrefixOf?_eq_some_iff_append_eq.2 rfl
  have hvalue : digitsValue (Nat.toDigits 10 n) = n := by rw [digitsValue_eq, Nat.ofDigitChars_ten_toDigits]
  have hall : (Nat.toDigits 10 n).all Char.isDigit := by
    refine List.all_eq_true.2 fun c hc => ?_
    exact Nat.isDigit_of_mem_toDigits (by decide) (by decide) hc
  rw [functionArity, hrest]
  simp only [hvalue, hall, h, List.isEmpty_eq_false_iff.2 Nat.toDigits_ne_nil, Bool.not_false, Bool.and_self,
    decide_true, if_true]

theorem TypeUse.text_of_function (s : Scope) {t : TypeUse} {parameters : List TypeArgument} {result : TypeArgument}
    (hname : t.className = some (functionTypeStem ++ toString parameters.length))
    (hfits : parameters.length < UInt64.size) (harguments : t.arguments = parameters ++ [result]) :
    t.text s = s.typeFront t.annotations t.flags t.variance ++
      ((if t.flags.contains .nullable then "(" else "") ++
        functionForm (isExtension t.annotations) (parameters.map (·.text s)) (result.text s) ++
        if t.flags.contains .nullable then ")?" else "") ++
      if t.flags.contains .definitelyNonNull then " & Any" else "" := by
  obtain ⟨className, aliasName, parameterId, flags, variance, arguments, annots⟩ := t
  simp only at hname harguments
  subst hname harguments
  have hstem : Text.beginsWith functionTypeStem (functionTypeStem ++ toString parameters.length) := by
    simp [Text.beginsWith]
  have hform := functionListed_eq (isExtension annots) (parameters.map (·.text s)) (result.text s)
  rw [List.length_map] at hform
  rw [TypeUse.text, Option.filter_some, if_pos hstem]
  simp only [functionArity_of_name hfits, TypeArgument.texts_eq_map, List.map_append, List.map_cons, List.map_nil, hform]

/-- **A function type has the form that its number of parameters gives.** In every state the rendering of a
type with the name of a function type and that many parameters is to write, behind what stands in front
of every type, its form: the parameters in brackets with commas between them, or the receiver, a point and
the other parameters so, then the arrow and the result; in brackets with `?` exactly if it is nullable,
and with `& Any` behind it exactly if it is definitely not null. Each parameter and the result have the
text that they are rendered to by themselves, a star the text `*`. -/
theorem function_type_form (s : Session) {t : TypeUse} {parameters : List TypeArgument} {result : TypeArgument}
    (hname : t.className = some (functionTypeStem ++ toString parameters.length))
    (hfits : parameters.length < UInt64.size) (harguments : t.arguments = parameters ++ [result]) :
    Render.typeUse t s = Render.write
      (s.scope.typeFront t.annotations t.flags t.variance ++
        ((if t.flags.contains .nullable then "(" else "") ++
          functionForm (isExtension t.annotations) (parameters.map (·.text s.scope)) (result.text s.scope) ++
          if t.flags.contains .nullable then ")?" else "") ++
        if t.flags.contains .definitelyNonNull then " & Any" else "") s ∧
    Render.typeFront t.annotations t.flags t.variance s =
      Render.write (s.scope.typeFront t.annotations t.flags t.variance) s ∧
    (∀ a, Render.typeArgument a s = Render.write (a.text s.scope) s) ∧ TypeArgument.star.text s.scope = "*" := by
  refine ⟨?_, Render.typeFront_eq_write _ _ _ s, fun a => Render.typeArgument_eq_write a s, ?_⟩
  · rw [Render.typeUse_eq_write, TypeUse.text_of_function s.scope hname hfits harguments]
  · rw [TypeArgument.text]

/-- A nullable function type with a receiver, a function as its parameter and a star as its result. -/
def sampleCallback : TypeUse :=
  { className := some "kotlin/Function2"
    flags := .ofList [.nullable, .suspend]
    arguments :=
      [.type { className := some "kotlin/String" },
       .type { className := some "kotlin/Function1"
               arguments := [.type { className := some "kotlin/Int" }, .type { className := some "kotlin/Unit" }] },
       .star]
    annotations := [⟨extensionMark, []⟩] }

/-- The function type in the scope of a file. -/
theorem function_type_form_sample : ∃ parameters : List TypeArgument,
    sampleCallback.className = some (functionTypeStem ++ toString parameters.length) ∧
    parameters.length < UInt64.size ∧ sampleCallback.arguments = parameters ++ [.star] ∧
    (Render.typeUse sampleCallback (Session.inSampleFile [""])).map (·.2.out.stack) =
      .ok ["suspend (String.((Int) -> Unit) -> *)?"] := by
  have hname : sampleCallback.className = some (functionTypeStem ++ toString (sampleCallback.arguments.take 2).length) := by
    decide +kernel
  have hfits : (sampleCallback.arguments.take 2).length < UInt64.size := by decide
  refine ⟨sampleCallback.arguments.take 2, hname, hfits, rfl, ?_⟩
  rw [(function_type_form (Session.inSampleFile [""]) hname hfits rfl).1]
  decide +kernel

/-- A function type that is marked as an extension but has no parameter. -/
def sampleUnreceived : TypeUse :=
  { className := some "kotlin/Function0"
    arguments := [.type { className := some "kotlin/Unit" }]
    annotations := [⟨extensionMark, []⟩] }

/-- Not every function type without a receiver has its parameters in brackets: the opening bracket is
missing where the type is marked as an extension all the same. -/
theorem function_bracket_missing : ¬ ∀ (s : Session) (t : TypeUse) (parameters : List TypeArgument)
    (result : TypeArgument), t.className = some (functionTypeStem ++ toString parameters.length) →
    parameters.length < UInt64.size → t.arguments = parameters ++ [result] →
    ¬ (isExtension t.annotations ∧ parameters ≠ []) →
    Render.typeUse t s = Render.write
      (s.scope.typeFront t.annotations t.flags t.variance ++
        ((if t.flags.contains .nullable then "(" else "") ++
          ("(" ++ Text.joinWith ", " (parameters.map (·.text s.scope)) ++ ") -> " ++ result.text s.scope) ++
          if t.flags.contains .nullable then ")?" else "") ++
        if t.flags.contains .definitelyNonNull then " & Any" else "") s := by
  intro h
  have hlaw := h (Session.inSampleFile [""]) sampleUnreceived [] (.type { className := some "kotlin/Unit" })
    (by decide +kernel) (by decide) rfl (by simp)
  have hwritten : (Render.typeUse sampleUnreceived (Session.inSampleFile [""])).map (·.2.out.stack) =
      .ok [") -> Unit"] := by decide +kernel
  have htext := congrArg (Except.map (·.2.out.stack)) hlaw
  rw [hwritten] at htext
  revert htext
  decide +kernel

/-! ## Types on trial -/

namespace Render

/-- Writes a value parameter around an action that writes its type. -/
def parameterAround (type : Render Unit) (index : Nat) (p : ValueParameter) (mutability : Mutability) :
    Render Unit := do
  if index = 0 then pure () else write ", "
  write mutability.keyword
  write (valueParameterKeywords p.flags)
  if p.varargElementType.isSome then write "vararg " else pure ()
  write (parameterName p.name)
  write ": "
  type
  if p.flags.contains .hasDefaultValue then write " = /* default value */" else pure ()

/-- Writes the type of a value parameter: the declared type on trial, then that of the elements. -/
def parameterType (p : ValueParameter) : Render Unit := do
  let type ← capture do
    typeUse p.type
    onSome (fun element => do reset; typeUse element) p.varargElementType
  write type

theorem valueParameter_eq (index : Nat) (p : ValueParameter) (mutability : Mutability) :
    valueParameter index p mutability = parameterAround (parameterType p) index p mutability := by
  unfold valueParameter parameterAround parameterType
  simp only [bind_assoc]

namespace Adds

variable {s : Session} {m m' : Render Unit} {text text' : String}

/-- What is captured and then written is written in place. -/
theorem captured (hs : s.out.stack ≠ []) (h : Adds { s with out := s.out.push } text m) :
    Adds s text (capture m >>= Render.write) := by
  obtain ⟨out, hout, hrun⟩ := h
  obtain ⟨out', hout', hwrite⟩ := write hs text
  have hcapture : Render.capture m s = .ok (text, s) := by
    rw [Blind.capture_of_write hrun hout]
  exact ⟨out', hout', by rw [bind_of_ok hcapture, hwrite]⟩

/-- What was written into a new buffer is thrown away. -/
theorem redone {b : Buffers} (hs : s.out = b.push) (h : Adds s text m) (h' : Adds s text' m') :
    Adds s text' (do m; reset; m') := by
  obtain ⟨out, hout, hrun⟩ := h
  have hreset : reset { s with out } = .ok ((), s) := by
    rw [hs] at hout
    simp [reset, changeOut, Buffers.reset_of_push_write hout, ← hs]
  obtain ⟨out', hout', hrun'⟩ := h'
  exact ⟨out', hout', by rw [bind_of_ok hrun, bind_of_ok hreset, hrun']⟩

theorem parameterType (p : ValueParameter) (hs : s.out.stack ≠ []) :
    Adds s ((p.varargElementType.getD p.type).text s.scope) (parameterType p) := by
  refine captured hs ?_
  have htype : ∀ t : TypeUse, Adds { s with out := s.out.push } (t.text s.scope) (Render.typeUse t) :=
    fun t => typeUse t (s := { s with out := s.out.push }) (by simp [Buffers.push])
  cases p.varargElementType with
  | none =>
    rw [← String.append_empty (s := TypeUse.text s.scope _)]
    exact seq (htype p.type) fun out hout _ => pure hout
  | some element => exact redone rfl (htype p.type) (htype element)

end Adds

/-- Around two actions that do the same where a buffer is open, a value parameter is the same. -/
theorem parameterAround_congr {m m' : Render Unit} (h : ∀ s : Session, s.out.stack ≠ [] → m s = m' s) (index : Nat)
    (p : ValueParameter) (mutability : Mutability) :
    parameterAround m index p mutability = parameterAround m' index p mutability := by
  -- The type comes right behind the colon, so a buffer is open there.
  have htype : ∀ k : Unit → Render Unit, (write ": " >>= fun _ => m >>= k) = write ": " >>= fun _ => m' >>= k := by
    intro k
    funext s
    exact bind_congr_at rfl fun _ t ht => bind_congr_at (h t (open_of_write ht)) fun _ _ _ => rfl
  unfold parameterAround
  simp only [htype]

end Render

/-- **A type rendered on trial leaves no trace.** In every state a value parameter is rendered exactly as if
the type that is shown, that of the elements for a `vararg` parameter and else the declared one, were
rendered in place and no other. -/
theorem trial_type_leaves_no_trace (index : Nat) (p : ValueParameter) (mutability : Mutability) :
    Render.valueParameter index p mutability =
      Render.parameterAround (Render.typeUse (p.varargElementType.getD p.type)) index p mutability := by
  rw [Render.valueParameter_eq]
  refine Render.parameterAround_congr (fun s hs => ?_) index p mutability
  have htrial := Render.Adds.parameterType p hs
  have hplace := Render.Adds.typeUse (p.varargElementType.getD p.type) hs
  rw [htrial.eq_write, hplace.eq_write]

end KotlinMetadata
