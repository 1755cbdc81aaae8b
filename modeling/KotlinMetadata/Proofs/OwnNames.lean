/-
What a declaration calls its own type parameters. From the moment it
declares them, what was known before under their ids makes no difference
(`Shadows.declared`), and until then it looks at no names, with one
exception: the context receivers are written first.

`Shadows` says how far two runs of a declaration can differ, whose states
agree once its own type parameters are declared: in what the context
receivers make of the names before.
-/
import KotlinMetadata.Proofs.Declares

namespace KotlinMetadata

/-- Two maps know the same names, those of some type parameters aside. -/
def TypeNames.AgreeBut (own : List TypeParameter) (names names' : TypeNames) : Prop :=
  ∀ id, (∀ p ∈ own, p.id ≠ id) → names'.find? id = names.find? id

theorem TypeNames.AgreeBut.find?_declareAll {own : List TypeParameter} {names names' : TypeNames}
    (h : AgreeBut own names names') (id : UInt32) :
    (names'.declareAll own).find? id = (names.declareAll own).find? id := by
  rw [TypeNames.find?_declareAll, TypeNames.find?_declareAll]
  cases hown : own.reverse.find? (·.id = id) with
  | some p => rfl
  | none =>
    refine h id fun p hp hid => ?_
    have := List.find?_eq_none.1 hown p (List.mem_reverse.2 hp)
    simp [hid] at this

/-- Two states agree, but what their buffers hold, once some type parameters are declared. -/
def Session.AgreesBut (own : List TypeParameter) (s t : Session) : Prop :=
  (s.declaring own).Agrees (t.declaring own)

namespace Render

variable {own : List TypeParameter} {receivers : List TypeUse} {α : Type}

theorem declareAll_eq (params : List TypeParameter) (s : Session) :
    declareAll params s = .ok ((), s.declaring params) := by
  induction params generalizing s with
  | nil => rfl
  | cons p params ih =>
    have hdeclare : declare p s = .ok ((), s.declaring [p]) := rfl
    unfold declareAll at ih ⊢
    rw [each, bind_of_ok hdeclare, ih]
    rfl

/-- An action that declares nothing keeps the state but for the text. -/
theorem Declares.run_eq_nil {b : Bool} {m : Render α} (h : Declares b [] m) {s s' : Session} {a : α}
    (hrun : m s = .ok (a, s')) : s' = { s with out := s'.out } := h.run_eq hrun

/-- An action that does not look at names does the same from states that agree but in names. -/
theorem unseen_run {m : Render α} (hd : Declares false [] m) (hm : Plain m) {s t : Session}
    (h : s.AgreesBut own t) (hs : s.IsOpen) (ht : t.IsOpen) :
    ∃ a text s' t', m s = .ok (a, s') ∧ m t = .ok (a, t') ∧ s.out.write text = .ok s'.out ∧
      t.out.write text = .ok t'.out ∧ s'.AgreesBut own t' := by
  obtain ⟨a, s', hrun, -⟩ := hm.run hs
  -- Under the names that the states agree on it is blind, and to come back to its own it need not look.
  have hrun₁ := hd.run_withNames rfl hrun (s.scope.typeNames.declareAll own)
  obtain ⟨t₁, hrun₂, hechoes⟩ := hm.blind h hs.buffer ht.buffer (by simp) hrun₁
  obtain ⟨text, hout, hout'⟩ := hechoes.written
  have hrun₃ := hd.run_withNames rfl hrun₂ t.scope.typeNames
  refine ⟨a, text, s', _, hrun, hrun₃, hout, hout', ?_⟩
  have ht₁ : (t₁.withNames t.scope.typeNames).declaring own = t₁ := by
    rw [hd.run_eq_nil hrun₂]
    rfl
  have hagrees := hechoes.agrees
  rw [← ht₁, hd.run_eq_nil hrun] at hagrees
  rw [hd.run_eq_nil hrun]
  exact hagrees

/-- The text that context receivers have in a state. -/
def ReceiversText (receivers : List TypeUse) (s : Session) (text : String) : Prop :=
  ∃ s', capture (contextReceivers receivers) s = .ok (text, s')

/-- From states that agree once `own` type parameters are declared, an action writes the same, but
for the text of some context receivers in each state. -/
def Shadows (receivers : List TypeUse) (own : List TypeParameter) (m : Render Unit) : Prop :=
  ∀ ⦃s t : Session⦄, s.AgreesBut own t → s.IsOpen → t.IsOpen →
    ∃ front back context context' s' t', ReceiversText receivers s context ∧ ReceiversText receivers t context' ∧
      m s = .ok ((), s') ∧ m t = .ok ((), t') ∧ s.out.write (front ++ context ++ back) = .ok s'.out ∧
      t.out.write (front ++ context' ++ back) = .ok t'.out

theorem receiversText_nil (s : Session) : ReceiversText [] s "" := ⟨s, rfl⟩

/-- Context receivers in place have the text that they have in a buffer of their own. -/
theorem receiversText_of_run {s s' : Session} (hrun : contextReceivers receivers s = .ok ((), s')) (hs : s.IsOpen) :
    ∃ text, s.out.write text = .ok s'.out ∧ ReceiversText receivers s text := by
  have hplain : Plain (contextReceivers receivers) := .contextReceivers receivers
  have hpush : s.Agrees { s with out := s.out.push } := ⟨rfl, rfl, fun _ => rfl, rfl, rfl, fun _ => Iff.rfl⟩
  obtain ⟨t, hrun', hechoes⟩ := hplain.blind hpush hs.buffer (by simp [Buffers.push]) (by simp) hrun
  obtain ⟨text, hout, hout'⟩ := hechoes.written
  exact ⟨text, hout, _, Blind.capture_of_write hrun' hout'⟩

/-- What was written since makes no difference to the context receivers. -/
theorem ReceiversText.of_written {s s' : Session} {text : String}
    (hout : s' = { s with out := s'.out }) (hkept : Kept s s') (hs' : ReceiversText receivers s' text) (hs : s.IsOpen) :
    ReceiversText receivers s text := by
  obtain ⟨u, hu⟩ := hs'
  have hagrees : s'.Agrees s := by
    rw [hout]
    exact ⟨rfl, rfl, fun _ => rfl, hkept.buffers.1.symm, rfl, fun _ => Iff.rfl⟩
  have hplain : Plain (capture (contextReceivers receivers)) := .capture (.contextReceivers receivers)
  obtain ⟨v, hv, -⟩ := hplain.blind hagrees (hkept.isOpen hs).buffer hs.buffer (by simp) hu
  exact ⟨v, hv⟩

namespace Shadows

/-- An action that does not look at names comes first. -/
theorem unseen {m : Render α} {k : α → Render Unit} (hd : Declares false [] m) (hm : Plain m)
    (hk : ∀ a, Shadows receivers own (k a)) : Shadows receivers own (m >>= k) := by
  intro s t h hs ht
  obtain ⟨a, text, s₁, t₁, hrun, hrun', hout, hout', h₁⟩ := unseen_run hd hm h hs ht
  obtain ⟨_, _, hrun₁, kept⟩ := hm.run hs
  cases hrun.symm.trans hrun₁
  obtain ⟨_, _, hrun₁', kept'⟩ := hm.run ht
  cases hrun'.symm.trans hrun₁'
  obtain ⟨front, back, context, context', s₂, t₂, hc, hc', hrest, hrest', hwrite, hwrite'⟩ :=
    hk a h₁ (kept.isOpen hs) (kept'.isOpen ht)
  refine ⟨text ++ front, back, context, context', s₂, t₂, hc.of_written (hd.run_eq_nil hrun) kept hs,
    hc'.of_written (hd.run_eq_nil hrun') kept' ht, ?_, ?_, ?_, ?_⟩
  · rw [bind_of_ok hrun, hrest]
  · rw [bind_of_ok hrun', hrest']
  · simpa only [String.append_assoc] using Buffers.write_write hout hwrite
  · simpa only [String.append_assoc] using Buffers.write_write hout' hwrite'

/-- The type parameters are declared. -/
theorem declared {k : Render Unit} (hk : Plain k) : Shadows [] own (do declareAll own; k) := by
  intro s t h hs ht
  obtain ⟨_, s', hrun, -⟩ := hk.run (s := s.declaring own) ⟨hs.buffer, hs.frame⟩
  obtain ⟨t', hrun', hechoes⟩ := hk.blind h hs.buffer ht.buffer (by simp) hrun
  obtain ⟨text, hout, hout'⟩ := hechoes.written
  refine ⟨"", text, "", "", s', t', receiversText_nil s, receiversText_nil t, ?_, ?_, ?_, ?_⟩
  · rw [bind_of_ok (declareAll_eq own s), hrun]
  · rw [bind_of_ok (declareAll_eq own t), hrun']
  · rw [String.append_empty, String.empty_append]
    exact hout
  · rw [String.append_empty, String.empty_append]
    exact hout'

/-- The context receivers are written under the names there are. -/
theorem afterReceivers {k : Render Unit} (hk : Shadows [] own k) (receivers : List TypeUse) :
    Shadows receivers own (do contextReceivers receivers; k) := by
  intro s t h hs ht
  have hplain : Plain (contextReceivers receivers) := .contextReceivers receivers
  have hkeeps : Declares true [] (contextReceivers receivers) := .contextReceivers receivers
  obtain ⟨_, s₁, hrun, kept⟩ := hplain.run hs
  obtain ⟨_, t₁, hrun', kept'⟩ := hplain.run ht
  obtain ⟨context, hout, htext⟩ := receiversText_of_run hrun hs
  obtain ⟨context', hout', htext'⟩ := receiversText_of_run hrun' ht
  -- The texts differ from here on, the rest of the states is as before.
  have h₁ : s₁.AgreesBut own t₁ := by
    rw [hkeeps.run_eq_nil hrun, hkeeps.run_eq_nil hrun']
    exact h.withOut (by rw [kept.buffers.1, kept'.buffers.1]; exact h.depth)
  obtain ⟨front, back, none, none', s₂, t₂, ⟨_, hnone⟩, ⟨_, hnone'⟩, hrest, hrest', hwrite, hwrite'⟩ :=
    hk h₁ (kept.isOpen hs) (kept'.isOpen ht)
  cases hnone
  cases hnone'
  refine ⟨"", front ++ back, context, context', s₂, t₂, htext, htext', ?_, ?_, ?_, ?_⟩
  · rw [bind_of_ok hrun, hrest]
  · rw [bind_of_ok hrun', hrest']
  · rw [String.empty_append]
    rw [String.append_empty] at hwrite
    exact Buffers.write_write hout hwrite
  · rw [String.empty_append]
    rw [String.append_empty] at hwrite'
    exact Buffers.write_write hout' hwrite'

/-! ## Declarations -/

theorem function (pool : Pool) (f : Function) :
    Shadows f.contextReceivers f.typeParameters (function pool f) := by
  refine unseen .current .current fun frame => ?_
  refine unseen (.methodAnnots pool _ _) (.methodAnnots pool _ _) fun _ => ?_
  refine unseen (.onSome (.versionRequirement .block)) (.onSome (.versionRequirement .block)) fun _ => ?_
  refine afterReceivers ?_ _
  refine unseen (.writeIndented _) (.writeIndented _) fun _ => ?_
  refine unseen (.write _) (.write _) fun _ => ?_
  refine declared ?_
  refine .seq (.typeParameterList _ _) fun _ => ?_
  refine .seq (.onSome .receiverType) fun _ => ?_
  refine .seq (.write _) fun _ => ?_
  refine .seq (.write "(") fun _ => ?_
  refine .seq (.valueParameters _) fun _ => ?_
  refine .seq (.write ")") fun _ => ?_
  refine .ite (.writeLine _) ?_
  refine .seq (.write ": ") fun _ => ?_
  refine .seq (.typeUse _ _) fun _ => ?_
  exact .writeLine _

theorem property (pool : Pool) (p : Property) :
    Shadows p.contextReceivers p.typeParameters (property pool p) := by
  unfold Render.property
  refine unseen .current .current fun frame => ?_
  extract_lets artifact
  refine unseen (.methodAnnots pool artifact _) (.methodAnnots pool artifact _) fun _ => ?_
  refine unseen (.onSome (.versionRequirement .block)) (.onSome (.versionRequirement .block)) fun _ => ?_
  refine afterReceivers ?_ _
  refine unseen (.writeIndented _) (.writeIndented _) fun _ => ?_
  refine declared ?_
  refine .seq (.typeParameterList _ _) fun _ => ?_
  refine .seq (.onSome .receiverType) fun _ => ?_
  refine .seq (.write _) fun _ => ?_
  refine .seq (.write ": ") fun _ => ?_
  refine .seq (.typeUse _ _) fun _ => ?_
  refine .seq (.onSome fun _ => .write _) fun _ => ?_
  refine .seq (.onSome fun r => .commentLine _ _) fun _ => ?_
  refine .seq (.onSome fun r => ?_) fun _ => ?_
  · split
    · exact .commentLine _ _
    · exact .commentLine _ _
  · refine .seq (.onSome (.accessor pool artifact "get" (.pure ()))) fun _ => ?_
    refine .seq (.onSome (.accessor pool artifact "set" (.setterParameter _))) fun _ => ?_
    exact .newline

theorem typeAlias (a : TypeAlias) : Shadows [] a.typeParameters (typeAlias a) := by
  refine unseen (.kotlinAnnots .block _) (.kotlinAnnots .block _) fun _ => ?_
  refine unseen (.onSome (.versionRequirement .block)) (.onSome (.versionRequirement .block)) fun _ => ?_
  refine unseen (.writeIndented _) (.writeIndented _) fun _ => ?_
  refine declared ?_
  refine .seq (.typeParameterList _ _) fun _ => ?_
  refine .seq (.write " = ") fun _ => ?_
  refine .seq (.typeUse _ _) fun _ => ?_
  exact .newline

end Shadows

end Render

/-- A declaration that may have type parameters of its own. -/
inductive Declaration where
  | function (f : Function)
  | property (p : Property)
  | typeAlias (a : TypeAlias)

namespace Declaration

def typeParameters : Declaration → List TypeParameter
  | function f => f.typeParameters
  | property p => p.typeParameters
  | typeAlias a => a.typeParameters

def contextReceivers : Declaration → List TypeUse
  | function f => f.contextReceivers
  | property p => p.contextReceivers
  | typeAlias _ => []

def render (pool : Pool) : Declaration → Render Unit
  | function f => Render.function pool f
  | property p => Render.property pool p
  | typeAlias a => Render.typeAlias a

theorem shadows (pool : Pool) (d : Declaration) :
    Render.Shadows d.contextReceivers d.typeParameters (d.render pool) := by
  cases d with
  | function f => exact .function pool f
  | property p => exact .property pool p
  | typeAlias a => exact .typeAlias a

end Declaration

/-- **A declaration knows its own type parameters, but for its context receivers.** Whatever two maps
know under the ids that it declares, it is rendered to the same text around its context receivers,
which have the text that each map gives them. So the texts are the same exactly if those of the
context receivers are, as in every declaration that has none. -/
theorem declaration_text_under_maps (pool : Pool) (d : Declaration) {s : Session} (hs : s.IsOpen)
    {names names' : TypeNames} (h : names.AgreeBut d.typeParameters names') :
    ∃ front back context context' t t', d.render pool (s.withNames names) = .ok ((), t) ∧
      d.render pool (s.withNames names') = .ok ((), t') ∧
      Render.ReceiversText d.contextReceivers (s.withNames names) context ∧
      Render.ReceiversText d.contextReceivers (s.withNames names') context' ∧
      s.out.write (front ++ context ++ back) = .ok t.out ∧
      s.out.write (front ++ context' ++ back) = .ok t'.out ∧
      (t'.out = t.out ↔ context' = context) ∧ (d.contextReceivers = [] → t'.out = t.out) := by
  have hagrees : (s.withNames names).AgreesBut d.typeParameters (s.withNames names') :=
    ⟨rfl, rfl, h.find?_declareAll, rfl, rfl, fun _ => Iff.rfl⟩
  obtain ⟨front, back, context, context', t, t', hc, hc', hrun, hrun', hout, hout'⟩ :=
    d.shadows pool hagrees ⟨hs.buffer, hs.frame⟩ ⟨hs.buffer, hs.frame⟩
  have hiff : t'.out = t.out ↔ context' = context := by
    constructor
    · intro he
      rw [he, ← hout] at hout'
      have hsame := Buffers.eq_of_write_eq hs.buffer hout'
      simpa using hsame
    · rintro rfl
      exact Except.ok.inj (hout'.symm.trans hout)
  refine ⟨front, back, context, context', t, t', hrun, hrun', hc, hc', hout, hout', hiff, fun hnone => ?_⟩
  rw [hnone] at hc hc'
  obtain ⟨_, hempty⟩ := hc
  obtain ⟨_, hempty'⟩ := hc'
  cases hempty
  cases hempty'
  exact hiff.2 rfl

/-- A function whose context receiver is its own type parameter. -/
def sampleContextual : Declaration :=
  .function { name := "f", typeParameters := [{ id := 0, name := "T" }],
              contextReceivers := [{ parameterId := some 0 }],
              returnType := { className := some "kotlin/Unit" } }

theorem sample_agreeBut : TypeNames.empty.AgreeBut sampleContextual.typeParameters (TypeNames.empty.insert 0 "T") :=
  fun _ hid => TypeNames.find?_insert_of_ne _ _ (hid _ List.mem_cons_self).symm

/-- The function where its type parameter is unknown and where the name happens to be known. -/
theorem declaration_text_under_maps_sample : (Session.inSampleFile [""]).IsOpen ∧
    TypeNames.empty.AgreeBut sampleContextual.typeParameters (TypeNames.empty.insert 0 "T") ∧
    ∃ front back context context' t t',
      sampleContextual.render Pool.sample ((Session.inSampleFile [""]).withNames .empty) = .ok ((), t) ∧
      sampleContextual.render Pool.sample ((Session.inSampleFile [""]).withNames (TypeNames.empty.insert 0 "T")) =
        .ok ((), t') ∧
      Render.ReceiversText sampleContextual.contextReceivers ((Session.inSampleFile [""]).withNames .empty) context ∧
      Render.ReceiversText sampleContextual.contextReceivers
        ((Session.inSampleFile [""]).withNames (TypeNames.empty.insert 0 "T")) context' ∧
      t.out.stack = ["" ++ (front ++ context ++ back)] ∧ t'.out.stack = ["" ++ (front ++ context' ++ back)] := by
  have hs : (Session.inSampleFile [""]).IsOpen := ⟨List.cons_ne_nil _ _, List.cons_ne_nil _ _⟩
  obtain ⟨front, back, context, context', t, t', hrun, hrun', hc, hc', hout, hout', -, -⟩ :=
    declaration_text_under_maps Pool.sample sampleContextual hs sample_agreeBut
  refine ⟨hs, sample_agreeBut, front, back, context, context', t, t', hrun, hrun', hc, hc', ?_, ?_⟩
  · rw [← Except.ok.inj hout]
  · rw [← Except.ok.inj hout']

/-- Context receivers show what was known before: here nothing, and in the other map a name. -/
theorem declaration_text_differs : ¬ ∀ (pool : Pool) (d : Declaration) (s : Session) (names names' : TypeNames),
    s.IsOpen → names.AgreeBut d.typeParameters names' →
      ∃ t t', d.render pool (s.withNames names) = .ok ((), t) ∧ d.render pool (s.withNames names') = .ok ((), t') ∧
        t'.out = t.out := by
  intro h
  obtain ⟨t, t', hrun, hrun', hsame⟩ := h Pool.sample sampleContextual (Session.inSampleFile [""]) .empty
    (TypeNames.empty.insert 0 "T") ⟨List.cons_ne_nil _ _, List.cons_ne_nil _ _⟩ sample_agreeBut
  have hunknown : (sampleContextual.render Pool.sample ((Session.inSampleFile [""]).withNames .empty)).map
      (·.2.out.stack) = .ok ["context(X /* unknown 0 */)\nfun <T> f() \x7b \x7d\n"] := by decide +kernel
  have hknown : (sampleContextual.render Pool.sample
      ((Session.inSampleFile [""]).withNames (TypeNames.empty.insert 0 "T"))).map (·.2.out.stack) =
      .ok ["context(T)\nfun <T> f() \x7b \x7d\n"] := by decide +kernel
  rw [hrun] at hunknown
  rw [hrun', Except.map, hsame] at hknown
  have htexts := Except.ok.inj (hunknown.symm.trans hknown)
  revert htexts
  decide

end KotlinMetadata
