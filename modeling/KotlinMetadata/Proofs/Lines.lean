/-
Lines of a text. `InLines` says that pieces stand in a text one after the
other with nothing but whole lines between them; if each of them ends its
line, no two share one.

`Puts` says how the text of an action is shaped. A declaration begins with
the indentation and ends its line, whatever annotations, requirements and
receivers come first and whatever is left out: what comes first is empty or
is itself such a text.
-/
import KotlinMetadata.Proofs.Declares

namespace KotlinMetadata

/-! ## Shapes of texts -/

/-- A text that ends in a line break. -/
def EndsLine (text : String) : Prop := text.toList.getLast? = some '\n'

instance (text : String) : Decidable (EndsLine text) := inferInstanceAs (Decidable (_ = _))

/-- A text that is made of whole lines, perhaps of none. -/
def IsLines (text : String) : Prop := text = "" ∨ EndsLine text

/-- A text that begins with the indentation at a depth. -/
def BeginsAt (depth : Nat) (text : String) : Prop := ∃ more, text = Buffers.indentation depth ++ more

/-- A text that begins with the indentation and ends its line. -/
structure FillsLines (depth : Nat) (text : String) : Prop where
  begins : BeginsAt depth text
  ends : EndsLine text

/-- A text that may stand in front of another at a depth: none, or one that fills its lines. -/
def LeadsAt (depth : Nat) (text : String) : Prop := text = "" ∨ FillsLines depth text

section Shapes

variable {depth : Nat} {text more : String}

theorem EndsLine.ne_empty (h : EndsLine text) : text ≠ "" := by
  rintro rfl
  cases h

theorem EndsLine.prepend (h : EndsLine text) (front : String) : EndsLine (front ++ text) := by
  unfold EndsLine at h ⊢
  rw [String.toList_append, List.getLast?_append, h, Option.some_or]

theorem endsLine_newline (text : String) : EndsLine (text ++ "\n") := by
  have hbreak : EndsLine "\n" := rfl
  exact hbreak.prepend text

theorem EndsLine.append (h : EndsLine text) (hmore : IsLines more) : EndsLine (text ++ more) := by
  rcases hmore with rfl | hmore
  · rwa [String.append_empty]
  · exact hmore.prepend text

theorem IsLines.empty : IsLines "" := .inl rfl

theorem IsLines.append (h : IsLines text) (hmore : IsLines more) : IsLines (text ++ more) := by
  rcases h with rfl | h
  · rwa [String.empty_append]
  · exact .inr (h.append hmore)

theorem BeginsAt.append (h : BeginsAt depth text) (more : String) : BeginsAt depth (text ++ more) := by
  obtain ⟨rest, rfl⟩ := h
  exact ⟨rest ++ more, String.append_assoc⟩

theorem FillsLines.append (h : FillsLines depth text) (hmore : IsLines more) : FillsLines depth (text ++ more) :=
  ⟨h.begins.append more, h.ends.append hmore⟩

theorem LeadsAt.fills (h : LeadsAt depth text) (hmore : FillsLines depth more) : FillsLines depth (text ++ more) := by
  rcases h with rfl | h
  · rwa [String.empty_append]
  · exact ⟨h.begins.append more, hmore.ends.prepend text⟩

theorem LeadsAt.append (h : LeadsAt depth text) (hmore : LeadsAt depth more) : LeadsAt depth (text ++ more) := by
  rcases hmore with rfl | hmore
  · rwa [String.append_empty]
  · exact .inr (h.fills hmore)

end Shapes

/-! ## Pieces on lines of their own -/

/-- The pieces stand in the text one after the other, and what is between, before and after them is
made of whole lines. -/
def InLines : (pieces : List String) → (text : String) → Prop
  | [], text => IsLines text
  | piece :: pieces, text => ∃ gap rest, text = gap ++ piece ++ rest ∧ IsLines gap ∧ InLines pieces rest

namespace InLines

variable {pieces more : List String} {text front back : String}

theorem prepend (h : InLines pieces text) (hfront : IsLines front) : InLines pieces (front ++ text) := by
  cases pieces with
  | nil => exact hfront.append h
  | cons piece pieces =>
    obtain ⟨gap, rest, rfl, hgap, hrest⟩ := h
    exact ⟨front ++ gap, rest, by simp only [String.append_assoc], hfront.append hgap, hrest⟩

theorem append (h₁ : InLines pieces text) (h₂ : InLines more back) : InLines (pieces ++ more) (text ++ back) := by
  induction pieces generalizing text with
  | nil => exact h₂.prepend h₁
  | cons piece pieces ih =>
    obtain ⟨gap, rest, rfl, hgap, hrest⟩ := h₁
    exact ⟨gap, rest ++ back, by simp only [String.append_assoc], hgap, ih hrest⟩

theorem singleton (piece : String) : InLines [piece] piece :=
  ⟨"", "", by simp, .empty, .empty⟩

/-- If the pieces end their lines, so does the text. -/
theorem isLines (h : InLines pieces text) (hends : ∀ piece ∈ pieces, EndsLine piece) : IsLines text := by
  induction pieces generalizing text with
  | nil => exact h
  | cons piece pieces ih =>
    obtain ⟨gap, rest, rfl, hgap, hrest⟩ := h
    have hpiece := hends piece List.mem_cons_self
    have htail := ih hrest fun p hp => hends p (List.mem_cons_of_mem _ hp)
    exact .inr ((hpiece.prepend gap).append htail)

/-- Pieces may be replaced by others that stand in their lines. -/
theorem expand {ι : Type} {whole : ι → String} {parts : ι → List String} {items : List ι}
    (h : InLines (pieces ++ items.map whole) text) (hparts : ∀ i ∈ items, InLines (parts i) (whole i)) :
    InLines (pieces ++ items.flatMap parts) text := by
  induction pieces generalizing text with
  | nil =>
    induction items generalizing text with
    | nil => exact h
    | cons i items ih =>
      obtain ⟨gap, rest, rfl, hgap, hrest⟩ := h
      have hitem := hparts i List.mem_cons_self
      have htail := ih (fun j hj => hparts j (List.mem_cons_of_mem _ hj)) hrest
      rw [List.nil_append, List.flatMap_cons, String.append_assoc]
      exact (hitem.append htail).prepend hgap
  | cons piece pieces ih =>
    obtain ⟨gap, rest, htext, hgap, hrest⟩ := h
    exact ⟨gap, rest, htext, hgap, ih hrest⟩

/-- If the pieces end their lines, each of them begins on a new one. -/
theorem exists_of_mem (h : InLines pieces text) (hends : ∀ piece ∈ pieces, EndsLine piece) {piece : String}
    (hpiece : piece ∈ pieces) : ∃ front back, text = front ++ piece ++ back ∧ IsLines front := by
  induction pieces generalizing text with
  | nil => cases hpiece
  | cons first pieces ih =>
    obtain ⟨gap, rest, rfl, hgap, hrest⟩ := h
    rcases List.mem_cons.1 hpiece with rfl | hpiece
    · exact ⟨gap, rest, rfl, hgap⟩
    · obtain ⟨front, back, rfl, hfront⟩ := ih hrest (fun p hp => hends p (List.mem_cons_of_mem _ hp)) hpiece
      have hfirst := (hends first List.mem_cons_self).prepend gap
      exact ⟨gap ++ first ++ front, back, by simp only [String.append_assoc], .inr (hfirst.append hfront)⟩

end InLines

namespace Render

variable {α β : Type} {P Q R : Nat → String → Prop}

/-! ## Shapes of what is written -/

/-- An action appends a text that has, at the depth where it is written, a given shape. -/
def Puts (P : Nat → String → Prop) (m : Render α) : Prop :=
  ∀ ⦃s s' : Session⦄ ⦃a : α⦄, s.out.stack ≠ [] → m s = .ok (a, s') →
    ∃ text, s.out.write text = .ok s'.out ∧ P s.out.depth text

namespace Puts

theorem mono {m : Render α} (hm : Puts P m) (h : ∀ depth text, P depth text → Q depth text) : Puts Q m := by
  intro s s' a hs hrun
  obtain ⟨text, hout, htext⟩ := hm hs hrun
  exact ⟨text, hout, h _ _ htext⟩

/-- Two texts in a row. -/
theorem bind {m : Render α} {k : α → Render β} (hm : Puts P m) (hk : ∀ a, Puts Q (k a))
    (h : ∀ depth text more, P depth text → Q depth more → R depth (text ++ more)) : Puts R (m >>= k) := by
  intro s s' c hs hrun
  obtain ⟨a, t, hfirst, hrest⟩ := bind_eq_ok.1 hrun
  obtain ⟨text, hout, htext⟩ := hm hs hfirst
  obtain ⟨more, hout', hmore⟩ := hk a (Buffers.stack_ne_nil_of_write hout) hrest
  rw [Buffers.depth_of_write hout] at hmore
  exact ⟨text ++ more, Buffers.write_write hout hout', h _ _ _ htext hmore⟩

theorem ite {c : Prop} [Decidable c] {m n : Render α} (hm : Puts P m) (hn : Puts P n) : Puts P (if c then m else n) := by
  split
  · exact hm
  · exact hn

theorem pure (a : α) (h : ∀ depth, P depth "") : Puts P (pure a : Render α) := by
  intro s s' c hs hrun
  cases hrun
  exact ⟨"", Buffers.write_empty hs, h _⟩

theorem changeOut (text : Nat → String) {f : Buffers → Except Fault Buffers}
    (hf : ∀ b : Buffers, f b = b.write (text b.depth)) (h : ∀ depth, P depth (text depth)) :
    Puts P (changeOut f) := by
  intro s s' _ hs hrun
  unfold Render.changeOut at hrun
  rw [hf] at hrun
  split at hrun
  · next hout =>
    cases hrun
    exact ⟨_, hout, h _⟩
  · cases hrun

theorem write {text : String} (h : ∀ depth, P depth text) : Puts P (write text) :=
  changeOut (fun _ => text) (fun _ => rfl) h

theorem newline : Puts (fun _ => EndsLine) newline := write fun _ => rfl

theorem writeLine (text : String) : Puts (fun _ => EndsLine) (writeLine text) := write fun _ => endsLine_newline text

theorem writeIndented (text : String) : Puts BeginsAt (writeIndented text) :=
  changeOut (Buffers.indentation · ++ text) (fun _ => rfl) fun _ => ⟨text, rfl⟩

theorem writeLineIndented (text : String) : Puts FillsLines (writeLineIndented text) :=
  changeOut (Buffers.indentation · ++ (text ++ "\n")) (fun _ => rfl)
    fun _ => ⟨⟨_, rfl⟩, (endsLine_newline text).prepend _⟩

/-- Plain actions write something. -/
theorem plain {m : Render α} (hm : Plain m) : Puts (fun _ _ => True) m := by
  intro s s' a hs hrun
  obtain ⟨text, hout⟩ := hm.written hs hrun
  exact ⟨text, hout, trivial⟩

theorem current (h : ∀ depth, P depth "") : Puts P current := by
  intro s s' f hs hrun
  unfold Render.current at hrun
  split at hrun
  · cases hrun
    exact ⟨"", Buffers.write_empty hs, h _⟩
  · cases hrun

/-- Nothing is written outside a buffer of its own. -/
theorem capture {m : Render Unit} (hm : Puts Q m) (h : ∀ depth, P depth "") : Puts P (capture m) := by
  intro s s' text hs hrun
  obtain ⟨_, s₀, hopen, hrest⟩ := bind_eq_ok.1 hrun
  cases hopen
  obtain ⟨_, t, hbody, -⟩ := bind_eq_ok.1 hrest
  obtain ⟨collected, hout, -⟩ := hm (List.cons_ne_nil _ _) hbody
  cases hrun.symm.trans (Blind.capture_of_write hbody hout)
  exact ⟨"", Buffers.write_empty hs, h _⟩

/-- What is captured and then written is as if it were written in place. -/
theorem spliced {m : Render Unit} (hm : Puts P m) : Puts P (do Render.write (← Render.capture m)) := by
  intro s s' _ hs hrun
  obtain ⟨text, t, hcapture, hwrite⟩ := bind_eq_ok.1 hrun
  obtain ⟨_, s₀, hopen, hrest⟩ := bind_eq_ok.1 hcapture
  cases hopen
  obtain ⟨_, t', hbody, -⟩ := bind_eq_ok.1 hrest
  obtain ⟨collected, hout, hshape⟩ := hm (List.cons_ne_nil _ _) hbody
  cases hcapture.symm.trans (Blind.capture_of_write hbody hout)
  obtain ⟨_, hout', rfl⟩ := write (P := fun _ more => more = text) (fun _ => rfl)
    (s := { t' with out := s.out }) hs hwrite
  exact ⟨_, hout', hshape⟩

theorem onSome {act : α → Render Unit} {o : Option α} (hact : ∀ a, Puts P (act a)) (h : ∀ depth, P depth "") :
    Puts P (onSome act o) := by
  cases o with
  | none => exact pure () h
  | some a => exact hact a

/-! ## Parts of a declaration -/

/-- A text may stand in front of what fills its lines. -/
theorem leads {m : Render α} {k : α → Render β} (hm : Puts LeadsAt m) (hk : ∀ a, Puts FillsLines (k a)) :
    Puts FillsLines (m >>= k) := bind hm hk fun _ _ _ h hmore => h.fills hmore

theorem begins {m : Render α} {k : α → Render β} (hm : Puts BeginsAt m) (hk : ∀ a, Puts (fun _ => EndsLine) (k a)) :
    Puts FillsLines (m >>= k) := bind hm hk fun _ _ _ h hmore => ⟨h.append _, hmore.prepend _⟩

/-- How a line goes on does not matter if it is ended. -/
theorem after {m : Render α} {k : α → Render β} (hm : Plain m) (hk : ∀ a, Puts (fun _ => EndsLine) (k a)) :
    Puts (fun _ => EndsLine) (m >>= k) := bind (plain hm) hk fun _ _ _ _ hmore => hmore.prepend _

theorem mayLead {m : Render α} (hm : Puts FillsLines m) : Puts LeadsAt m := hm.mono fun _ _ => .inr

theorem each {act : α → Render Unit} (hact : ∀ a, Puts FillsLines (act a)) (items : List α) :
    Puts LeadsAt (each act items) := by
  induction items with
  | nil => exact pure () fun _ => .inl rfl
  | cons a items ih => exact bind (hact a) (fun _ => ih) fun _ _ _ h hmore => LeadsAt.append (.inr h) hmore

theorem jvmAnnots (annots : List JvmAnnot) : Puts LeadsAt (jvmAnnots .block annots) := by
  refine each (fun a => ?_) _
  refine begins (writeIndented "@") fun _ => ?_
  refine after (.jvmAnnotBody false a) fun _ => ?_
  exact newline

theorem kotlinAnnots (annots : List KotlinAnnot) : Puts LeadsAt (kotlinAnnots .block annots) := by
  refine each (fun a => ?_) _
  refine begins (writeIndented "@") fun _ => ?_
  refine after (.kotlinAnnotBody false a) fun _ => ?_
  exact newline

theorem methodAnnots (pool : Pool) (artifact : Artifact) (r : Option MethodRef) :
    Puts LeadsAt (methodAnnots pool artifact r) := onSome (fun (_, m) => jvmAnnots m.annotations) fun _ => .inl rfl

theorem requirement (v : Option Version) : Puts LeadsAt (Render.onSome (versionRequirement .block) v) :=
  onSome (fun _ => (writeLineIndented _).mayLead) fun _ => .inl rfl

theorem contextReceivers (receivers : List TypeUse) : Puts LeadsAt (contextReceivers receivers) := by
  refine ite (pure () fun _ => .inl rfl) (mayLead ?_)
  refine begins (writeIndented _) fun _ => ?_
  refine after (.separated (.typeUse false) _) fun _ => ?_
  exact writeLine _

/-! ## Declarations -/

theorem function (pool : Pool) (f : Function) : Puts FillsLines (function pool f) := by
  refine leads (current fun _ => .inl rfl) fun frame => ?_
  refine leads (methodAnnots pool _ _) fun _ => ?_
  refine leads (requirement _) fun _ => ?_
  refine leads (contextReceivers _) fun _ => ?_
  refine begins (writeIndented _) fun _ => ?_
  refine after (.write "fun ") fun _ => ?_
  refine after (.declareAll _) fun _ => ?_
  refine after (.typeParameterList _ _) fun _ => ?_
  refine after (.onSome .receiverType) fun _ => ?_
  refine after (.write _) fun _ => ?_
  refine after (.write "(") fun _ => ?_
  refine after (.valueParameters _) fun _ => ?_
  refine after (.write ")") fun _ => ?_
  refine ite (writeLine _) ?_
  refine after (.write ": ") fun _ => ?_
  refine after (.typeUse false _) fun _ => ?_
  exact writeLine _

theorem property (pool : Pool) (p : Property) : Puts FillsLines (property pool p) := by
  refine leads (current fun _ => .inl rfl) fun frame => ?_
  refine leads (methodAnnots pool _ _) fun _ => ?_
  refine leads (requirement _) fun _ => ?_
  refine leads (contextReceivers _) fun _ => ?_
  refine begins (writeIndented _) fun _ => ?_
  refine after (.declareAll _) fun _ => ?_
  refine after (.typeParameterList _ _) fun _ => ?_
  refine after (.onSome .receiverType) fun _ => ?_
  refine after (.write _) fun _ => ?_
  refine after (.write ": ") fun _ => ?_
  refine after (.typeUse false _) fun _ => ?_
  refine after (.onSome fun _ => .write _) fun _ => ?_
  -- The lines under the property begin by ending the one before, so that the last is still to be ended.
  refine after (.onSome fun r => .commentLine _ _) fun _ => ?_
  refine after (.onSome fun r => ?_) fun _ => ?_
  · split
    · exact .commentLine _ _
    · exact .commentLine _ _
  · refine after (.onSome (.accessor pool _ "get" (.pure ()))) fun _ => ?_
    refine after (.onSome (.accessor pool _ "set" (.setterParameter _))) fun _ => ?_
    exact newline

theorem typeAlias (a : TypeAlias) : Puts FillsLines (typeAlias a) := by
  refine leads (kotlinAnnots _) fun _ => ?_
  refine leads (requirement _) fun _ => ?_
  refine begins (writeIndented _) fun _ => ?_
  refine after (.declareAll _) fun _ => ?_
  refine after (.typeParameterList _ _) fun _ => ?_
  refine after (.write " = ") fun _ => ?_
  refine after (.typeUse false _) fun _ => ?_
  exact newline

end Puts

/-- A secondary constructor is written on lines of its own: its annotations go before the keyword. -/
theorem constructor_of_isSecondary (pool : Pool) {c : Constructor} (h : c.isSecondary = true) :
    constructor pool c = (do
      let frame ← current
      onSome (versionRequirement .block) c.versionRequirement
      onSome (fun annots => do write (← capture (jvmAnnots .block annots)))
        (constructorAnnots? pool frame.artifact c)
      writeIndented ""
      write "constructor"
      write "("
      eachFrom (fun index p => valueParameter index p (frame.metadata.content.mutability p.name)) 0 c.valueParameters
      write ") "
      writeLine "\x7b \x7d") := by
  simp only [constructor, h, if_true, Bool.true_or]

theorem Puts.constructor (pool : Pool) {c : Constructor} (h : c.isSecondary = true) :
    Puts FillsLines (constructor pool c) := by
  rw [constructor_of_isSecondary pool h]
  refine leads (current fun _ => .inl rfl) fun frame => ?_
  refine leads (requirement _) fun _ => ?_
  refine leads (onSome (fun annots => spliced (jvmAnnots annots)) fun _ => .inl rfl) fun _ => ?_
  refine begins (writeIndented "") fun _ => ?_
  refine after (.write _) fun _ => ?_
  refine after (.write _) fun _ => ?_
  refine after (.eachFrom (fun index p => .valueParameter index p _) 0 _) fun _ => ?_
  refine after (.write _) fun _ => ?_
  exact writeLine _

end Render

end KotlinMetadata
