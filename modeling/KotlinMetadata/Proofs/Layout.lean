/-
How an artifact is laid out. `LaysOut` is a run that writes declarations and
then takes steps, with the place where their texts stand: in the lines of
what is written, or in those of a text that is given, to be written later.

What a buffer of its own collects is given (`LaysOut.capture`) and comes to
stand in the text outside when that sets it between whole lines
(`LaysOut.emit`). Where a line need not be ended yet, as before the body of a
class, the place is `behind` it. `UnderHeader.content` is the result for
artifacts of every kind.
-/
import KotlinMetadata.Proofs.Passages

namespace KotlinMetadata

namespace Render

variable {inside : Frame → Render Unit} {α β : Type} {ds es : List TypeParameter} {shift : Nat}
variable {l l₁ l₂ : List Step}

/-! ## Plain actions around the steps -/

/-- An action that stays inside its artifact and declares some type parameters. -/
structure Stays (ds : List TypeParameter) (m : Render α) : Prop where
  plain : Plain m
  declares : Declares true ds m

theorem Stays.run {m : Render α} (h : Stays ds m) {s s' : Session} {a : α} (hs : s.out.stack ≠ [])
    (hrun : m s = .ok (a, s')) :
    (∃ text, s.out.write text = .ok s'.out) ∧ OnlyText (s.declaring ds) s' :=
  ⟨h.plain.written hs hrun, h.declares.run_eq hrun⟩

/-- An action that stays inside its artifact and writes whole lines, or nothing. -/
structure PutsLines (m : Render α) : Prop extends Stays [] m where
  lines : Puts (fun _ => IsLines) m

namespace PutsLines

theorem pure (a : α) : PutsLines (pure a : Render α) := ⟨⟨.pure a, .pure a⟩, .pure a fun _ => .empty⟩

theorem newline : PutsLines newline := ⟨⟨.newline, .newline⟩, Puts.newline.mono fun _ _ => .inr⟩

theorem writeLine (text : String) : PutsLines (writeLine text) :=
  ⟨⟨.writeLine text, .writeLine text⟩, (Puts.writeLine text).mono fun _ _ => .inr⟩

theorem writeLineIndented (text : String) : PutsLines (writeLineIndented text) :=
  ⟨⟨.writeLineIndented text, .writeLineIndented text⟩, (Puts.writeLineIndented text).mono fun _ _ h => .inr h.ends⟩

theorem resolve (qualified nesting : String) : PutsLines (resolve qualified nesting) := by
  refine ⟨⟨.resolve _ _, .resolve _ _⟩, fun s s' a hs hrun => ?_⟩
  cases hrun
  exact ⟨"", Buffers.write_empty hs, .empty⟩

theorem seq {m : Render α} {k : α → Render β} (hm : PutsLines m) (hk : ∀ a, PutsLines (k a)) :
    PutsLines (m >>= k) := by
  refine ⟨⟨.seq hm.plain fun a => (hk a).plain, .seq hm.declares fun a => (hk a).declares⟩, ?_⟩
  exact hm.lines.bind (fun a => (hk a).lines) fun _ _ _ h hmore => h.append hmore

theorem onSome {act : α → Render Unit} {o : Option α} (h : ∀ a, PutsLines (act a)) :
    PutsLines (Render.onSome act o) := by
  cases o with
  | none => exact pure ()
  | some a => exact h a

theorem sealedSubclasses (c : ClassInfo) : PutsLines (sealedSubclasses c) := by
  refine ⟨⟨.sealedSubclasses c, .sealedSubclasses c⟩, fun s => ?_⟩
  exact Puts.ite (Puts.pure () fun _ => .empty) (writeLineIndented _).lines (s := s)

theorem underlyingProperty (c : ClassInfo) : PutsLines (underlyingProperty c) := by
  refine onSome fun name => seq (writeLineIndented _) fun _ => seq ?_ fun type => writeLineIndented _
  have htype : Plain (Render.onSome typeUse c.underlyingPropertyType) := .onSome (.typeUse false)
  exact ⟨⟨.capture htype, .capture (.onSome .typeUse)⟩, (Puts.plain htype).capture fun _ => .empty⟩

end PutsLines

/-! ## Texts set between others -/

/-- A text is set between others, of which the last is made of whole lines. -/
def Around (P : String → Prop) (inner text : String) : Prop :=
  ∃ front back, text = front ++ inner ++ back ∧ P front ∧ IsLines back

theorem Around.prepend {P Q : String → Prop} {inner text front : String} (h : Around P inner text)
    (hfront : ∀ more, P more → Q (front ++ more)) : Around Q inner (front ++ text) := by
  obtain ⟨gap, back, rfl, hgap, hback⟩ := h
  exact ⟨front ++ gap, back, by simp only [String.append_assoc], hfront gap hgap, hback⟩

namespace Puts

variable {inner : String}

theorem set (inner : String) : Puts (fun _ => Around IsLines inner) (Render.write inner) :=
  .write fun _ => ⟨"", "", by simp, .empty, .empty⟩

/-- Whole lines in front of what sets a text. -/
theorem leadSet {m : Render α} {k : α → Render β} (hm : PutsLines m)
    (hk : ∀ a, Puts (fun _ => Around IsLines inner) (k a)) : Puts (fun _ => Around IsLines inner) (m >>= k) :=
  hm.lines.bind hk fun _ _ _ hfront h => h.prepend fun _ hmore => hfront.append hmore

/-- The end of a line in front of what sets a text. -/
theorem endSet {m : Render α} {k : α → Render β} (hm : Puts (fun _ => EndsLine) m)
    (hk : ∀ a, Puts (fun _ => Around IsLines inner) (k a)) : Puts (fun _ => Around EndsLine inner) (m >>= k) :=
  hm.bind hk fun _ _ _ hfront h => h.prepend fun _ hmore => hfront.append hmore

/-- Whole lines after what sets a text. -/
theorem setThen {m : Render α} {k : α → Render β} (hm : Puts (fun _ => Around IsLines inner) m)
    (hk : ∀ a, PutsLines (k a)) : Puts (fun _ => Around IsLines inner) (m >>= k) := by
  refine hm.bind (fun a => (hk a).lines) ?_
  rintro _ _ more ⟨front, back, rfl, hfront, hback⟩ hmore
  exact ⟨front, back ++ more, by simp only [String.append_assoc], hfront, hback.append hmore⟩

end Puts

/-! ## Where declarations and renderings stand -/

/-- Renderings append to the text and come back to the scopes that they started in. -/
def Appends (inside : Frame → Render Unit) : Prop :=
  ∀ ⦃g s s'⦄, s.out.stack ≠ [] → inside g s = .ok ((), s') →
    (∃ text, s.out.write text = .ok s'.out) ∧ s'.scope.frames = s.scope.frames

/-- A run of an action writes some declarations, which declare type parameters, and then takes some
steps, all `shift` levels deeper. A `place` says where their texts stand, by what the action gives and
the text that it writes. -/
def LaysOut (pool : Pool) (inside : Frame → Render Unit) (place : List String → α → String → Prop)
    (ds : List TypeParameter) (shift : Nat) (nodes : List Node) (l : List Step) (m : Render α) : Prop :=
  ∀ ⦃s s' : Session⦄ ⦃a : α⦄, s.out.stack ≠ [] → m s = .ok (a, s') → ∃ text ws rs,
    s.out.write text = .ok s'.out ∧ Writings pool s.scope.frames (s.out.depth + shift) nodes ws ∧
      Passes inside (s.out.depth + shift) l rs (s.declaring ds) s' ∧
      place (ws.map (·.text) ++ rs.map (·.text)) a text

/-- They stand in the lines of what is written. -/
def written (pieces : List String) (_ : α) (text : String) : Prop := InLines pieces text

/-- They do so behind a line that need not be ended yet. -/
def behind (pieces : List String) (_ : α) (text : String) : Prop := ∀ front, InLines pieces (front ++ text)

/-- They stand in the lines of what is given, and nothing is written. -/
def given (carried : α → String) (pieces : List String) (a : α) (text : String) : Prop :=
  text = "" ∧ InLines pieces (carried a)

/-- There are none. -/
def only (P : String → Prop) (pieces : List String) (_ : α) (text : String) : Prop := pieces = [] ∧ P text

end Render

theorem InLines.around {pieces : List String} {inner text : String} (h : InLines pieces inner)
    (haround : Render.Around IsLines inner text) : InLines pieces text := by
  obtain ⟨front, back, rfl, hfront, hback⟩ := haround
  have happend : InLines (pieces ++ []) (front ++ inner ++ back) := (h.prepend hfront).append hback
  rwa [List.append_nil] at happend

namespace Render.LaysOut

variable {pool : Pool} {inside : Frame → Render Unit} {α β : Type} {ds es : List TypeParameter} {shift : Nat}
variable {nodes nodes₁ nodes₂ : List Node} {l l₁ l₂ : List Step} {place : List String → α → String → Prop}

/-! ## Sequences -/

theorem stays {P : String → Prop} {m : Render α} (hm : Stays ds m) (hputs : Puts (fun _ => P) m) :
    LaysOut pool inside (only P) ds shift [] [] m := by
  intro s s' a hs hrun
  obtain ⟨text, hout, htext⟩ := hputs hs hrun
  exact ⟨text, [], [], hout, .nil, .nil (hm.run hs hrun).2, rfl, htext⟩

/-- Two actions in a row. No declarations come after a step. -/
theorem bind {place₁ : List String → α → String → Prop} {place₂ : α → List String → β → String → Prop}
    {place₃ : List String → β → String → Prop} {m : Render α} {k : α → Render β}
    (hm : LaysOut pool inside place₁ ds shift nodes₁ l₁ m)
    (hk : ∀ a, LaysOut pool inside (place₂ a) es shift nodes₂ l₂ (k a))
    (hphase : l₁ = [] ∨ nodes₂ = [] ∧ es = [])
    (hplace : ∀ ps qs a c text more, place₁ ps a text → place₂ a qs c more → place₃ (ps ++ qs) c (text ++ more)) :
    LaysOut pool inside place₃ (ds ++ es) shift (nodes₁ ++ nodes₂) (l₁ ++ l₂) (m >>= k) := by
  intro s s' c hs hrun
  obtain ⟨a, t, hfirst, hrest⟩ := bind_eq_ok.1 hrun
  obtain ⟨text, ws, rs, hout, hws, hpass, hstand⟩ := hm hs hfirst
  obtain ⟨more, ws', rs', hout', hws', hpass', hstand'⟩ := hk a (Buffers.stack_ne_nil_of_write hout) hrest
  rw [Buffers.depth_of_write hout] at hws' hpass'
  have hwhole := hplace _ _ _ _ _ _ hstand hstand'
  rcases hphase with rfl | ⟨rfl, rfl⟩
  · -- Up to here only the text and the names have changed, so the scopes are those of the start.
    cases hpass with
    | nil hsame =>
      have hframes : t.scope.frames = s.scope.frames := by
        rw [hsame]
        rfl
      rw [hframes] at hws'
      refine ⟨text ++ more, ws ++ ws', rs', Buffers.write_write hout hout', hws.append hws', ?_, ?_⟩
      · exact hpass'.of_onlyText (hsame.declaring_append es)
      · simpa using hwhole
  · -- After the steps there are no more declarations, so the order of the pieces is that of the actions.
    cases hws'.eq_nil
    refine ⟨text ++ more, ws, rs ++ rs', Buffers.write_write hout hout', ?_, ?_, ?_⟩
    · rwa [List.append_nil]
    · rw [List.append_nil]
      exact hpass.append hpass'
    · simpa using hwhole

theorem mono {place' : List String → α → String → Prop} {m : Render α}
    (hm : LaysOut pool inside place ds shift nodes l m)
    (h : ∀ pieces a text, place pieces a text → place' pieces a text) :
    LaysOut pool inside place' ds shift nodes l m := by
  intro s s' a hs hrun
  obtain ⟨text, ws, rs, hout, hws, hpass, hstand⟩ := hm hs hrun
  exact ⟨text, ws, rs, hout, hws, hpass, h _ _ _ hstand⟩

theorem lines {m : Render α} (hm : PutsLines m) : LaysOut pool inside written [] shift [] [] m := by
  refine (stays hm.toStays hm.lines).mono ?_
  rintro _ _ text ⟨rfl, htext⟩
  exact htext

/-- Declarations before others and before the steps. -/
theorem listed {m : Render α} {k : α → Render β} (hm : LaysOut pool inside written ds shift nodes₁ [] m)
    (hk : ∀ a, LaysOut pool inside written es shift nodes₂ l (k a)) :
    LaysOut pool inside written (ds ++ es) shift (nodes₁ ++ nodes₂) l (m >>= k) :=
  bind hm hk (.inl rfl) fun _ _ _ _ _ _ => InLines.append

/-- Declarations of which none declares a type parameter. -/
theorem listedBare {m : Render α} {k : α → Render β} (hm : LaysOut pool inside written [] shift nodes₁ [] m)
    (hk : ∀ a, LaysOut pool inside written ds shift nodes₂ l (k a)) :
    LaysOut pool inside written ds shift (nodes₁ ++ nodes₂) l (m >>= k) := listed hm hk

theorem seq {m : Render α} {k : α → Render β} (hm : PutsLines m)
    (hk : ∀ a, LaysOut pool inside written ds shift nodes l (k a)) :
    LaysOut pool inside written ds shift nodes l (m >>= k) := listed (lines hm) hk

/-- Steps before others. -/
theorem steps {m : Render α} {k : α → Render β} (hm : LaysOut pool inside written ds shift nodes l₁ m)
    (hk : ∀ a, LaysOut pool inside written [] shift [] l₂ (k a)) :
    LaysOut pool inside written ds shift nodes (l₁ ++ l₂) (m >>= k) := by
  have h : LaysOut pool inside written (ds ++ []) shift (nodes ++ []) (l₁ ++ l₂) (m >>= k) :=
    bind hm hk (.inr ⟨rfl, rfl⟩) fun _ _ _ _ _ _ => InLines.append
  rwa [List.append_nil, List.append_nil] at h

theorem andThen {m : Render α} {k : α → Render β} (hm : LaysOut pool inside written ds shift nodes l m)
    (hk : ∀ a, PutsLines (k a)) : LaysOut pool inside written ds shift nodes l (m >>= k) := by
  have h := steps hm fun a => lines (hk a)
  rwa [List.append_nil] at h

/-- Steps for each item, one after the other. -/
theorem eachSteps {act : α → Render Unit} {stepsOf : α → List Step}
    (h : ∀ a, LaysOut pool inside written [] shift [] (stepsOf a) (act a)) (items : List α) :
    LaysOut pool inside written [] shift [] (items.flatMap stepsOf) (each act items) := by
  induction items with
  | nil => exact lines (.pure ())
  | cons a items ih => exact steps (h a) fun _ => ih

/-- A declaration for each item, one after the other. -/
theorem eachNode {act : α → Render Unit} {declared : α → List TypeParameter} {node : α → Node}
    (h : ∀ a, LaysOut pool inside written (declared a) shift [node a] [] (act a)) (items : List α) :
    LaysOut pool inside written (items.flatMap declared) shift (items.map node) [] (each act items) := by
  induction items with
  | nil => exact lines (.pure ())
  | cons a items ih => exact listed (h a) fun _ => ih

theorem indented {m : Render α} (hm : LaysOut pool inside place ds shift nodes l m) :
    LaysOut pool inside place ds (shift + 1) nodes l (indented m) := by
  intro s s' a hs hrun
  obtain ⟨_, s₀, hindent, hrun⟩ := bind_eq_ok.1 hrun
  cases hindent
  obtain ⟨a', t, hbody, hrun⟩ := bind_eq_ok.1 hrun
  obtain ⟨text, ws, rs, hout, hws, hpass, hstand⟩ := hm (s := { s with out := s.out.indent }) hs hbody
  obtain ⟨out, hoff, hwrite⟩ := Buffers.outdent_of_indent_write hout
  have houtdent : outdent t = .ok ((), { t with out }) := by simp [outdent, changeOut, hoff]
  rw [bind_of_ok houtdent] at hrun
  cases hrun
  have hdepth : s.out.indent.depth + shift = s.out.depth + (shift + 1) := by
    simp only [Buffers.indent]
    omega
  rw [hdepth] at hws hpass
  refine ⟨text, ws, rs, hwrite, hws, ?_, hstand⟩
  exact (hpass.of_onlyText ((OnlyText.withOut s _).declaring ds)).to_onlyText (.withOut t out)

/-! ## Buffers of their own -/

/-- What a buffer of its own collects is given. -/
theorem capture {m : Render Unit} (hm : LaysOut pool inside written ds shift nodes l m) :
    LaysOut pool inside (given id) ds shift nodes l (capture m) := by
  intro s s' text hs hrun
  obtain ⟨_, s₀, hopen, hrest⟩ := bind_eq_ok.1 hrun
  cases hopen
  obtain ⟨_, t, hbody, hclose⟩ := bind_eq_ok.1 hrest
  obtain ⟨collected, ws, rs, hout, hws, hpass, hstand⟩ :=
    hm (s := { s with out := s.out.push }) (List.cons_ne_nil _ _) hbody
  cases hrun.symm.trans (Blind.capture_of_write hbody hout)
  have hwhole := (hpass.of_onlyText ((OnlyText.withOut s _).declaring ds)).to_onlyText (.withOut t s.out)
  exact ⟨"", ws, rs, Buffers.write_empty hs, hws, hwhole, rfl, hstand⟩

/-- What is carried on is still given. -/
theorem carry {carried : α → String} {m : Render α} {k : α → Render β} {carried' : β → String}
    (hm : LaysOut pool inside (given carried) ds shift nodes l m) (hk : ∀ a, Stays [] (k a))
    (hsilent : ∀ a, Puts (fun _ text => text = "") (k a))
    (hcarried : ∀ a c s s', k a s = .ok (c, s') → carried' c = carried a) :
    LaysOut pool inside (given carried') ds shift nodes l (m >>= k) := by
  intro s s' c hs hrun
  obtain ⟨a, t, hfirst, hrest⟩ := bind_eq_ok.1 hrun
  obtain ⟨_, ws, rs, hout, hws, hpass, rfl, hstand⟩ := hm hs hfirst
  have ht := Buffers.stack_ne_nil_of_write hout
  obtain ⟨_, hout', rfl⟩ := hsilent a ht hrest
  refine ⟨_, ws, rs, Buffers.write_write hout hout', hws, hpass.to_onlyText ((hk a).run ht hrest).2, rfl, ?_⟩
  rw [hcarried a c t s' hrest]
  exact hstand

/-- What was given is set between other texts. -/
theorem emitWith {P : String → Prop} {place : List String → Unit → String → Prop} (carried : α → String)
    {m : Render α} {k : α → Render Unit} (hm : LaysOut pool inside (given carried) ds shift nodes l m)
    (hk : ∀ a, Stays [] (k a)) (hputs : ∀ a, Puts (fun _ => Around P (carried a)) (k a))
    (hplace : ∀ pieces inner text, InLines pieces inner → Around P inner text → place pieces () text) :
    LaysOut pool inside place ds shift nodes l (m >>= k) := by
  have h : LaysOut pool inside place (ds ++ []) shift (nodes ++ []) (l ++ []) (m >>= k) := by
    refine bind hm (fun a => stays (hk a) (hputs a)) (.inr ⟨rfl, rfl⟩) ?_
    rintro pieces _ a _ _ text ⟨rfl, hpieces⟩ ⟨rfl, haround⟩
    rw [List.append_nil, String.empty_append]
    exact hplace pieces _ text hpieces haround
  rwa [List.append_nil, List.append_nil, List.append_nil] at h

/-- It stands between whole lines. -/
theorem emit (carried : α → String) {m : Render α} {k : α → Render Unit}
    (hm : LaysOut pool inside (given carried) ds shift nodes l m) (hk : ∀ a, Stays [] (k a))
    (hputs : ∀ a, Puts (fun _ => Around IsLines (carried a)) (k a)) :
    LaysOut pool inside written ds shift nodes l (m >>= k) :=
  emitWith carried hm hk hputs fun _ _ _ hpieces haround => hpieces.around haround

/-- It stands behind a line that is ended first. -/
theorem emitBehind (carried : α → String) {m : Render α} {k : α → Render Unit}
    (hm : LaysOut pool inside (given carried) ds shift nodes l m) (hk : ∀ a, Stays [] (k a))
    (hputs : ∀ a, Puts (fun _ => Around EndsLine (carried a)) (k a)) :
    LaysOut pool inside behind ds shift nodes l (m >>= k) := by
  refine emitWith carried hm hk hputs fun pieces inner text hpieces haround line => ?_
  exact hpieces.around (haround.prepend fun front hfront => .inr (hfront.prepend line))

/-! ## Unfinished lines -/

/-- A line goes on. -/
theorem declaring {m : Render α} {k : α → Render β} (hm : Stays ds m)
    (hk : ∀ a, LaysOut pool inside behind es shift nodes l (k a)) :
    LaysOut pool inside behind (ds ++ es) shift nodes l (m >>= k) := by
  refine bind (stays hm (.plain hm.plain)) hk (.inl rfl) ?_
  rintro _ qs _ _ text more ⟨rfl, -⟩ hmore front
  rw [List.nil_append, ← String.append_assoc]
  exact hmore _

theorem goOn {m : Render α} {k : α → Render β} (hm : Stays [] m)
    (hk : ∀ a, LaysOut pool inside behind ds shift nodes l (k a)) :
    LaysOut pool inside behind ds shift nodes l (m >>= k) := declaring hm hk

/-- A line is ended. -/
theorem ended {m : Render α} {k : α → Render β} (hm : Stays [] m) (hends : Puts (fun _ => EndsLine) m)
    (hk : ∀ a, LaysOut pool inside written ds shift nodes l (k a)) :
    LaysOut pool inside behind ds shift nodes l (m >>= k) := by
  refine bind (stays hm hends) hk (.inl rfl) ?_
  rintro _ qs _ _ text more ⟨rfl, htext⟩ hmore front
  rw [List.nil_append, ← String.append_assoc]
  exact InLines.prepend hmore (.inr (htext.prepend front))

theorem stop {m : Render α} (hm : Stays [] m) (hends : Puts (fun _ => EndsLine) m) :
    LaysOut pool inside behind [] shift [] [] m := by
  refine (stays hm hends).mono ?_
  rintro _ _ text ⟨rfl, htext⟩ front
  exact .inr (htext.prepend front)

/-- At the start of a line it does not matter that it need not be. -/
theorem start {m : Render α} (hm : LaysOut pool inside behind ds shift nodes l m) :
    LaysOut pool inside written ds shift nodes l m := by
  refine hm.mono fun pieces _ text h => ?_
  rw [← String.empty_append (s := text)]
  exact h ""

/-! ## Declarations -/

/-- A leaf is written where it stands. -/
theorem leaf (node : Node) (hleaf : node.isLeaf) (hdeclares : Declares true ds (node.visit pool)) :
    LaysOut pool inside written ds 0 [node] [] (node.visit pool) := by
  intro s s' _ hs hrun
  have hstays : Stays ds (node.visit pool) := ⟨node.writes_of_isLeaf pool hleaf, hdeclares⟩
  obtain ⟨⟨text, hout⟩, hsame⟩ := hstays.run hs hrun
  refine ⟨text, [⟨node, s, s', text⟩], [], hout, ⟨rfl, fun w hw => ?_⟩, .nil hsame, .singleton text⟩
  rw [List.mem_singleton.1 hw]
  exact ⟨hrun, hout, rfl, rfl⟩

/-- A group lays out what its items do. -/
theorem declarationGroup {title : String} {act : α → Render Unit} {items : List α}
    (h : LaysOut pool inside written ds shift nodes l (each act items)) :
    LaysOut pool inside written ds shift nodes l (declarationGroup title act items) := by
  unfold Render.declarationGroup
  split
  · next hempty =>
    rw [List.isEmpty_iff.1 hempty] at h
    exact h
  · refine seq .newline fun _ => ?_
    refine seq (.writeLineIndented title) fun _ => ?_
    refine seq .newline fun _ => ?_
    exact h

end Render.LaysOut

/-- The declarations among members, in the order they are printed. -/
def Members.nodes (m : Members) : List Node :=
  m.typeAliases.map .typeAlias ++ m.allProperties.map .property ++ m.functions.map .function

/-- The secondary constructors of a class. -/
def ClassInfo.secondary (c : ClassInfo) : List Constructor := c.constructors.filter Constructor.isSecondary

/-- The declarations of an artifact that have lines of their own, in the order they are printed. -/
def Frame.declarations (f : Frame) : List Node :=
  match f.metadata.content with
  | .classOf info => info.secondary.map .constructor ++ info.members.nodes
  | .fileFacade m => m.nodes
  | .synthetic info => info.functions.map .function
  | .multiFileFacade _ => []
  | .multiFilePart info => info.members.nodes

namespace Render.LaysOut

variable {pool : Pool} {inside : Frame → Render Unit}

theorem functions (items : List Function) : LaysOut pool inside written (items.flatMap (·.typeParameters)) 0
    (items.map .function) [] (each (function pool) items) :=
  eachNode (fun f => leaf (.function f) rfl (.function pool f)) items

theorem members (m : Members) : LaysOut pool inside written m.declared 0 m.nodes [] (members pool m) := by
  unfold Members.declared Members.nodes
  rw [List.append_assoc, List.append_assoc]
  refine listed (declarationGroup (eachNode (fun a => leaf (.typeAlias a) rfl (.typeAlias a)) _)) fun _ => ?_
  refine listed (declarationGroup (eachNode (fun p => leaf (.property p) rfl (.property pool p)) _)) fun _ => ?_
  exact declarationGroup (functions _)

theorem secondaryConstructors (c : ClassInfo) :
    LaysOut pool inside written [] 0 (c.secondary.map .constructor) [] (secondaryConstructors pool c) := by
  have h : LaysOut pool inside written (c.secondary.flatMap fun _ => []) 0 (c.secondary.map .constructor) []
      (each (constructor pool) c.secondary) :=
    eachNode (fun k => leaf (.constructor k) rfl (.constructor pool k)) c.secondary
  rw [List.flatMap_eq_nil_iff.2 fun _ _ => rfl] at h
  change LaysOut pool inside written [] 0 _ [] (if c.secondary.isEmpty then pure () else do
    writeLineIndented "// Secondary constructors"
    each (constructor pool) c.secondary)
  split
  · next hempty =>
    rw [List.isEmpty_iff.1 hempty] at h ⊢
    exact h
  · refine seq (.writeLineIndented _) fun _ => ?_
    exact h

/-! ## The artifacts inside another -/

/-- A step lays out the rendering that it comes to. -/
theorem take (hinside : Appends inside) (st : Step) : LaysOut pool inside written [] 0 [] [st] (st.take inside) := by
  intro s s' _ hs hrun
  rw [Step.take_eq] at hrun
  split at hrun
  · next hspared =>
    cases hrun
    exact ⟨"", [], [], Buffers.write_empty hs, .nil, .spared hspared (.nil rfl), .empty⟩
  · next hspared =>
    obtain ⟨⟨text, hout⟩, -⟩ := hinside (by rw [Step.entered_out]; exact hs) hrun
    have hrendering : (st.rendering s s' text).IsRun inside := ⟨hrun, hout⟩
    rw [Step.entered_out] at hout
    refine ⟨text, [], [st.rendering s s' text], hout, .nil, ?_, .singleton text⟩
    exact .taken rfl rfl (Bool.eq_false_iff.2 hspared) hrendering (.nil (.refl s'))

theorem contained (hinside : Appends inside) (a : Artifact) :
    LaysOut pool inside written [] 0 [] (a.frame?.toList.map .contained) (contained inside a) := by
  unfold Render.contained Artifact.frame?
  cases a.metadata with
  | none => exact lines (.pure ())
  | some metadata => exact take hinside (.contained ⟨a, metadata⟩)

theorem scanned (hinside : Appends inside) (a : Artifact) :
    LaysOut pool inside written [] 0 [] (a.frame?.toList.map .scanned) (scanned inside a) := by
  unfold Render.scanned Artifact.frame?
  cases a.metadata with
  | none =>
    -- The scan asks whether the artifact is done, and does nothing either way.
    intro s s' _ hs hrun
    obtain ⟨done, t, hdone, hrest⟩ := bind_eq_ok.1 hrun
    cases hdone
    have hsame : s' = s := by
      split at hrest
      · cases hrest
        rfl
      · cases hrest
        rfl
    rw [hsame]
    exact ⟨"", [], [], Buffers.write_empty hs, .nil, .nil (.refl s), .empty⟩
  | some metadata => exact take hinside (.scanned ⟨a, metadata⟩)

theorem children (hinside : Appends inside) (a : Artifact) :
    LaysOut pool inside written [] 0 [] (((pool.inner a.name).filterMap Artifact.frame?).map .scanned)
      (children pool inside a) := by
  rw [← Writes.flatMap_frame?]
  refine emit id (capture (eachSteps (scanned hinside) _)) (fun text => ⟨?_, ?_⟩) fun text => ?_
  · exact .underComment text
  · refine .ite (.pure ()) ?_
    refine .seq .newline fun _ => ?_
    refine .seq (.writeLineIndented _) fun _ => ?_
    refine .seq .newline fun _ => ?_
    exact .write text
  · by_cases hempty : text.isEmpty
    · rw [if_pos hempty]
      refine .pure () fun _ => ⟨"", "", ?_, .empty, .empty⟩
      simp [String.isEmpty_iff.1 hempty]
    · rw [if_neg hempty]
      refine .leadSet .newline fun _ => ?_
      refine .leadSet (.writeLineIndented _) fun _ => ?_
      refine .leadSet .newline fun _ => ?_
      exact .set text

theorem companion (hinside : Appends inside) (c : ClassInfo) :
    LaysOut pool inside written [] 0 [] ((c.companionClassName.toList.filterMap pool.frame?).map .contained)
      (companion pool inside c) := by
  rw [← Writes.filterMap_get?, ← Writes.toList_bind_get?, ← Writes.flatMap_frame?]
  unfold Render.companion
  cases c.companionClassName.bind pool.get? with
  | none => exact lines (.pure ())
  | some a =>
    rw [Option.toList_some, List.flatMap_singleton]
    refine seq .newline fun _ => ?_
    exact contained hinside a

theorem nestedClasses (hinside : Appends inside) (c : ClassInfo) :
    LaysOut pool inside written [] 0 [] ((c.nestedInternalNames.filterMap pool.frame?).map .contained)
      (nestedClasses pool inside c) := by
  rw [← Writes.filterMap_nestedArtifacts, ← Writes.flatMap_frame?]
  exact declarationGroup (eachSteps (contained hinside) _)

/-! ## Contents -/

theorem classBody (hinside : Appends inside) (a : Artifact) (c : ClassInfo) :
    LaysOut pool inside written c.members.declared 0 (c.secondary.map .constructor ++ c.members.nodes)
      (((c.companionClassName.toList ++ c.nestedInternalNames).filterMap pool.frame?).map .contained ++
        ((pool.inner a.name).filterMap Artifact.frame?).map .scanned) (classBody pool inside a c) := by
  rw [List.filterMap_append, List.map_append, List.append_assoc, ← List.append_nil c.members.declared,
    ← List.append_nil c.members.nodes]
  refine seq (.sealedSubclasses c) fun _ => ?_
  refine listedBare (secondaryConstructors c) fun _ => ?_
  refine seq (.underlyingProperty c) fun _ => ?_
  refine listed (members _) fun _ => ?_
  exact steps (companion hinside c) fun _ => steps (nestedClasses hinside c) fun _ => children hinside a

theorem classEnd_endsLine (count : Nat) (entries body : String) : Puts (fun _ => EndsLine) (classEnd count entries body) := by
  have hclose : Puts (fun _ => EndsLine) (writeLineIndented "\x7d") := (Puts.writeLineIndented _).mono fun _ _ h => h.ends
  have hbody : Puts (fun _ => EndsLine) (do write body; writeLineIndented "\x7d") := .after (.write _) fun _ => hclose
  refine .ite (.after (.writeLine _) fun _ => ?_) (.ite (.ite ?_ ?_) ?_)
  · exact .ite hbody (.after (.writeLine _) fun _ => hbody)
  · exact .after (.write _) fun _ => .after (.write _) fun _ => .writeLine _
  · exact .after (.writeLine _) fun _ => .after (.writeLine _) fun _ => hclose
  · exact .after .newline fun _ => .newline

/-- The end of a class ends the line that the class began on, and sets the body on lines of its own. -/
theorem classEnd_around (count : Nat) (entries body : String) :
    Puts (fun _ => Around EndsLine body) (classEnd count entries body) := by
  by_cases hbody : body = ""
  · refine (classEnd_endsLine count entries body).mono fun _ text htext => ⟨text, "", ?_, htext, .empty⟩
    simp [hbody]
  · unfold classEnd
    have hnot : (!body.isEmpty) = true := by simp [hbody]
    rw [if_pos hnot]
    have hend : Puts (fun _ => Around IsLines body) (do write body; writeLineIndented "\x7d") :=
      .setThen (.set body) fun _ => .writeLineIndented _
    exact .endSet (.writeLine _) fun _ => .ite hend (.leadSet (.writeLine _) fun _ => hend)

end Render.LaysOut

/-- How many levels deeper than an artifact those inside it stand. -/
def Frame.shift (f : Frame) : Nat :=
  match f.metadata.content with
  | .classOf _ | .multiFileFacade _ => 1
  | .fileFacade _ | .synthetic _ | .multiFilePart _ => 0

/-- How many levels deeper than an artifact its declarations stand. -/
def Frame.bodyShift (f : Frame) : Nat :=
  match f.metadata.content with
  | .classOf _ | .multiFileFacade _ | .synthetic _ => 1
  | .fileFacade _ | .multiFilePart _ => 0

/-- Only synthetic classes indent declarations and no artifacts: these have none inside. -/
theorem Frame.shift_eq_or (pool : Pool) (f : Frame) : f.bodyShift = f.shift ∨ f.steps pool = [] := by
  unfold bodyShift shift steps containedNames scans
  cases f.metadata.content with
  | synthetic info => exact .inr rfl
  | _ => exact .inl rfl

namespace Render

variable {pool : Pool} {inside : Frame → Render Unit}

/-- An action writes the header of an artifact first, and what follows lays out declarations and
steps. -/
def UnderHeader (pool : Pool) (inside : Frame → Render Unit) (f : Frame) (ds : List TypeParameter) (shift : Nat)
    (nodes : List Node) (l : List Step) (m : Render Unit) : Prop :=
  ∀ s, ∃ rest : Render Unit, m s = (do header f; rest) s ∧ LaysOut pool inside written ds shift nodes l rest

namespace UnderHeader

theorem classOf (hinside : Appends inside) (f : Frame) (c : ClassInfo) :
    UnderHeader pool inside f (c.typeParameters ++ c.originTypeParameters pool ++ c.members.declared) 1
      (c.secondary.map .constructor ++ c.members.nodes)
      (((c.companionClassName.toList ++ c.nestedInternalNames).filterMap pool.frame?).map .contained ++
        ((pool.inner f.artifact.name).filterMap Artifact.frame?).map .scanned) (classOf pool inside f c) := by
  refine fun s => ⟨_, rfl, .start ?_⟩
  rw [List.append_assoc]
  refine .goOn ⟨.jvmAnnots .block _, .jvmAnnots .block _⟩ fun _ => ?_
  refine .goOn ⟨.onSome (.versionRequirement .block), .onSome (.versionRequirement .block)⟩ fun _ => ?_
  refine .goOn ⟨.contextReceivers _, .contextReceivers _⟩ fun _ => .goOn ⟨.className c, .className c⟩ fun _ => ?_
  refine .declaring ⟨.declareAll _, .declareAll _⟩ fun _ => ?_
  refine .declaring ⟨.declareOrigin pool c, .declareOrigin pool c⟩ fun _ => ?_
  refine .goOn ⟨.typeParameterList _ _, .typeParameterList _ _⟩ fun _ => ?_
  refine .goOn ⟨.capture (.each (.constructor pool) _), .capture (.each (.constructor pool) _)⟩ fun primary => ?_
  refine .goOn ⟨.write _, .write _⟩ fun _ => .goOn ⟨.enclosed (.typeUse _) _, .enclosed .typeUse _⟩ fun _ => ?_
  refine .emitBehind Prod.fst (.indented ?_) (fun _ => ⟨.classEnd _ _ _, .classEnd _ _ _⟩)
    fun (body, entries) => LaysOut.classEnd_around _ entries body
  have hentries : Plain (enumEntries 0 c.enumEntryNames) := .enumEntries 0 _
  refine .carry (.capture (.classBody hinside f.artifact c)) (fun body => ?_) (fun body => ?_) fun body pair t t' hrun => ?_
  · exact ⟨.seq (.capture hentries) fun entries => .pure (body, entries),
      .seq (.capture (.enumEntries 0 _)) fun entries => .pure (body, entries)⟩
  · have hsilent : Puts (fun _ text => text = "") (capture (enumEntries 0 c.enumEntryNames)) :=
      (Puts.plain hentries).capture fun _ => rfl
    refine hsilent.bind (Q := fun _ text => text = "") (fun entries => .pure _ fun _ => rfl) ?_
    rintro _ _ _ rfl rfl
    rfl
  · obtain ⟨entries, _, _, hpair⟩ := bind_eq_ok.1 hrun
    cases hpair
    rfl

theorem fileFacade (hinside : Appends inside) (f : Frame) (m : Members) :
    UnderHeader pool inside f m.declared 0 m.nodes
      (((pool.inner f.artifact.name).filterMap Artifact.frame?).map .scanned) (fileFacade pool inside f m) := by
  refine fun s => ⟨_, rfl, ?_⟩
  rw [← List.append_nil m.declared, ← List.append_nil m.nodes]
  refine .listed (.members m) fun _ => ?_
  exact .children hinside f.artifact

theorem syntheticClass (f : Frame) (info : SyntheticInfo) :
    UnderHeader pool inside f (info.functions.flatMap (·.typeParameters)) 1 (info.functions.map .function) []
      (syntheticClass pool f info) := by
  refine fun s => ⟨_, bind_of_ok (a := s.scope.resolve f.artifact.name "_") rfl, .start ?_⟩
  refine .goOn ⟨.writeIndented _, .writeIndented _⟩ fun _ => ?_
  split
  · next hempty =>
    rw [List.isEmpty_iff.1 hempty]
    exact .stop ⟨.newline, .newline⟩ .newline
  · refine .ended ⟨.writeLine _, .writeLine _⟩ (.writeLine _) fun _ => ?_
    refine .andThen (.indented (.seq (.writeLineIndented _) fun _ => .functions _)) fun _ => ?_
    exact .writeLineIndented _

theorem multiFileFacade (hinside : Appends inside) (pool : Pool) (f : Frame) (partNames : List String) :
    UnderHeader pool inside f [] 1 []
      (((partNames.filter (· ≠ f.artifact.name)).filterMap pool.frame?).map .contained)
      (multiFileFacade pool inside f partNames) := by
  refine fun s => ⟨_, rfl, .seq .newline fun _ => .indented ?_⟩
  rw [← Writes.filterMap_get?, ← Writes.flatMap_frame?]
  exact .eachSteps (fun a => .andThen (.contained hinside a) fun _ => .newline) _

theorem multiFilePart (hinside : Appends inside) (f : Frame) (info : PartInfo) :
    UnderHeader pool inside f info.members.declared 0 info.members.nodes
      (((pool.inner f.artifact.name).filterMap Artifact.frame?).map .scanned) (multiFilePart pool inside f info) := by
  refine fun s => ⟨_, rfl, .seq (.resolve _ _) fun name => ?_⟩
  rw [← List.append_nil info.members.declared, ← List.append_nil info.members.nodes]
  refine .seq (.onSome fun _ => .writeLineIndented _) fun _ => ?_
  refine .seq (.writeLineIndented _) fun _ => ?_
  refine .listed (.members _) fun _ => ?_
  exact .children hinside f.artifact

/-- **An artifact lays out its declarations and those inside it.** -/
theorem content (hinside : Appends inside) (pool : Pool) (f : Frame) :
    ∃ body, content pool inside f = within f body ∧
      UnderHeader pool inside f (f.declared pool) f.bodyShift f.declarations (f.steps pool) body := by
  refine ⟨_, rfl, ?_⟩
  unfold Frame.declared Frame.bodyShift Frame.declarations Frame.steps Frame.containedNames Frame.scans
  cases f.metadata.content with
  | classOf info => exact classOf hinside f info
  | fileFacade m => exact fileFacade hinside f m
  | synthetic info => exact syntheticClass f info
  | multiFileFacade partNames =>
    have h := multiFileFacade hinside pool f partNames
    rwa [← List.append_nil (List.map _ _)] at h
  | multiFilePart info => exact multiFilePart hinside f info

end UnderHeader

end Render

end KotlinMetadata
