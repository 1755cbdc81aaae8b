/-
Renderings only append, and what they append does not depend on what the
buffers hold: from two states that agree on all else (`Session.Agrees`) the
same text is written, and the states agree again (`Echoes`).

The one thing that is ever read from a buffer is its last character, before
an element of an annotation. `Blind` therefore comes in two grades, as
derivations do: an action that peeks may do so only at buffers that end
alike, and whatever opens a bracket first need not care.
-/
import KotlinMetadata.Proofs.Balance
import KotlinMetadata.Proofs.Trace

namespace KotlinMetadata

/-! ## States that agree -/

theorem Buffers.previousChar?_of_write {b c : Buffers} {text : String} (h : b.write text = .ok c) :
    c.previousChar? = text.toList.getLast?.or b.previousChar? := by
  obtain ⟨active, below, hb, rfl⟩ := write_eq_ok.1 h
  rw [previousChar?_eq, previousChar?_eq, hb]
  simp [String.toList_append, List.getLast?_append]

/-- Two states that agree on all but what the buffers hold. Names of type parameters and visits are
compared as they can be asked for. -/
structure Session.Agrees (s t : Session) : Prop where
  frames : t.scope.frames = s.scope.frames
  package : t.scope.package = s.scope.package
  typeNames : ∀ id, t.scope.typeNames.find? id = s.scope.typeNames.find? id
  depth : t.out.depth = s.out.depth
  visited : t.visited = s.visited
  emitted : ∀ n, t.Visits n ↔ s.Visits n

namespace Session.Agrees

variable {s t : Session}

theorem isDone (h : s.Agrees t) (name : String) :
    (t.visited.contains name || t.hasEmitted name) = (s.visited.contains name || s.hasEmitted name) := by
  rw [h.visited, Bool.eq_iff_iff.2 (hasEmitted_iff.trans ((h.emitted name).trans hasEmitted_iff.symm))]

theorem noted (h : s.Agrees t) (name : String) (route : Route) : (s.noted name route).Agrees (t.noted name route) := by
  refine ⟨h.frames, h.package, h.typeNames, h.depth, h.visited, fun n => ?_⟩
  have hold := h.emitted n
  simp only [Session.Visits, Session.noted, List.exists_mem_cons_iff] at hold ⊢
  rw [hold]

theorem marked (h : s.Agrees t) (name : String) : (s.marked name).Agrees (t.marked name) := by
  refine ⟨h.frames, h.package, h.typeNames, h.depth, ?_, h.emitted⟩
  simp only [Session.marked, h.visited]

theorem enter (h : s.Agrees t) (f : Frame) :
    Agrees { s with scope := s.scope.enter f } { t with scope := t.scope.enter f } := by
  unfold Scope.enter
  rw [h.frames]
  split
  · exact ⟨rfl, rfl, fun _ => rfl, h.depth, h.visited, h.emitted⟩
  · refine ⟨rfl, h.package, fun id => ?_, h.depth, h.visited, h.emitted⟩
    simp only
    split
    · rfl
    · exact h.typeNames id

theorem declare (h : s.Agrees t) (id : UInt32) (name : String) :
    Agrees { s with scope := s.scope.declare id name } { t with scope := t.scope.declare id name } := by
  refine ⟨h.frames, h.package, fun other => ?_, h.depth, h.visited, h.emitted⟩
  by_cases hid : other = id
  · subst hid
    simp [Scope.declare]
  · simp only [Scope.declare, TypeNames.find?_insert_of_ne _ _ hid]
    exact h.typeNames other

theorem withOut (h : s.Agrees t) {b c : Buffers} (hdepth : c.depth = b.depth) :
    Agrees { s with out := b } { t with out := c } :=
  ⟨h.frames, h.package, h.typeNames, hdepth, h.visited, h.emitted⟩

end Session.Agrees

/-- Runs from `s` to `s'` and from `t` to `t'` have written the same, and end in states that agree. -/
structure Echoes (s t s' t' : Session) : Prop where
  agrees : s'.Agrees t'
  written : ∃ text, s.out.write text = .ok s'.out ∧ t.out.write text = .ok t'.out

namespace Echoes

variable {s t s' t' s'' t'' : Session}

theorem of_agrees (hs : s.out.stack ≠ []) (ht : t.out.stack ≠ []) (h : s'.Agrees t') (hout : s'.out = s.out)
    (hout' : t'.out = t.out) : Echoes s t s' t' := by
  refine ⟨h, "", ?_, ?_⟩
  · rw [hout, Buffers.write_empty hs]
  · rw [hout', Buffers.write_empty ht]

theorem trans (h₁ : Echoes s t s' t') (h₂ : Echoes s' t' s'' t'') : Echoes s t s'' t'' := by
  obtain ⟨text, hs, ht⟩ := h₁.written
  obtain ⟨more, hs', ht'⟩ := h₂.written
  exact ⟨h₂.agrees, text ++ more, Buffers.write_write hs hs', Buffers.write_write ht ht'⟩

theorem stack_ne_nil (h : Echoes s t s' t') : s'.out.stack ≠ [] ∧ t'.out.stack ≠ [] := by
  obtain ⟨text, hs, ht⟩ := h.written
  exact ⟨Buffers.stack_ne_nil_of_write hs, Buffers.stack_ne_nil_of_write ht⟩

theorem previousChar? (h : Echoes s t s' t') (hlast : t.out.previousChar? = s.out.previousChar?) :
    t'.out.previousChar? = s'.out.previousChar? := by
  obtain ⟨text, hs, ht⟩ := h.written
  rw [Buffers.previousChar?_of_write hs, Buffers.previousChar?_of_write ht, hlast]

end Echoes

/-! ## Actions -/

namespace Render

variable {α β : Type} {inside : Frame → Render Unit} {peeks : Bool}

/-- An action that succeeds does the same from every state that agrees, whatever its buffers hold. If
it peeks, the buffers must end alike. -/
def Blind (peeks : Bool) (m : Render α) : Prop :=
  ∀ ⦃s t : Session⦄, s.Agrees t → s.out.stack ≠ [] → t.out.stack ≠ [] →
    (peeks = true → t.out.previousChar? = s.out.previousChar?) →
    ∀ ⦃a s'⦄, m s = .ok (a, s') → ∃ t', m t = .ok (a, t') ∧ Echoes s t s' t'

namespace Blind

/-- An action that reads what states agree on. -/
theorem read {g : Session → α} (hg : ∀ s t, s.Agrees t → g t = g s) : Blind peeks fun s => .ok (g s, s) := by
  intro s t h hs ht _ a s' hrun
  cases hrun
  exact ⟨t, congrArg (fun a => Except.ok (a, t)) (hg s t h), .of_agrees hs ht h rfl rfl⟩

theorem pure (a : α) : Blind peeks (pure a : Render α) := read fun _ _ _ => rfl

theorem bind {m : Render α} {k : α → Render β} (hm : Blind peeks m) (hk : ∀ a, Blind peeks (k a)) :
    Blind peeks (m >>= k) := by
  intro s t h hs ht hlast c s'' hrun
  obtain ⟨a, s', hfirst, hrest⟩ := bind_eq_ok.1 hrun
  obtain ⟨t', hfirst', hechoes⟩ := hm h hs ht hlast hfirst
  obtain ⟨hs', ht'⟩ := hechoes.stack_ne_nil
  obtain ⟨t'', hrest', hechoes'⟩ := hk a hechoes.agrees hs' ht' (fun hp => hechoes.previousChar? (hlast hp)) hrest
  exact ⟨t'', by rw [bind_of_ok hfirst', hrest'], hechoes.trans hechoes'⟩

/-- The same text is written into both active buffers. -/
theorem write_both {s t : Session} (h : s.Agrees t) (hs : s.out.stack ≠ []) (ht : t.out.stack ≠ []) (text : String) :
    ∃ s' t', Render.write text s = .ok ((), s') ∧ Render.write text t = .ok ((), t') ∧
      s.out.write text = .ok s'.out ∧ t.out.write text = .ok t'.out ∧ s'.Agrees t' := by
  obtain ⟨out, hout⟩ := Buffers.exists_write hs text
  obtain ⟨out', hout'⟩ := Buffers.exists_write ht text
  have hdepth : out'.depth = out.depth := by
    obtain ⟨_, _, _, rfl⟩ := Buffers.write_eq_ok.1 hout
    obtain ⟨_, _, _, rfl⟩ := Buffers.write_eq_ok.1 hout'
    exact h.depth
  refine ⟨{ s with out }, { t with out := out' }, ?_, ?_, hout, hout', h.withOut hdepth⟩
  · simp [Render.write, changeOut, hout]
  · simp [Render.write, changeOut, hout']

theorem write (text : String) : Blind peeks (write text) := by
  intro s t h hs ht _ u s' hrun
  obtain ⟨s₁, t₁, hrun₁, hrun', hout, hout', hagrees⟩ := write_both h hs ht text
  cases hrun.symm.trans hrun₁
  exact ⟨t₁, hrun', hagrees, text, hout, hout'⟩

theorem writeIndented (text : String) : Blind peeks (writeIndented text) := by
  intro s t h hs ht hlast u s' hrun
  obtain ⟨t', hrun', hechoes⟩ := write (Buffers.indentation s.out.depth ++ text) h hs ht hlast hrun
  refine ⟨t', ?_, hechoes⟩
  rw [← h.depth] at hrun'
  exact hrun'

/-- The last character decides whether a comma is written. -/
theorem separate (brackets : List Char) : Blind true (separateUnlessAfter brackets) := by
  intro s t h hs ht hlast u s' hrun
  have hstep : ∀ r : Session, separateUnlessAfter brackets r =
      (if r.out.previousChar?.any brackets.contains then Pure.pure () else Render.write ", " : Render Unit) r :=
    fun _ => rfl
  rw [hstep] at hrun
  rw [hstep, hlast rfl]
  split at hrun
  · next hbracket =>
    rw [if_pos hbracket]
    exact pure () h hs ht hlast hrun
  · next hbracket =>
    rw [if_neg hbracket]
    exact write ", " h hs ht hlast hrun

/-- After a bracket was opened both buffers end with it. -/
theorem opened {text : String} {m : Render Unit} (htext : text ≠ "") (hm : Blind true m) :
    Blind peeks (do Render.write text; m) := by
  intro s t h hs ht _ u s'' hrun
  obtain ⟨s', t', hwrite, hwrite', hout, hout', hagrees⟩ := write_both h hs ht text
  have hechoes : Echoes s t s' t' := ⟨hagrees, text, hout, hout'⟩
  have hends : t'.out.previousChar? = s'.out.previousChar? := by
    rw [Buffers.previousChar?_of_write hout, Buffers.previousChar?_of_write hout']
    cases hc : text.toList.getLast? with
    | some c => rfl
    | none => exact absurd (String.toList_eq_nil_iff.1 (List.getLast?_eq_none_iff.1 hc)) htext
  rw [bind_of_ok hwrite] at hrun
  obtain ⟨hs', ht'⟩ := hechoes.stack_ne_nil
  obtain ⟨t'', hrest, hechoes'⟩ := hm hagrees hs' ht' (fun _ => hends) hrun
  exact ⟨t'', by rw [bind_of_ok hwrite', hrest], hechoes.trans hechoes'⟩

theorem current : Blind peeks current := by
  intro s t h hs ht _ f s' hrun
  unfold Render.current Scope.current at hrun ⊢
  rw [h.frames]
  split at hrun
  · cases hrun
    exact ⟨t, rfl, .of_agrees hs ht h rfl rfl⟩
  · cases hrun

theorem declare (p : TypeParameter) : Blind peeks (declare p) := by
  intro s t h hs ht _ u s' hrun
  cases hrun
  exact ⟨_, rfl, .of_agrees hs ht (h.declare p.id p.name) rfl rfl⟩

/-- What an action writes into a new buffer is what capturing it gives. -/
theorem capture_of_write {m : Render Unit} {s s' : Session} {text : String}
    (hrun : m { s with out := s.out.push } = .ok ((), s')) (hout : s.out.push.write text = .ok s'.out) :
    Render.capture m s = .ok (text, { s' with out := s.out }) := by
  have hopen : openBuffer s = .ok ((), { s with out := s.out.push }) := rfl
  unfold Render.capture
  rw [bind_of_ok hopen, bind_of_ok hrun]
  simp [closeBuffer, Buffers.pop_of_push_write hout]

theorem agrees_push {s t : Session} (h : s.Agrees t) :
    Session.Agrees { s with out := s.out.push } { t with out := t.out.push } := h.withOut h.depth

theorem capture {m : Render Unit} (hm : Blind false m) : Blind peeks (capture m) := by
  intro s t h hs ht _ text s₂ hrun
  obtain ⟨_, s₁, hopen, hrest⟩ := bind_eq_ok.1 hrun
  cases hopen
  obtain ⟨_, s', hm', hclose⟩ := bind_eq_ok.1 hrest
  obtain ⟨t', hrun', hechoes⟩ := hm (agrees_push h) (by simp [Buffers.push]) (by simp [Buffers.push]) (by simp) hm'
  obtain ⟨written, hout, hout'⟩ := hechoes.written
  cases hrun.symm.trans (capture_of_write hm' hout)
  exact ⟨_, capture_of_write hrun' hout', .of_agrees hs ht (hechoes.agrees.withOut h.depth) rfl rfl⟩

/-- The buffer is empty again when the second action starts, whatever the first has written. -/
theorem redone {m₁ m₂ : Render Unit} (h₁ : Blind false m₁) (h₂ : Blind false m₂) :
    Blind peeks (Render.capture (do m₁; reset; m₂)) := by
  intro s t h hs ht _ text s₃ hrun
  obtain ⟨_, s₀, hopen, hrest⟩ := bind_eq_ok.1 hrun
  cases hopen
  obtain ⟨_, s₂, hbody, hclose⟩ := bind_eq_ok.1 hrest
  obtain ⟨_, s₁, hfirst, hbody'⟩ := bind_eq_ok.1 hbody
  obtain ⟨t₁, hfirst', hechoes₁⟩ := h₁ (agrees_push h) (by simp [Buffers.push]) (by simp [Buffers.push]) (by simp) hfirst
  obtain ⟨thrown, hout₁, hout₁'⟩ := hechoes₁.written
  have hreset : reset s₁ = .ok ((), { s₁ with out := s.out.push }) := by
    simp [reset, changeOut, Buffers.reset_of_push_write hout₁]
  have hreset' : reset t₁ = .ok ((), { t₁ with out := t.out.push }) := by
    simp [reset, changeOut, Buffers.reset_of_push_write hout₁']
  rw [bind_of_ok hreset] at hbody'
  obtain ⟨t₂, hsecond', hechoes₂⟩ := h₂ (hechoes₁.agrees.withOut (b := s.out.push) (c := t.out.push) h.depth)
    (by simp [Buffers.push]) (by simp [Buffers.push]) (by simp) hbody'
  obtain ⟨written, hout₂, hout₂'⟩ := hechoes₂.written
  have hrun' : (do m₁; reset; m₂ : Render Unit) { t with out := t.out.push } = .ok ((), t₂) := by
    rw [bind_of_ok hfirst', bind_of_ok hreset', hsecond']
  cases hrun.symm.trans (capture_of_write hbody hout₂)
  exact ⟨_, capture_of_write hrun' hout₂', .of_agrees hs ht (hechoes₂.agrees.withOut h.depth) rfl rfl⟩

/-- What an action writes a level deeper is written, and the depth is as before. -/
theorem indented_of_write {m : Render α} {s s' : Session} {a : α} {text : String}
    (hrun : m { s with out := s.out.indent } = .ok (a, s')) (hout : s.out.indent.write text = .ok s'.out) :
    ∃ out, Render.indented m s = .ok (a, { s' with out }) ∧ s.out.write text = .ok out := by
  obtain ⟨out, hoff, hwrite⟩ := Buffers.outdent_of_indent_write hout
  have hindent : indent s = .ok ((), { s with out := s.out.indent }) := rfl
  have houtdent : outdent s' = .ok ((), { s' with out }) := by simp [outdent, changeOut, hoff]
  refine ⟨out, ?_, hwrite⟩
  unfold Render.indented
  rw [bind_of_ok hindent, bind_of_ok hrun, bind_of_ok houtdent]
  rfl

theorem indented {m : Render α} (hm : Blind peeks m) : Blind peeks (indented m) := by
  intro s t h hs ht hlast a s₂ hrun
  obtain ⟨_, s₀, hindent, hrest⟩ := bind_eq_ok.1 hrun
  cases hindent
  obtain ⟨a', s₁, hbody, -⟩ := bind_eq_ok.1 hrest
  have hdepth : t.out.indent.depth = s.out.indent.depth := congrArg (· + 1) h.depth
  obtain ⟨t₁, hbody', hechoes⟩ := hm (h.withOut hdepth) hs ht hlast hbody
  obtain ⟨text, hout, hout'⟩ := hechoes.written
  obtain ⟨out, hrun₁, hwrite⟩ := indented_of_write hbody hout
  obtain ⟨out', hrun', hwrite'⟩ := indented_of_write hbody' hout'
  cases hrun.symm.trans hrun₁
  refine ⟨_, hrun', hechoes.agrees.withOut ?_, text, hwrite, hwrite'⟩
  rw [Buffers.depth_of_write hwrite, Buffers.depth_of_write hwrite', h.depth]

/-- A step to an artifact inside, if its rendering is blind. -/
theorem take (hinside : ∀ g, Blind false (inside g)) (st : Step) : Blind peeks (st.take inside) := by
  intro s t h hs ht _ u s' hrun
  cases st with
  | contained g =>
    rw [Step.take_contained] at hrun ⊢
    obtain ⟨t', hrun', hagrees, hwritten⟩ :=
      hinside g ((h.marked g.name).noted g.name .contained) hs ht (by simp) hrun
    exact ⟨t', hrun', hagrees, hwritten⟩
  | scanned g =>
    rw [Step.take_scanned] at hrun ⊢
    rw [h.isDone]
    split at hrun
    · next hdone =>
      rw [if_pos hdone]
      cases hrun
      exact ⟨t, rfl, .of_agrees hs ht h rfl rfl⟩
    · next hdone =>
      rw [if_neg hdone]
      obtain ⟨t', hrun', hagrees, hwritten⟩ := hinside g (h.noted g.name .scanned) hs ht (by simp) hrun
      exact ⟨t', hrun', hagrees, hwritten⟩

theorem leave : Blind peeks leave := by
  intro s t h hs ht _ u s' hrun
  unfold Render.leave Scope.leave at hrun ⊢
  rw [h.frames]
  split at hrun
  · next f scope hscope =>
    split at hscope
    · cases hscope
    · cases hscope
      cases hrun
      exact ⟨_, rfl, .of_agrees hs ht ⟨rfl, h.package, h.typeNames, h.depth, h.visited, h.emitted⟩ rfl rfl⟩
  · cases hrun

theorem enter (f : Frame) : Blind peeks (enter f) := by
  intro s t h hs ht _ u s' hrun
  cases hrun
  exact ⟨_, rfl, .of_agrees hs ht (h.enter f) rfl rfl⟩

end Blind

/-- An action is blind if the renderings of the artifacts inside are. -/
theorem Writes.blind {l : List Step} {m : Render α} (hm : Writes inside peeks l m)
    (hinside : ∀ g, Blind false (inside g)) : Blind peeks m := by
  induction hm with
  | pure a => exact .pure a
  | bind _ _ ihm ihk => exact .bind ihm ihk
  | write text => exact .write text
  | writeIndented text => exact .writeIndented text
  | readPlace g => exact .read fun s t h => by rw [h.frames, h.package]
  | current => exact .current
  | typeParameterName id => exact .read fun s t h => by rw [Scope.typeParameter, h.typeNames, Scope.typeParameter]
  | declare p => exact .declare p
  | separate brackets => exact .separate brackets
  | opened htext _ ih => exact .opened htext ih
  | capture _ ih => exact .capture ih
  | redone _ _ ih₁ ih₂ => exact .redone ih₁ ih₂
  | indented _ ih => exact .indented ih
  | step st => exact .take hinside st

theorem artifactWithin_blind (pool : Pool) (bound : Nat) (f : Frame) :
    Blind false (artifactWithin pool bound f) := by
  induction bound generalizing f with
  | zero =>
    intro s t _ _ _ _ u s' hrun
    cases hrun
  | succ bound ih =>
    obtain ⟨body, hcontent, hwrites⟩ := Writes.content pool (artifactWithin pool bound) f
    rw [artifactWithin, hcontent]
    refine .bind (.enter f) fun _ => ?_
    refine .bind (hwrites.blind ih) fun _ => ?_
    exact .leave

end Render

/-! ## Fragments -/

/-- What is rendered at one go: a node, or a part that several nodes share. -/
inductive Fragment where
  | node (n : Node)
  | jvmAnnots (placement : Placement) (annots : List JvmAnnot)
  | kotlinAnnots (placement : Placement) (annots : List KotlinAnnot)
  | receiverType (t : TypeUse)
  | typeParameterList (params : List TypeParameter) (closing : String)
  | contextReceivers (receivers : List TypeUse)
  | members (m : Members)

namespace Fragment

/-- Whether a fragment has no scope of its own. -/
def isLeaf : Fragment → Bool
  | node n => n.isLeaf
  | _ => true

def render (pool : Pool) : Fragment → Render Unit
  | node n => n.visit pool
  | jvmAnnots placement annots => Render.jvmAnnots placement annots
  | kotlinAnnots placement annots => Render.kotlinAnnots placement annots
  | receiverType t => Render.receiverType t
  | typeParameterList params closing => Render.typeParameterList params closing
  | contextReceivers receivers => Render.contextReceivers receivers
  | members m => Render.members pool m

theorem writes_of_isLeaf {inside : Frame → Render Unit} {b : Bool} (pool : Pool) {x : Fragment}
    (h : x.isLeaf) : Render.Writes inside b [] (x.render pool) := by
  cases x with
  | node n => exact n.writes_of_isLeaf pool h
  | jvmAnnots placement annots => exact .jvmAnnots placement annots
  | kotlinAnnots placement annots => exact .kotlinAnnots placement annots
  | receiverType t => exact .receiverType t
  | typeParameterList params closing => exact .typeParameterList params closing
  | contextReceivers receivers => exact .contextReceivers receivers
  | members m => exact .members pool m

/-- A fragment without a scope, or an artifact. -/
theorem isLeaf_or_artifact (x : Fragment) : x.isLeaf = true ∨ ∃ f, x = node (.artifact f) := by
  cases x with
  | node n => cases n with
    | artifact f => exact .inr ⟨f, rfl⟩
    | _ => exact .inl rfl
  | _ => exact .inl rfl

theorem render_kept {pool : Pool} (hp : pool.Acyclic) (x : Fragment) {s : Session} (hs : s.out.stack ≠ [])
    (hleaf : x.isLeaf → s.scope.frames ≠ []) : ∃ s', x.render pool s = .ok ((), s') ∧ Kept s s' := by
  rcases x.isLeaf_or_artifact with h | ⟨f, rfl⟩
  · have hwrites : Render.Writes (fun _ => pure ()) false [] (x.render pool) := x.writes_of_isLeaf pool h
    obtain ⟨_, s', hrun, kept⟩ := hwrites.runs (by simp) s ⟨hs, hleaf h⟩ List.suffix_rfl
    exact ⟨s', hrun, kept⟩
  · exact Render.artifact_runs hp f hs

theorem render_blind (pool : Pool) (x : Fragment) : Render.Blind false (x.render pool) := by
  rcases x.isLeaf_or_artifact with h | ⟨f, rfl⟩
  · have hwrites : Render.Writes (fun _ => pure ()) false [] (x.render pool) := x.writes_of_isLeaf pool h
    exact hwrites.blind fun _ => .pure ()
  · exact Render.artifactWithin_blind pool _ f

end Fragment

/-- **Renderings append the same text whatever is buffered.** On a pool without a containment cycle a
fragment is rendered with success from any two states that agree on all but what their buffers hold:
one and the same text is appended to the active buffers, and the states agree again. So to render
into a new buffer and to write what it holds is to render in place. -/
theorem rendering_appends {pool : Pool} (hp : pool.Acyclic) (x : Fragment) {s t : Session}
    (hagrees : s.Agrees t) (hs : s.out.stack ≠ []) (ht : t.out.stack ≠ [])
    (hleaf : x.isLeaf → s.scope.frames ≠ []) :
    ∃ text s' t', x.render pool s = .ok ((), s') ∧ x.render pool t = .ok ((), t') ∧
      s.out.write text = .ok s'.out ∧ t.out.write text = .ok t'.out ∧ s'.Agrees t' ∧
      ∃ s'', (do Render.write (← Render.capture (x.render pool))) s = .ok ((), s'') ∧
        s''.out = s'.out ∧ s'.Agrees s'' := by
  obtain ⟨s', hrun, kept⟩ := x.render_kept hp hs hleaf
  obtain ⟨t', hrun', hechoes⟩ := x.render_blind pool hagrees hs ht (by simp) hrun
  obtain ⟨text, hout, hout'⟩ := hechoes.written
  -- The scratch buffer is one more state that agrees.
  have hpush : s.Agrees { s with out := s.out.push } := ⟨rfl, rfl, fun _ => rfl, rfl, rfl, fun _ => Iff.rfl⟩
  obtain ⟨u, hscratch, hechoes'⟩ := x.render_blind pool hpush hs (by simp [Buffers.push]) (by simp) hrun
  obtain ⟨text', hout₁, hout₂⟩ := hechoes'.written
  have hcapture := Render.Blind.capture_of_write hscratch hout₂
  refine ⟨text, s', t', hrun, hrun', hout, hout', hechoes.agrees, { u with out := s'.out }, ?_, rfl, ?_⟩
  · rw [Render.bind_of_ok hcapture]
    simp [Render.write, Render.changeOut, hout₁]
  · exact hechoes'.agrees.withOut (b := s'.out) rfl

/-- A state inside a file facade whose buffers hold some texts. -/
def Session.inSampleFile (stack : List String) : Session :=
  { Session.start .empty with
    scope := Scope.empty.enter ⟨Pool.sampleOuter, ⟨⟨1, 9, 0⟩, .fileFacade {}⟩⟩
    out := ⟨stack, 0⟩ }

/-- An annotation with two elements, before whose first the last character is read. -/
def sampleMark : JvmAnnot :=
  ⟨"Lpkg/Mark;", [⟨some "level", .constant (.integer 3)⟩, ⟨none, .array [⟨none, .classLiteral "I"⟩]⟩]⟩

/-- A bracket at the end of the active buffer makes no difference to the annotation. -/
theorem rendering_appends_sample :
    (Session.inSampleFile [""]).Agrees (Session.inSampleFile ["(", "below"]) ∧ ∃ text s' t',
      Render.jvmAnnots .inline [sampleMark] (Session.inSampleFile [""]) = .ok ((), s') ∧
      Render.jvmAnnots .inline [sampleMark] (Session.inSampleFile ["(", "below"]) = .ok ((), t') ∧
      s'.out.stack = ["" ++ text] ∧ t'.out.stack = ["(" ++ text, "below"] := by
  have hagrees : (Session.inSampleFile [""]).Agrees (Session.inSampleFile ["(", "below"]) :=
    ⟨rfl, rfl, fun _ => rfl, rfl, rfl, fun _ => Iff.rfl⟩
  obtain ⟨text, s', t', h, h', hout, hout', -, -⟩ := rendering_appends Pool.sample_acyclic
    (.jvmAnnots .inline [sampleMark]) hagrees (List.cons_ne_nil _ _) (List.cons_ne_nil _ _)
    fun _ => List.cons_ne_nil _ _
  refine ⟨hagrees, text, s', t', h, h', ?_, ?_⟩
  · rw [← Except.ok.inj hout]
  · rw [← Except.ok.inj hout']

end KotlinMetadata
