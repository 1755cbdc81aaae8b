/-
Where the text of the artifacts inside another goes. `Passes` is a run as
its steps in order, like `Follows`, with what each rendering writes: between
two of them nothing changes but the text. `Writings` are the declarations
that are written before the steps are taken.

`InOrder` says that texts stand, one after the other and each in one piece,
in the text of the whole; those that stand in its lines do
(`InLines.inOrder`).
-/
import KotlinMetadata.Proofs.Lines
import KotlinMetadata.Proofs.Termination

namespace KotlinMetadata

/-! ## Pieces of a text -/

/-- The pieces stand in the text one after the other, each in one piece. -/
def InOrder : (pieces : List String) → (text : String) → Prop
  | [], _ => True
  | piece :: pieces, text => ∃ gap rest, text = gap ++ piece ++ rest ∧ InOrder pieces rest

namespace InOrder

variable {pieces more : List String} {text : String}

theorem prepend (h : InOrder pieces text) (front : String) : InOrder pieces (front ++ text) := by
  cases pieces with
  | nil => trivial
  | cons piece pieces =>
    obtain ⟨gap, rest, rfl, hrest⟩ := h
    exact ⟨front ++ gap, rest, by simp only [String.append_assoc], hrest⟩

/-- Each piece stands in the text. -/
theorem exists_of_mem (h : InOrder pieces text) {piece : String} (hpiece : piece ∈ pieces) :
    ∃ front back, text = front ++ piece ++ back := by
  induction pieces generalizing text with
  | nil => cases hpiece
  | cons first pieces ih =>
    obtain ⟨gap, rest, rfl, hrest⟩ := h
    rcases List.mem_cons.1 hpiece with rfl | hpiece
    · exact ⟨gap, rest, rfl⟩
    · obtain ⟨front, back, rfl⟩ := ih hrest hpiece
      exact ⟨gap ++ first ++ front, back, by simp only [String.append_assoc]⟩

/-- The last of the pieces stand in order without those before. -/
theorem of_append (h : InOrder (pieces ++ more) text) : InOrder more text := by
  induction pieces generalizing text with
  | nil => exact h
  | cons piece pieces ih =>
    obtain ⟨gap, rest, rfl, hrest⟩ := h
    exact (ih hrest).prepend _

end InOrder

theorem InLines.inOrder {pieces : List String} {text : String} (h : InLines pieces text) : InOrder pieces text := by
  induction pieces generalizing text with
  | nil => trivial
  | cons piece pieces ih =>
    obtain ⟨gap, rest, htext, -, hrest⟩ := h
    exact ⟨gap, rest, htext, ih hrest⟩

/-! ## Renderings on the way -/

/-- Two states differ in nothing but the text under construction. -/
def OnlyText (s t : Session) : Prop := t = { s with out := t.out }

namespace OnlyText

variable {r s t : Session}

theorem refl (s : Session) : OnlyText s s := rfl

theorem withOut (s : Session) (out : Buffers) : OnlyText s { s with out } := rfl

theorem trans (h₁ : OnlyText r s) (h₂ : OnlyText s t) : OnlyText r t := by
  unfold OnlyText at h₁ h₂ ⊢
  rw [h₂, h₁]

theorem declaring (h : OnlyText s t) (params : List TypeParameter) :
    OnlyText (s.declaring params) (t.declaring params) := by
  unfold OnlyText at h ⊢
  rw [h]
  rfl

theorem declaring_append {ds : List TypeParameter} (h : OnlyText (s.declaring ds) t) (es : List TypeParameter) :
    OnlyText (s.declaring (ds ++ es)) (t.declaring es) := by
  have hnames := h.declaring es
  unfold Session.declaring at hnames ⊢
  rw [TypeNames.declareAll_append]
  exact hnames

end OnlyText

/-- What was written was written into a buffer. -/
theorem Buffers.ne_nil_of_write {b c : Buffers} {text : String} (h : b.write text = .ok c) : b.stack ≠ [] := by
  obtain ⟨active, below, hstack, -⟩ := write_eq_ok.1 h
  rw [hstack]
  exact List.cons_ne_nil _ _

/-- The rendering of an artifact: how it was reached, the states before and after, and the text that
was written. -/
structure Rendering where
  route : Route
  frame : Frame
  before : Session
  after : Session
  text : String

/-- The visit that is noted of a rendering. -/
def Rendering.visit (r : Rendering) : Visit :=
  ⟨r.frame.name, r.route, r.before.out.depth, r.before.scope.frames.map Frame.kind⟩

/-- A rendering by some renderer of artifacts. -/
structure Rendering.IsRun (inside : Frame → Render Unit) (r : Rendering) : Prop where
  run : inside r.frame r.before = .ok ((), r.after)
  written : r.before.out.write r.text = .ok r.after.out

namespace Step

def frame : Step → Frame
  | contained f => f
  | scanned f => f

def route : Step → Route
  | contained _ => .contained
  | scanned _ => .scanned

/-- Whether a step comes to nothing: a scan finds that the artifact is done. -/
def isSpared (s : Session) : Step → Bool
  | contained _ => false
  | scanned f => s.visited.contains f.name || s.hasEmitted f.name

/-- The state in which the rendering of the artifact begins. -/
def entered (s : Session) : Step → Session
  | contained f => (s.marked f.name).noted f.name .contained
  | scanned f => s.noted f.name .scanned

theorem take_eq (inside : Frame → Render Unit) (st : Step) (s : Session) : st.take inside s =
    if st.isSpared s then .ok ((), s) else inside st.frame (st.entered s) := by
  cases st with
  | contained f => exact take_contained inside f s
  | scanned f => exact take_scanned inside f s

/-- The rendering that a step from a state comes to. -/
def rendering (st : Step) (s after : Session) (text : String) : Rendering :=
  ⟨st.route, st.frame, st.entered s, after, text⟩

@[simp] theorem entered_out (st : Step) (s : Session) : (st.entered s).out = s.out := by
  cases st with
  | contained f => rfl
  | scanned f => rfl

@[simp] theorem entered_scope (st : Step) (s : Session) : (st.entered s).scope = s.scope := by
  cases st with
  | contained f => rfl
  | scanned f => rfl

theorem entered_journal (st : Step) (s after : Session) (text : String) :
    (st.entered s).journal = (st.rendering s after text).visit :: s.journal := by
  cases st with
  | contained f => rfl
  | scanned f => rfl

theorem isSpared_of_onlyText {s t : Session} (h : OnlyText s t) (st : Step) : st.isSpared t = st.isSpared s := by
  rw [h]
  cases st with
  | contained f => rfl
  | scanned f => rfl

end Step

/-- From one state to another by some steps in order, all at one depth, with the renderings that they
come to. Only the text changes between them. -/
inductive Passes (inside : Frame → Render Unit) (depth : Nat) :
    List Step → List Rendering → Session → Session → Prop
  | nil {s s'} : OnlyText s s' → Passes inside depth [] [] s s'
  | spared {st l rs s s'} : st.isSpared s = true → Passes inside depth l rs s s' →
      Passes inside depth (st :: l) rs s s'
  | taken {st l rs s t t' text s'} : OnlyText s t → t.out.depth = depth → st.isSpared t = false →
      (st.rendering t t' text).IsRun inside → Passes inside depth l rs t' s' →
      Passes inside depth (st :: l) (st.rendering t t' text :: rs) s s'

namespace Passes

variable {inside : Frame → Render Unit} {depth : Nat} {l l₁ l₂ : List Step} {rs rs₁ rs₂ : List Rendering}
variable {r s s' t : Session}

theorem of_onlyText (h : OnlyText r s) (hpass : Passes inside depth l rs s s') :
    Passes inside depth l rs r s' := by
  induction hpass with
  | nil hsame => exact .nil (h.trans hsame)
  | spared hspared _ ih =>
    rw [Step.isSpared_of_onlyText h] at hspared
    exact .spared hspared (ih h)
  | taken hsame hdepth hspared hrun hrest _ => exact .taken (h.trans hsame) hdepth hspared hrun hrest

theorem append (h₁ : Passes inside depth l₁ rs₁ s t) (h₂ : Passes inside depth l₂ rs₂ t s') :
    Passes inside depth (l₁ ++ l₂) (rs₁ ++ rs₂) s s' := by
  induction h₁ with
  | nil hsame => exact h₂.of_onlyText hsame
  | spared hspared _ ih => exact .spared hspared (ih h₂)
  | taken hsame hdepth hspared hrun _ ih => exact .taken hsame hdepth hspared hrun (ih h₂)

theorem to_onlyText (hpass : Passes inside depth l rs s t) (h : OnlyText t s') :
    Passes inside depth l rs s s' := by
  have happend := hpass.append (.nil h)
  rwa [List.append_nil, List.append_nil] at happend

theorem mono {inside' : Frame → Render Unit} (hpass : Passes inside depth l rs s s')
    (h : ∀ g t t', inside g t = .ok ((), t') → inside' g t = .ok ((), t')) :
    Passes inside' depth l rs s s' := by
  induction hpass with
  | nil hsame => exact .nil hsame
  | spared hspared _ ih => exact .spared hspared ih
  | taken hsame hdepth hspared hrun _ ih =>
    exact .taken hsame hdepth hspared ⟨h _ _ _ hrun.run, hrun.written⟩ ih

end Passes

/-! ## Declarations on the way -/

/-- The writing of a declaration: the states before and after, and the text. -/
structure Writing where
  node : Node
  before : Session
  after : Session
  text : String

/-- A declaration is written, in some scopes and at a depth. -/
structure Writing.IsRun (pool : Pool) (frames : List Frame) (depth : Nat) (w : Writing) : Prop where
  run : w.node.visit pool w.before = .ok ((), w.after)
  written : w.before.out.write w.text = .ok w.after.out
  frames : w.before.scope.frames = frames
  depth : w.before.out.depth = depth

/-- The writings of some declarations in order, all in the same scopes and at one depth. -/
structure Writings (pool : Pool) (frames : List Frame) (depth : Nat) (nodes : List Node) (ws : List Writing) :
    Prop where
  nodes : ws.map (·.node) = nodes
  runs : ∀ w ∈ ws, w.IsRun pool frames depth

namespace Writings

variable {pool : Pool} {frames : List Frame} {depth : Nat} {nodes more : List Node} {ws vs : List Writing}

theorem nil : Writings pool frames depth [] [] := ⟨rfl, by simp⟩

theorem eq_nil (h : Writings pool frames depth [] ws) : ws = [] := List.map_eq_nil_iff.1 h.nodes

theorem append (h₁ : Writings pool frames depth nodes ws) (h₂ : Writings pool frames depth more vs) :
    Writings pool frames depth (nodes ++ more) (ws ++ vs) := by
  refine ⟨by rw [List.map_append, h₁.nodes, h₂.nodes], fun w hw => ?_⟩
  rcases List.mem_append.1 hw with hw | hw
  · exact h₁.runs w hw
  · exact h₂.runs w hw

end Writings

end KotlinMetadata
