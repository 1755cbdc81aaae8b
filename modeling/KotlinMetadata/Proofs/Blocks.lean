/-
The blocks of a text. The rendering of an artifact writes its header and then,
each in one piece and in the order they are come to, the blocks of the
artifacts inside it.

`content_lines` says what one rendering does, from the scope it opens to the
scope it leaves. By induction on the bound on the nesting it gives the tree of
all renderings in one (`Block.exists_of_run`); what holds of the tree follows from
what holds of each node (`Block.Stands`).
-/
import KotlinMetadata.Proofs.Layout

namespace KotlinMetadata

/-! ## Headers -/

def lineAt (depth : Nat) (text : String) : String := Buffers.indentation depth ++ (text ++ "\n")

namespace Frame

/-- The header of an artifact outside every other: its package, if it has one, and a comment. -/
def topHeader (f : Frame) (depth : Nat) : String :=
  let package := Name.package f.artifact.name
  (if package.isEmpty then "" else lineAt depth ("package " ++ Name.toExternal package) ++ "\n") ++
    lineAt depth "/**" ++
    lineAt depth ("* Kotlin " ++ f.metadata.content.words ++
      " (metadata version " ++ f.metadata.version.text ++ ").") ++
    lineAt depth ("* From Java class: " ++ f.artifact.externalName) ++
    lineAt depth "*/"

/-- The header of an artifact inside another: a comment line, and one more for an anonymous object. -/
def innerHeader (f : Frame) (depth : Nat) : String :=
  lineAt depth ("// Kotlin " ++ f.metadata.content.words ++ " from Java class: " ++ f.artifact.externalName) ++
    match f.metadata.content.origin? with
    | none => ""
    | some origin => lineAt depth ("// Anonymous object origin: " ++ Name.toExternal origin)

/-- The header of an artifact where it is visited. -/
def header (f : Frame) (v : Visit) : String :=
  if v.enclosing = [] then f.topHeader v.depth else f.innerHeader v.depth

end Frame

namespace Render

/-- An action that writes a text, which depends on the depth, and does no more. -/
def Prints (text : Nat → String) (m : Render Unit) : Prop :=
  ∀ s : Session, s.out.stack ≠ [] → ∃ out, m s = .ok ((), { s with out }) ∧ s.out.write (text s.out.depth) = .ok out

namespace Prints

theorem pure : Prints (fun _ => "") (pure ()) := fun s hs => ⟨s.out, rfl, Buffers.write_empty hs⟩

theorem write (text : String) : Prints (fun _ => text) (write text) := by
  intro s hs
  obtain ⟨out, hout⟩ := Buffers.exists_write hs text
  exact ⟨out, by simp [Render.write, changeOut, hout], hout⟩

theorem line (text : String) : Prints (lineAt · text) (writeLineIndented text) :=
  fun s => write (lineAt s.out.depth text) s

theorem seq {text more : Nat → String} {m k : Render Unit} (hm : Prints text m) (hk : Prints more k) :
    Prints (fun depth => text depth ++ more depth) (do m; k) := by
  intro s hs
  obtain ⟨out, hrun, hout⟩ := hm s hs
  obtain ⟨out', hrun', hout'⟩ := hk { s with out } (Buffers.stack_ne_nil_of_write hout)
  refine ⟨out', by rw [bind_of_ok hrun, hrun'], Buffers.write_write hout ?_⟩
  rw [← Buffers.depth_of_write hout]
  exact hout'

end Prints

theorem headerAt_top (f : Frame) : Prints f.topHeader (headerAt true (Name.package f.artifact.name) f) := by
  have hcomment := Prints.seq (.line "/**") (.seq (.line ("* Kotlin " ++ f.metadata.content.words ++
    " (metadata version " ++ f.metadata.version.text ++ ").")) (.seq (.line ("* From Java class: " ++
    f.artifact.externalName)) (.line "*/")))
  unfold headerAt Frame.topHeader
  by_cases hpackage : (Name.package f.artifact.name).isEmpty
  · simp only [hpackage, if_true, String.empty_append, String.append_assoc] at hcomment ⊢
    exact hcomment
  · have hlines := Prints.seq (.line ("package " ++ Name.toExternal (Name.package f.artifact.name)))
      (.seq (.write "\n") hcomment)
    simp only [hpackage, if_true, if_false, String.append_assoc, Bool.false_eq_true] at hlines ⊢
    exact hlines

theorem headerAt_inner (package : String) (f : Frame) : Prints f.innerHeader (headerAt false package f) := by
  unfold headerAt Frame.innerHeader
  refine .seq (.line _) ?_
  cases f.metadata.content.origin? with
  | none => exact .pure
  | some origin => exact .line _

/-- A header is written as it is meant to be, in the scope of the artifact. -/
theorem header_writes (f : Frame) {s : Session} (hs : s.out.stack ≠ []) (v : Visit)
    (hdepth : v.depth = s.out.depth) (hframes : v.enclosing = s.scope.frames.map Frame.kind) :
    ∃ out, header f { s with scope := s.scope.enter f } = .ok ((), { s with scope := s.scope.enter f, out }) ∧
      s.out.write (f.header v) = .ok out := by
  unfold header Frame.header Scope.enter
  rw [hdepth, hframes]
  cases s.scope.frames with
  | nil => exact headerAt_top f { s with scope := _ } hs
  | cons outer frames =>
    rw [if_neg (by simp)]
    exact headerAt_inner _ f { s with scope := _ } hs

end Render

/-! ## One rendering -/

theorem Scope.enter_frames (s : Scope) (f : Frame) : (s.enter f).frames = f :: s.frames := by
  unfold enter
  split
  · next h => rw [h]
  · rfl

/-- The state inside an artifact when all that it declares is declared. -/
def Session.inside (s : Session) (pool : Pool) (f : Frame) : Session :=
  Session.declaring { s with scope := s.scope.enter f } (f.declared pool)

/-- The state back in the scopes of another. -/
def Session.backIn (t s : Session) : Session := { t with scope := { t.scope with frames := s.scope.frames } }

theorem Rendering.IsRun.stack_ne_nil {inside : Frame → Render Unit} {r : Rendering} (h : r.IsRun inside) :
    r.before.out.stack ≠ [] := Buffers.ne_nil_of_write h.written

namespace Passes

variable {inside : Frame → Render Unit} {depth : Nat} {l : List Step} {rs : List Rendering} {s s' : Session}

theorem frames (hpass : Passes inside depth l rs s s') (hinside : Render.Appends inside) :
    s'.scope.frames = s.scope.frames := by
  induction hpass with
  | nil hsame => rw [hsame]
  | spared _ _ ih => exact ih
  | taken hsame _ _ hrun _ ih =>
    have hafter := (hinside hrun.stack_ne_nil hrun.run).2
    simp only [Step.rendering, Step.entered_scope] at hafter
    rw [ih, hafter, hsame]

/-- Each rendering is a run that begins in the scopes around and at the depth of the steps. -/
theorem of_mem (hpass : Passes inside depth l rs s s') (hinside : Render.Appends inside) {r : Rendering}
    (hr : r ∈ rs) : r.IsRun inside ∧ r.before.scope.frames = s.scope.frames ∧ r.before.out.depth = depth := by
  induction hpass with
  | nil _ => cases hr
  | spared _ _ ih => exact ih hr
  | taken hsame hdepth _ hrun hrest ih =>
    have hframes := (Passes.taken hsame hdepth ‹_› hrun (.nil (.refl _))).frames hinside
    rcases List.mem_cons.1 hr with rfl | hr
    · refine ⟨hrun, ?_, ?_⟩
      · simp only [Step.rendering, Step.entered_scope]
        rw [hsame]
      · simp only [Step.rendering, Step.entered_out]
        exact hdepth
    · obtain ⟨hr, hscopes, hlevel⟩ := ih hr
      exact ⟨hr, hscopes.trans hframes, hlevel⟩

/-- The artifacts inside another stand as deep as its declarations, if there are any. -/
theorem atShift {pool : Pool} {f : Frame} (hpass : Passes inside (depth + f.bodyShift) (f.steps pool) rs s s') :
    Passes inside (depth + f.shift) (f.steps pool) rs s s' := by
  rcases f.shift_eq_or pool with h | h
  · rwa [h] at hpass
  · rw [h] at hpass ⊢
    cases hpass with
    | nil hsame => exact .nil hsame

end Passes

namespace Render

/-- **What one rendering does.** It opens a scope, writes the header and the declarations, passes the
artifacts inside, and comes back to the scopes around it. The texts of the declarations and then those of
the artifacts stand in the lines after the header. -/
theorem content_lines {inside : Frame → Render Unit} (hinside : Appends inside) {pool : Pool} {f : Frame}
    {s s' : Session} (hs : s.out.stack ≠ []) (hrun : content pool inside f s = .ok ((), s')) {v : Visit}
    (hdepth : v.depth = s.out.depth) (hframes : v.enclosing = s.scope.frames.map Frame.kind) :
    ∃ rest ws rs t, s.out.write (f.header v ++ rest) = .ok s'.out ∧
      Writings pool (f :: s.scope.frames) (s.out.depth + f.bodyShift) f.declarations ws ∧
      InLines (ws.map (·.text) ++ rs.map (·.text)) rest ∧
      Passes inside (s.out.depth + f.shift) (f.steps pool) rs (s.inside pool f) t ∧ s' = t.backIn s := by
  obtain ⟨body, hcontent, hlays⟩ := UnderHeader.content hinside pool f
  rw [hcontent] at hrun
  obtain ⟨_, s₁, henter, hrun⟩ := bind_eq_ok.1 hrun
  cases henter
  obtain ⟨_, t, hbody, hleave⟩ := bind_eq_ok.1 hrun
  obtain ⟨rest, hrest, hlays⟩ := hlays { s with scope := s.scope.enter f }
  rw [hrest] at hbody
  obtain ⟨out, hheader, hout⟩ := header_writes f hs v hdepth hframes
  rw [bind_of_ok hheader] at hbody
  obtain ⟨text, ws, rs, hout', hws, hpass, hlines⟩ := hlays (Buffers.stack_ne_nil_of_write hout) hbody
  rw [Buffers.depth_of_write hout] at hws hpass
  rw [show (Session.mk (s.scope.enter f) out s.visited s.journal).scope.frames = _ from s.scope.enter_frames f] at hws
  have hpass' : Passes inside (s.out.depth + f.shift) (f.steps pool) rs (s.inside pool f) t :=
    (hpass.of_onlyText ((OnlyText.withOut { s with scope := s.scope.enter f } out).declaring _)).atShift
  -- All steps come back to the scope of `f`, so that to leave it is to be back in those around.
  have hframes' : t.scope.frames = f :: s.scope.frames := (hpass'.frames hinside).trans (s.scope.enter_frames f)
  have hback : s' = t.backIn s := by
    simp only [leave, Scope.leave, hframes'] at hleave
    cases hleave
    rfl
  refine ⟨text, ws, rs, t, ?_, hws, hlines, hpass', hback⟩
  rw [hback]
  exact Buffers.write_write hout hout'

theorem content_run {inside : Frame → Render Unit} (hinside : Appends inside) {pool : Pool} {f : Frame}
    {s s' : Session} (hs : s.out.stack ≠ []) (hrun : content pool inside f s = .ok ((), s')) {v : Visit}
    (hdepth : v.depth = s.out.depth) (hframes : v.enclosing = s.scope.frames.map Frame.kind) :
    ∃ rest rs t, s.out.write (f.header v ++ rest) = .ok s'.out ∧ InOrder (rs.map (·.text)) rest ∧
      Passes inside (s.out.depth + f.shift) (f.steps pool) rs (s.inside pool f) t ∧ s' = t.backIn s := by
  obtain ⟨rest, ws, rs, t, hout, -, hlines, hpass, hback⟩ := content_lines hinside hs hrun hdepth hframes
  exact ⟨rest, rs, t, hout, hlines.inOrder.of_append, hpass, hback⟩

theorem artifactWithin_appends (pool : Pool) (bound : Nat) : Appends (artifactWithin pool bound) := by
  induction bound with
  | zero =>
    intro f s s' _ hrun
    cases hrun
  | succ bound ih =>
    intro f s s' hs hrun
    obtain ⟨rest, rs, t, hout, -, -, hback⟩ := content_run ih hs hrun (v := ⟨f.name, .top, _, _⟩) rfl rfl
    exact ⟨⟨_, hout⟩, by rw [hback]; rfl⟩

/-- If one renderer of the artifacts inside does what another does wherever that succeeds, so do the
actions around them. -/
theorem Alike.ok_of_ok {i j : Frame → Render Unit} {l : List Step} {α : Type} {m m' : Render α} (h : Alike i j l m m')
    (hij : ∀ g t t', i g t = .ok ((), t') → j g t = .ok ((), t')) :
    ∀ {s s' a}, m s = .ok (a, s') → m' s = .ok (a, s') := by
  induction h with
  | same _ => exact id
  | bind _ _ ihm ihk =>
    intro s s' c hrun
    obtain ⟨a, t, hfirst, hrest⟩ := bind_eq_ok.1 hrun
    rw [bind_of_ok (ihm hfirst), ihk a hrest]
  | step st =>
    intro s s' _ hrun
    rw [Step.take_eq] at hrun ⊢
    split at hrun
    · next hspared => rw [if_pos hspared, hrun]
    · next hspared => rw [if_neg hspared, hij _ _ _ hrun]

theorem artifactWithin_mono {pool : Pool} {bound bound' : Nat} (hle : bound ≤ bound') {f : Frame} {s s' : Session}
    (hrun : artifactWithin pool bound f s = .ok ((), s')) : artifactWithin pool bound' f s = .ok ((), s') := by
  induction bound generalizing bound' f s s' with
  | zero => cases hrun
  | succ bound ih =>
    obtain ⟨c, rfl⟩ : ∃ c, bound' = c + 1 := ⟨bound' - 1, by omega⟩
    exact (Alike.content pool f).ok_of_ok (fun _ _ _ h => ih (by omega) h) hrun

end Render

/-! ## Blocks -/

variable {pool : Pool}

/-- The rendering of an artifact with the renderings of those inside it, in the order they are come
to. -/
inductive Block where
  | mk (rendering : Rendering) (inner : List Block)

namespace Block

def rendering : Block → Rendering
  | mk r _ => r

def inner : Block → List Block
  | mk _ inner => inner

mutual
/-- A block and those inside it, the outer before the inner ones. -/
def all : Block → List Block
  | mk r inner => mk r inner :: allOf inner
/-- The blocks of a list and those inside them. -/
def allOf : List Block → List Block
  | [] => []
  | b :: rest => b.all ++ allOf rest
end

/-- What is shown of a block from the blocks inside it holds of every block. -/
@[elab_as_elim, induction_eliminator]
theorem induct {P : Block → Prop} (mk : ∀ r inner, (∀ b ∈ inner, P b) → P (mk r inner)) : ∀ b, P b
  | .mk r inner => mk r inner fun b _ => induct mk b
termination_by b => b
decreasing_by
  have := List.sizeOf_lt_of_mem ‹b ∈ inner›
  simp only [Block.mk.sizeOf_spec]
  omega

/-- The visits of a block, in the order they were noted. -/
def visits (b : Block) : List Visit := b.all.map (·.rendering.visit)

theorem mem_allOf {bs : List Block} {c : Block} : c ∈ allOf bs ↔ ∃ b ∈ bs, c ∈ b.all := by
  induction bs with
  | nil => simp [allOf]
  | cons b rest ih => simp [allOf, ih]

theorem all_eq (b : Block) : b.all = b :: allOf b.inner := by
  cases b with
  | mk r inner => rfl

theorem self_mem_all (b : Block) : b ∈ b.all := by
  rw [all_eq]
  exact List.mem_cons_self

theorem mem_all_of_inner {r : Rendering} {inner : List Block} {b c : Block} (hb : b ∈ inner) (hc : c ∈ b.all) :
    c ∈ (mk r inner).all := List.mem_cons_of_mem _ (mem_allOf.2 ⟨b, hb, hc⟩)

/-- What holds of a block, and of those inside another that it holds of, holds of all. -/
theorem forall_all {P : Block → Prop} {b : Block} (root : P b) (inner : ∀ c ∈ b.all, P c → ∀ d ∈ c.inner, P d) :
    ∀ c ∈ b.all, P c := by
  induction b with
  | mk r bs ih =>
    intro c hc
    rcases List.mem_cons.1 hc with rfl | hc
    · exact root
    · obtain ⟨d, hd, hc⟩ := mem_allOf.1 hc
      exact ih d hd (inner _ (self_mem_all _) root d hd) (fun e he => inner e (mem_all_of_inner hd he)) c hc

/-- What a block is: its artifact, rendered from the state before it, writes its text to the state
after it; the renderings inside are those that the artifact's steps come to, and their texts stand in
order after the header. -/
structure Stands (pool : Pool) (b : Block) : Prop where
  run : b.rendering.IsRun (Render.artifact pool)
  passes : ∃ t, Passes (Render.artifact pool) (b.rendering.visit.depth + b.rendering.frame.shift)
    (b.rendering.frame.steps pool) (b.inner.map rendering) (b.rendering.before.inside pool b.rendering.frame) t ∧
    b.rendering.after = t.backIn b.rendering.before
  text : ∃ rest, b.rendering.text = b.rendering.frame.header b.rendering.visit ++ rest ∧
    InOrder (b.inner.map (·.rendering.text)) rest

/-- The declarations of a block: each is written in the scope of the artifact, and their texts and then
those of the blocks inside stand in the lines after the header. -/
structure Lists (pool : Pool) (b : Block) (ws : List Writing) : Prop where
  writings : Writings pool (b.rendering.frame :: b.rendering.before.scope.frames)
    (b.rendering.before.out.depth + b.rendering.frame.bodyShift) b.rendering.frame.declarations ws
  text : ∃ rest, b.rendering.text = b.rendering.frame.header b.rendering.visit ++ rest ∧
    InLines (ws.map (·.text) ++ b.inner.map (·.rendering.text)) rest

theorem exists_list {P : Block → Prop} {rs : List Rendering} (h : ∀ r ∈ rs, ∃ b : Block, b.rendering = r ∧ P b) :
    ∃ bs : List Block, bs.map rendering = rs ∧ ∀ b ∈ bs, P b := by
  induction rs with
  | nil => exact ⟨[], rfl, by simp⟩
  | cons r rs ih =>
    obtain ⟨b, rfl, hb⟩ := h r List.mem_cons_self
    obtain ⟨bs, rfl, hbs⟩ := ih fun r hr => h r (List.mem_cons_of_mem _ hr)
    exact ⟨b :: bs, rfl, List.forall_mem_cons.2 ⟨hb, hbs⟩⟩

/-- Every rendering of an artifact is that of a block in which all stand. -/
theorem exists_of_run {bound : Nat} (hbound : bound ≤ Render.nestingBound pool) {r : Rendering}
    (hrun : r.IsRun (Render.artifactWithin pool bound)) :
    ∃ b : Block, b.rendering = r ∧ ∀ c ∈ b.all, c.Stands pool ∧ ∃ ws, c.Lists pool ws := by
  induction bound generalizing r with
  | zero => cases hrun.run
  | succ bound ih =>
    have hinside := Render.artifactWithin_appends pool bound
    obtain ⟨rest, ws, rs, t, hout, hws, hlines, hpass, hback⟩ :=
      Render.content_lines hinside hrun.stack_ne_nil hrun.run (v := r.visit) rfl rfl
    have htext := Buffers.eq_of_write_eq hrun.stack_ne_nil (hrun.written.trans hout.symm)
    obtain ⟨bs, rfl, hbs⟩ := exists_list fun r' hr' => ih (by omega) (hpass.of_mem hinside hr').1
    rw [List.map_map] at hlines
    refine ⟨mk r bs, rfl, fun c hc => ?_⟩
    -- What a renderer with a smaller bound does is what `artifact` does.
    rcases List.mem_cons.1 hc with rfl | hc
    · refine ⟨⟨?_, ?_, rest, htext, hlines.inOrder.of_append⟩, ws, hws, rest, htext, hlines⟩
      · exact ⟨Render.artifactWithin_mono hbound hrun.run, hrun.written⟩
      · exact ⟨t, hpass.mono fun g s s' h => Render.artifactWithin_mono (by omega) h, hback⟩
    · obtain ⟨b, hb, hc⟩ := mem_allOf.1 hc
      exact hbs b hb c hc

/-- The blocks inside another stand in it in one piece. -/
theorem text_of_mem {b c : Block} (h : ∀ c ∈ b.all, c.Stands pool) (hc : c ∈ b.all) :
    ∃ front back, b.rendering.text = front ++ c.rendering.text ++ back := by
  induction b with
  | mk r inner ih =>
    rcases List.mem_cons.1 hc with rfl | hc
    · exact ⟨"", "", by simp⟩
    · obtain ⟨d, hd, hcd⟩ := mem_allOf.1 hc
      have hinner : ∀ e ∈ d.all, e.Stands pool := fun e he => h e (mem_all_of_inner hd he)
      obtain ⟨front, back, htext⟩ := ih d hd hinner hcd
      obtain ⟨rest, hrest, horder⟩ := (h _ (self_mem_all _)).text
      obtain ⟨front', back', htext'⟩ := horder.exists_of_mem (List.mem_map_of_mem hd)
      refine ⟨r.frame.header r.visit ++ front' ++ front, back ++ back', ?_⟩
      rw [hrest, htext', htext]
      simp only [String.append_assoc, rendering]

end Block

/-- The visits that are noted between two states are those of the blocks on the way. -/
theorem Passes.journal {inside : Frame → Render Unit} {depth : Nat} {l : List Step} {bs : List Block}
    {s s' : Session} (hpass : Passes inside depth l (bs.map Block.rendering) s s')
    (hbs : ∀ b ∈ bs, b.rendering.after.journal =
      ((Block.allOf b.inner).map (·.rendering.visit)).reverse ++ b.rendering.before.journal) :
    s'.journal = ((Block.allOf bs).map (·.rendering.visit)).reverse ++ s.journal := by
  generalize hrs : bs.map Block.rendering = rs at hpass
  induction hpass generalizing bs with
  | nil hsame =>
    rw [List.map_eq_nil_iff.1 hrs, hsame]
    rfl
  | spared _ _ ih => exact ih hbs hrs
  | @taken st _ _ s t t' text _ hsame _ _ _ _ ih =>
    obtain ⟨b, bs, rfl, hb, hrest⟩ := List.map_eq_cons_iff.1 hrs
    -- The visit of the step itself is noted before those inside it.
    have hafter := hbs b List.mem_cons_self
    rw [hb, show (st.rendering t t' text).before.journal = _ from st.entered_journal t t' text] at hafter
    have hjournal : t.journal = s.journal := by rw [hsame]
    rw [ih (fun c hc => hbs c (List.mem_cons_of_mem _ hc)) hrest, Block.allOf, Block.all_eq,
      show t'.journal = _ from hafter, hjournal, ← hb]
    simp

namespace Block

theorem journal_after {b : Block} (h : ∀ c ∈ b.all, c.Stands pool) : b.rendering.after.journal =
    ((allOf b.inner).map (·.rendering.visit)).reverse ++ b.rendering.before.journal := by
  induction b with
  | mk r inner ih =>
    obtain ⟨t, hpass, hafter⟩ := (h _ (self_mem_all _)).passes
    rw [hafter]
    exact hpass.journal fun b hb => ih b hb fun c hc => h c (mem_all_of_inner hb hc)

end Block

/-! ## The order inside a block -/

/-- What a scan finds comes in the order of names. -/
theorem Pool.pairwise_inner (pool : Pool) (enclosing : String) :
    (((pool.inner enclosing).filterMap Artifact.frame?).map Frame.name).Pairwise (· < ·) := by
  have hsorted : pool.artifacts.Pairwise fun a b => a.name < b.name := List.pairwise_map.1 pool.sorted
  have hinner : (pool.inner enclosing).Pairwise fun a b => a.name < b.name := by
    refine hsorted.sublist (List.filter_sublist.trans ?_)
    exact (List.takeWhile_sublist _).trans (List.dropWhile_sublist _)
  rw [List.pairwise_map]
  refine hinner.filterMap _ fun a b hab f hf g hg => ?_
  rw [Frame.name, Frame.name, Artifact.artifact_of_frame? hf, Artifact.artifact_of_frame? hg]
  exact hab

namespace Passes

variable {inside : Frame → Render Unit} {depth : Nat} {l : List Step} {rs : List Rendering} {s s' : Session}

/-- Every contained artifact is rendered. -/
theorem contained {frames : List Frame} (hpass : Passes inside depth (frames.map .contained ++ l) rs s s') :
    ∃ more t, rs.map (fun r => (r.route, r.frame)) =
        frames.map (Route.contained, ·) ++ more.map (fun r => (r.route, r.frame)) ∧
      Passes inside depth l more t s' := by
  induction frames generalizing rs s with
  | nil => exact ⟨rs, s, rfl, hpass⟩
  | cons f frames ih =>
    cases hpass with
    | spared hspared _ => cases hspared
    | taken _ _ _ _ hrest =>
      obtain ⟨more, t, hmore, hpass⟩ := ih hrest
      exact ⟨more, t, by rw [List.map_cons, hmore]; rfl, hpass⟩

/-- Of the artifacts that a scan comes to, some are rendered. -/
theorem scanned {frames : List Frame} (hpass : Passes inside depth (frames.map .scanned) rs s s') :
    ∃ found : List Frame, found.Sublist frames ∧
      rs.map (fun r => (r.route, r.frame)) = found.map (Route.scanned, ·) := by
  induction frames generalizing rs s with
  | nil =>
    cases hpass with
    | nil _ => exact ⟨[], .refl _, rfl⟩
  | cons f frames ih =>
    cases hpass with
    | spared _ hrest =>
      obtain ⟨found, hsub, hfound⟩ := ih hrest
      exact ⟨found, hsub.cons f, hfound⟩
    | taken _ _ _ _ hrest =>
      obtain ⟨found, hsub, hfound⟩ := ih hrest
      exact ⟨f :: found, hsub.cons_cons f, by rw [List.map_cons, hfound]; rfl⟩

end Passes

/-- What an artifact contains comes in the order it names it, and after that what its scan finds, in
the order of names. -/
theorem Block.Stands.order {b : Block} (h : b.Stands pool) :
    ∃ found : List Frame, b.inner.map (fun c => (c.rendering.route, c.rendering.frame)) =
        (b.rendering.frame.containedNames.filterMap pool.frame?).map (Route.contained, ·) ++
          found.map (Route.scanned, ·) ∧
      found.Sublist ((pool.inner b.rendering.frame.name).filterMap Artifact.frame?) ∧
      (found.map Frame.name).Pairwise (· < ·) := by
  obtain ⟨t, hpass, -⟩ := h.passes
  obtain ⟨more, u, hmore, hscan⟩ := hpass.contained
  obtain ⟨found, hsub, hfound⟩ := hscan.scanned
  have hinner : found.Sublist ((pool.inner b.rendering.frame.name).filterMap Artifact.frame?) := by
    split at hsub
    · exact hsub
    · rw [List.sublist_nil.1 hsub]
      exact List.nil_sublist _
  refine ⟨found, ?_, hinner, (pool.pairwise_inner _).sublist (hinner.map _)⟩
  rw [← hfound, ← hmore, List.map_map]
  rfl

/-- The blocks inside another are visited inside its artifact, at the depth that this gives them. -/
theorem Block.Stands.visit_inner {b c : Block} (h : b.Stands pool) (hc : c ∈ b.inner) :
    c.rendering.visit.depth = b.rendering.visit.depth + b.rendering.frame.shift ∧
      c.rendering.visit.enclosing = b.rendering.frame.kind :: b.rendering.visit.enclosing := by
  obtain ⟨t, hpass, -⟩ := h.passes
  obtain ⟨-, hframes, hdepth⟩ := hpass.of_mem (Render.artifactWithin_appends pool _) (List.mem_map_of_mem hc)
  refine ⟨hdepth, ?_⟩
  have hscopes : c.rendering.before.scope.frames = b.rendering.frame :: b.rendering.before.scope.frames :=
    hframes.trans (Scope.enter_frames _ _)
  simp only [Rendering.visit, hscopes, List.map_cons]

/-! ## Entries -/

theorem Frame.header_ne_empty (f : Frame) (v : Visit) : f.header v ≠ "" := by
  unfold header topHeader innerHeader lineAt
  split
  · simp
  · simp

/-- The text of an entry is what the rendering of its artifact writes. -/
theorem Render.text_of_entry {visited : NameSet} {f : Frame} {text written : String} {s t : Session}
    (hentry : entry pool f (Session.start visited) = .ok (text, s))
    (hrun : artifact pool f (entryState visited f) = .ok ((), t))
    (hout : (entryState visited f).out.write written = .ok t.out) : text = written := by
  have hrecord : record f.artifact.name .top (Session.start visited) =
      .ok ((), (Session.start visited).noted f.name .top) := rfl
  have hcapture := Blind.capture_of_write (s := (Session.start visited).noted f.name .top) hrun hout
  unfold entry at hentry
  rw [bind_of_ok hrecord, bind_of_ok hcapture] at hentry
  obtain ⟨u, t', hget, hentry⟩ := bind_eq_ok.1 hentry
  split at hentry
  · cases hentry
    rfl
  · cases hentry

/-- The text of an entry is the block of its artifact. -/
theorem Render.exists_entry_lists (hp : pool.Acyclic) (visited : NameSet) (f : Frame) :
    ∃ text s block, entry pool f (Session.start visited) = .ok (text, s) ∧
      (∀ b ∈ Block.all block, b.Stands pool ∧ ∃ ws, b.Lists pool ws) ∧
      block.rendering.frame = f ∧ block.rendering.text = text ∧ block.visits = s.journal.reverse := by
  obtain ⟨text, t, hentry, -, hrun⟩ := entry_runs hp visited f
  obtain ⟨⟨written, hout⟩, -⟩ := artifactWithin_appends pool _ (List.cons_ne_nil _ _) hrun
  obtain rfl := text_of_entry hentry hrun hout
  obtain ⟨block, hblock, hstands⟩ := Block.exists_of_run (Nat.le_refl _) (r := ⟨.top, f, entryState visited f, t, text⟩)
    ⟨hrun, hout⟩
  refine ⟨text, _, block, hentry, hstands, by rw [hblock], by rw [hblock], ?_⟩
  have hjournal := Block.journal_after fun b hb => (hstands b hb).1
  rw [hblock] at hjournal
  change t.journal = _ ++ [Rendering.visit ⟨.top, f, entryState visited f, t, text⟩] at hjournal
  simp only [Block.visits, Block.all_eq, List.map_cons, hblock]
  rw [hjournal, List.reverse_append, List.reverse_reverse]
  rfl

theorem Render.exists_entry_block (hp : pool.Acyclic) (visited : NameSet) (f : Frame) :
    ∃ text s block, entry pool f (Session.start visited) = .ok (text, s) ∧ (∀ b ∈ Block.all block, b.Stands pool) ∧
      block.rendering.frame = f ∧ block.rendering.text = text ∧ block.visits = s.journal.reverse := by
  obtain ⟨text, s, block, hentry, hblocks, hrest⟩ := exists_entry_lists hp visited f
  exact ⟨text, s, block, hentry, fun b hb => (hblocks b hb).1, hrest⟩

/-- The block of an entry is that of its artifact, visited as asked for and outside every other. -/
theorem Render.visit_of_entry_block (hp : pool.Acyclic) {visited : NameSet} {f : Frame} {text : String} {s : Session}
    (h : entry pool f (Session.start visited) = .ok (text, s)) {block : Block}
    (hvisits : block.visits = s.journal.reverse) : block.rendering.visit = ⟨f.name, .top, 0, []⟩ := by
  obtain ⟨_, t, hentry, -, hrun⟩ := entry_runs hp visited f
  cases h.symm.trans hentry
  -- The visit of the artifact itself was noted before the rendering began, so it is the first.
  obtain ⟨visits, hjournal⟩ := (Later.artifact hrun).suffix
  rw [Block.visits, Block.all_eq, ← hjournal, List.reverse_append] at hvisits
  exact (List.cons.inj hvisits).1

/-- **No block is dropped or torn apart.** On a pool without a containment cycle, whatever was printed
before, the text of a printed artifact is made of blocks, one for each visit and in the order of the
visits. Every block is what the rendering of its artifact writes, and begins with the header, which
stands in the text in one piece: that of an entry for the whole, that of an inner artifact at its depth
for the others. The blocks inside another stand in it one after the other, each in one piece: what the
artifact contains (of a class the companion and then the nested classes, in the order of the list), and
then what its scan finds, in the order of names. -/
theorem printed_text_in_blocks {p : Printer} (hp : p.pool.Acyclic) {a : Artifact} {d : Metadata}
    (hd : p.printable? a = some d) :
    ∃ text s block, Render.entry p.pool ⟨a, d⟩ (Session.start p.visited) = .ok (text, s) ∧
      p.print a = .ok (some text, { p with visited := s.visited }) ∧
      block.rendering.frame = ⟨a, d⟩ ∧ block.rendering.text = text ∧ block.visits = s.journal.reverse ∧
      ∀ b ∈ Block.all block, b.Stands p.pool ∧
        (∃ front back, text = front ++ b.rendering.text ++ back) ∧
        (∃ front back, text = front ++ b.rendering.frame.header b.rendering.visit ++ back) ∧
        (∃ found : List Frame, b.inner.map (fun c => (c.rendering.route, c.rendering.frame)) =
            (b.rendering.frame.containedNames.filterMap p.pool.frame?).map (Route.contained, ·) ++
              found.map (Route.scanned, ·) ∧
          found.Sublist ((p.pool.inner b.rendering.frame.name).filterMap Artifact.frame?) ∧
          (found.map Frame.name).Pairwise (· < ·)) ∧
        ∀ c ∈ b.inner, c.rendering.visit.depth = b.rendering.visit.depth + b.rendering.frame.shift ∧
          c.rendering.visit.enclosing = b.rendering.frame.kind :: b.rendering.visit.enclosing := by
  obtain ⟨text, s, block, hentry, hstands, hframe, htext, hvisits⟩ := Render.exists_entry_block hp p.visited ⟨a, d⟩
  refine ⟨text, s, block, hentry, ?_, hframe, htext, hvisits, fun b hb => ?_⟩
  · obtain ⟨rest, hrest, -⟩ := (hstands block block.self_mem_all).text
    have hne : text.isEmpty = false := by
      rw [← htext, hrest]
      simp [Frame.header_ne_empty]
    simp [Printer.print, hd, hentry, hne]
  · have hb' := hstands b hb
    obtain ⟨front, back, hpiece⟩ := Block.text_of_mem hstands hb
    obtain ⟨rest, hrest, -⟩ := hb'.text
    rw [htext] at hpiece
    refine ⟨hb', ⟨front, back, hpiece⟩, ⟨front, rest ++ back, ?_⟩, hb'.order, fun c hc => hb'.visit_inner hc⟩
    rw [hpiece, hrest]
    simp only [String.append_assoc]

/-- The outermost class of the sample is printed in four blocks: the class that is named after the
companion is found by the companion's scan and is a nested class as well. -/
theorem printed_text_in_blocks_sample : Pool.sample.Acyclic ∧
    ∃ text p', ({ pool := Pool.sample } : Printer).print Pool.sampleOuter = .ok (some text, p') ∧
      ∃ block : Block, block.rendering.text = text ∧ (∀ b ∈ block.all, b.Stands Pool.sample) ∧
        block.visits.map (fun v => (v.name, v.route, v.depth)) =
          [("pkg/Outer", .top, 0), ("pkg/Outer$Companion", .contained, 1), ("pkg/Outer$Companion$Key", .scanned, 2),
            ("pkg/Outer$Companion$Key", .contained, 1)] := by
  obtain ⟨text, s, block, hentry, hprint, -, htext, hvisits, hall⟩ :=
    printed_text_in_blocks (p := { pool := Pool.sample }) Pool.sample_acyclic (a := Pool.sampleOuter)
      (d := Pool.sampleOuter.metadata.get rfl) rfl
  have hjournal : (Render.entry Pool.sample ⟨Pool.sampleOuter, Pool.sampleOuter.metadata.get rfl⟩
      (Session.start .empty)).map (·.2.journal.reverse.map fun v => (v.name, v.route, v.depth)) =
      .ok [("pkg/Outer", .top, 0), ("pkg/Outer$Companion", .contained, 1), ("pkg/Outer$Companion$Key", .scanned, 2),
        ("pkg/Outer$Companion$Key", .contained, 1)] := by decide +kernel
  rw [hentry] at hjournal
  refine ⟨Pool.sample_acyclic, text, _, hprint, block, htext, fun b hb => (hall b hb).1, ?_⟩
  rw [hvisits]
  exact Except.ok.inj hjournal

/-- The visits of the entry of the outermost class of the sample, the latest first. -/
theorem Pool.sample_journal : (Render.entry sample ⟨sampleOuter, sampleOuter.metadata.get rfl⟩
    (Session.start .empty)).map (·.2.journal) =
      .ok [⟨"pkg/Outer$Companion$Key", .contained, 1, [.classOf]⟩,
        ⟨"pkg/Outer$Companion$Key", .scanned, 2, [.classOf, .classOf]⟩,
        ⟨"pkg/Outer$Companion", .contained, 1, [.classOf]⟩, ⟨"pkg/Outer", .top, 0, []⟩] := by
  decide +kernel

end KotlinMetadata
