/-
The depth of a header. One counter is shared by all that indents: classes,
facades, synthetic classes, accessors. Where an artifact is visited the
counter says how many of the artifacts around it indent what is inside them,
which classes and multi-file facades do.

One step down the tree of blocks adds one for such an artifact and nothing
for another (`Block.Stands.depth_inner`); so it holds at every block of an
entry. `header_eq_lines` and `leadingBlanks_of_mem` carry it over to the
lines of the header.
-/
import KotlinMetadata.Proofs.Blocks

namespace KotlinMetadata

variable {pool : Pool}

/-! ## Depth and nesting -/

/-- Whether an artifact of a kind indents the artifacts inside it. -/
def ContentKind.indents : ContentKind → Bool
  | .classOf | .multiFileFacade => true
  | .fileFacade | .synthetic | .multiFilePart => false

theorem Frame.shift_eq (f : Frame) : f.shift = if f.kind.indents then 1 else 0 := by
  unfold shift Frame.kind Metadata.kind
  cases f.metadata.content <;> rfl

/-- The depth of a visit is the number of artifacts around it that indent. -/
def Visit.IsNested (v : Visit) : Prop := v.depth = v.enclosing.countP ContentKind.indents

theorem Block.Stands.depth_inner {b c : Block} (h : b.Stands pool) (hb : b.rendering.visit.IsNested)
    (hc : c ∈ b.inner) : c.rendering.visit.IsNested := by
  obtain ⟨hdepth, henclosing⟩ := h.visit_inner hc
  unfold Visit.IsNested at hb ⊢
  rw [hdepth, henclosing, List.countP_cons, hb, Frame.shift_eq]

/-! ## The lines of a header -/

namespace Frame

/-- The lines of the header of an artifact inside others of some kinds, the first of them the innermost. -/
def headerLines (f : Frame) (enclosing : List ContentKind) : List String :=
  if enclosing = [] then
    let package := Name.package f.artifact.name
    (if package.isEmpty then [] else ["package " ++ Name.toExternal package, ""]) ++
      ["/**", "* Kotlin " ++ f.metadata.content.words ++ " (metadata version " ++ f.metadata.version.text ++ ").",
        "* From Java class: " ++ f.artifact.externalName, "*/"]
  else
    ("// Kotlin " ++ f.metadata.content.words ++ " from Java class: " ++ f.artifact.externalName) ::
      (f.metadata.content.origin?.map fun origin => "// Anonymous object origin: " ++ Name.toExternal origin).toList

/-- A header is made of its lines, at the depth of the visit. -/
theorem header_eq_lines (f : Frame) {v : Visit} (hv : v.IsNested) :
    f.header v = String.join ((f.headerLines v.enclosing).map (lineAt v.depth)) := by
  unfold header headerLines
  by_cases htop : v.enclosing = []
  · -- Outside every artifact nothing is indented, so the empty line is empty.
    have hdepth : v.depth = 0 := by simpa [Visit.IsNested, htop] using hv
    have hblank : lineAt 0 "" = "\n" := by decide
    rw [if_pos htop, if_pos htop, hdepth]
    unfold topHeader
    by_cases hpackage : (Name.package f.artifact.name).isEmpty
    · simp [hpackage, String.append_assoc]
    · simp [hpackage, hblank, String.append_assoc]
  · rw [if_neg htop, if_neg htop]
    unfold innerHeader
    cases f.metadata.content.origin? with
    | none => simp
    | some origin => simp

end Frame

/-- The number of blanks that a line begins with. -/
def leadingBlanks (line : String) : Nat := (line.toList.takeWhile (· = ' ')).length

theorem Buffers.toList_indentation (depth : Nat) : (indentation depth).toList = List.replicate (4 * depth) ' ' := by
  induction depth with
  | zero => rfl
  | succ depth ih =>
    have hunit : indentUnit.toList = List.replicate 4 ' ' := by decide
    have hsucc : indentation (depth + 1) = indentUnit ++ indentation depth := by
      simp [indentation, Text.times, List.replicate_succ]
    rw [hsucc, String.toList_append, hunit, ih, List.replicate_append_replicate, Nat.mul_add, Nat.add_comm]

/-- A line that does not itself begin with a blank begins with those of its depth. -/
theorem leadingBlanks_lineAt {text : String} (h : text.toList.head? ≠ some ' ') (depth : Nat) :
    leadingBlanks (lineAt depth text) = 4 * depth := by
  have hrest : ((text ++ "\n").toList.takeWhile (· = ' ')) = [] := by
    rw [String.toList_append]
    cases htext : text.toList with
    | nil => rfl
    | cons c cs =>
      rw [htext] at h
      simp only [List.head?_cons, ne_eq, Option.some.injEq] at h
      simp [h]
  unfold leadingBlanks lineAt
  rw [String.toList_append, Buffers.toList_indentation, List.takeWhile_append_of_pos (by simp), hrest]
  simp

theorem leadingBlanks_of_mem {f : Frame} {enclosing : List ContentKind} {line : String}
    (h : line ∈ f.headerLines enclosing) (depth : Nat) : leadingBlanks (lineAt depth line) = 4 * depth := by
  refine leadingBlanks_lineAt ?_ depth
  unfold Frame.headerLines at h
  split at h
  · rcases List.mem_append.1 h with h | h
    · split at h
      · cases h
      · simp only [List.mem_cons, List.not_mem_nil, or_false] at h
        rcases h with rfl | rfl
        · simp
        · simp
    · simp only [List.mem_cons, List.not_mem_nil, or_false] at h
      rcases h with rfl | rfl | rfl | rfl
      · decide
      · simp
      · simp
      · decide
  · rcases List.mem_cons.1 h with rfl | h
    · simp
    · obtain ⟨origin, -, rfl⟩ := Option.map_eq_some_iff.1 (Option.mem_toList.1 h)
      simp

/-! ## Entries -/

namespace Rendering

/-- The state in which the header of an artifact is written: its own scope is the innermost. -/
def atHeader (r : Rendering) : Session := { r.before with scope := r.before.scope.enter r.frame }

/-- The number of artifacts strictly around it that indent. -/
def nesting (r : Rendering) : Nat := r.atHeader.scope.frames.tail.countP (·.kind.indents)

/-- The lines of its header. -/
def headerLines (r : Rendering) : List String := r.frame.headerLines (r.atHeader.scope.frames.tail.map Frame.kind)

theorem atHeader_frames (r : Rendering) : r.atHeader.scope.frames = r.frame :: r.before.scope.frames :=
  Scope.enter_frames _ _

theorem nesting_eq {r : Rendering} (h : r.visit.IsNested) : r.nesting = r.before.out.depth := by
  have hdepth : r.before.out.depth = (r.before.scope.frames.map Frame.kind).countP ContentKind.indents := h
  rw [nesting, atHeader_frames, hdepth, List.countP_map]
  rfl

/-- The header is written line by line at the depth of the nesting. -/
theorem header_eq {r : Rendering} (h : r.visit.IsNested) :
    r.frame.header r.visit = String.join (r.headerLines.map (lineAt r.nesting)) := by
  rw [r.frame.header_eq_lines h, headerLines, atHeader_frames, nesting_eq h]
  rfl

/-- When the header is written the depth is the number of artifacts strictly around that indent; the
header is what the text of the rendering begins with, and each of its lines begins with exactly four
blanks for each of these artifacts. -/
structure IsIndented (r : Rendering) : Prop where
  frames : r.atHeader.scope.frames = r.frame :: r.before.scope.frames
  depth : r.atHeader.out.depth = r.nesting
  header : ∃ out, Render.header r.frame r.atHeader = .ok ((), { r.atHeader with out }) ∧
    r.atHeader.out.write (String.join (r.headerLines.map (lineAt r.nesting))) = .ok out
  text : ∃ rest, r.text = String.join (r.headerLines.map (lineAt r.nesting)) ++ rest
  blanks : ∀ line ∈ r.headerLines, leadingBlanks (lineAt r.nesting line) = 4 * r.nesting

end Rendering

theorem Block.Stands.isIndented {b : Block} (h : b.Stands pool) (hnested : b.rendering.visit.IsNested) :
    b.rendering.IsIndented := by
  obtain ⟨out, hheader, hout⟩ := Render.header_writes b.rendering.frame h.run.stack_ne_nil b.rendering.visit rfl rfl
  obtain ⟨rest, hrest, -⟩ := h.text
  rw [Rendering.header_eq hnested] at hout hrest
  constructor
  · exact b.rendering.atHeader_frames
  · exact (Rendering.nesting_eq hnested).symm
  · exact ⟨out, hheader, hout⟩
  · exact ⟨rest, hrest⟩
  · exact fun line hline => leadingBlanks_of_mem hline _

/-- **Indentation mirrors nesting.** On a pool without a containment cycle, whatever was marked before,
an entry is made of blocks, one for each visit. When the header of a block is written, the depth is the
number of classes and multi-file facades strictly around its artifact, and every line of the header
begins with exactly four times as many blanks. -/
theorem headers_indented_by_nesting (hp : pool.Acyclic) (visited : NameSet) (f : Frame) :
    ∃ text s block, Render.entry pool f (Session.start visited) = .ok (text, s) ∧
      block.rendering.frame = f ∧ block.rendering.text = text ∧ block.visits = s.journal.reverse ∧
      ∀ b ∈ Block.all block, b.Stands pool ∧ b.rendering.IsIndented := by
  obtain ⟨text, s, block, hentry, hstands, hframe, htext, hvisits⟩ := Render.exists_entry_block hp visited f
  have hroot : block.rendering.visit.IsNested := by
    rw [Render.visit_of_entry_block hp hentry hvisits]
    rfl
  have hnested : ∀ b ∈ block.all, b.rendering.visit.IsNested :=
    Block.forall_all hroot fun b hb hnested c hc => (hstands b hb).depth_inner hnested hc
  refine ⟨text, s, block, hentry, hframe, htext, hvisits, fun b hb => ?_⟩
  exact ⟨hstands b hb, (hstands b hb).isIndented (hnested b hb)⟩

/-- In the sample the class that the companion's scan finds stands inside two classes, so eight blanks
precede its header. -/
theorem headers_indented_by_nesting_sample : Pool.sample.Acyclic ∧
    ∃ text s, Render.entry Pool.sample ⟨Pool.sampleOuter, Pool.sampleOuter.metadata.get rfl⟩
        (Session.start .empty) = .ok (text, s) ∧
      ∃ block : Block, block.visits = s.journal.reverse ∧ ∃ b ∈ block.all,
        b.rendering.frame.name = "pkg/Outer$Companion$Key" ∧ b.rendering.nesting = 2 ∧
        ∀ line ∈ b.rendering.headerLines, leadingBlanks (lineAt 2 line) = 8 := by
  obtain ⟨text, s, block, hentry, -, -, hvisits, hblocks⟩ := headers_indented_by_nesting Pool.sample_acyclic .empty
    ⟨Pool.sampleOuter, Pool.sampleOuter.metadata.get rfl⟩
  have hjournal := Pool.sample_journal
  simp only [hentry, Except.map, Except.ok.injEq] at hjournal
  have hmem : ("pkg/Outer$Companion$Key", 2) ∈ block.visits.map fun v => (v.name, v.depth) := by
    simp [hvisits, hjournal]
  obtain ⟨v, hv, hkey⟩ := List.mem_map.1 hmem
  obtain ⟨b, hb, rfl⟩ := List.mem_map.1 hv
  obtain ⟨hname, hdepth⟩ := Prod.mk.inj hkey
  have hindented := (hblocks b hb).2
  have hnesting : b.rendering.nesting = 2 := hindented.depth.symm.trans hdepth
  refine ⟨Pool.sample_acyclic, text, s, hentry, block, hvisits, b, hb, hname, hnesting, fun line hline => ?_⟩
  have hblanks := hindented.blanks line hline
  rw [hnesting] at hblanks
  exact hblanks

end KotlinMetadata
