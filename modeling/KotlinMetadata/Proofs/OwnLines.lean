/-
Declarations stand on lines of their own. A declaration ends its line in every
one of its forms (`Node.fills`), and so does a header (`Frame.header_fills`).

`Block.inLines` puts the tree of an artifact into one list, by induction on
the blocks: the headers and the declarations of all of them, in the order of
the text, with nothing but whole lines between. That the text of an artifact
ends its line too follows (`Block.fills`).
-/
import KotlinMetadata.Proofs.Batch
import KotlinMetadata.Proofs.Blocks

namespace KotlinMetadata

variable {pool : Pool}

/-! ## Declarations -/

namespace Node

/-- Whether a node has lines of its own. A constructor has if it is not the primary one. -/
def hasOwnLines : Node → Bool
  | artifact _ | function _ | property _ | typeAlias _ => true
  | constructor c => c.isSecondary
  | typeUse _ | typeParameter _ | valueParameter _ _ | annotation _ | versionRequirement _ => false

theorem fills {node : Node} (hleaf : node.isLeaf) (hown : node.hasOwnLines) :
    Render.Puts FillsLines (node.visit pool) := by
  cases node with
  | artifact f => cases hleaf
  | constructor c => exact .constructor pool hown
  | function f => exact .function pool f
  | property p => exact .property pool p
  | typeAlias a => exact .typeAlias a
  | _ => cases hown

end Node

theorem Members.hasOwnLines_of_mem {m : Members} {node : Node} (h : node ∈ m.nodes) :
    node.isLeaf ∧ node.hasOwnLines := by
  simp only [nodes, List.mem_append, List.mem_map] at h
  rcases h with (⟨_, -, rfl⟩ | ⟨_, -, rfl⟩) | ⟨_, -, rfl⟩
  · exact ⟨rfl, rfl⟩
  · exact ⟨rfl, rfl⟩
  · exact ⟨rfl, rfl⟩

theorem Frame.hasOwnLines_of_mem {f : Frame} {node : Node} (h : node ∈ f.declarations) :
    node.isLeaf ∧ node.hasOwnLines := by
  unfold declarations at h
  split at h
  · rcases List.mem_append.1 h with h | h
    · obtain ⟨c, hc, rfl⟩ := List.mem_map.1 h
      exact ⟨rfl, (List.mem_filter.1 hc).2⟩
    · exact Members.hasOwnLines_of_mem h
  · exact Members.hasOwnLines_of_mem h
  · obtain ⟨_, -, rfl⟩ := List.mem_map.1 h
    exact ⟨rfl, rfl⟩
  · cases h
  · exact Members.hasOwnLines_of_mem h

theorem Writing.IsRun.fills {w : Writing} {frames : List Frame} {depth : Nat} (h : w.IsRun pool frames depth)
    (hleaf : w.node.isLeaf) (hown : w.node.hasOwnLines) : FillsLines depth w.text := by
  have hopen := Buffers.ne_nil_of_write h.written
  obtain ⟨text, hout, htext⟩ := Node.fills hleaf hown hopen h.run
  rw [Buffers.eq_of_write_eq hopen (h.written.trans hout.symm), ← h.depth]
  exact htext

/-! ## Headers -/

theorem fillsLines_lineAt (depth : Nat) (text : String) : FillsLines depth (lineAt depth text) :=
  ⟨⟨text ++ "\n", rfl⟩, (endsLine_newline text).prepend _⟩

theorem isLines_lineAt (depth : Nat) (text : String) : IsLines (lineAt depth text) :=
  .inr (fillsLines_lineAt depth text).ends

theorem Frame.header_fills (f : Frame) (v : Visit) : FillsLines v.depth (f.header v) := by
  unfold header
  split
  · unfold topHeader
    have hpackage : LeadsAt v.depth (if (Name.package f.artifact.name).isEmpty then "" else
        lineAt v.depth ("package " ++ Name.toExternal (Name.package f.artifact.name)) ++ "\n") := by
      split
      · exact .inl rfl
      · exact .inr ((fillsLines_lineAt _ _).append (.inr rfl))
    have hfirst := hpackage.fills (fillsLines_lineAt v.depth "/**")
    exact ((hfirst.append (isLines_lineAt _ _)).append (isLines_lineAt _ _)).append (isLines_lineAt _ _)
  · unfold innerHeader
    refine (fillsLines_lineAt _ _).append ?_
    split
    · exact .empty
    · exact isLines_lineAt _ _

/-! ## Blocks -/

namespace Block

theorem Lists.fills {b : Block} {ws : List Writing} (h : b.Lists pool ws) {w : Writing} (hw : w ∈ ws) :
    FillsLines w.before.out.depth w.text := by
  have hrun := h.writings.runs w hw
  have hnode : w.node ∈ b.rendering.frame.declarations := by
    rw [← h.writings.nodes]
    exact List.mem_map_of_mem hw
  obtain ⟨hleaf, hown⟩ := Frame.hasOwnLines_of_mem hnode
  rw [hrun.depth]
  exact hrun.fills hleaf hown

theorem allOf_eq_flatMap (bs : List Block) : allOf bs = bs.flatMap all := by
  induction bs with
  | nil => rfl
  | cons b bs ih => rw [allOf, ih, List.flatMap_cons]

/-- The header of a block and its declarations. -/
def rows (ws : Block → List Writing) (b : Block) : List String :=
  b.rendering.frame.header b.rendering.visit :: (ws b).map (·.text)

section

variable {ws : Block → List Writing} {b : Block}

/-- The rows of a block and of those inside it stand in its lines. -/
theorem inLines (h : ∀ c ∈ b.all, c.Lists pool (ws c)) : InLines (b.all.flatMap (rows ws)) b.rendering.text := by
  induction b with
  | mk r inner ih =>
    obtain ⟨rest, htext, hlines⟩ := (h _ (self_mem_all _)).text
    have hinner : ∀ c ∈ inner, InLines (c.all.flatMap (rows ws)) c.rendering.text :=
      fun c hc => ih c hc fun d hd => h d (mem_all_of_inner hc hd)
    rw [all, List.flatMap_cons, allOf_eq_flatMap, List.flatMap_assoc, htext]
    exact ⟨"", rest, by simp [rendering], .empty, hlines.expand hinner⟩

theorem endsLine_of_mem_rows (h : ∀ c ∈ b.all, c.Lists pool (ws c)) :
    ∀ row ∈ b.all.flatMap (rows ws), EndsLine row := by
  intro row hrow
  obtain ⟨c, hc, hrow⟩ := List.mem_flatMap.1 hrow
  rcases List.mem_cons.1 hrow with rfl | hrow
  · exact (Frame.header_fills _ _).ends
  · obtain ⟨w, hw, rfl⟩ := List.mem_map.1 hrow
    exact ((h c hc).fills hw).ends

/-- A block begins with its header, and its rows are ended. -/
theorem fills (h : ∀ c ∈ b.all, c.Lists pool (ws c)) : FillsLines b.rendering.visit.depth b.rendering.text := by
  obtain ⟨rest, htext, -⟩ := (h b b.self_mem_all).text
  have hne : b.rendering.text ≠ "" := by
    rw [htext]
    simp [Frame.header_ne_empty]
  have hlines : IsLines b.rendering.text := (inLines h).isLines (endsLine_of_mem_rows h)
  refine ⟨?_, hlines.resolve_left hne⟩
  rw [htext]
  exact (Frame.header_fills _ _).begins.append rest

end

theorem all_eq_singleton {b : Block} (h : b.visits.length = 1) : b.all = [b] := by
  rw [visits, List.length_map, all_eq] at h
  rw [all_eq, List.length_eq_zero_iff.1 (Nat.succ.inj h)]

end Block

/-! ## Renderings -/

/-- Every node with lines of its own fills them, from every open state. -/
theorem Node.visit_fills (hp : pool.Acyclic) {node : Node} (hown : node.hasOwnLines) {s : Session} (hs : s.IsOpen) :
    ∃ text s', node.visit pool s = .ok ((), s') ∧ s.out.write text = .ok s'.out ∧ FillsLines s.out.depth text := by
  obtain ⟨s', hrun, kept⟩ := node.visit_kept hp hs.buffer fun _ => hs.frame
  obtain ⟨text, hout⟩ := kept.written
  refine ⟨text, s', hrun, hout, ?_⟩
  by_cases hleaf : node.isLeaf
  · obtain ⟨_, hout', htext⟩ := Node.fills hleaf hown hs.buffer hrun
    rwa [Buffers.eq_of_write_eq hs.buffer (hout.trans hout'.symm)]
  · cases node with
    | artifact f =>
      obtain ⟨b, hb, hblocks⟩ := Block.exists_of_run (Nat.le_refl _) (r := ⟨.top, f, s, s', text⟩) ⟨hrun, hout⟩
      choose! ws hws using fun c hc => (hblocks c hc).2
      have hfills := Block.fills hws
      rw [hb] at hfills
      exact hfills
    | _ => exact absurd rfl hleaf

/-- What is printed is the text of an entry. -/
theorem Printer.entry_of_print {p p' : Printer} {a : Artifact} {text : String}
    (h : p.print a = .ok (some text, p')) : ∃ d s, a.metadata = some d ∧
      Render.entry p.pool ⟨a, d⟩ (Session.start p.visited) = .ok (text, s) := by
  rcases print_cases h with ⟨hnone, -, -⟩ | ⟨d, written, s, hsome, hentry, -, htext, -⟩
  · simp [print, hnone] at h
  · split at htext
    · cases htext
    · cases htext
      exact ⟨d, s, (Option.filter_eq_some_iff.1 hsome).1, hentry⟩

/-- **Declarations stand on lines of their own.** On a pool without a containment cycle, artifacts,
functions, properties, type aliases and secondary constructors are rendered with success from every state
with an open buffer and scope; the text that is appended is not empty, begins with the indentation and
ends in a line break. So whatever is printed is made of blocks, one for each visit, and the header of each
block and its declarations, which are all written inside its artifact, stand in the text one after the
other with nothing but whole lines between them: each begins at the beginning of a line, with the
indentation, and no two of them share one. -/
theorem declarations_on_own_lines (hp : pool.Acyclic) :
    (∀ (node : Node) (s : Session), node.hasOwnLines → s.IsOpen →
      ∃ text s', node.visit pool s = .ok ((), s') ∧ s.out.write text = .ok s'.out ∧
        text ≠ "" ∧ EndsLine text ∧ BeginsAt s.out.depth text) ∧
    ∀ (p p' : Printer) (a : Artifact) (text : String), p.pool = pool → p.print a = .ok (some text, p') →
      ∃ d s, ∃ block : Block, ∃ ws : Block → List Writing, a.metadata = some d ∧
        Render.entry pool ⟨a, d⟩ (Session.start p.visited) = .ok (text, s) ∧
        block.rendering.frame = ⟨a, d⟩ ∧ block.rendering.text = text ∧ block.visits = s.journal.reverse ∧
        (∀ b ∈ block.all, b.Stands pool ∧ b.Lists pool (ws b) ∧
          FillsLines b.rendering.visit.depth (b.rendering.frame.header b.rendering.visit) ∧
          ∀ w ∈ ws b, FillsLines w.before.out.depth w.text) ∧
        InLines (block.all.flatMap (Block.rows ws)) text ∧
        ∀ row ∈ block.all.flatMap (Block.rows ws), EndsLine row ∧
          ∃ front back, text = front ++ row ++ back ∧ IsLines front := by
  refine ⟨fun node s hown hs => ?_, fun p p' a text hpool hprint => ?_⟩
  · obtain ⟨text, s', hrun, hout, hfills⟩ := Node.visit_fills hp hown hs
    exact ⟨text, s', hrun, hout, hfills.ends.ne_empty, hfills.ends, hfills.begins⟩
  · subst hpool
    obtain ⟨d, s, hd, hentry⟩ := Printer.entry_of_print hprint
    obtain ⟨_, _, block, hentry', hblocks, hframe, rfl, hvisits⟩ := Render.exists_entry_lists hp p.visited ⟨a, d⟩
    cases hentry.symm.trans hentry'
    choose! ws hws using fun b hb => (hblocks b hb).2
    have hlines := Block.inLines hws
    have hrows := Block.endsLine_of_mem_rows hws
    refine ⟨d, s, block, ws, hd, hentry, hframe, rfl, hvisits, fun b hb => ?_, hlines, fun row hrow => ?_⟩
    · exact ⟨(hblocks b hb).1, hws b hb, Frame.header_fills _ _, fun w hw => (hws b hb).fills hw⟩
    · exact ⟨hrows row hrow, hlines.exists_of_mem hrows hrow⟩

/-- The members of a file: a property and a function. -/
def Pool.sampleMembers : Metadata where
  version := ⟨1, 9, 0⟩
  content := .fileFacade
    { functions := [{ name := "grow", returnType := { className := some "kotlin/Unit" } }]
      properties := [{ name := "size", type := { className := some "kotlin/Int" } }] }

/-- A file with these members. -/
def Pool.sampleFile : Artifact := { name := "pkg/SizeKt", metadata := some Pool.sampleMembers }

/-- The header of the file, the property and the function share no line. -/
theorem declarations_on_own_lines_sample : Pool.sample.Acyclic ∧ ∃ text p',
    ({ pool := Pool.sample } : Printer).print Pool.sampleFile = .ok (some text, p') ∧
      ∃ header property function, InLines [header, property, function] text ∧
        ∀ row ∈ [header, property, function], EndsLine row := by
  have hsome : (({ pool := Pool.sample } : Printer).print Pool.sampleFile).map (·.1.isSome) = .ok true := by
    decide +kernel
  obtain ⟨answer, p', hprint⟩ := Printer.print_runs (p := { pool := Pool.sample }) Pool.sample_acyclic Pool.sampleFile
  rw [hprint] at hsome
  obtain ⟨text, rfl⟩ := Option.isSome_iff_exists.1 (Except.ok.inj hsome)
  refine ⟨Pool.sample_acyclic, text, p', hprint, ?_⟩
  obtain ⟨d, s, block, ws, hd, hentry, hframe, -, hvisits, hall, hlines, hrows⟩ :=
    (declarations_on_own_lines Pool.sample_acyclic).2 _ _ _ _ rfl hprint
  obtain rfl : Pool.sampleMembers = d := Option.some.inj hd
  -- No artifact is named after the file, so its block is the only one.
  have hjournal : (Render.entry Pool.sample ⟨Pool.sampleFile, Pool.sampleMembers⟩ (Session.start .empty)).map
      (·.2.journal.length) = .ok 1 := by decide +kernel
  rw [show Render.entry Pool.sample _ (Session.start .empty) = _ from hentry] at hjournal
  have hblocks : block.all = [block] := by
    refine Block.all_eq_singleton ?_
    rw [hvisits, List.length_reverse]
    exact Except.ok.inj hjournal
  have hnodes := (hall block block.self_mem_all).2.1.writings.nodes
  rw [hframe] at hnodes
  obtain ⟨property, rest, hws, -, hrest⟩ := List.map_eq_cons_iff.1 hnodes
  obtain ⟨function, none, rfl, -, hnone⟩ := List.map_eq_cons_iff.1 hrest
  cases List.map_eq_nil_iff.1 hnone
  rw [hblocks, List.flatMap_singleton, Block.rows, hws] at hlines hrows
  exact ⟨_, _, _, hlines, fun row hrow => (hrows row hrow).1⟩

end KotlinMetadata
