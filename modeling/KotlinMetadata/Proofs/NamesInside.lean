/-
What the rendering of an artifact inside another leaves of the names of type
parameters. A scope that is left takes no names with it: what an artifact
declares, itself or in its members, stays declared after it, and a file that
begins inside clears what was known before.

All of an artifact's declarations come before the artifacts inside it, so
the names after a rendering follow from its visits in order
(`TypeNames.visiting`, `Renames`): an id is called what the last visit that
has to say something of it says, and what it was called before if none has
(`find?_foldl_visiting`).
-/
import KotlinMetadata.Proofs.Blocks

namespace KotlinMetadata

/-! ## The names after visits -/

/-- Whether an artifact of a kind that is visited begins a file, where no names are known. -/
def Visit.opensFile (v : Visit) (kind : ContentKind) : Bool :=
  match v.enclosing with
  | [] => true
  | outer :: _ => Scope.crossesFile outer kind

/-- The names known inside an artifact that is visited, all that it declares included. -/
def TypeNames.visiting (pool : Pool) (names : TypeNames) (v : Visit) : TypeNames :=
  match pool.frame? v.name with
  | none => names
  | some f => (if v.opensFile f.kind then .empty else names).declareAll (f.declared pool)

/-- What a visit says of an id, if it says anything: the name that the artifact declares last for it,
or that it has none since a file begins. -/
def Visit.tells (pool : Pool) (id : UInt32) (v : Visit) : Option (Option String) :=
  match pool.frame? v.name with
  | none => none
  | some f =>
    match (f.declared pool).reverse.find? (·.id = id) with
    | some p => some (some p.name)
    | none => if v.opensFile f.kind then some none else none

variable {pool : Pool}

theorem TypeNames.find?_visiting (names : TypeNames) (v : Visit) (id : UInt32) :
    (names.visiting pool v).find? id = (v.tells pool id).getD (names.find? id) := by
  unfold visiting Visit.tells
  cases pool.frame? v.name with
  | none => rfl
  | some f =>
    simp only [find?_declareAll]
    cases (f.declared pool).reverse.find? (·.id = id) with
    | some p => rfl
    | none =>
      by_cases h : v.opensFile f.kind
      · simp [h]
      · simp [h]

/-- The last visit that says something of an id decides. -/
theorem TypeNames.find?_foldl_visiting (visits : List Visit) (names : TypeNames) (id : UInt32) :
    (visits.foldl (visiting pool) names).find? id =
      (visits.reverse.findSome? (Visit.tells pool id)).getD (names.find? id) := by
  induction visits using List.reverseRecOn with
  | nil => rfl
  | append_singleton visits v ih =>
    rw [List.foldl_append, List.foldl_cons, List.foldl_nil, find?_visiting, ih, List.reverse_append]
    simp only [List.reverse_cons, List.reverse_nil, List.nil_append, List.singleton_append, List.findSome?_cons]
    cases v.tells pool id with
    | some said => rfl
    | none => rfl

theorem Session.inside_typeNames (s : Session) {f : Frame} (hf : pool.frame? f.name = some f) {v : Visit}
    (hname : v.name = f.name) (hframes : v.enclosing = s.scope.frames.map Frame.kind) :
    (s.inside pool f).scope.typeNames = s.scope.typeNames.visiting pool v := by
  unfold TypeNames.visiting Visit.opensFile
  rw [hname, hf, hframes]
  simp only [Session.inside, Session.declaring, Session.withNames, Scope.enter]
  cases s.scope.frames with
  | nil => rfl
  | cons outer frames => rfl

/-! ## The names after a rendering -/

/-- The names in a later state follow from the visits that were noted since. -/
def Renames (pool : Pool) (s s' : Session) : Prop :=
  ∃ visits : List Visit, s'.journal = visits.reverse ++ s.journal ∧
    s'.scope.typeNames = visits.foldl (TypeNames.visiting pool) s.scope.typeNames

namespace Renames

variable {r s s' : Session}

theorem of_onlyText (h : OnlyText s s') : Renames pool s s' := by
  rw [h]
  exact ⟨[], rfl, rfl⟩

theorem trans (h₁ : Renames pool r s) (h₂ : Renames pool s s') : Renames pool r s' := by
  obtain ⟨visits₁, hjournal₁, hnames₁⟩ := h₁
  obtain ⟨visits₂, hjournal₂, hnames₂⟩ := h₂
  refine ⟨visits₁ ++ visits₂, ?_, ?_⟩
  · rw [hjournal₂, hjournal₁, List.reverse_append, List.append_assoc]
  · rw [hnames₂, hnames₁, List.foldl_append]

/-- A step adds its own visit in front of those of the rendering it comes to. -/
theorem entered {st : Step} (hst : pool.frame? st.frame.name = some st.frame)
    (h : Renames pool ((st.entered s).inside pool st.frame) s') : Renames pool s s' := by
  obtain ⟨visits, hjournal, hnames⟩ := h
  have hvisit : (st.entered s).journal = (st.rendering s s' "").visit :: s.journal := st.entered_journal s s' ""
  rw [(st.entered s).inside_typeNames hst (v := (st.rendering s s' "").visit) rfl rfl, Step.entered_scope] at hnames
  refine ⟨(st.rendering s s' "").visit :: visits, ?_, hnames⟩
  rw [hjournal, show ((st.entered s).inside pool st.frame).journal = (st.entered s).journal from rfl, hvisit,
    List.reverse_cons, List.append_assoc]
  rfl

end Renames

/-- All steps go to artifacts of the pool. -/
theorem Frame.frame?_of_mem_steps {f : Frame} {st : Step} (h : st ∈ f.steps pool) :
    pool.frame? st.frame.name = some st.frame := by
  rcases List.mem_append.1 h with h | h
  · obtain ⟨g, hg, rfl⟩ := List.mem_map.1 h
    obtain ⟨name, -, hframe⟩ := List.mem_filterMap.1 hg
    obtain ⟨-, rfl, -⟩ := Pool.frame?_eq_some hframe
    exact hframe
  · obtain ⟨g, hg, rfl⟩ := List.mem_map.1 h
    split at hg
    · exact Pool.frame?_of_mem_inner hg
    · cases hg

theorem Passes.renames {inside : Frame → Render Unit} {depth : Nat} {l : List Step} {rs : List Rendering}
    {s s' : Session} (hpass : Passes inside depth l rs s s')
    (hl : ∀ st ∈ l, pool.frame? st.frame.name = some st.frame)
    (hinside : ∀ g t t', t.out.stack ≠ [] → inside g t = .ok ((), t') → Renames pool (t.inside pool g) t') :
    Renames pool s s' := by
  induction hpass with
  | nil hsame => exact .of_onlyText hsame
  | spared _ _ ih => exact ih fun st hst => hl st (List.mem_cons_of_mem _ hst)
  | taken hsame _ _ hrun _ ih =>
    have hrest := ih fun st hst => hl st (List.mem_cons_of_mem _ hst)
    have hstep := Renames.entered (hl _ List.mem_cons_self) (hinside _ _ _ hrun.stack_ne_nil hrun.run)
    exact ((Renames.of_onlyText hsame).trans hstep).trans hrest

theorem Render.artifactWithin_renames (bound : Nat) (f : Frame) (s s' : Session) (hs : s.out.stack ≠ [])
    (hrun : artifactWithin pool bound f s = .ok ((), s')) : Renames pool (s.inside pool f) s' := by
  induction bound generalizing f s s' with
  | zero => cases hrun
  | succ bound ih =>
    obtain ⟨rest, rs, t, -, -, hpass, hback⟩ :=
      content_run (artifactWithin_appends pool bound) hs hrun (v := ⟨f.name, .top, _, _⟩) rfl rfl
    obtain ⟨visits, hjournal, hnames⟩ := hpass.renames (fun st hst => Frame.frame?_of_mem_steps hst) ih
    -- Leaving the scope gives back the frames, not the names.
    rw [hback]
    exact ⟨visits, hjournal, hnames⟩

/-- **The names after an artifact inside another** are what its visits leave of those before. From a
state inside a class, or anywhere, a step to an artifact of the pool succeeds if the pool has no
containment cycle. After it, an id is called what the last visit that says something of it says, be it
of this artifact or of one inside it, and what it was called before if none does. -/
theorem names_after_artifact_inside {st : Step} (hst : pool.frame? st.frame.name = some st.frame) {s : Session}
    (hs : s.out.stack ≠ []) :
    (pool.Acyclic → ∃ s', st.take (Render.artifact pool) s = .ok ((), s')) ∧
    ∀ s', st.take (Render.artifact pool) s = .ok ((), s') → ∃ visits : List Visit,
      s'.journal = visits.reverse ++ s.journal ∧ ∀ id,
        s'.scope.typeNames.find? id =
          (visits.reverse.findSome? (Visit.tells pool id)).getD (s.scope.typeNames.find? id) ∧
        ((∀ v ∈ visits, v.tells pool id = none) → s'.scope.typeParameter id = s.scope.typeParameter id) := by
  refine ⟨fun hp => ?_, fun s' hrun => ?_⟩
  · rw [Step.take_eq]
    split
    · exact ⟨s, rfl⟩
    · obtain ⟨s', hrun, -⟩ := Render.artifact_runs hp st.frame (s := st.entered s) (by rw [Step.entered_out]; exact hs)
      exact ⟨s', hrun⟩
  · have hrenames : Renames pool s s' := by
      rw [Step.take_eq] at hrun
      split at hrun
      · cases hrun
        exact .of_onlyText (.refl s)
      · exact .entered hst (Render.artifactWithin_renames _ _ _ _ (by rw [Step.entered_out]; exact hs) hrun)
    obtain ⟨visits, hjournal, hnames⟩ := hrenames
    refine ⟨visits, hjournal, fun id => ?_⟩
    have hfind : s'.scope.typeNames.find? id = _ := hnames ▸ TypeNames.find?_foldl_visiting visits _ id
    refine ⟨hfind, fun hnone => ?_⟩
    have hsilent : visits.reverse.findSome? (Visit.tells pool id) = none :=
      List.findSome?_eq_none_iff.2 fun v hv => hnone v (List.mem_reverse.1 hv)
    rw [hsilent] at hfind
    rw [Scope.typeParameter, hfind, Scope.typeParameter]
    rfl

namespace Pool

/-- A class as it is rendered. -/
def sampleFrame (info : ClassInfo) : Frame := ⟨sampleClass info, ⟨⟨1, 9, 0⟩, .classOf info⟩⟩

/-- A generic class. -/
def genericOuter : Frame :=
  sampleFrame { className := "pkg/Outer", typeParameters := [{ id := 0, name := "T" }],
                nestedClassNames := ["Node", "Cursor"] }

/-- A nested class of it that has a type parameter of its own, with the same id. -/
def genericNode : Frame :=
  sampleFrame { className := "pkg/Outer$Node", typeParameters := [{ id := 0, name := "E" }] }

/-- The generic class with two nested ones. -/
def genericArtifacts : List Artifact :=
  [genericOuter.artifact, sampleClass { className := "pkg/Outer$Cursor" }, genericNode.artifact]

theorem genericArtifacts_sorted : (genericArtifacts.map (·.name)).Pairwise (· < ·) := by decide

/-- The three classes as a pool. -/
def generic : Pool := ⟨genericArtifacts, genericArtifacts_sorted⟩

theorem generic_acyclic : generic.Acyclic :=
  acyclic_of_rank (fun n => if n = "pkg/Outer" then 1 else 0) (by decide)

end Pool

/-- The state inside the generic class before its nested classes are rendered. -/
def Session.inGenericOuter : Session :=
  Session.inside { Session.start .empty with out := ⟨[""], 0⟩ } Pool.generic Pool.genericOuter

theorem Session.inGenericOuter_isOpen : Session.inGenericOuter.IsOpen := ⟨List.cons_ne_nil _ _, List.cons_ne_nil _ _⟩

theorem Session.inGenericOuter_find? : Session.inGenericOuter.scope.typeNames.find? 0 = some "T" := by decide

theorem Pool.generic_frame?_node : generic.frame? genericNode.name = some genericNode := rfl

/-- The nested class is rendered inside the generic one. -/
theorem names_after_artifact_inside_sample : Pool.generic.Acyclic ∧
    Session.inGenericOuter.scope.typeNames.find? 0 = some "T" ∧ ∃ s', ∃ visits : List Visit,
      (Step.contained Pool.genericNode).take (Render.artifact Pool.generic) .inGenericOuter = .ok ((), s') ∧
      s'.journal = visits.reverse ++ Session.inGenericOuter.journal ∧
      s'.scope.typeNames.find? 0 = (visits.reverse.findSome? (Visit.tells Pool.generic 0)).getD (some "T") := by
  have hframe : Pool.generic.frame? (Step.contained Pool.genericNode).frame.name =
      some (Step.contained Pool.genericNode).frame := Pool.generic_frame?_node
  have hnames := names_after_artifact_inside hframe Session.inGenericOuter_isOpen.buffer
  obtain ⟨s', hrun⟩ := hnames.1 Pool.generic_acyclic
  obtain ⟨visits, hjournal, hids⟩ := hnames.2 s' hrun
  have hname := (hids 0).1
  rw [Session.inGenericOuter_find?] at hname
  exact ⟨Pool.generic_acyclic, Session.inGenericOuter_find?, s', visits, hrun, hjournal, hname⟩

/-- Names are not kept inside a class: the nested class renames the type parameter of the class around
it. -/
theorem names_not_kept_inside : ¬ ∀ (pool : Pool) (f : Frame) (s s' : Session) (st : Step), pool.Acyclic →
    s.IsOpen → s.scope.frames.head? = some f → f.kind = .classOf → st ∈ f.steps pool →
    st.take (Render.artifact pool) s = .ok ((), s') →
      ∀ id, (s.scope.typeNames.find? id).isSome → s'.scope.typeParameter id = s.scope.typeParameter id := by
  intro h
  have hstep : Step.contained Pool.genericNode ∈ Pool.genericOuter.steps Pool.generic := by
    refine List.mem_append_left _ (List.mem_map_of_mem (List.mem_filterMap.2 ⟨"pkg/Outer$Node", ?_, ?_⟩))
    · decide
    · exact Pool.generic_frame?_node
  have hname : ((Step.contained Pool.genericNode).take (Render.artifact Pool.generic) .inGenericOuter).map
      (·.2.scope.typeParameter 0) = .ok "E" := by decide +kernel
  obtain ⟨s', hrun, -⟩ := Render.artifact_runs Pool.generic_acyclic Pool.genericNode
    (s := (Step.contained Pool.genericNode).entered .inGenericOuter) (List.cons_ne_nil _ _)
  have htake : (Step.contained Pool.genericNode).take (Render.artifact Pool.generic) .inGenericOuter =
      .ok ((), s') := by
    rw [Step.take_contained]
    exact hrun
  have hkept := h Pool.generic Pool.genericOuter .inGenericOuter s' (.contained Pool.genericNode)
    Pool.generic_acyclic Session.inGenericOuter_isOpen rfl rfl hstep htake 0
    (by rw [Session.inGenericOuter_find?]; rfl)
  rw [htake, Except.map, hkept, Scope.typeParameter, Session.inGenericOuter_find?] at hname
  revert hname
  decide

end KotlinMetadata
