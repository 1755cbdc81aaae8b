/-
The derivations of the renderers of artifacts: an artifact takes the steps
to those it contains, in the order it names them, and then the steps to
those its scan finds (`content`). What is written around the steps is left
open.
-/
import KotlinMetadata.Proofs.Writes.Declaration

namespace KotlinMetadata

/-- The steps from an artifact to those inside it, in the order they are taken. -/
def Frame.steps (pool : Pool) (f : Frame) : List Step :=
  (f.containedNames.filterMap pool.frame?).map .contained ++
    (if f.scans then (pool.inner f.name).filterMap Artifact.frame? else []).map .scanned

namespace Render.Writes

variable {pool : Pool} {inside : Frame → Render Unit} {b : Bool} {l : List Step}

/-! ## Steps -/

theorem contained (inside : Frame → Render Unit) (a : Artifact) :
    Writes inside b (a.frame?.toList.map .contained) (contained inside a) := by
  unfold Render.contained Artifact.frame?
  cases a.metadata with
  | none => exact .pure ()
  | some metadata => exact .step (.contained ⟨a, metadata⟩)

theorem scanned (inside : Frame → Render Unit) (a : Artifact) :
    Writes inside b (a.frame?.toList.map .scanned) (scanned inside a) := by
  unfold Render.scanned Artifact.frame?
  cases a.metadata with
  | none =>
    -- Without metadata nothing happens, whether the artifact is done or not.
    have hnone : (do if ← isDone a.name then Pure.pure () else Pure.pure () : Render Unit) = Pure.pure () := by
      simp only [ite_self]
      rfl
    have hpure : Writes inside b [] (Pure.pure () : Render Unit) := .pure ()
    rw [← hnone] at hpure
    exact hpure
  | some metadata => exact .step (.scanned ⟨a, metadata⟩)

/-- The steps for the items of a list that have metadata. -/
theorem flatMap_frame? (step : Frame → Step) (items : List Artifact) :
    (items.flatMap fun a => a.frame?.toList.map step) = (items.filterMap Artifact.frame?).map step := by
  induction items with
  | nil => rfl
  | cons a items ih => cases h : a.frame? with
    | none => simp [h, ih]
    | some f => simp [h, ih]

theorem eachContained (inside : Frame → Render Unit) (items : List Artifact) :
    Writes inside b ((items.filterMap Artifact.frame?).map .contained) (Render.each (Render.contained inside) items) := by
  rw [← flatMap_frame?]
  exact .eachSteps (contained inside) items

theorem filterMap_get? (names : List String) :
    (names.filterMap pool.get?).filterMap Artifact.frame? = names.filterMap pool.frame? := by
  rw [List.filterMap_filterMap]
  rfl

theorem toList_bind_get? (o : Option String) : (o.bind pool.get?).toList = o.toList.filterMap pool.get? := by
  cases o with
  | none => rfl
  | some name => cases h : pool.get? name with
    | none => simp [h]
    | some a => simp [h]

/-- What scans have written, under a comment; nothing if they have written nothing. -/
theorem underComment (text : String) : Writes inside b [] (if text.isEmpty then Pure.pure () else do
    Render.newline
    Render.writeLineIndented scannedComment
    Render.newline
    Render.write text) := by
  refine .ite (.pure ()) ?_
  refine .seq .newline fun _ => ?_
  refine .seq (.writeLineIndented _) fun _ => ?_
  refine .seq .newline fun _ => ?_
  exact .write text

theorem children (pool : Pool) (inside : Frame → Render Unit) (a : Artifact) :
    Writes inside b (((pool.inner a.name).filterMap Artifact.frame?).map .scanned)
      (children pool inside a) := by
  have hscans : Writes inside false (((pool.inner a.name).filterMap Artifact.frame?).map .scanned)
      (Render.each (Render.scanned inside) (pool.inner a.name)) := by
    rw [← flatMap_frame?]
    exact .eachSteps (scanned inside) _
  refine .andThen (.capture hscans) fun text => ?_
  exact underComment text

/-! ## Headers -/

theorem headerAt (top : Bool) (package : String) (f : Frame) :
    Writes inside b [] (headerAt top package f) := by
  unfold Render.headerAt
  extract_lets words external comment
  have hcomment : ∀ u, Writes inside b [] (comment u) := by
    intro u
    refine .seq (.writeLineIndented _) fun _ => ?_
    refine .seq (.writeLineIndented _) fun _ => ?_
    refine .seq (.writeLineIndented _) fun _ => ?_
    exact .writeLineIndented _
  refine .ite (.ite (hcomment ()) ?_) ?_
  · refine .seq (.writeLineIndented _) fun _ => ?_
    exact .seq .newline hcomment
  · refine .seq (.writeLineIndented _) fun _ => ?_
    exact .onSome fun origin => .writeLineIndented _

theorem header (f : Frame) : Writes inside b [] (header f) :=
  atPlace (g := fun frames package => Render.headerAt (frames.length = 1) package f) fun _ _ => headerAt _ _ f

/-! ## Classes -/

theorem enumEntries (index : Nat) (entries : List String) :
    Writes inside b [] (enumEntries index entries) := by
  induction entries generalizing index with
  | nil => exact .pure ()
  | cons entry rest ih =>
    unfold Render.enumEntries
    extract_lets tail comma name
    have htail : ∀ u, Writes inside b [] (tail u) := fun _ => ih (index + 1)
    have hcomma : ∀ u, Writes inside b [] (comma u) := by
      intro u
      refine .ite (htail ()) ?_
      refine .seq (.write ",") fun _ => ?_
      refine .ite (htail ()) ?_
      exact .seq (.write " ") htail
    have hname : ∀ u, Writes inside b [] (name u) := by
      intro u
      refine .ite ?_ ?_
      · exact .seq (.writeIndented entry) hcomma
      · exact .seq (.write entry) hcomma
    refine .ite ?_ (hname ())
    exact .seq .newline hname

theorem companion (pool : Pool) (inside : Frame → Render Unit) (c : ClassInfo) :
    Writes inside b ((c.companionClassName.toList.filterMap pool.frame?).map .contained)
      (companion pool inside c) := by
  have h := onSomeSteps (fun a => Writes.seq .newline fun _ => contained (b := b) inside a)
    (c.companionClassName.bind pool.get?)
  rw [flatMap_frame?, toList_bind_get?, filterMap_get?] at h
  exact h

theorem filterMap_nestedArtifacts (pool : Pool) (c : ClassInfo) :
    (nestedArtifacts pool c).filterMap Artifact.frame? = c.nestedInternalNames.filterMap pool.frame? := by
  have hsome : ∀ a : Artifact, (if a.metadata.isSome then a.frame? else none) = a.frame? := by
    intro a
    cases hd : a.metadata with
    | none => simp [Artifact.frame?, hd]
    | some metadata => simp
  simp only [nestedArtifacts, List.filterMap_filter, hsome, filterMap_get?]

theorem nestedClasses (pool : Pool) (inside : Frame → Render Unit) (c : ClassInfo) :
    Writes inside b ((c.nestedInternalNames.filterMap pool.frame?).map .contained)
      (nestedClasses pool inside c) := by
  refine declarationGroup ?_
  have h := eachContained (b := b) inside (nestedArtifacts pool c)
  rw [filterMap_nestedArtifacts] at h
  exact h

theorem sealedSubclasses (c : ClassInfo) : Writes inside b [] (sealedSubclasses c) :=
  atPlace (g := fun frames package => sealedNames (c.sealedSubclassNames.map fun name =>
    (Scope.mk frames .empty package).resolve name ".")) fun _ _ => .ite (.pure ()) (.writeLineIndented _)

theorem secondaryConstructors (pool : Pool) (c : ClassInfo) :
    Writes inside b [] (secondaryConstructors pool c) := by
  unfold Render.secondaryConstructors
  refine .ite (.pure ()) ?_
  refine .seq (.writeLineIndented _) fun _ => ?_
  exact .each (constructor pool) _

theorem underlyingProperty (c : ClassInfo) : Writes inside b [] (underlyingProperty c) := by
  refine .onSome fun name => .seq (.writeLineIndented _) fun _ => ?_
  refine .seq (.capture (.onSome (typeUse false))) fun _ => ?_
  exact .writeLineIndented _

/-- The steps of a class. -/
theorem classBody (pool : Pool) (inside : Frame → Render Unit) (a : Artifact) (c : ClassInfo) :
    Writes inside b (((c.companionClassName.toList ++ c.nestedInternalNames).filterMap pool.frame?).map .contained ++
      ((pool.inner a.name).filterMap Artifact.frame?).map .scanned) (classBody pool inside a c) := by
  rw [List.filterMap_append, List.map_append, List.append_assoc]
  refine .seq (sealedSubclasses c) fun _ => ?_
  refine .seq (secondaryConstructors pool c) fun _ => ?_
  refine .seq (underlyingProperty c) fun _ => ?_
  refine .seq (members pool _) fun _ => ?_
  refine .bind (companion pool inside c) fun _ => ?_
  refine .bind (nestedClasses pool inside c) fun _ => ?_
  exact children pool inside a

theorem classEnd (count : Nat) (entries body : String) : Writes inside b [] (classEnd count entries body) := by
  unfold Render.classEnd
  refine .ite ?_ (.ite (.ite ?_ ?_) ?_)
  · refine .seq (.writeLine _) fun _ => ?_
    have hbody : Writes inside b [] (do Render.write body; Render.writeLineIndented "\x7d") :=
      .seq (.write body) fun _ => .writeLineIndented _
    refine .ite hbody ?_
    refine .seq (.writeLine _) fun _ => ?_
    exact hbody
  · refine .seq (.write _) fun _ => ?_
    refine .seq (.write _) fun _ => ?_
    exact .writeLine _
  · refine .seq (.writeLine _) fun _ => ?_
    refine .seq (.writeLine _) fun _ => ?_
    exact .writeLineIndented _
  · refine .seq .newline fun _ => ?_
    exact .newline

theorem className (c : ClassInfo) : Writes inside b [] (className c) := by
  refine .seq (.resolve _ _) fun text => ?_
  exact .ite (.writeIndented _) (.writeIndented _)

theorem declareOrigin (pool : Pool) (c : ClassInfo) : Writes inside b [] (declareOrigin pool c) :=
  .onSome fun (d : Metadata) => declareAll d.content.typeParameters

theorem classOf (pool : Pool) (inside : Frame → Render Unit) (f : Frame) (c : ClassInfo) :
    Writes inside b (((c.companionClassName.toList ++ c.nestedInternalNames).filterMap pool.frame?).map .contained ++
      ((pool.inner f.artifact.name).filterMap Artifact.frame?).map .scanned) (classOf pool inside f c) := by
  refine .seq (header f) fun _ => ?_
  refine .seq (jvmAnnots .block _) fun _ => ?_
  refine .seq (.onSome (versionRequirement .block)) fun _ => ?_
  refine .seq (contextReceivers _) fun _ => ?_
  refine .seq (className c) fun _ => ?_
  refine .seq (declareAll _) fun _ => ?_
  refine .seq (declareOrigin pool c) fun _ => ?_
  refine .seq (typeParameterList _ _) fun _ => ?_
  refine .seq (.capture (.each (constructor pool) _)) fun primary => ?_
  refine .seq (.write _) fun _ => ?_
  refine .seq (.enclosed (typeUse b) _) fun _ => ?_
  refine .andThen (.indented ?_) fun (body, entries) => ?_
  · refine .andThen (.capture (classBody pool inside f.artifact c)) fun body => ?_
    refine .seq (.capture (enumEntries 0 _)) fun entries => ?_
    exact .pure (body, entries)
  · exact classEnd _ entries body

/-! ## The other contents -/

theorem fileFacade (pool : Pool) (inside : Frame → Render Unit) (f : Frame) (m : Members) :
    Writes inside b (((pool.inner f.artifact.name).filterMap Artifact.frame?).map .scanned)
      (fileFacade pool inside f m) := by
  refine .seq (header f) fun _ => ?_
  refine .seq (members pool m) fun _ => ?_
  exact children pool inside f.artifact

theorem syntheticClass (pool : Pool) (f : Frame) (info : SyntheticInfo) :
    Writes inside b [] (syntheticClass pool f info) := by
  refine .seq (.resolve _ _) fun name => ?_
  refine .seq (header f) fun _ => ?_
  refine .seq (.writeIndented _) fun _ => ?_
  refine .ite .newline ?_
  refine .seq (.writeLine _) fun _ => ?_
  refine .seq (.indented ?_) fun _ => ?_
  · refine .seq (.writeLineIndented _) fun _ => ?_
    exact .each (function pool) _
  · exact .writeLineIndented _

theorem multiFileFacade (pool : Pool) (inside : Frame → Render Unit) (f : Frame) (partNames : List String) :
    Writes inside b (((partNames.filter (· ≠ f.artifact.name)).filterMap pool.frame?).map .contained)
      (multiFileFacade pool inside f partNames) := by
  refine .seq (header f) fun _ => ?_
  refine .seq .newline fun _ => ?_
  refine .indented ?_
  rw [← filterMap_get?, ← flatMap_frame?]
  exact .eachSteps (fun a => .andThen (contained inside a) fun _ => .newline) _

theorem multiFilePart (pool : Pool) (inside : Frame → Render Unit) (f : Frame) (info : PartInfo) :
    Writes inside b (((pool.inner f.artifact.name).filterMap Artifact.frame?).map .scanned)
      (multiFilePart pool inside f info) := by
  refine .seq (header f) fun _ => ?_
  refine .seq (.resolve _ _) fun name => ?_
  refine .seq (.onSome fun fileName => .writeLineIndented _) fun _ => ?_
  refine .seq (.writeLineIndented _) fun _ => ?_
  refine .seq (members pool _) fun _ => ?_
  exact children pool inside f.artifact

/-- **An artifact takes its steps** and writes, all in its own scope. -/
theorem content (pool : Pool) (inside : Frame → Render Unit) (f : Frame) :
    ∃ body : Render Unit, content pool inside f = within f body ∧ Writes inside false (f.steps pool) body := by
  refine ⟨_, rfl, ?_⟩
  unfold Frame.steps Frame.containedNames Frame.scans
  cases f.metadata.content with
  | classOf info => exact classOf pool inside f info
  | fileFacade m => exact fileFacade pool inside f m
  | synthetic info => exact syntheticClass pool f info
  | multiFileFacade partNames =>
    have h := multiFileFacade (b := false) pool inside f partNames
    rwa [← List.append_nil (List.map _ _)] at h
  | multiFilePart info => exact multiFilePart pool inside f info

end Render.Writes

/-! ## Nodes -/

/-- What a rendering visits: an artifact, which has a scope of its own, or a leaf inside one. -/
inductive Node where
  | artifact (f : Frame)
  | constructor (c : Constructor)
  | function (f : Function)
  | property (p : Property)
  | typeAlias (a : TypeAlias)
  | typeUse (t : TypeUse)
  | typeParameter (p : TypeParameter)
  | valueParameter (index : Nat) (p : ValueParameter)
  | annotation (a : KotlinAnnot)
  | versionRequirement (v : Version)

namespace Node

/-- Whether a node has no scope of its own. -/
def isLeaf : Node → Bool
  | artifact _ => false
  | _ => true

/-- Renders a node. -/
def visit (pool : Pool) : Node → Render Unit
  | artifact f => Render.artifact pool f
  | constructor c => Render.constructor pool c
  | function f => Render.function pool f
  | property p => Render.property pool p
  | typeAlias a => Render.typeAlias a
  | typeUse t => Render.typeUse t
  | typeParameter p => Render.typeParameter p
  | valueParameter index p => Render.valueParameter index p .plain
  | annotation a => Render.kotlinAnnot .inline a
  | versionRequirement v => Render.versionRequirement .block v

theorem writes_of_isLeaf {inside : Frame → Render Unit} {b : Bool} (pool : Pool) {node : Node}
    (h : node.isLeaf) : Render.Writes inside b [] (node.visit pool) := by
  cases node with
  | artifact f => cases h
  | constructor c => exact .constructor pool c
  | function f => exact .function pool f
  | property p => exact .property pool p
  | typeAlias a => exact .typeAlias a
  | typeUse t => exact .typeUse b t
  | typeParameter p => exact .typeParameter p
  | valueParameter index p => exact .valueParameter index p .plain
  | annotation a => exact .kotlinAnnot .inline a
  | versionRequirement v => exact .versionRequirement .block v

end Node

end KotlinMetadata
