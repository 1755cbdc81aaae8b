/-
Renderings end. An artifact is rendered with a bound on the nesting, and on
a pool without a containment cycle the bound is never felt: `artifact` is
the one solution of the recursion without a bound (`artifact_eq`,
`eq_artifact`).

The measure is a lexicographic pair. `Descent` says what a call for an
artifact inside another can be: a step of containment, or a scan that comes
to an artifact not visited before; both need less depth (`depthNeeded`), and
`content_congr` says that a rendering calls for nothing else.
-/
import KotlinMetadata.Proofs.Balance
import KotlinMetadata.Proofs.Trace

namespace KotlinMetadata

namespace Render

/-! ## Two renderers of the artifacts inside -/

/-- An action that notes no visit and marks no artifact. -/
def Quiet {α : Type} (m : Render α) : Prop := ∀ ⦃s s' a⦄, m s = .ok (a, s') → SameVisits s s'

/-- Two actions that differ only in how they render the artifacts that their steps go to. -/
inductive Alike (i j : Frame → Render Unit) : List Step → {α : Type} → Render α → Render α → Prop
  | same {α : Type} {m : Render α} : Quiet m → Alike i j [] m m
  | bind {l₁ l₂} {α β : Type} {m m' : Render α} {k k' : α → Render β} : Alike i j l₁ m m' →
      (∀ a, Alike i j l₂ (k a) (k' a)) → Alike i j (l₁ ++ l₂) (m >>= k) (m' >>= k')
  | step (st : Step) : Alike i j [st] (st.take i) (st.take j)

variable {pool : Pool} {i j : Frame → Render Unit} {α β : Type} {l : List Step}

theorem Writes.quiet {b : Bool} {m : Render α} (hm : Writes i b [] m) : Quiet m := by
  intro s s' a h
  cases hm.follows h with
  | nil hsame => exact hsame

theorem quiet_changeOut (f : Buffers → Except Fault Buffers) : Quiet (changeOut f) :=
  fun _ _ _ h => sameVisits_changeOut h

theorem quiet_leave : Quiet leave := by
  intro s s' _ h
  unfold leave at h
  split at h
  · cases h
    exact ⟨rfl, rfl⟩
  · cases h

namespace Alike

theorem pure (a : α) : Alike i j [] (pure a : Render α) (pure a) := by
  refine same fun s s' _ h => ?_
  cases h
  exact .refl s

/-- An action without steps, then two others. -/
theorem seq {m : Render α} {k k' : α → Render β} (hm : Writes i false [] m)
    (hk : ∀ a, Alike i j l (k a) (k' a)) : Alike i j l (m >>= k) (m >>= k') := bind (.same hm.quiet) hk

/-- Two actions, then another without steps. -/
theorem andThen {m m' : Render α} {k : α → Render β} (hm : Alike i j l m m') (hk : ∀ a, Quiet (k a)) :
    Alike i j l (m >>= k) (m' >>= k) := by
  have h := bind hm fun a => same (hk a)
  rwa [List.append_nil] at h

theorem capture {m m' : Render Unit} (h : Alike i j l m m') : Alike i j l (capture m) (capture m') := by
  refine bind (.same (quiet_changeOut _)) fun _ => ?_
  refine andThen h fun _ => ?_
  exact fun _ _ _ => sameVisits_closeBuffer

theorem indented {m m' : Render α} (h : Alike i j l m m') : Alike i j l (indented m) (indented m') := by
  refine bind (.same (quiet_changeOut _)) fun _ => ?_
  refine andThen h fun a => ?_
  intro s s' _ hrun
  obtain ⟨_, t, hout, hpure⟩ := bind_eq_ok.1 hrun
  cases hpure
  exact sameVisits_changeOut hout

theorem within {f : Frame} {m m' : Render Unit} (h : Alike i j l m m') :
    Alike i j l (within f m) (within f m') := by
  have henter : Quiet (enter f) := by
    intro s s' _ hrun
    cases hrun
    exact ⟨rfl, rfl⟩
  refine bind (.same henter) fun _ => ?_
  refine andThen h fun _ => ?_
  exact quiet_leave

theorem each {act act' : α → Render Unit} {steps : α → List Step}
    (h : ∀ a, Alike i j (steps a) (act a) (act' a)) (items : List α) :
    Alike i j (items.flatMap steps) (Render.each act items) (Render.each act' items) := by
  induction items with
  | nil => exact pure ()
  | cons a items ih => exact bind (h a) fun _ => ih

/-! ## The renderers of artifacts -/

theorem contained (a : Artifact) :
    Alike i j (a.frame?.toList.map .contained) (contained i a) (contained j a) := by
  unfold Render.contained Artifact.frame?
  cases a.metadata with
  | none => exact pure ()
  | some metadata => exact step (.contained ⟨a, metadata⟩)

theorem scanned (a : Artifact) :
    Alike i j (a.frame?.toList.map .scanned) (scanned i a) (scanned j a) := by
  unfold Render.scanned Artifact.frame?
  cases a.metadata with
  | none =>
    refine same fun s s' _ h => ?_
    obtain ⟨done, t, hdone, hrest⟩ := bind_eq_ok.1 h
    cases hdone
    split at hrest
    · cases hrest
      exact .refl s
    · cases hrest
      exact .refl s
  | some metadata => exact step (.scanned ⟨a, metadata⟩)

theorem children (pool : Pool) (a : Artifact) :
    Alike i j (((pool.inner a.name).filterMap Artifact.frame?).map .scanned)
      (children pool i a) (children pool j a) := by
  rw [← Writes.flatMap_frame?]
  refine andThen (capture (each scanned _)) fun text => ?_
  have hcomment : Writes i false [] (if text.isEmpty then Pure.pure () else do
      newline
      writeLineIndented scannedComment
      newline
      write text) := .underComment text
  exact hcomment.quiet

theorem companion (pool : Pool) (c : ClassInfo) :
    Alike i j ((c.companionClassName.toList.filterMap pool.frame?).map .contained)
      (companion pool i c) (companion pool j c) := by
  rw [← Writes.filterMap_get?, ← Writes.toList_bind_get?, ← Writes.flatMap_frame?]
  unfold Render.companion
  cases c.companionClassName.bind pool.get? with
  | none => exact pure ()
  | some a =>
    rw [Option.toList_some, List.flatMap_singleton]
    refine seq .newline fun _ => ?_
    exact contained a

theorem nestedClasses (pool : Pool) (c : ClassInfo) :
    Alike i j ((c.nestedInternalNames.filterMap pool.frame?).map .contained)
      (nestedClasses pool i c) (nestedClasses pool j c) := by
  rw [← Writes.filterMap_nestedArtifacts, ← Writes.flatMap_frame?]
  have h := each (contained (i := i) (j := j)) (nestedArtifacts pool c)
  unfold Render.nestedClasses declarationGroup
  split
  · next hempty =>
    rw [List.isEmpty_iff.1 hempty] at h ⊢
    exact h
  · refine seq .newline fun _ => ?_
    refine seq (.writeLineIndented _) fun _ => ?_
    refine seq .newline fun _ => ?_
    exact h

theorem classBody (pool : Pool) (a : Artifact) (c : ClassInfo) :
    Alike i j (((c.companionClassName.toList ++ c.nestedInternalNames).filterMap pool.frame?).map .contained ++
      ((pool.inner a.name).filterMap Artifact.frame?).map .scanned) (classBody pool i a c) (classBody pool j a c) := by
  rw [List.filterMap_append, List.map_append, List.append_assoc]
  refine seq (.sealedSubclasses c) fun _ => ?_
  refine seq (.secondaryConstructors pool c) fun _ => ?_
  refine seq (.underlyingProperty c) fun _ => ?_
  refine seq (.members pool _) fun _ => ?_
  refine bind (companion pool c) fun _ => ?_
  refine bind (nestedClasses pool c) fun _ => ?_
  exact children pool a

theorem classOf (pool : Pool) (f : Frame) (c : ClassInfo) :
    Alike i j (((c.companionClassName.toList ++ c.nestedInternalNames).filterMap pool.frame?).map .contained ++
      ((pool.inner f.artifact.name).filterMap Artifact.frame?).map .scanned)
      (classOf pool i f c) (classOf pool j f c) := by
  refine seq (.header f) fun _ => ?_
  refine seq (.jvmAnnots .block _) fun _ => ?_
  refine seq (.onSome (.versionRequirement .block)) fun _ => ?_
  refine seq (.contextReceivers _) fun _ => ?_
  refine seq (.className c) fun _ => ?_
  refine seq (.declareAll _) fun _ => ?_
  refine seq (.declareOrigin pool c) fun _ => ?_
  refine seq (.typeParameterList _ _) fun _ => ?_
  refine seq (.capture (.each (.constructor pool) _)) fun primary => ?_
  refine seq (.write _) fun _ => ?_
  refine seq (.enclosed (.typeUse false) _) fun _ => ?_
  have hend : ∀ count entries body, Writes i false [] (classEnd count entries body) := .classEnd
  refine andThen (indented ?_) fun (body, entries) => (hend _ entries body).quiet
  refine andThen (capture (classBody pool f.artifact c)) fun body => ?_
  have hentries : Writes i false [] (do
      let entries ← Render.capture (enumEntries 0 c.enumEntryNames)
      return (body, entries)) :=
    .seq (.capture (.enumEntries 0 _)) fun entries => .pure (body, entries)
  exact hentries.quiet

theorem fileFacade (pool : Pool) (f : Frame) (m : Members) :
    Alike i j (((pool.inner f.artifact.name).filterMap Artifact.frame?).map .scanned)
      (fileFacade pool i f m) (fileFacade pool j f m) := by
  refine seq (.header f) fun _ => ?_
  refine seq (.members pool m) fun _ => ?_
  exact children pool f.artifact

theorem multiFileFacade (pool : Pool) (f : Frame) (partNames : List String) :
    Alike i j (((partNames.filter (· ≠ f.artifact.name)).filterMap pool.frame?).map .contained)
      (multiFileFacade pool i f partNames) (multiFileFacade pool j f partNames) := by
  refine seq (.header f) fun _ => ?_
  refine seq .newline fun _ => ?_
  refine indented ?_
  rw [← Writes.filterMap_get?, ← Writes.flatMap_frame?]
  exact each (fun a => andThen (contained a) fun _ => quiet_changeOut _) _

theorem multiFilePart (pool : Pool) (f : Frame) (info : PartInfo) :
    Alike i j (((pool.inner f.artifact.name).filterMap Artifact.frame?).map .scanned)
      (multiFilePart pool i f info) (multiFilePart pool j f info) := by
  refine seq (.header f) fun _ => ?_
  refine seq (.resolve _ _) fun name => ?_
  refine seq (.onSome fun fileName => .writeLineIndented _) fun _ => ?_
  refine seq (.writeLineIndented _) fun _ => ?_
  refine seq (.members pool _) fun _ => ?_
  exact children pool f.artifact

theorem content (pool : Pool) (f : Frame) :
    Alike i j (f.steps pool) (content pool i f) (content pool j f) := by
  refine within ?_
  unfold Frame.steps Frame.containedNames Frame.scans
  cases f.metadata.content with
  | classOf info => exact classOf pool f info
  | fileFacade m => exact fileFacade pool f m
  | synthetic info =>
    have h : Writes i false [] (syntheticClass pool f info) := .syntheticClass pool f info
    exact same h.quiet
  | multiFileFacade partNames =>
    have h := multiFileFacade (i := i) (j := j) pool f partNames
    rwa [← List.append_nil (List.map _ _)] at h
  | multiFilePart info => exact multiFilePart pool f info

end Alike

/-- Alike actions run alike if the steps do, as far as they are taken from a journal that has grown
from a `past` one. -/
theorem Alike.run_eq {m m' : Render α} (h : Alike i j l m m') {past : List Visit}
    (hgrows : ∀ g t t', i g t = .ok ((), t') → t.journal <:+ t'.journal)
    (heq : ∀ st ∈ l, ∀ t, past <:+ t.journal → st.take i t = st.take j t) :
    ∀ s, past <:+ s.journal → m s = m' s ∧ ∀ a s', m s = .ok (a, s') → past <:+ s'.journal := by
  induction h with
  | same hquiet =>
    refine fun s hs => ⟨rfl, fun a s' hrun => ?_⟩
    rw [(hquiet hrun).journal]
    exact hs
  | bind _ _ ihm ihk =>
    intro s hs
    have hfirst := ihm (fun st hst => heq st (List.mem_append_left _ hst)) s hs
    have hrest := fun a t ht => ihk a (fun st hst => heq st (List.mem_append_right _ hst)) t (hfirst.2 a t ht)
    refine ⟨bind_congr_at hfirst.1 fun a t ht => (hrest a t ht).1, fun c s' hrun => ?_⟩
    obtain ⟨a, t, ht, hk⟩ := bind_eq_ok.1 hrun
    exact (hrest a t ht).2 c s' hk
  | step st =>
    -- A step notes its visit first, and the rendering it goes to forgets none.
    refine fun s hs => ⟨heq st (by simp) s hs, fun _ s' hrun => ?_⟩
    have hnoted : ∀ v : Visit, past <:+ v :: s.journal := fun v => hs.trans (List.suffix_cons v _)
    cases st with
    | contained g =>
      rw [Step.take_contained] at hrun
      exact (hnoted _).trans (hgrows g _ s' hrun)
    | scanned g =>
      rw [Step.take_scanned] at hrun
      split at hrun
      · cases hrun
        exact hs
      · exact (hnoted _).trans (hgrows g _ s' hrun)

/-! ## Descents -/

/-- From the rendering of `f` that began in `s` to that of `g` that begins in `t`: nothing visited
is forgotten, and `f` contains `g`, or its scan comes to `g` for the first time. -/
structure Descent (pool : Pool) (f : Frame) (s : Session) (g : Frame) (t : Session) : Prop where
  frame : pool.frame? g.name = some g
  grows : s.journal <:+ t.journal
  step : g.name ∈ f.containedNames ∨ g.name ∈ (pool.inner f.name).map (·.name) ∧ f.scans ∧
    ¬ s.Visits g.name ∧ t.Visits g.name

/-- A descent needs less depth: fewer artifacts are unvisited, or as few and fewer are below. -/
theorem Descent.depthNeeded_lt (hp : pool.Acyclic) {f g : Frame} {s t : Session} (h : Descent pool f s g t) :
    depthNeeded pool t.journal g < depthNeeded pool s.journal f := by
  rcases h.step with hcontained | ⟨-, -, hnew, hvisits⟩
  · exact depthNeeded_contained hp hcontained h.frame h.grows
  · have hfewer : (pool.unvisited t.journal).card < (pool.unvisited s.journal).card := by
      refine Finset.card_lt_card (Finset.ssubset_iff_of_subset (Pool.unvisited_subset h.grows) |>.2 ⟨g.name, ?_, ?_⟩)
      · refine Pool.mem_unvisited.2 ⟨Pool.mem_names_of_frame? h.frame, fun v hv hname => ?_⟩
        exact hnew ⟨v, hv, hname⟩
      · intro hunvisited
        obtain ⟨v, hv, hname⟩ := hvisits
        exact (Pool.mem_unvisited.1 hunvisited).2 v hv hname
    have hscans := Nat.mul_le_mul_right (pool.size + 1) hfewer
    have hbelow := pool.card_below_le g
    rw [Nat.succ_mul] at hscans
    unfold depthNeeded
    omega

/-- **A rendering calls for nothing but descents**: two renderers of the artifacts inside that agree
on those give the same rendering. -/
theorem content_congr {f : Frame} {s : Session}
    (hgrows : ∀ g t t', i g t = .ok ((), t') → t.journal <:+ t'.journal)
    (heq : ∀ g t, Descent pool f s g t → i g t = j g t) : content pool i f s = content pool j f s := by
  refine ((Alike.content pool f).run_eq hgrows (fun st hst t ht => ?_) s List.suffix_rfl).1
  have hnoted : ∀ v : Visit, s.journal <:+ v :: t.journal := fun v => ht.trans (List.suffix_cons v _)
  rcases List.mem_append.1 hst with hst | hst
  · obtain ⟨g, hg, rfl⟩ := List.mem_map.1 hst
    obtain ⟨c, hc, hframe⟩ := List.mem_filterMap.1 hg
    obtain ⟨-, rfl, -⟩ := Pool.frame?_eq_some hframe
    rw [Step.take_contained, Step.take_contained]
    exact heq g _ ⟨hframe, hnoted _, .inl hc⟩
  · obtain ⟨g, hg, rfl⟩ := List.mem_map.1 hst
    rw [Step.take_scanned, Step.take_scanned]
    split at hg
    · next hscans =>
      split
      · rfl
      · next hdone =>
        have hnew : ¬ s.Visits g.name := by
          rintro ⟨v, hv, hname⟩
          exact hdone (Bool.or_eq_true_iff.2 (.inr (Session.hasEmitted_iff.2 ⟨v, ht.subset hv, hname⟩)))
        obtain ⟨a, ha, hf⟩ := List.mem_filterMap.1 hg
        have hname : g.name ∈ (pool.inner f.name).map (·.name) := by
          refine List.mem_map.2 ⟨a, ha, ?_⟩
          rw [← Artifact.artifact_of_frame? hf, Frame.name]
        refine heq g _ ⟨Pool.frame?_of_mem_inner hg, hnoted _, .inr ⟨hname, hscans, hnew, ?_⟩⟩
        exact ⟨_, List.mem_cons_self, rfl⟩
    · cases hg

/-! ## The recursion without a bound -/

theorem artifactWithin_grows (bound : Nat) (g : Frame) (t t' : Session)
    (h : artifactWithin pool bound g t = .ok ((), t')) : t.journal <:+ t'.journal := by
  have hlater : Later t t' := artifactWithin_induction (P := fun _ t t' => Later t t')
    (fun _ hinside _ _ _ hfollows => Later.follows hinside hfollows) bound h
  exact hlater.suffix

/-- Two bounds that exceed the depth needed give the same rendering. -/
theorem artifactWithin_eq (hp : pool.Acyclic) (b b' : Nat) (f : Frame) (s : Session)
    (hb : depthNeeded pool s.journal f < b) (hb' : depthNeeded pool s.journal f < b') :
    artifactWithin pool b f s = artifactWithin pool b' f s := by
  induction b generalizing b' f s with
  | zero => omega
  | succ b ih =>
    obtain ⟨c, rfl⟩ : ∃ c, b' = c + 1 := ⟨b' - 1, by omega⟩
    rw [artifactWithin, artifactWithin]
    refine content_congr (artifactWithin_grows b) fun g t hdescent => ?_
    have hless := hdescent.depthNeeded_lt hp
    exact ih c g t (by omega) (by omega)

/-- The rendering of an artifact solves the recursion without a bound. -/
theorem artifact_eq (hp : pool.Acyclic) (f : Frame) (s : Session) :
    artifact pool f s = content pool (artifact pool) f s := by
  have hbound := depthNeeded_lt_nestingBound pool s.journal f
  unfold artifact
  rw [artifactWithin_eq hp _ (nestingBound pool + 1) f s hbound (by omega), artifactWithin]

/-- There is no other solution. -/
theorem eq_artifact (hp : pool.Acyclic) {render : Frame → Render Unit}
    (h : ∀ f s, render f s = content pool render f s) (f : Frame) (s : Session) :
    render f s = artifact pool f s := by
  induction hn : depthNeeded pool s.journal f using Nat.strong_induction_on generalizing f s with
  | _ n ih =>
    subst hn
    rw [h, artifact_eq hp]
    refine (content_congr (artifactWithin_grows _) fun g t hdescent => ?_).symm
    exact (ih _ (hdescent.depthNeeded_lt hp) g t rfl).symm

/-- The rendering of an artifact from a state calls for that of another from a second state: if that
one went otherwise, so would the first. -/
def Calls (pool : Pool) (outer inner : Frame × Session) : Prop :=
  ∃ inside : Frame → Render Unit, (∀ g t, (g, t) ≠ inner → inside g t = artifact pool g t) ∧
    content pool inside outer.1 outer.2 ≠ content pool (artifact pool) outer.1 outer.2

theorem Calls.descent {f g : Frame} {s t : Session} (h : Calls pool (f, s) (g, t)) : Descent pool f s g t := by
  obtain ⟨inside, hinside, hdiffers⟩ := h
  by_contra hnot
  refine hdiffers (content_congr (artifactWithin_grows _) fun g' t' hdescent => ?_).symm
  refine (hinside g' t' fun hsame => ?_).symm
  cases hsame
  exact hnot hdescent

theorem calls_wellFounded (hp : pool.Acyclic) : WellFounded fun inner outer => Calls pool outer inner := by
  refine Subrelation.wf (fun {inner outer} h => ?_)
    (measure fun p : Frame × Session => depthNeeded pool p.2.journal p.1).wf
  exact (Calls.descent h).depthNeeded_lt hp

end Render

/-- **Renderings end** on every pool without a containment cycle, whatever its scans come to. The
recursion over artifacts inside artifacts has one solution, the rendering of artifacts, and every
entry succeeds. Calls go down a well-founded relation: whatever was visited stays so, and a call
either is for an artifact that a scan comes to for the first time or goes down one step of
containment. -/
theorem rendering_terminates {pool : Pool} (hp : pool.Acyclic) :
    (∀ render : Frame → Render Unit,
      (∀ f s, render f s = Render.content pool render f s) ↔ render = Render.artifact pool) ∧
    (∀ (visited : NameSet) (f : Frame), ∃ text s, Render.entry pool f (Session.start visited) = .ok (text, s)) ∧
    (WellFounded fun inner outer => Render.Calls pool outer inner) ∧
    ∀ (f g : Frame) (s t : Session), pool.frame? f.name = some f → Render.Calls pool (f, s) (g, t) →
      (∀ n, s.Visits n → t.Visits n) ∧
        (pool.Scans f.name g.name ∧ ¬ s.Visits g.name ∧ t.Visits g.name ∨ pool.Contains f.name g.name) := by
  refine ⟨fun render => ⟨fun h => ?_, ?_⟩, fun visited f => ?_, Render.calls_wellFounded hp, ?_⟩
  · funext f s
    exact Render.eq_artifact hp h f s
  · rintro rfl f s
    exact Render.artifact_eq hp f s
  · obtain ⟨text, t, h, -, -⟩ := Render.entry_runs hp visited f
    exact ⟨text, _, h⟩
  · intro f g s t hf hcalls
    obtain ⟨hg, hgrows, hstep⟩ := hcalls.descent
    have hsome : (pool.frame? g.name).isSome := by simp [hg]
    refine ⟨fun n ⟨v, hv, hname⟩ => ⟨v, hgrows.subset hv, hname⟩, ?_⟩
    rcases hstep with hcontained | ⟨hinner, hscans, hnew, hvisits⟩
    · exact .inr ⟨f, hf, hcontained, hsome⟩
    · exact .inl ⟨⟨f, hf, hscans, hinner, hsome⟩, hnew, hvisits⟩

namespace Pool

/-- A class and a facade named after it whose one part is the class: the class scans for the facade,
which contains the class. -/
def ringArtifacts : List Artifact :=
  [sampleClass { className := "pkg/Ring" },
   { name := "pkg/Ring$Link", metadata := some ⟨⟨1, 9, 0⟩, .multiFileFacade ["pkg/Ring"]⟩ }]

theorem ringArtifacts_sorted : (ringArtifacts.map (·.name)).Pairwise (· < ·) := by decide

/-- The class and the facade as a pool. -/
def ring : Pool := ⟨ringArtifacts, ringArtifacts_sorted⟩

theorem ring_acyclic : ring.Acyclic :=
  acyclic_of_rank (fun n => if n = "pkg/Ring$Link" then 1 else 0) (by decide)

end Pool

/-- The rendering of the class ends although scan and containment lead back to it. -/
theorem rendering_terminates_ring : Pool.ring.Acyclic ∧
    Pool.ring.Scans "pkg/Ring" "pkg/Ring$Link" ∧ Pool.ring.Contains "pkg/Ring$Link" "pkg/Ring" ∧
    ∀ f, Pool.ring.frame? "pkg/Ring" = some f →
      ∃ text s, Render.entry Pool.ring f (Session.start .empty) = .ok (text, s) :=
  ⟨Pool.ring_acyclic, ⟨_, rfl, rfl, by decide, rfl⟩, by decide,
    fun f _ => (rendering_terminates Pool.ring_acyclic).2.1 .empty f⟩

end KotlinMetadata
