/-
What one entry renders. The scan of an artifact passes over those that are
marked or visited, and both sets change while it runs; what is rendered in
the end is nevertheless the least set closed under containment and under
scans for artifacts that were not marked at the start (`Pool.Reached`).

`Accounted` is what a rendering keeps true: whatever is marked was so at the
start or is visited, and whatever is visited is in that set. `Settled` says
that the set is closed at an artifact; every new visit settles its artifact
by the time it ends (`artifact_settles`).
-/
import KotlinMetadata.Proofs.Balance
import KotlinMetadata.Proofs.Trace

namespace KotlinMetadata

variable {pool : Pool} {old : NameSet} {reached : String → Prop} {inside : Frame → Render Unit}
variable {s s' s'' : Session}

/-! ## What is accounted for -/

/-- The marks and visits of a rendering that started with the `old` marks and comes only to artifacts
that are `reached`. -/
structure Accounted (pool : Pool) (old : NameSet) (reached : String → Prop) (s : Session) : Prop where
  keeps : ∀ n ∈ old, n ∈ s.visited
  visited : ∀ n ∈ s.visited, n ∈ old ∨ s.Visits n ∧ ∃ x, reached x ∧ pool.Contains x n
  journal : ∀ v ∈ s.journal, reached v.name

namespace Accounted

theorem same (hs : Accounted pool old reached s) (h : SameVisits s s') : Accounted pool old reached s' := by
  obtain ⟨hvisited, hjournal⟩ := h
  constructor
  · rw [hvisited]
    exact hs.keeps
  · unfold Session.Visits
    rw [hvisited, hjournal]
    exact hs.visited
  · rw [hjournal]
    exact hs.journal

theorem noted (hs : Accounted pool old reached s) {name : String} (hname : reached name) (route : Route) :
    Accounted pool old reached (s.noted name route) := by
  refine ⟨hs.keeps, fun n hn => ?_, fun v hv => ?_⟩
  · refine (hs.visited n hn).imp_right fun ⟨⟨v, hv, hvn⟩, hcontains⟩ => ⟨?_, hcontains⟩
    exact ⟨v, List.mem_cons_of_mem _ hv, hvn⟩
  · rcases List.mem_cons.1 hv with rfl | hv
    · exact hname
    · exact hs.journal v hv

theorem marked (hs : Accounted pool old reached s) {name : String} (hvisits : s.Visits name)
    (hcontains : ∃ x, reached x ∧ pool.Contains x name) : Accounted pool old reached (s.marked name) := by
  refine ⟨fun n hn => NameSet.mem_insert_iff.2 (.inr (hs.keeps n hn)), fun n hn => ?_, hs.journal⟩
  rcases NameSet.mem_insert_iff.1 hn with rfl | hn
  · exact .inr ⟨hvisits, hcontains⟩
  · exact hs.visited n hn

end Accounted

/-! ## What is settled -/

/-- All that an artifact contains is marked and visited, and all that it scans for is visited, the
old marks aside. -/
structure Settled (pool : Pool) (old : NameSet) (s : Session) (x : String) : Prop where
  contained : ∀ y, pool.Contains x y → y ∈ s.visited ∧ s.Visits y
  scanned : ∀ y, pool.Scans x y → y ∈ old ∨ s.Visits y

theorem Settled.later {x : String} (h : Settled pool old s x) (hlater : Later s s') :
    Settled pool old s' x := by
  refine ⟨fun y hy => ?_, fun y hy => (h.scanned y hy).imp_right hlater.visits⟩
  exact ⟨hlater.visited y (h.contained y hy).1, hlater.visits (h.contained y hy).2⟩

/-- The state `s'` after `s`: all is accounted for, and each new visit has settled its artifact. -/
structure Settles (pool : Pool) (old : NameSet) (reached : String → Prop) (s s' : Session) : Prop where
  accounted : Accounted pool old reached s'
  settled : ∀ v ∈ s'.journal, v ∈ s.journal ∨ Settled pool old s' v.name

namespace Settles

theorem same (hs : Accounted pool old reached s) (h : SameVisits s s') : Settles pool old reached s s' :=
  ⟨hs.same h, fun v hv => .inl (by rw [← h.journal]; exact hv)⟩

theorem trans (h₁ : Settles pool old reached s s') (hlater : Later s' s'')
    (h₂ : Settles pool old reached s' s'') : Settles pool old reached s s'' := by
  refine ⟨h₂.accounted, fun v hv => ?_⟩
  rcases h₂.settled v hv with hv | hv
  · exact (h₁.settled v hv).imp_right (Settled.later · hlater)
  · exact .inr hv

/-- The visit of an artifact that is settled in the end. -/
theorem of_noted {t : Session} {name : String} {route : Route} (ht : t.journal = s.journal)
    (h : Settles pool old reached (t.noted name route) s') (hname : Settled pool old s' name) :
    Settles pool old reached s s' := by
  refine ⟨h.accounted, fun v hv => ?_⟩
  rcases h.settled v hv with hv | hv
  · rcases List.mem_cons.1 hv with rfl | hv
    · exact .inr hname
    · exact .inl (ht ▸ hv)
  · exact .inr hv

end Settles

/-! ## Steps -/

/-- A set of artifacts is closed under containment and under scans, the old marks aside. -/
structure Closed (pool : Pool) (old : NameSet) (reached : String → Prop) : Prop where
  contained : ∀ {x y}, reached x → pool.Contains x y → reached y
  scanned : ∀ {x y}, reached x → pool.Scans x y → y ∉ old → reached y

namespace Step

/-- A step goes to an artifact of the pool from one that is reached. -/
def Allowed (pool : Pool) (reached : String → Prop) : Step → Prop
  | contained g => pool.frame? g.name = some g ∧ ∃ x, reached x ∧ pool.Contains x g.name
  | scanned g => pool.frame? g.name = some g ∧ ∃ x, reached x ∧ pool.Scans x g.name

/-- The outcome of a step. -/
def Taken (old : NameSet) (s : Session) : Step → Prop
  | contained g => g.name ∈ s.visited ∧ s.Visits g.name
  | scanned g => g.name ∈ old ∨ s.Visits g.name

theorem Taken.later {st : Step} (h : st.Taken old s) (hlater : Later s s') : st.Taken old s' := by
  cases st with
  | contained g => exact ⟨hlater.visited _ h.1, hlater.visits h.2⟩
  | scanned g => exact h.imp_right hlater.visits

end Step

/-- What the rendering of an artifact of the pool settles. -/
def ArtifactSettles (pool : Pool) (old : NameSet) (reached : String → Prop) (f : Frame) (s s' : Session) :
    Prop :=
  pool.frame? f.name = some f → reached f.name → Accounted pool old reached s →
    Settles pool old reached s s' ∧ Settled pool old s' f.name

theorem take_settles (hclosed : Closed pool old reached)
    (hinside : ∀ g t t', inside g t = .ok ((), t') → Later t t' ∧ ArtifactSettles pool old reached g t t')
    {st : Step} (hst : st.Allowed pool reached) (hs : Accounted pool old reached s)
    (h : st.take inside s = .ok ((), s')) : Settles pool old reached s s' ∧ st.Taken old s' := by
  have hnoted : ∀ (t : Session) name route, (t.noted name route).Visits name :=
    fun t name route => ⟨_, List.mem_cons_self, rfl⟩
  cases st with
  | contained g =>
    obtain ⟨hframe, x, hx, hcontains⟩ := hst
    have hg := hclosed.contained hx hcontains
    have haccounted : Accounted pool old reached ((s.marked g.name).noted g.name .contained) :=
      (hs.noted hg .contained).marked (hnoted s g.name .contained) ⟨x, hx, hcontains⟩
    rw [Step.take_contained] at h
    obtain ⟨hlater, hsettles⟩ := hinside g _ _ h
    obtain ⟨hsettles, hsettled⟩ := hsettles hframe hg haccounted
    refine ⟨.of_noted (t := s.marked g.name) rfl hsettles hsettled, ?_, hlater.visits (hnoted _ _ _)⟩
    exact hlater.visited _ (NameSet.mem_insert_iff.2 (.inl rfl))
  | scanned g =>
    obtain ⟨hframe, x, hx, hscans⟩ := hst
    rw [Step.take_scanned] at h
    split at h
    · next hdone =>
      cases h
      refine ⟨.same hs (.refl s), ?_⟩
      rcases Bool.or_eq_true_iff.1 hdone with hmark | hvisit
      · exact (hs.visited _ (NameSet.contains_iff.1 hmark)).imp_right (·.1)
      · exact .inr (Session.hasEmitted_iff.1 hvisit)
    · next hdone =>
      have hnew : g.name ∉ old := by
        intro hn
        exact hdone (Bool.or_eq_true_iff.2 (.inl (NameSet.contains_iff.2 (hs.keeps _ hn))))
      have hg := hclosed.scanned hx hscans hnew
      obtain ⟨hlater, hsettles⟩ := hinside g _ _ h
      obtain ⟨hsettles, hsettled⟩ := hsettles hframe hg (hs.noted hg .scanned)
      exact ⟨.of_noted rfl hsettles hsettled, .inr (hlater.visits (hnoted _ _ _))⟩

theorem follows_settles (hclosed : Closed pool old reached)
    (hinside : ∀ g t t', inside g t = .ok ((), t') → Later t t' ∧ ArtifactSettles pool old reached g t t')
    {l : List Step} (hl : ∀ st ∈ l, st.Allowed pool reached) (hs : Accounted pool old reached s)
    (h : Follows inside l s s') : Settles pool old reached s s' ∧ ∀ st ∈ l, st.Taken old s' := by
  induction h with
  | nil hsame => exact ⟨.same hs hsame, by simp⟩
  | @cons st l s t t' s' hsame htake hrest ih =>
    have hlater : Later t' s' := .follows (fun g t t' h => (hinside g t t' h).1) hrest
    obtain ⟨hsettles, htaken⟩ := take_settles hclosed hinside (hl st List.mem_cons_self) (hs.same hsame) htake
    obtain ⟨hsettles', htaken'⟩ := ih (fun st hst => hl st (List.mem_cons_of_mem _ hst)) hsettles.accounted
    have hfirst : Settles pool old reached s t' :=
      ⟨hsettles.accounted, fun v hv => by rw [← hsame.journal]; exact hsettles.settled v hv⟩
    refine ⟨hfirst.trans hlater hsettles', fun st' hst' => ?_⟩
    rcases List.mem_cons.1 hst' with rfl | hst'
    · exact htaken.later hlater
    · exact htaken' st' hst'

/-! ## Artifacts -/

/-- The steps of an artifact that is reached are allowed. -/
theorem Frame.steps_allowed {f : Frame} (hf : pool.frame? f.name = some f) (hreached : reached f.name)
    {st : Step} (hst : st ∈ f.steps pool) : st.Allowed pool reached := by
  rcases List.mem_append.1 hst with hst | hst
  · obtain ⟨g, hg, rfl⟩ := List.mem_map.1 hst
    obtain ⟨c, hc, hframe⟩ := List.mem_filterMap.1 hg
    obtain ⟨-, rfl, -⟩ := Pool.frame?_eq_some hframe
    exact ⟨hframe, f.name, hreached, f, hf, hc, by simp [hframe]⟩
  · obtain ⟨g, hg, rfl⟩ := List.mem_map.1 hst
    split at hg
    · next hscans =>
      have hframe := Pool.frame?_of_mem_inner hg
      obtain ⟨a, ha, hag⟩ := List.mem_filterMap.1 hg
      have hname : g.name = a.name := by rw [Frame.name, Artifact.artifact_of_frame? hag]
      have hinner : g.name ∈ (pool.inner f.name).map (·.name) := hname ▸ List.mem_map_of_mem ha
      exact ⟨hframe, f.name, hreached, f, hf, hscans, hinner, by simp [hframe]⟩
    · cases hg

/-- An artifact whose steps are taken is settled. -/
theorem Frame.settled_of_taken {f : Frame} (hf : pool.frame? f.name = some f)
    (h : ∀ st ∈ f.steps pool, st.Taken old s) : Settled pool old s f.name := by
  constructor
  · rintro y ⟨f', hf', hy, hsome⟩
    cases hf.symm.trans hf'
    obtain ⟨g, hg⟩ := Option.isSome_iff_exists.1 hsome
    obtain ⟨-, rfl, -⟩ := Pool.frame?_eq_some hg
    exact h (.contained g) (List.mem_append_left _ (List.mem_map_of_mem (List.mem_filterMap.2 ⟨_, hy, hg⟩)))
  · rintro y ⟨f', hf', hscans, hy, hsome⟩
    cases hf.symm.trans hf'
    obtain ⟨a, ha, rfl⟩ := List.mem_map.1 hy
    obtain ⟨g, hg⟩ := Option.isSome_iff_exists.1 hsome
    have hag : a.frame? = some g := by
      rw [Pool.frame?, Pool.get?_of_mem (Pool.mem_of_mem_inner ha)] at hg
      exact hg
    have hname : g.name = a.name := by rw [Frame.name, Artifact.artifact_of_frame? hag]
    have htaken := h (.scanned g) (List.mem_append_right _ (List.mem_map_of_mem (by
      rw [if_pos hscans]
      exact List.mem_filterMap.2 ⟨a, ha, hag⟩)))
    rw [← hname]
    exact htaken

/-- A rendering settles all it visits. -/
theorem artifact_settles (hclosed : Closed pool old reached) {f : Frame}
    (h : Render.artifact pool f s = .ok ((), s')) : ArtifactSettles pool old reached f s s' := by
  refine (Render.artifactWithin_induction (P := fun f s s' => Later s s' ∧ ArtifactSettles pool old reached f s s')
    (fun inside hinside f s s' hfollows => ?_) _ h).2
  refine ⟨.follows (fun g t t' h => (hinside g t t' h).1) hfollows, fun hf hreached hs => ?_⟩
  obtain ⟨hsettles, htaken⟩ := follows_settles hclosed hinside (fun st => Frame.steps_allowed hf hreached) hs hfollows
  exact ⟨hsettles, Frame.settled_of_taken hf htaken⟩

/-! ## Entries -/

section Entry

variable {visited : NameSet} {f : Frame} {t : Session}

/-- All that an entry visits is settled in the end and reached from its artifact. -/
theorem entry_settles (hf : pool.frame? f.name = some f)
    (h : Render.artifact pool f (Render.entryState visited f) = .ok ((), t)) :
    Accounted pool visited (pool.Reached (· ∈ visited) (· = f.name)) t ∧
      ∀ v ∈ t.journal, Settled pool visited t v.name := by
  have hclosed : Closed pool visited (pool.Reached (· ∈ visited) (· = f.name)) := ⟨.contained, .scanned⟩
  have hstart : Accounted pool visited (pool.Reached (· ∈ visited) (· = f.name)) (Render.entryState visited f) := by
    refine ⟨fun n hn => hn, fun n hn => .inl hn, fun v hv => .root ?_⟩
    rw [List.mem_singleton.1 hv]
  obtain ⟨hsettles, hsettled⟩ := artifact_settles hclosed h hf (.root rfl) hstart
  refine ⟨hsettles.accounted, fun v hv => ?_⟩
  rcases hsettles.settled v hv with hv | hv
  · rw [List.mem_singleton.1 hv]
    exact hsettled
  · exact hv

/-- An entry visits what is reached from its artifact. -/
theorem entry_visits_iff (hf : pool.frame? f.name = some f)
    (h : Render.artifact pool f (Render.entryState visited f) = .ok ((), t)) (n : String) :
    t.Visits n ↔ pool.Reached (· ∈ visited) (· = f.name) n := by
  obtain ⟨haccounted, hsettled⟩ := entry_settles hf h
  constructor
  · rintro ⟨v, hv, rfl⟩
    exact haccounted.journal v hv
  · intro hn
    induction hn with
    | root hroot =>
      rw [hroot]
      exact (Later.artifact h).visits ⟨_, List.mem_singleton_self _, rfl⟩
    | contained _ hcontains ih =>
      obtain ⟨v, hv, rfl⟩ := ih
      exact ((hsettled v hv).contained _ hcontains).2
    | scanned _ hscans hnew ih =>
      obtain ⟨v, hv, rfl⟩ := ih
      exact ((hsettled v hv).scanned _ hscans).resolve_left hnew

/-- An entry marks what the artifacts that it visits contain. -/
theorem entry_marks_iff (hf : pool.frame? f.name = some f)
    (h : Render.artifact pool f (Render.entryState visited f) = .ok ((), t)) (n : String) :
    n ∈ t.visited ↔ n ∈ visited ∨ ∃ x, pool.Reached (· ∈ visited) (· = f.name) x ∧ pool.Contains x n := by
  obtain ⟨haccounted, hsettled⟩ := entry_settles hf h
  constructor
  · intro hn
    exact (haccounted.visited n hn).imp_right (·.2)
  · rintro (hn | ⟨x, hx, hcontains⟩)
    · exact haccounted.keeps n hn
    · obtain ⟨v, hv, rfl⟩ := (entry_visits_iff hf h x).2 hx
      exact ((hsettled v hv).contained n hcontains).1

end Entry

/-- **What an entry renders.** It visits exactly the artifacts that are reached from its own by
containment and by scans for artifacts that were not marked at the start; the marks afterwards are
those of the start and the artifacts that a visited one contains. -/
theorem entry_renders_reached (hp : pool.Acyclic) (visited : NameSet) {f : Frame}
    (hf : pool.frame? f.name = some f) : ∃ text s, Render.entry pool f (Session.start visited) = .ok (text, s) ∧
      (∀ n, s.Visits n ↔ pool.Reached (· ∈ visited) (· = f.name) n) ∧
      (∀ n, n ∈ s.visited ↔ n ∈ visited ∨ ∃ x, pool.Reached (· ∈ visited) (· = f.name) x ∧ pool.Contains x n) := by
  obtain ⟨text, t, hentry, -, h⟩ := Render.entry_runs hp visited f
  exact ⟨text, _, hentry, fun n => entry_visits_iff (t := t) hf h n, fun n => entry_marks_iff (t := t) hf h n⟩

/-- The nested class of the sample is reached from its outermost class. -/
theorem entry_renders_reached_sample : ∃ f text s, Pool.sample.frame? "pkg/Outer" = some f ∧
    Render.entry Pool.sample f (Session.start .empty) = .ok (text, s) ∧ s.Visits "pkg/Outer$Companion$Key" := by
  obtain ⟨f, hf⟩ := Option.isSome_iff_exists.1 (show (Pool.sample.frame? "pkg/Outer").isSome by decide)
  obtain ⟨-, hname, -⟩ := Pool.frame?_eq_some hf
  obtain ⟨text, s, h, hvisits, -⟩ := entry_renders_reached Pool.sample_acyclic .empty (f := f) (hname ▸ hf)
  have hcontains : Pool.sample.Contains f.name "pkg/Outer$Companion$Key" := by
    rw [hname]
    exact ⟨f, hf, by cases hf; decide, by decide⟩
  exact ⟨f, text, s, hf, h, (hvisits _).2 (.contained (.root rfl) hcontains)⟩

end KotlinMetadata
