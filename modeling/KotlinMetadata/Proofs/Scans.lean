/-
A scan comes to new artifacts only. Containment asks nothing: an artifact is
rendered again wherever one around it names it. A scan renders an artifact if
it is neither marked nor visited so far, so in the journal of an entry a visit
by a scan is the first one of its artifact.

`ScansFirst` says so of a journal. One step keeps it (`ScansFirst.take`),
hence so does a whole rendering (`ScansFirst.artifact`); how often an artifact
can be rendered is counted off the journal alone.
-/
import KotlinMetadata.Proofs.Blocks

namespace KotlinMetadata

variable {pool : Pool} {inside : Frame → Render Unit} {s s' : Session}

/-! ## Journals -/

/-- Every visit with an earlier one is by containment, or by a scan that finds an artifact not visited
before. The latest visit comes first. -/
def ScansFirst (journal : List Visit) : Prop :=
  journal.Pairwise fun v earlier => v.route = .contained ∨ v.route = .scanned ∧ earlier.name ≠ v.name

/-- A scan that renders an artifact found it neither marked nor visited. -/
theorem Step.new_of_not_isSpared {st : Step} (h : st.isSpared s = false) (hroute : st.route = .scanned) :
    st.frame.name ∉ s.visited ∧ ∀ v ∈ s.journal, v.name ≠ st.frame.name := by
  cases st with
  | contained f => cases hroute
  | scanned f =>
    obtain ⟨hmarked, hemitted⟩ := Bool.or_eq_false_iff.1 h
    refine ⟨fun hmem => ?_, fun v hv hname => ?_⟩
    · have hcontains : s.visited.contains f.name = true := NameSet.contains_iff.2 hmem
      simp [hcontains] at hmarked
    · have hvisits : s.hasEmitted f.name = true := Session.hasEmitted_iff.2 ⟨v, hv, hname⟩
      simp [hvisits] at hemitted

theorem Step.route_cases (st : Step) : st.route = .contained ∨ st.route = .scanned := by
  cases st with
  | contained f => exact .inl rfl
  | scanned f => exact .inr rfl

namespace ScansFirst

variable {journal : List Visit}

theorem entered {st : Step} (h : st.isSpared s = false) (hs : ScansFirst s.journal) :
    ScansFirst (st.entered s).journal := by
  rw [st.entered_journal s s ""]
  refine List.pairwise_cons.2 ⟨fun v hv => ?_, hs⟩
  rcases st.route_cases with hroute | hroute
  · exact .inl hroute
  · exact .inr ⟨hroute, (Step.new_of_not_isSpared h hroute).2 v hv⟩

theorem take (hinside : ∀ g t t', inside g t = .ok ((), t') → ScansFirst t.journal → ScansFirst t'.journal)
    {st : Step} (h : st.take inside s = .ok ((), s')) (hs : ScansFirst s.journal) : ScansFirst s'.journal := by
  rw [Step.take_eq] at h
  split at h
  · cases h
    exact hs
  · next hspared => exact hinside _ _ _ h (hs.entered (Bool.eq_false_iff.2 hspared))

theorem follows (hinside : ∀ g t t', inside g t = .ok ((), t') → ScansFirst t.journal → ScansFirst t'.journal)
    {l : List Step} (h : Follows inside l s s') (hs : ScansFirst s.journal) : ScansFirst s'.journal := by
  induction h with
  | nil hsame =>
    rw [hsame.journal]
    exact hs
  | cons hsame htake _ ih =>
    rw [← hsame.journal] at hs
    exact ih (take hinside htake hs)

/-- A rendering keeps the journal so. -/
theorem artifact {f : Frame} (h : Render.artifact pool f s = .ok ((), s')) (hs : ScansFirst s.journal) :
    ScansFirst s'.journal :=
  Render.artifactWithin_induction (P := fun _ t t' => ScansFirst t.journal → ScansFirst t'.journal)
    (fun _ hinside _ _ _ hfollows => follows hinside hfollows) _ h hs

/-! ## Counting -/

end ScansFirst

namespace Session

end Session

/-! ## Blocks -/

/-- The journal of an entry. -/
theorem ScansFirst.entry (hp : pool.Acyclic) {visited : NameSet} {f : Frame} {text : String}
    (h : Render.entry pool f (Session.start visited) = .ok (text, s)) : ScansFirst s.journal := by
  obtain ⟨_, t, hentry, -, hrun⟩ := Render.entry_runs hp visited f
  cases h.symm.trans hentry
  have hend : ScansFirst t.journal := .artifact hrun (List.pairwise_singleton _ _)
  exact hend

end KotlinMetadata
