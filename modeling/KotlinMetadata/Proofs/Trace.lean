/-
What a rendering that succeeds notes on its way: a run of a derivable action
is its steps in order, with nothing noted between them (`Writes.follows`).

`artifactWithin_induction` is the induction over whole renderings: a
property of what an artifact's rendering notes holds if it follows for the
steps of an artifact from that for the artifacts they go to. `Later` is the
first use: sets and journals grow, and a scan notes no artifact that was
marked.
-/
import KotlinMetadata.Proofs.Writes.Artifact

namespace KotlinMetadata

/-- Whether an artifact was visited in a rendering. -/
def Session.Visits (s : Session) (name : String) : Prop := ∃ v ∈ s.journal, v.name = name

theorem Session.hasEmitted_iff {s : Session} {name : String} : s.hasEmitted name = true ↔ s.Visits name := by
  simp [Session.hasEmitted, Session.Visits]

/-- The same artifacts are marked and visited. -/
structure SameVisits (s s' : Session) : Prop where
  visited : s'.visited = s.visited
  journal : s'.journal = s.journal

theorem SameVisits.refl (s : Session) : SameVisits s s := ⟨rfl, rfl⟩

theorem SameVisits.trans {s s' s'' : Session} (h₁ : SameVisits s s') (h₂ : SameVisits s' s'') :
    SameVisits s s'' := ⟨h₂.visited.trans h₁.visited, h₂.journal.trans h₁.journal⟩

/-- From one state to another by some steps in order, with nothing noted between them. -/
inductive Follows (inside : Frame → Render Unit) : List Step → Session → Session → Prop
  | nil {s s'} : SameVisits s s' → Follows inside [] s s'
  | cons {st l s t t' s'} : SameVisits s t → st.take inside t = .ok ((), t') → Follows inside l t' s' →
      Follows inside (st :: l) s s'

namespace Follows

variable {inside : Frame → Render Unit} {l l₁ l₂ : List Step} {r s s' t : Session}

theorem of_same (hsame : SameVisits r s) (h : Follows inside l s s') : Follows inside l r s' := by
  cases h with
  | nil h => exact .nil (hsame.trans h)
  | cons h htake hrest => exact .cons (hsame.trans h) htake hrest

theorem append (h₁ : Follows inside l₁ s t) (h₂ : Follows inside l₂ t s') : Follows inside (l₁ ++ l₂) s s' := by
  induction h₁ with
  | nil h => exact h₂.of_same h
  | cons h htake _ ih => exact .cons h htake (ih h₂)

theorem to_same (h : Follows inside l s t) (hsame : SameVisits t s') : Follows inside l s s' := by
  have happend := h.append (.nil hsame)
  rwa [List.append_nil] at happend

end Follows

namespace Render

variable {α : Type}

theorem sameVisits_changeOut {f : Buffers → Except Fault Buffers} {s s' : Session} {u : Unit}
    (h : changeOut f s = .ok (u, s')) : SameVisits s s' := by
  unfold changeOut at h
  split at h
  · cases h
    exact ⟨rfl, rfl⟩
  · cases h

theorem sameVisits_closeBuffer {s s' : Session} {text : String} (h : closeBuffer s = .ok (text, s')) :
    SameVisits s s' := by
  unfold closeBuffer at h
  split at h
  · cases h
    exact ⟨rfl, rfl⟩
  · cases h

theorem sameVisits_current {s s' : Session} {f : Frame} (h : current s = .ok (f, s')) : SameVisits s s' := by
  unfold current at h
  split at h
  · cases h
    exact ⟨rfl, rfl⟩
  · cases h

theorem sameVisits_separate {brackets : List Char} {s s' : Session} {u : Unit}
    (h : separateUnlessAfter brackets s = .ok (u, s')) : SameVisits s s' := by
  obtain ⟨last, t, hlast, h⟩ := bind_eq_ok.1 h
  cases hlast
  split at h
  · cases h
    exact ⟨rfl, rfl⟩
  · exact sameVisits_changeOut h

theorem follows_capture {inside : Frame → Render Unit} {l : List Step} {m : Render Unit} {s s' : Session}
    {text : String} (hm : ∀ {t t'}, m t = .ok ((), t') → Follows inside l t t')
    (h : capture m s = .ok (text, s')) : Follows inside l s s' := by
  obtain ⟨_, t, hopen, h⟩ := bind_eq_ok.1 h
  obtain ⟨_, t', hrun, hclose⟩ := bind_eq_ok.1 h
  exact ((hm hrun).of_same (sameVisits_changeOut hopen)).to_same (sameVisits_closeBuffer hclose)

/-- A run of an action follows its steps. -/
theorem Writes.follows {inside : Frame → Render Unit} {b : Bool} {l : List Step} {m : Render α}
    (hm : Writes inside b l m) {s s' : Session} {a : α} (h : m s = .ok (a, s')) : Follows inside l s s' := by
  induction hm generalizing s s' with
  | pure a =>
    cases h
    exact .nil (.refl s)
  | bind _ _ ihm ihk =>
    obtain ⟨a, t, hm, hk⟩ := bind_eq_ok.1 h
    exact (ihm hm).append (ihk a hk)
  | write text => exact .nil (sameVisits_changeOut h)
  | writeIndented text => exact .nil (sameVisits_changeOut h)
  | readPlace g =>
    cases h
    exact .nil (.refl s)
  | current => exact .nil (sameVisits_current h)
  | typeParameterName id =>
    cases h
    exact .nil (.refl s)
  | declare p =>
    cases h
    exact .nil ⟨rfl, rfl⟩
  | separate brackets => exact .nil (sameVisits_separate h)
  | opened _ _ ih =>
    obtain ⟨_, t, hwrite, hrest⟩ := bind_eq_ok.1 h
    exact (ih hrest).of_same (sameVisits_changeOut hwrite)
  | capture _ ih => exact follows_capture ih h
  | redone _ _ ih₁ ih₂ =>
    refine follows_capture (fun hrun => ?_) h
    obtain ⟨_, t₁, hfirst, hrun⟩ := bind_eq_ok.1 hrun
    obtain ⟨_, t₂, hreset, hsecond⟩ := bind_eq_ok.1 hrun
    exact (ih₁ hfirst).append ((ih₂ hsecond).of_same (sameVisits_changeOut hreset))
  | indented _ ih =>
    obtain ⟨_, t, hindent, h⟩ := bind_eq_ok.1 h
    obtain ⟨a, t', hrun, h⟩ := bind_eq_ok.1 h
    obtain ⟨_, t'', houtdent, h⟩ := bind_eq_ok.1 h
    cases h
    exact ((ih hrun).of_same (sameVisits_changeOut hindent)).to_same (sameVisits_changeOut houtdent)
  | step st => exact .cons (.refl s) h (.nil (.refl s'))

/-- A rendering of an artifact follows the artifact's steps. -/
theorem content_follows {pool : Pool} {inside : Frame → Render Unit} {f : Frame} {s s' : Session}
    (h : content pool inside f s = .ok ((), s')) : Follows inside (f.steps pool) s s' := by
  obtain ⟨body, hcontent, hwrites⟩ := Writes.content pool inside f
  rw [hcontent] at h
  obtain ⟨_, t, henter, h⟩ := bind_eq_ok.1 h
  obtain ⟨_, t', hbody, hleave⟩ := bind_eq_ok.1 h
  cases henter
  have hsame : SameVisits t' s' := by
    unfold leave at hleave
    split at hleave
    · cases hleave
      exact ⟨rfl, rfl⟩
    · cases hleave
  have hinner : SameVisits s { s with scope := s.scope.enter f } := ⟨rfl, rfl⟩
  exact ((hwrites.follows hbody).to_same hsame).of_same hinner

/-- **Induction over renderings.** What holds of the rendering of an artifact if it holds of those
its steps go to, holds of every rendering. -/
theorem artifactWithin_induction {pool : Pool} {P : Frame → Session → Session → Prop}
    (step : ∀ (inside : Frame → Render Unit), (∀ g t t', inside g t = .ok ((), t') → P g t t') →
      ∀ f s s', Follows inside (f.steps pool) s s' → P f s s')
    (bound : Nat) {f : Frame} {s s' : Session} (h : artifactWithin pool bound f s = .ok ((), s')) :
    P f s s' := by
  induction bound generalizing f s s' with
  | zero => cases h
  | succ bound ih => exact step _ (fun _ _ _ h => ih h) f s s' (content_follows h)

end Render

/-! ## Growth -/

/-- A later state of a rendering: what was marked stays so, and of the new visits none is a scan for
an artifact that was marked. -/
structure Later (s s' : Session) : Prop where
  visited : ∀ n ∈ s.visited, n ∈ s'.visited
  journal : ∃ visits, s'.journal = visits ++ s.journal ∧
    ∀ v ∈ visits, v.route = .scanned → v.name ∉ s.visited

namespace Later

variable {inside : Frame → Render Unit} {s s' s'' : Session}

theorem of_same (h : SameVisits s s') : Later s s' :=
  ⟨fun n hn => by rw [h.visited]; exact hn, [], h.journal, by simp⟩

theorem trans (h₁ : Later s s') (h₂ : Later s' s'') : Later s s'' := by
  obtain ⟨visits₁, hj₁, hv₁⟩ := h₁.journal
  obtain ⟨visits₂, hj₂, hv₂⟩ := h₂.journal
  refine ⟨fun n hn => h₂.visited n (h₁.visited n hn), visits₂ ++ visits₁, ?_, fun v hv hroute hn => ?_⟩
  · rw [hj₂, hj₁, List.append_assoc]
  · rcases List.mem_append.1 hv with hv | hv
    · exact hv₂ v hv hroute (h₁.visited _ hn)
    · exact hv₁ v hv hroute hn

theorem suffix (h : Later s s') : s.journal <:+ s'.journal := by
  obtain ⟨visits, hj, -⟩ := h.journal
  exact ⟨visits, hj.symm⟩

theorem visits (h : Later s s') {n : String} (hn : s.Visits n) : s'.Visits n := by
  obtain ⟨v, hv, rfl⟩ := hn
  exact ⟨v, h.suffix.subset hv, rfl⟩

theorem marked_noted (s : Session) (name : String) : Later s ((s.marked name).noted name .contained) := by
  refine ⟨fun n hn => NameSet.mem_insert_iff.2 (.inr hn), [_], rfl, fun v hv hroute => ?_⟩
  rw [List.mem_singleton.1 hv] at hroute
  cases hroute

theorem noted {name : String} (h : name ∉ s.visited) : Later s (s.noted name .scanned) := by
  refine ⟨fun n hn => hn, [_], rfl, fun v hv _ => ?_⟩
  rw [List.mem_singleton.1 hv]
  exact h

theorem take (hinside : ∀ g t t', inside g t = .ok ((), t') → Later t t') {st : Step}
    (h : st.take inside s = .ok ((), s')) : Later s s' := by
  cases st with
  | contained g => exact (marked_noted s g.name).trans (hinside g _ _ h)
  | scanned g =>
    rw [Step.take_scanned] at h
    split at h
    · cases h
      exact of_same (.refl s)
    · next hdone =>
      have hnew : g.name ∉ s.visited := by
        intro hn
        exact hdone (Bool.or_eq_true_iff.2 (.inl (NameSet.contains_iff.2 hn)))
      exact (noted hnew).trans (hinside g _ _ h)

theorem follows (hinside : ∀ g t t', inside g t = .ok ((), t') → Later t t') {l : List Step}
    (h : Follows inside l s s') : Later s s' := by
  induction h with
  | nil hsame => exact of_same hsame
  | cons hsame htake _ ih => exact ((of_same hsame).trans (take hinside htake)).trans ih

/-- The state after a rendering is later than the one before. -/
theorem artifact {pool : Pool} {f : Frame} (h : Render.artifact pool f s = .ok ((), s')) : Later s s' :=
  Render.artifactWithin_induction (P := fun _ t t' => Later t t')
    (fun _ hinside _ _ _ hfollows => follows hinside hfollows) _ h

end Later

end KotlinMetadata
