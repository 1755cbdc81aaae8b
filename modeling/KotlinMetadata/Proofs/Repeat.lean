/-
Printing an artifact twice. The first printing marks what the rendered
artifacts contain, and the scans of the second leave these marks out. So
both render the same exactly if the first one has not scanned for an
artifact that another rendered artifact contains (`ScansApart`).

This can fail: the scan of a companion finds a class that is nested in the
class around the companion if its simple name starts with the companion's
and a `$`.

`Ignores` compares two runs of an action in lockstep: one from a state, the
other from the same state with more marks.
-/
import KotlinMetadata.Proofs.Batch

namespace KotlinMetadata

/-! ## More marks -/

namespace NameSet

/-- The members of two sets. -/
def union (s t : NameSet) : NameSet := t.names.foldl insert s

theorem mem_union {s t : NameSet} {n : String} : n ∈ s.union t ↔ n ∈ s ∨ n ∈ t := by
  have hfold : ∀ (names : List String) (s : NameSet), n ∈ names.foldl insert s ↔ n ∈ s ∨ n ∈ names := by
    intro names
    induction names with
    | nil => simp
    | cons m names ih =>
      intro s
      rw [List.foldl_cons, ih, mem_insert_iff, List.mem_cons, or_comm (a := n = m), or_assoc]
  exact hfold t.names s

theorem union_eq_right {s t : NameSet} (h : ∀ n ∈ s, n ∈ t) : s.union t = t :=
  ext_mem fun n => by rw [mem_union, or_iff_right_of_imp (h n)]

end NameSet

namespace Session

/-- The state with more artifacts marked. -/
def plus (s : Session) (more : NameSet) : Session := { s with visited := s.visited.union more }

/-- No scan has come to any of some artifacts. -/
def Spares (s : Session) (more : NameSet) : Prop := ∀ v ∈ s.journal, v.route = .scanned → v.name ∉ more

theorem marked_plus (s : Session) (more : NameSet) (name : String) :
    (s.marked name).plus more = (s.plus more).marked name := by
  have hvisited : (s.visited.insert name).union more = (s.visited.union more).insert name :=
    NameSet.ext_mem fun n => by simp only [NameSet.mem_union, NameSet.mem_insert_iff, or_assoc]
  unfold plus marked
  rw [hvisited]

theorem start_plus {visited more : NameSet} (h : ∀ n ∈ visited, n ∈ more) :
    (start visited).plus more = start more := by
  unfold plus start
  rw [NameSet.union_eq_right h]

theorem plus_visited (s : Session) : s.plus s.visited = s := by
  unfold plus
  rw [NameSet.union_eq_right fun _ hn => hn]

end Session

theorem Later.spares {s s' : Session} {more : NameSet} (h : Later s s') (hs : s'.Spares more) : s.Spares more :=
  fun v hv => hs v (h.suffix.subset hv)

/-! ## Runs in lockstep -/

namespace Render

variable {α β : Type} {more : NameSet} {inside : Frame → Render Unit}

/-- An action does the same when more artifacts are marked, unless it scans for one of them. -/
def Ignores (more : NameSet) (m : Render α) : Prop :=
  ∀ ⦃s s' a⦄, m s = .ok (a, s') → Later s s' ∧ (s'.Spares more → m (s.plus more) = .ok (a, s'.plus more))

namespace Ignores

/-- An action that neither reads nor changes the visits. -/
theorem of_same {m : Render α} (hsame : ∀ {s s' a}, m s = .ok (a, s') → SameVisits s s')
    (hplus : ∀ {s s' a}, m s = .ok (a, s') → m (s.plus more) = .ok (a, s'.plus more)) : Ignores more m :=
  fun _ _ _ h => ⟨.of_same (hsame h), fun _ => hplus h⟩

/-- An action that reads all but the marks. -/
theorem read {g : Session → α} (hg : ∀ s, g (s.plus more) = g s) : Ignores more fun s => .ok (g s, s) := by
  intro s s' a h
  cases h
  exact ⟨.of_same (.refl s), fun _ => by simp only [hg]⟩

theorem pure (a : α) : Ignores more (pure a : Render α) := read fun _ => rfl

theorem changeScope (f : Scope → Scope) : Ignores more fun s => .ok ((), { s with scope := f s.scope }) := by
  intro s s' _ h
  cases h
  exact ⟨.of_same ⟨rfl, rfl⟩, fun _ => rfl⟩

theorem bind {m : Render α} {k : α → Render β} (hm : Ignores more m) (hk : ∀ a, Ignores more (k a)) :
    Ignores more (m >>= k) := by
  intro s s' b h
  obtain ⟨a, t, hfirst, hrest⟩ := bind_eq_ok.1 h
  obtain ⟨hlater, hplus⟩ := hm hfirst
  obtain ⟨hlater', hplus'⟩ := hk a hrest
  refine ⟨hlater.trans hlater', fun hs => ?_⟩
  rw [bind_of_ok (hplus (hlater'.spares hs))]
  exact hplus' hs

theorem changeOut (f : Buffers → Except Fault Buffers) : Ignores more (changeOut f) := by
  refine of_same sameVisits_changeOut fun {s s' _} h => ?_
  unfold Render.changeOut at h ⊢
  split at h
  · next out hout =>
    cases h
    rw [show f (s.plus more).out = .ok out from hout]
    rfl
  · cases h

theorem closeBuffer : Ignores more closeBuffer := by
  refine of_same sameVisits_closeBuffer fun {s s' text} h => ?_
  unfold Render.closeBuffer at h ⊢
  split at h
  · next hout =>
    cases h
    rw [show (s.plus more).out.pop = .ok (text, _) from hout]
    rfl
  · cases h

theorem current : Ignores more current := by
  refine of_same sameVisits_current fun {s s' f} h => ?_
  unfold Render.current at h ⊢
  split at h
  · next hf =>
    cases h
    rw [show (s.plus more).scope.current = .ok f from hf]
  · cases h

theorem leave : Ignores more leave := by
  intro s s' _ h
  unfold Render.leave at h ⊢
  split at h
  · next f scope hscope =>
    cases h
    refine ⟨.of_same ⟨rfl, rfl⟩, fun _ => ?_⟩
    rw [show (s.plus more).scope.leave = .ok (f, scope) from hscope]
    rfl
  · cases h

theorem capture {m : Render Unit} (hm : Ignores more m) : Ignores more (capture m) := by
  refine .bind (.changeOut _) fun _ => ?_
  refine .bind hm fun _ => ?_
  exact closeBuffer

/-- A step to an artifact inside, if its rendering ignores the marks. -/
theorem take (hinside : ∀ g, Ignores more (inside g)) (st : Step) : Ignores more (st.take inside) := by
  intro s s' _ h
  refine ⟨.take (fun g _ _ h => (hinside g h).1) h, fun hs => ?_⟩
  cases st with
  | contained g =>
    rw [Step.take_contained] at h ⊢
    rw [← Session.marked_plus]
    exact (hinside g h).2 hs
  | scanned g =>
    rw [Step.take_scanned] at h ⊢
    split at h
    · next hdone =>
      cases h
      have hdone' : ((s.plus more).visited.contains g.name || (s.plus more).hasEmitted g.name) = true := by
        rw [Bool.or_eq_true_iff, NameSet.contains_iff] at hdone ⊢
        exact hdone.imp_left fun hn => NameSet.mem_union.2 (.inl hn)
      rw [if_pos hdone']
    · next hdone =>
      obtain ⟨hlater, hplus⟩ := hinside g h
      have hnew : g.name ∉ more := hlater.spares hs _ List.mem_cons_self rfl
      have hdone' : ¬ ((s.plus more).visited.contains g.name || (s.plus more).hasEmitted g.name) = true := by
        rw [Bool.or_eq_true_iff, NameSet.contains_iff] at hdone ⊢
        refine fun h => hdone (h.imp_left fun hn => ?_)
        exact (NameSet.mem_union.1 hn).resolve_right hnew
      rw [if_neg hdone']
      exact hplus hs

end Ignores

theorem Writes.ignores {b : Bool} {l : List Step} {m : Render α} (hm : Writes inside b l m)
    (hinside : ∀ g, Ignores more (inside g)) : Ignores more m := by
  induction hm with
  | pure a => exact .pure a
  | bind _ _ ihm ihk => exact .bind ihm ihk
  | write text => exact .changeOut _
  | writeIndented text => exact .changeOut _
  | readPlace g => exact .read fun _ => rfl
  | current => exact .current
  | typeParameterName id => exact .read fun _ => rfl
  | declare p => exact .changeScope fun scope => scope.declare p.id p.name
  | separate brackets =>
    refine .bind (.read fun _ => rfl) fun last => ?_
    split
    · exact .pure ()
    · exact .changeOut _
  | opened _ _ ih => exact .bind (.changeOut _) fun _ => ih
  | capture _ ih => exact .capture ih
  | redone _ _ ih₁ ih₂ =>
    refine .capture ?_
    refine .bind ih₁ fun _ => ?_
    refine .bind (.changeOut _) fun _ => ?_
    exact ih₂
  | indented _ ih =>
    refine .bind (.changeOut _) fun _ => ?_
    refine .bind ih fun a => ?_
    refine .bind (.changeOut _) fun _ => ?_
    exact .pure a
  | step st => exact .take hinside st

theorem artifactWithin_ignores (pool : Pool) (bound : Nat) (f : Frame) :
    Ignores more (artifactWithin pool bound f) := by
  induction bound generalizing f with
  | zero =>
    intro s s' _ h
    cases h
  | succ bound ih =>
    obtain ⟨body, hcontent, hwrites⟩ := Writes.content pool (artifactWithin pool bound) f
    rw [artifactWithin, hcontent]
    have henter : Ignores more (enter f) := .changeScope fun scope => scope.enter f
    refine .bind henter fun _ => ?_
    refine .bind (hwrites.ignores ih) fun _ => ?_
    exact .leave

/-! ## Entries -/

theorem entry_ignores (more : NameSet) (pool : Pool) (f : Frame) : Ignores more (entry pool f) := by
  have hrecord : Ignores more (record f.artifact.name .top) := by
    intro s s' _ h
    cases h
    refine ⟨⟨fun n hn => hn, [_], rfl, fun v hv hroute => ?_⟩, fun _ => rfl⟩
    rw [List.mem_singleton.1 hv] at hroute
    cases hroute
  refine .bind hrecord fun _ => ?_
  refine .bind (.capture (artifactWithin_ignores pool _ f)) fun text s s' _ h => ?_
  change (if s.isBalanced then Pure.pure text else throw _ : Render String) s = _ at h
  split at h
  · next hbalanced =>
    cases h
    refine ⟨.of_same (.refl s), fun _ => ?_⟩
    change (if s.isBalanced then Pure.pure text else throw _ : Render String) (s.plus more) = _
    rw [if_pos hbalanced]
    rfl
  · cases h

/-- An entry that has scanned for none of the artifacts marked in the end gives the same when it is
rendered again. -/
theorem entry_again {pool : Pool} {f : Frame} {visited : NameSet} {text : String} {s : Session}
    (h : entry pool f (Session.start visited) = .ok (text, s)) (hs : s.Spares s.visited) :
    entry pool f (Session.start s.visited) = .ok (text, s) := by
  obtain ⟨hlater, hplus⟩ := entry_ignores s.visited pool f h
  have hkeeps : ∀ n ∈ visited, n ∈ s.visited := hlater.visited
  have hagain := hplus hs
  rwa [Session.start_plus hkeeps, Session.plus_visited] at hagain

/-- An entry scans for none of the artifacts that were marked at its start. -/
theorem entry_spares {pool : Pool} {f : Frame} {visited : NameSet} {text : String} {s : Session}
    (h : entry pool f (Session.start visited) = .ok (text, s)) : s.Spares visited := by
  obtain ⟨hlater, -⟩ := entry_ignores visited pool f h
  obtain ⟨visits, hjournal, hscanned⟩ := hlater.journal
  intro v hv
  rw [hjournal, show (Session.start visited).journal = [] from rfl, List.append_nil] at hv
  exact hscanned v hv

end Render

/-! ## Printers -/

namespace Printer

variable {p p' : Printer} {a : Artifact} {text : Option String}

/-- No artifact that a printing comes to by a scan is contained in one that it renders. -/
def ScansApart (p : Printer) (a : Artifact) : Prop :=
  ∀ v ∈ p.visits a, v.route = .scanned → ∀ x ∈ p.visits a, ¬ p.pool.Contains x.name v.name

instance (p : Printer) (a : Artifact) : Decidable (p.ScansApart a) :=
  inferInstanceAs (Decidable (∀ v ∈ p.visits a, v.route = .scanned → ∀ x ∈ p.visits a,
    ¬ p.pool.Contains x.name v.name))

/-- Scans of a printing come to no artifact that was marked. -/
theorem visits_not_mem_visited (h : p.print a = .ok (text, p')) {v : Visit} (hv : v ∈ p.visits a)
    (hroute : v.route = .scanned) : v.name ∉ p.visited := by
  rcases print_cases h with ⟨-, hvisits, -⟩ | ⟨d, t, s, -, hentry, hvisits, -, -⟩
  · rw [hvisits] at hv
    cases hv
  · rw [hvisits] at hv
    exact Render.entry_spares hentry v hv hroute

/-- A printing is the same again, if no artifact it comes to by a scan is marked in the end. -/
theorem print_again (h : p.print a = .ok (text, p'))
    (hscans : ∀ v ∈ p.visits a, v.route = .scanned → v.name ∉ p'.visited) :
    p'.print a = .ok (text, p') ∧ p'.visits a = p.visits a := by
  rcases print_cases h with ⟨-, -, rfl⟩ | ⟨d, t, s, hsome, hentry, hvisits, rfl, rfl⟩
  · exact ⟨h, rfl⟩
  · have hsame : p.SameSetup { p with visited := s.visited } := ⟨rfl, rfl⟩
    rw [hvisits] at hscans
    have hagain := Render.entry_again hentry hscans
    have hsome' := (hsame.printable? a).trans hsome
    refine ⟨?_, ?_⟩
    · unfold print
      rw [hsome']
      simp only [hagain]
    · rw [hvisits]
      unfold visits
      rw [hsome']
      simp only [hagain]

/-- Whether a printing scans apart, told by the marks that it leaves. -/
theorem scansApart_iff (hp : p.pool.Acyclic) (ha : a ∈ p.pool.artifacts) (h : p.print a = .ok (text, p')) :
    p.ScansApart a ↔ ∀ v ∈ p.visits a, v.route = .scanned → v.name ∉ p'.visited := by
  obtain ⟨-, hvisits, hmarks⟩ := print_visits hp ha h
  refine forall₃_congr fun v hv hroute => ?_
  rw [hmarks v.name, or_iff_right (visits_not_mem_visited h hv hroute)]
  simp [← hvisits]

/-- A second printing of an artifact marks nothing new: it renders no more than the first. -/
theorem print_twice (hp : p.pool.Acyclic) (ha : a ∈ p.pool.artifacts) (h : p.print a = .ok (text, p')) :
    ∃ text', p'.print a = .ok (text', p') := by
  obtain ⟨hsame, -, hmarks⟩ := print_visits hp ha h
  have hp' : p'.pool.Acyclic := hsame.pool ▸ hp
  obtain ⟨text', q, h'⟩ := print_runs hp' a
  obtain ⟨hsame', -, hmarks'⟩ := print_visits hp' (hsame.pool ▸ ha) h'
  rw [hsame.prints, hsame.pool] at hmarks'
  have hvisited : q.visited = p'.visited := by
    refine NameSet.ext_mem fun n => ⟨fun hn => ?_, fun hn => (hmarks' n).2 (.inl hn)⟩
    rcases (hmarks' n).1 hn with hn | ⟨x, hx, hcontains⟩
    · exact hn
    · have hx' := hx.mono (fun m hm => (hmarks m).2 (.inl hm)) fun _ => id
      exact (hmarks n).2 (.inr ⟨x, hx', hcontains⟩)
  obtain rfl : q = p' := hsame'.eq_of_visited hvisited
  exact ⟨text', h'⟩

end Printer

/-- **When a printing is repeatable.** Printing an artifact twice leaves the printer as the first
printing has left it. The second one makes the same visits exactly if the first has come by scans to
no artifact that one of those it rendered contains, and then it gives the same result. -/
theorem printing_repeats_iff {p : Printer} (hp : p.pool.Acyclic) {a : Artifact} (ha : a ∈ p.pool.artifacts) :
    ∃ text text' p', p.print a = .ok (text, p') ∧ p'.print a = .ok (text', p') ∧
      (p'.visits a = p.visits a ↔ p.ScansApart a) ∧ (p.ScansApart a → text' = text) := by
  obtain ⟨text, p', h⟩ := p.print_runs hp a
  obtain ⟨text', h'⟩ := Printer.print_twice hp ha h
  have hiff := Printer.scansApart_iff hp ha h
  refine ⟨text, text', p', h, h', ⟨fun heq => ?_, fun hapart => ?_⟩, fun hapart => ?_⟩
  · refine hiff.2 fun v hv => ?_
    rw [← heq] at hv
    exact Printer.visits_not_mem_visited h' hv
  · exact (Printer.print_again h (hiff.1 hapart)).2
  · cases h'.symm.trans (Printer.print_again h (hiff.1 hapart)).1
    rfl

/-- The companion of the sample scans for the nested class, which it does not contain. -/
theorem printing_repeats_sample : ∃ text p',
    ({ pool := .sample } : Printer).print Pool.sampleCompanion = .ok (text, p') ∧
    p'.print Pool.sampleCompanion = .ok (text, p') := by
  obtain ⟨text, text', p', h, h', -, hsame⟩ := printing_repeats_iff (p := { pool := .sample }) Pool.sample_acyclic
    (a := Pool.sampleCompanion) (List.mem_cons_of_mem _ List.mem_cons_self)
  cases hsame (by decide +kernel)
  exact ⟨text, p', h, h'⟩

/-- A printing need not be repeatable, not even for a new printer. In the sample the first printing of
the outermost class comes to the nested class by the scan of the companion, and then once more as it
is nested; the second printing leaves it out of the companion. -/
theorem printing_not_repeatable : ¬ ∀ (pool : Pool) (a : Artifact), pool.Acyclic → a ∈ pool.artifacts →
    ∃ text p' p'', ({ pool } : Printer).print a = .ok (text, p') ∧ p'.print a = .ok (text, p'') := by
  intro hrepeat
  obtain ⟨text, p', p'', h, h'⟩ := hrepeat .sample Pool.sampleOuter Pool.sample_acyclic List.mem_cons_self
  have hdiffer : (match ({ pool := .sample } : Printer).print Pool.sampleOuter with
      | .ok (text, p') => (match p'.print Pool.sampleOuter with
        | .ok (text', _) => decide (text' = text)
        | .error _ => true)
      | .error _ => true) = false := by decide +kernel
  simp [h, h'] at hdiffer

end KotlinMetadata
