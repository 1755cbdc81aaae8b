/-
What the entries of a batch render together. An entry leaves out of its
scans what earlier entries have marked, so its own text depends on what came
before it. The batch as a whole does not: a marked artifact has been
rendered, so nothing is lost by leaving it out (`Reached.or_iff`).

`Printed` is the invariant: the marks of the printer are what the artifacts
rendered so far contain. One printing moves it on by the printed artifact
(`print_printed`), a batch by all of them (`printEach_printed`).
-/
import KotlinMetadata.Printer
import KotlinMetadata.Proofs.Visits

namespace KotlinMetadata

/-! ## Closures -/

namespace Pool.Reached

variable {pool : Pool} {hidden hidden' roots roots' done : String → Prop} {n : String}

theorem mono (hhidden : ∀ n, hidden' n → hidden n) (hroots : ∀ n, roots n → roots' n)
    (h : pool.Reached hidden roots n) : pool.Reached hidden' roots' n := by
  induction h with
  | root h => exact .root (hroots _ h)
  | contained _ h ih => exact .contained ih h
  | scanned _ h hnew ih => exact .scanned ih h fun hy => hnew (hhidden _ hy)

theorem not_of_no_roots (hroots : ∀ n, ¬ roots n) : ¬ pool.Reached hidden roots n := by
  intro h
  induction h with
  | root h => exact hroots _ h
  | contained _ _ ih => exact ih
  | scanned _ _ _ ih => exact ih

/-- What was reached before may be hidden from later scans: nothing is lost. -/
theorem or_iff (hidden_reached : ∀ n, hidden n → pool.Reached (fun _ => False) done n) :
    pool.Reached (fun _ => False) (fun n => done n ∨ roots n) n ↔
      pool.Reached (fun _ => False) done n ∨ pool.Reached hidden roots n := by
  constructor
  · intro h
    induction h with
    | root h => exact h.imp .root .root
    | contained _ h ih => exact ih.imp (.contained · h) (.contained · h)
    | @scanned x y _ h _ ih =>
      rcases ih with ih | ih
      · exact .inl (.scanned ih h id)
      · by_cases hy : hidden y
        · exact .inl (hidden_reached y hy)
        · exact .inr (.scanned ih h hy)
  · rintro (h | h)
    · exact h.mono (fun _ => id) fun _ => .inl
    · exact h.mono (fun _ => False.elim) fun _ => .inr

end Pool.Reached

/-! ## One printing -/

namespace Printer

variable {p p' : Printer} {a : Artifact} {text : Option String} {done : String → Prop}

/-- The visits that are made when an artifact is printed, the latest first. -/
def visits (p : Printer) (a : Artifact) : List Visit :=
  match p.printable? a with
  | none => []
  | some metadata =>
    match Render.entry p.pool ⟨a, metadata⟩ (Session.start p.visited) with
    | .error _ => []
    | .ok (_, s) => s.journal

/-- The names of the artifacts that are rendered when some are printed one after the other. -/
def rendered (p : Printer) : List Artifact → List String
  | [] => []
  | a :: rest =>
    (p.visits a).map (·.name) ++
      match p.print a with
      | .error _ => []
      | .ok (_, p) => p.rendered rest

/-- The names of those artifacts among some that are printed as entries of their own. -/
def Prints (p : Printer) (as : List Artifact) (n : String) : Prop :=
  ∃ a ∈ as, (p.printable? a).isSome ∧ a.name = n

/-- A printer after another one has printed: only the marks have changed. -/
structure SameSetup (p p' : Printer) : Prop where
  pool : p'.pool = p.pool
  excludeEmbedded : p'.excludeEmbedded = p.excludeEmbedded

/-- The printer has marked exactly what the artifacts reached from those printed so far contain. -/
def Printed (p : Printer) (done : String → Prop) : Prop :=
  ∀ n, n ∈ p.visited ↔ ∃ x, p.pool.Reached (fun _ => False) done x ∧ p.pool.Contains x n

/-- A marked artifact has been rendered. -/
theorem Printed.reached (h : p.Printed done) {n : String} (hn : n ∈ p.visited) :
    p.pool.Reached (fun _ => False) done n := by
  obtain ⟨x, hx, hcontains⟩ := (h n).1 hn
  exact .contained hx hcontains

/-- The entry behind a printing. -/
theorem print_cases (h : p.print a = .ok (text, p')) :
    (p.printable? a = none ∧ p.visits a = [] ∧ p' = p) ∨
    ∃ d t s, p.printable? a = some d ∧ Render.entry p.pool ⟨a, d⟩ (Session.start p.visited) = .ok (t, s) ∧
      p.visits a = s.journal ∧ text = (if t.isEmpty then none else some t) ∧
      p' = { p with visited := s.visited } := by
  unfold print at h
  split at h
  · next hnone =>
    cases h
    exact .inl ⟨hnone, by simp [visits, hnone], rfl⟩
  · next d hsome =>
    split at h
    · cases h
    · next t s hentry =>
      cases h
      exact .inr ⟨d, t, s, hsome, hentry, by simp [visits, hsome, hentry], rfl, rfl⟩

/-- What one printing renders and marks, whatever was marked before. -/
theorem print_visits (hp : p.pool.Acyclic) (ha : a ∈ p.pool.artifacts) (h : p.print a = .ok (text, p')) :
    p.SameSetup p' ∧ (∀ n, n ∈ (p.visits a).map (·.name) ↔ p.pool.Reached (· ∈ p.visited) (p.Prints [a]) n) ∧
      ∀ n, n ∈ p'.visited ↔
        n ∈ p.visited ∨ ∃ x, p.pool.Reached (· ∈ p.visited) (p.Prints [a]) x ∧ p.pool.Contains x n := by
  rcases print_cases h with ⟨hnone, hvisits, rfl⟩ | ⟨d, t, s, hsome, hentry, hvisits, -, rfl⟩
  · have hroots : ∀ n, ¬ p'.Prints [a] n := fun n => by simp [Prints, hnone]
    have hreached : ∀ n, ¬ p'.pool.Reached (· ∈ p'.visited) (p'.Prints [a]) n :=
      fun n => Pool.Reached.not_of_no_roots hroots
    exact ⟨⟨rfl, rfl⟩, by simp [hvisits, hreached], by simp [hreached]⟩
  · have hroots : p.Prints [a] = (· = a.name) := by
      funext n
      simp only [Prints, List.mem_singleton, exists_eq_left, hsome, Option.isSome_some, true_and]
      exact propext eq_comm
    have hframe : p.pool.frame? a.name = some ⟨a, d⟩ := by
      refine Pool.frame?_of_mem ha ?_
      rw [Artifact.frame?, (Option.filter_eq_some_iff.1 hsome).1]
      rfl
    obtain ⟨_, r, hentry', -, hr⟩ := Render.entry_runs hp p.visited ⟨a, d⟩
    cases hentry.symm.trans hentry'
    rw [hroots]
    refine ⟨⟨rfl, rfl⟩, fun n => ?_, fun n => entry_marks_iff (t := r) hframe hr n⟩
    refine Iff.trans ?_ (entry_visits_iff (t := r) hframe hr n)
    simp [hvisits, Session.Visits]

theorem SameSetup.printable? (h : p.SameSetup p') (a : Artifact) : p'.printable? a = p.printable? a := by
  unfold Printer.printable?
  rw [h.excludeEmbedded]

theorem SameSetup.prints (h : p.SameSetup p') (as : List Artifact) : p'.Prints as = p.Prints as := by
  unfold Prints
  simp only [h.printable?]

theorem SameSetup.trans {p'' : Printer} (h₁ : p.SameSetup p') (h₂ : p'.SameSetup p'') : p.SameSetup p'' :=
  ⟨h₂.pool.trans h₁.pool, h₂.excludeEmbedded.trans h₁.excludeEmbedded⟩

theorem SameSetup.symm (h : p.SameSetup p') : p'.SameSetup p := ⟨h.pool.symm, h.excludeEmbedded.symm⟩

theorem SameSetup.eq_of_visited (h : p.SameSetup p') (hvisited : p'.visited = p.visited) : p' = p := by
  cases p
  cases p'
  cases h.pool
  cases h.excludeEmbedded
  cases hvisited
  rfl

theorem prints_cons (a : Artifact) (as : List Artifact) (n : String) :
    p.Prints (a :: as) n ↔ p.Prints [a] n ∨ p.Prints as n := by
  simp [Prints]

/-- A printing keeps the invariant, with its own artifact among those printed. -/
theorem print_printed (hp : p.pool.Acyclic) (ha : a ∈ p.pool.artifacts) (hdone : p.Printed done)
    (h : p.print a = .ok (text, p')) :
    p.SameSetup p' ∧ p'.Printed (fun n => done n ∨ p.Prints [a] n) ∧
      ∀ n, p.pool.Reached (fun _ => False) (fun n => done n ∨ p.Prints [a] n) n ↔
        p.pool.Reached (fun _ => False) done n ∨ n ∈ (p.visits a).map (·.name) := by
  obtain ⟨hsame, hvisits, hmarks⟩ := print_visits hp ha h
  have hreached : ∀ n, p.pool.Reached (fun _ => False) (fun n => done n ∨ p.Prints [a] n) n ↔
      p.pool.Reached (fun _ => False) done n ∨ p.pool.Reached (· ∈ p.visited) (p.Prints [a]) n :=
    fun n => Pool.Reached.or_iff fun _ => hdone.reached
  refine ⟨hsame, fun n => ?_, fun n => ?_⟩
  · rw [hsame.pool, hmarks n, hdone n]
    simp only [hreached, or_and_right, exists_or]
  · rw [hvisits n]
    exact hreached n

/-! ## Batches -/

/-- A batch keeps the invariant, with all that it prints among the printed artifacts. -/
theorem printEach_printed (hp : p.pool.Acyclic) {as : List Artifact} (has : ∀ a ∈ as, a ∈ p.pool.artifacts)
    (hdone : p.Printed done) :
    ∃ texts p', p.printEach as = .ok (texts, p') ∧ p.SameSetup p' ∧ p'.Printed (fun n => done n ∨ p.Prints as n) ∧
      ∀ n, p.pool.Reached (fun _ => False) (fun n => done n ∨ p.Prints as n) n ↔
        p.pool.Reached (fun _ => False) done n ∨ n ∈ p.rendered as := by
  induction as generalizing p done with
  | nil => exact ⟨[], p, rfl, ⟨rfl, rfl⟩, by simpa [Prints] using hdone, by simp [Prints, rendered]⟩
  | cons a as ih =>
    obtain ⟨text, q, hprint⟩ := print_runs hp a
    obtain ⟨hsame, hq, hreached⟩ := print_printed hp (has a List.mem_cons_self) hdone hprint
    obtain ⟨texts, p', heach, hsame', hp', hreached'⟩ := ih (hsame.pool ▸ hp)
      (fun b hb => hsame.pool ▸ has b (List.mem_cons_of_mem _ hb)) hq
    have hroots : (fun n => (done n ∨ p.Prints [a] n) ∨ q.Prints as n) = fun n => done n ∨ p.Prints (a :: as) n := by
      funext n
      rw [hsame.prints, prints_cons a as, or_assoc]
    rw [hroots] at hp' hreached'
    refine ⟨(a, text) :: texts, p', by simp [printEach, hprint, heach], hsame.trans hsame', hp', fun n => ?_⟩
    have hnext := hreached' n
    rw [hsame.pool, hreached n] at hnext
    rw [hnext, or_assoc]
    simp [rendered, hprint]

/-- A new printer has printed nothing. -/
theorem printed_of_fresh (hfresh : p.visited = .empty) : p.Printed (fun _ => False) := by
  intro n
  rw [hfresh]
  constructor
  · intro hn
    cases hn
  · rintro ⟨x, hx, -⟩
    exact (Pool.Reached.not_of_no_roots (fun _ => id) hx).elim

/-- A batch of a new printer renders what is reached from the artifacts it prints. -/
theorem printEach_fresh (hp : p.pool.Acyclic) (hfresh : p.visited = .empty) {as : List Artifact}
    (has : ∀ a ∈ as, a ∈ p.pool.artifacts) :
    ∃ texts p', p.printEach as = .ok (texts, p') ∧ p.SameSetup p' ∧ p'.Printed (p.Prints as) ∧
      ∀ n, n ∈ p.rendered as ↔ p.pool.Reached (fun _ => False) (p.Prints as) n := by
  obtain ⟨texts, p', heach, hsame, hp', hrendered⟩ := printEach_printed hp has (printed_of_fresh hfresh)
  simp only [false_or] at hp' hrendered
  refine ⟨texts, p', heach, hsame, hp', fun n => ?_⟩
  rw [hrendered n, or_iff_right (Pool.Reached.not_of_no_roots fun _ => id)]

end Printer

/-- **The order of a batch does not matter.** A new printer that prints artifacts of its pool, in any
order and with any repetitions, renders the artifacts reached from those among them that are printed
as entries, and marks what these contain; in particular it marks only what it has rendered. Another
sequence with the same entries renders the same artifacts and leaves the same printer. -/
theorem batch_renders_reached {p : Printer} (hp : p.pool.Acyclic) (hfresh : p.visited = .empty)
    (as : List Artifact) (has : ∀ a ∈ as, a ∈ p.pool.artifacts) :
    ∃ texts p', p.printEach as = .ok (texts, p') ∧
      (∀ n, n ∈ p.rendered as ↔ p.pool.Reached (fun _ => False) (p.Prints as) n) ∧
      (∀ n, n ∈ p'.visited ↔
        ∃ x, p.pool.Reached (fun _ => False) (p.Prints as) x ∧ p.pool.Contains x n) ∧
      (∀ n ∈ p'.visited, n ∈ p.rendered as) ∧
      ∀ bs : List Artifact, (∀ b ∈ bs, b ∈ p.pool.artifacts) → (∀ n, p.Prints bs n ↔ p.Prints as n) →
        ∃ texts', p.printEach bs = .ok (texts', p') ∧ ∀ n, n ∈ p.rendered bs ↔ n ∈ p.rendered as := by
  obtain ⟨texts, p', heach, hsame, hp', hrendered⟩ := Printer.printEach_fresh hp hfresh has
  refine ⟨texts, p', heach, hrendered, ?_, fun n hn => ?_, fun bs hbs hprints => ?_⟩
  · intro n
    rw [← hsame.pool]
    exact hp' n
  · rw [hrendered n, ← hsame.pool]
    exact hp'.reached hn
  · obtain ⟨texts', q, heach', hsame', hq, hrendered'⟩ := Printer.printEach_fresh hp hfresh hbs
    have hroots : p.Prints bs = p.Prints as := funext fun n => propext (hprints n)
    rw [hroots] at hq hrendered'
    have hvisited : q.visited = p'.visited := NameSet.ext_mem fun n => by
      rw [hq n, hp' n, hsame'.pool, hsame.pool]
    obtain rfl : q = p' := (hsame.symm.trans hsame').eq_of_visited hvisited
    exact ⟨texts', heach', fun n => by rw [hrendered' n, hrendered n]⟩

/-- The artifacts of the sample, printed in both orders. -/
theorem batch_renders_reached_sample : ∃ texts texts' p',
    ({ pool := .sample } : Printer).printEach Pool.sampleArtifacts = .ok (texts, p') ∧
    ({ pool := .sample } : Printer).printEach Pool.sampleArtifacts.reverse = .ok (texts', p') := by
  obtain ⟨texts, p', h, -, -, -, hreverse⟩ :=
    batch_renders_reached (p := { pool := .sample }) Pool.sample_acyclic rfl Pool.sampleArtifacts fun a ha => ha
  obtain ⟨texts', h', -⟩ := hreverse Pool.sampleArtifacts.reverse (fun b hb => List.mem_reverse.1 hb)
    fun n => by simp only [Printer.Prints, List.mem_reverse]
  exact ⟨texts, texts', p', h, h'⟩

end KotlinMetadata
