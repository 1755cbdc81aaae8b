/-
Who gets printed. A printer answers with no text if the artifact has no
metadata, if it is of a kind that is left out, or if nothing was written. The
last never happens: whatever was printed before, an entry begins with the
header of its artifact (`Render.entry_opens`), so the answer depends on the
artifact and the options alone.

`Answers` is what one printing gives (`print_answers`), a batch gives it for
each of its artifacts (`printEach_answers`).
-/
import KotlinMetadata.Proofs.Batch
import KotlinMetadata.Proofs.Blocks

namespace KotlinMetadata

variable {pool : Pool}

/-! ## The header of an entry -/

/-- What the text of an entry begins with: the package in external form and an empty line, unless the
package is the default one, and four lines with the kind, the version and the external name. -/
def Frame.opening (f : Frame) : String :=
  (if Name.package f.artifact.name = "" then ""
    else "package " ++ Name.toExternal (Name.package f.artifact.name) ++ "\n\n") ++
  "/**\n" ++
  "* Kotlin " ++ f.metadata.content.words ++ " (metadata version " ++ f.metadata.version.text ++ ").\n" ++
  "* From Java class: " ++ f.artifact.externalName ++ "\n" ++
  "*/\n"

theorem lineAt_zero (text : String) : lineAt 0 text = text ++ "\n" := by
  have hnone : Buffers.indentation 0 = "" := rfl
  rw [lineAt, hnone, String.empty_append]

/-- The opening is the header outside every other artifact. -/
theorem Frame.opening_eq (f : Frame) (name : String) (route : Route) : f.header ⟨name, route, 0, []⟩ = f.opening := by
  unfold header topHeader opening
  simp only [lineAt_zero, if_true, String.isEmpty_iff]
  rw [← String.toList_inj]
  by_cases hpackage : Name.package f.artifact.name = ""
  · simp [hpackage]
  · simp [hpackage]

/-- An entry begins with the opening, whatever was marked before. -/
theorem Render.entry_opens (hp : pool.Acyclic) {visited : NameSet} {f : Frame} {text : String} {s : Session}
    (h : entry pool f (Session.start visited) = .ok (text, s)) : ∃ rest, text = f.opening ++ rest := by
  obtain ⟨_, _, block, hentry, hstands, hframe, htext, hvisits⟩ := exists_entry_block hp visited f
  cases h.symm.trans hentry
  obtain ⟨rest, hrest, -⟩ := (hstands block block.self_mem_all).text
  rw [visit_of_entry_block hp hentry hvisits, Frame.opening_eq, hframe, htext] at hrest
  exact ⟨rest, hrest⟩

theorem Frame.opening_ne_empty (f : Frame) : f.opening ≠ "" := by
  rw [← f.opening_eq f.name .top]
  exact f.header_ne_empty _

/-! ## Answers -/

namespace Printer

variable {p p' : Printer} {a : Artifact}

/-- An artifact that is not printed as an entry of its own: it has no metadata, or it is a synthetic
class or a multi-file part and these are left out. -/
def LeavesOut (p : Printer) (a : Artifact) : Prop :=
  a.metadata = none ∨ p.excludeEmbedded = true ∧
    ∃ d, a.metadata = some d ∧ (d.kind = .synthetic ∨ d.kind = .multiFilePart)

theorem isEmbedded_iff (kind : ContentKind) : kind.isEmbedded = true ↔ kind = .synthetic ∨ kind = .multiFilePart := by
  cases kind <;> simp [ContentKind.isEmbedded]

theorem printable?_eq_none_iff : p.printable? a = none ↔ p.LeavesOut a := by
  unfold printable? LeavesOut
  cases a.metadata with
  | none => simp
  | some d => simp [Option.filter_eq_none_iff, isEmbedded_iff]

/-- The answer to an artifact: no text exactly if the artifact is left out, and else one that begins with
its opening. -/
structure Answers (p : Printer) (a : Artifact) (answer : Option String) : Prop where
  none_iff : answer = none ↔ p.LeavesOut a
  opens : ∀ text, answer = some text → ∃ d rest, a.metadata = some d ∧ text = (Frame.mk a d).opening ++ rest

theorem print_answers (hp : p.pool.Acyclic) (a : Artifact) :
    ∃ answer p', p.print a = .ok (answer, p') ∧ p.SameSetup p' ∧ p.Answers a answer := by
  obtain ⟨answer, p', hprint⟩ := print_runs hp a
  refine ⟨answer, p', hprint, ?_⟩
  rcases print_cases hprint with ⟨hnone, -, rfl⟩ | ⟨d, text, s, hsome, hentry, -, rfl, rfl⟩
  · have hanswer : answer = none := by
      simp only [print, hnone, Except.ok.injEq, Prod.mk.injEq] at hprint
      exact hprint.1.symm
    subst hanswer
    exact ⟨⟨rfl, rfl⟩, ⟨by simp [printable?_eq_none_iff.1 hnone], by simp⟩⟩
  · obtain ⟨rest, rfl⟩ := Render.entry_opens hp hentry
    have hwritten : ((Frame.mk a d).opening ++ rest).isEmpty = false := by simp [Frame.opening_ne_empty]
    have hprinted : ¬ p.LeavesOut a := by
      rw [← printable?_eq_none_iff, hsome]
      simp
    rw [hwritten]
    refine ⟨⟨rfl, rfl⟩, ⟨by simp [hprinted], fun text htext => ⟨d, rest, ?_, (Option.some.inj htext).symm⟩⟩⟩
    exact (Option.filter_eq_some_iff.1 hsome).1

theorem SameSetup.answers {answer : Option String} (h : p.SameSetup p') (hp' : p'.Answers a answer) :
    p.Answers a answer := by
  refine ⟨?_, hp'.opens⟩
  rw [hp'.none_iff, ← printable?_eq_none_iff, h.printable?, printable?_eq_none_iff]

/-- A batch answers to each of its artifacts, in their order. -/
theorem printEach_answers (hp : p.pool.Acyclic) (as : List Artifact) :
    ∃ answers p', p.printEach as = .ok (answers, p') ∧ answers.map (·.1) = as ∧
      ∀ x ∈ answers, p.Answers x.1 x.2 := by
  induction as generalizing p with
  | nil => exact ⟨[], p, rfl, rfl, by simp⟩
  | cons a as ih =>
    obtain ⟨answer, q, hprint, hsame, hanswer⟩ := print_answers hp a
    obtain ⟨answers, p', heach, hmap, hall⟩ := ih (hsame.pool ▸ hp)
    refine ⟨(a, answer) :: answers, p', by simp [printEach, hprint, heach], by simp [hmap], fun x hx => ?_⟩
    rcases List.mem_cons.1 hx with rfl | hx
    · exact hanswer
    · exact hsame.answers (hall x hx)

/-! ## All artifacts -/

/-- The artifacts that are answered with a text, with it. -/
def listed (answers : List (Artifact × Option String)) : List (Artifact × String) :=
  answers.filterMap fun (a, text) => text.map (a, ·)

variable {answers : List (Artifact × Option String)}

theorem printAll_eq_listed (h : p.printEach p.pool.artifacts = .ok (answers, p')) :
    p.printAll = .ok (listed answers, p') := by
  rw [printAll, h]
  rfl

theorem mem_listed {a : Artifact} {text : String} : (a, text) ∈ listed answers ↔ (a, some text) ∈ answers := by
  simp only [listed, List.mem_filterMap, Option.map_eq_some_iff, Prod.mk.injEq]
  constructor
  · rintro ⟨⟨_, _⟩, hx, _, rfl, rfl, rfl⟩
    exact hx
  · intro hx
    exact ⟨_, hx, text, rfl, rfl, rfl⟩

/-- Listed are those that are not left out. -/
theorem mem_map_listed (h : ∀ x ∈ answers, p.Answers x.1 x.2) {a : Artifact} :
    a ∈ (listed answers).map (·.1) ↔ a ∈ answers.map (·.1) ∧ ¬ p.LeavesOut a := by
  rw [List.mem_map, List.mem_map]
  constructor
  · rintro ⟨⟨b, text⟩, hb, rfl⟩
    have hanswer := mem_listed.1 hb
    refine ⟨⟨_, hanswer, rfl⟩, fun hout => ?_⟩
    cases (h _ hanswer).none_iff.2 hout
  · rintro ⟨⟨⟨b, answer⟩, hb, rfl⟩, hout⟩
    cases answer with
    | none => exact absurd ((h _ hb).none_iff.1 rfl) hout
    | some text => exact ⟨_, mem_listed.2 hb, rfl⟩

/-- What is listed keeps its order. -/
theorem pairwise_listed (h : (answers.map (·.1.name)).Pairwise (· < ·)) :
    ((listed answers).map (·.1.name)).Pairwise (· < ·) := by
  rw [List.pairwise_map] at h ⊢
  refine h.filterMap _ fun x y hxy u hu v hv => ?_
  obtain ⟨_, -, rfl⟩ := Option.map_eq_some_iff.1 hu
  obtain ⟨_, -, rfl⟩ := Option.map_eq_some_iff.1 hv
  exact hxy

end Printer

/-- **Who gets printed.** A printer of a pool without a containment cycle, with any options and whatever
it has printed before, answers to every artifact: with no text exactly if the artifact has no metadata,
or is a synthetic class or multi-file part and these are left out, and otherwise with a text that begins
with the header of an entry. Printing all gives the artifacts of the pool that are answered with a text,
each once, in strictly increasing order of their names. -/
theorem printed_unless_left_out {p : Printer} (hp : p.pool.Acyclic) :
    (∀ a, ∃ answer p', p.print a = .ok (answer, p') ∧ (answer = none ↔ p.LeavesOut a) ∧
      ∀ text, answer = some text → ∃ d rest, a.metadata = some d ∧ text = (Frame.mk a d).opening ++ rest) ∧
    ∃ answers printed p', p.printEach p.pool.artifacts = .ok (answers, p') ∧ p.printAll = .ok (printed, p') ∧
      answers.map (·.1) = p.pool.artifacts ∧
      (∀ a text, (a, text) ∈ printed ↔ (a, some text) ∈ answers) ∧
      (∀ a, a ∈ printed.map (·.1) ↔ a ∈ p.pool.artifacts ∧ ¬ p.LeavesOut a) ∧
      (∀ a text, (a, text) ∈ printed → ∃ d rest, a.metadata = some d ∧ text = (Frame.mk a d).opening ++ rest) ∧
      (printed.map (·.1.name)).Pairwise (· < ·) := by
  refine ⟨fun a => ?_, ?_⟩
  · obtain ⟨answer, p', hprint, -, hanswer⟩ := Printer.print_answers hp a
    exact ⟨answer, p', hprint, hanswer.none_iff, hanswer.opens⟩
  · obtain ⟨answers, p', heach, hmap, hall⟩ := Printer.printEach_answers hp p.pool.artifacts
    refine ⟨answers, _, p', heach, Printer.printAll_eq_listed heach, hmap, fun a text => Printer.mem_listed,
      fun a => ?_, fun a text h => ?_, Printer.pairwise_listed ?_⟩
    · rw [← hmap]
      exact Printer.mem_map_listed hall
    · exact (hall _ (Printer.mem_listed.1 h)).opens text rfl
    · have hsorted := p.pool.sorted
      rw [← hmap, List.map_map] at hsorted
      exact hsorted

/-- A lambda of the outermost class. -/
def Pool.sampleLambda : Artifact := { name := "pkg/Outer$1", metadata := some ⟨⟨1, 9, 0⟩, .synthetic {}⟩ }

/-- A synthetic class has no text of its own, unless the options say so. -/
theorem printed_unless_left_out_sample : Pool.sample.Acyclic ∧
    (∃ p', ({ pool := Pool.sample } : Printer).print Pool.sampleLambda = .ok (none, p')) ∧
    ∃ rest p', ({ pool := Pool.sample, excludeEmbedded := false } : Printer).print Pool.sampleLambda =
      .ok (some ("package pkg\n\n/**\n* Kotlin synthetic class (metadata version 1.9.0).\n" ++
        "* From Java class: pkg.Outer$1\n*/\n" ++ rest), p') := by
  refine ⟨Pool.sample_acyclic, ?_, ?_⟩
  · obtain ⟨answer, p', hprint, hnone, -⟩ :=
      (printed_unless_left_out (p := { pool := Pool.sample }) Pool.sample_acyclic).1 Pool.sampleLambda
    have hout : ({ pool := Pool.sample } : Printer).LeavesOut Pool.sampleLambda := .inr ⟨rfl, _, rfl, .inl rfl⟩
    rw [hnone.2 hout] at hprint
    exact ⟨p', hprint⟩
  · obtain ⟨answer, p', hprint, hnone, hopens⟩ :=
      (printed_unless_left_out (p := { pool := Pool.sample, excludeEmbedded := false }) Pool.sample_acyclic).1
        Pool.sampleLambda
    have hkept : ¬ ({ pool := Pool.sample, excludeEmbedded := false } : Printer).LeavesOut Pool.sampleLambda := by
      simp [Printer.LeavesOut, Pool.sampleLambda]
    cases answer with
    | none => exact absurd (hnone.1 rfl) hkept
    | some text =>
      obtain ⟨d, rest, hd, rfl⟩ := hopens text rfl
      cases hd
      refine ⟨rest, p', hprint.trans ?_⟩
      congr 4

end KotlinMetadata
