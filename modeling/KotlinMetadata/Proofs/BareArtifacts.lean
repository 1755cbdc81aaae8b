/-
What a bare artifact, which has neither metadata nor methods, does to the
texts around it: nothing, except that a class leaves a line for it as its
companion, and a multi-file facade as a part (`Frame.spacedNames`).

The renderings with the artifact in the pool and without it run in lockstep
(`Lockstep`): the visits and marks are the same, and the text with it is
longer by at least one character for every such line, and the same if there
is none (`Outgrows`). An empty body that gets a line gets braces, too, so
the texts differ by more than lines; but no context shortens a text because
it holds a longer one (`Outgrows.map`).
-/
import KotlinMetadata.Proofs.Batch
import KotlinMetadata.Proofs.Blocks
import KotlinMetadata.Proofs.Removal

namespace KotlinMetadata

/-! ## Lines left for artifacts -/

/-- The artifacts that one leaves a line for, whether they have anything to print or not: the companion
of a class, the parts of a multi-file facade. -/
def Frame.spacedNames (f : Frame) : List String :=
  match f.metadata.content with
  | .classOf info => info.companionClassName.toList
  | .multiFileFacade partNames => partNames.filter (· ≠ f.artifact.name)
  | _ => []

namespace Pool

/-- An artifact leaves a line for another. -/
def Spaces (pool : Pool) (outer inner : String) : Prop := ∃ f, pool.frame? outer = some f ∧ inner ∈ f.spacedNames

instance (pool : Pool) (outer inner : String) : Decidable (pool.Spaces outer inner) :=
  decidable_of_iff (∃ f ∈ pool.frame? outer, inner ∈ f.spacedNames) Iff.rfl

/-- The number of lines that an artifact leaves for another. -/
def gaps (pool : Pool) (inner outer : String) : Nat :=
  match pool.frame? outer with
  | some f => f.spacedNames.count inner
  | none => 0

theorem gaps_eq_zero {pool : Pool} {inner outer : String} : pool.gaps inner outer = 0 ↔ ¬ pool.Spaces outer inner := by
  unfold gaps Spaces
  cases pool.frame? outer with
  | none => simp
  | some f => simp [List.count_eq_zero]

end Pool

/-- A number for each visit, summed up over the visits made. -/
def Session.tally (gap : String → Nat) (s : Session) : Nat := s.journal.foldr (fun v n => n + gap v.name) 0

theorem Session.tally_noted (gap : String → Nat) (s : Session) (name : String) (route : Route) :
    (s.noted name route).tally gap = s.tally gap + gap name := rfl

/-! ## Longer texts -/

/-- A text is longer than another by a number of characters at least, and the same if that is none. -/
structure Outgrows (n : Nat) (x y : String) : Prop where
  length : y.length + n ≤ x.length
  same : n = 0 → x = y

namespace Outgrows

variable {n k : Nat} {x y x' y' : String}

theorem refl (x : String) : Outgrows 0 x x := ⟨Nat.le_refl _, fun _ => rfl⟩

theorem append (h : Outgrows n x y) (h' : Outgrows k x' y') : Outgrows (n + k) (x ++ x') (y ++ y') := by
  have hlength := h.length
  have hlength' := h'.length
  refine ⟨by rw [String.length_append, String.length_append]; omega, fun hnone => ?_⟩
  rw [h.same (by omega), h'.same (by omega)]

theorem prepend (z : String) (h : Outgrows n x y) : Outgrows n (z ++ x) (z ++ y) := by
  have hboth := (refl z).append h
  rwa [Nat.zero_add] at hboth

/-- A text around another that grows at least as much keeps them apart. -/
theorem map {g : String → String}
    (hg : ∀ {x y}, y.length < x.length → (g y).length + x.length ≤ (g x).length + y.length)
    (h : Outgrows n x y) : Outgrows n (g x) (g y) := by
  by_cases hn : n = 0
  · rw [h.same hn, hn]
    exact refl _
  · have hlength := h.length
    have hgrows := hg (x := x) (y := y) (by omega)
    exact ⟨by omega, fun hnone => absurd hnone hn⟩

theorem eq_iff (h : Outgrows n x y) : x = y ↔ n = 0 := by
  refine ⟨fun heq => ?_, h.same⟩
  have hlength := h.length
  rw [heq] at hlength
  omega

end Outgrows

/-! ## Runs in lockstep -/

/-- Two states that agree on all but what the buffers hold, with a buffer open in each. -/
structure Session.InStep (s t : Session) : Prop where
  agrees : s.Agrees t
  journal : t.journal = s.journal
  buffer : s.out.stack ≠ []
  buffer' : t.out.stack ≠ []

theorem Session.InStep.withOut {s t : Session} (h : s.InStep t) {b c : Buffers} (hdepth : c.depth = b.depth)
    (hb : b.stack ≠ []) (hc : c.stack ≠ []) : InStep { s with out := b } { t with out := c } :=
  ⟨h.agrees.withOut hdepth, h.journal, hb, hc⟩

theorem Session.InStep.noted {s t : Session} (h : s.InStep t) (name : String) (route : Route) :
    (s.noted name route).InStep (t.noted name route) := by
  refine ⟨h.agrees.noted name route, ?_, h.buffer, h.buffer'⟩
  simp only [Session.noted, h.agrees.depth, h.agrees.frames, h.journal]

namespace Render

variable {α β : Type} {gap : String → Nat} {n : Nat}

/-- Two actions run in lockstep wherever the first succeeds. What they write and give is related by the
number of gaps in all: some of their own, and those of the visits that they make. -/
def Lockstep (gap : String → Nat) (n : Nat) (related : Nat → String × α → String × α → Prop) (m m' : Render α) : Prop :=
  ∀ ⦃s t : Session⦄, s.InStep t → ∀ ⦃a s'⦄, m s = .ok (a, s') → ∃ b t' x y k,
    m' t = .ok (b, t') ∧ s'.InStep t' ∧ s.out.write x = .ok s'.out ∧ t.out.write y = .ok t'.out ∧
      s'.tally gap = s.tally gap + k ∧ related (n + k) (x, a) (y, b)

/-- In lockstep, the first action writes the longer text. -/
def Widens (gap : String → Nat) (n : Nat) (m m' : Render Unit) : Prop :=
  Lockstep gap n (fun k r r' => Outgrows k r.1 r'.1) m m'

/-- In lockstep, the actions write the same and give related results. -/
def Holds (gap : String → Nat) (n : Nat) (related : Nat → α → α → Prop) (m m' : Render α) : Prop :=
  Lockstep gap n (fun k r r' => r.1 = r'.1 ∧ related k r.2 r'.2) m m'

/-- An action that is blind and makes no visits does the same in both runs. -/
structure Leaf (m : Render α) : Prop where
  blind : Blind false m
  quiet : Quiet m

theorem Writes.leaf {m : Render α} (h : Writes (fun _ => Pure.pure ()) false [] m) : Leaf m :=
  ⟨h.blind fun _ => .pure (), h.quiet⟩

theorem Leaf.run (gap : String → Nat) {m : Render α} (hm : Leaf m) {s t s' : Session} (h : s.InStep t) {a : α}
    (hrun : m s = .ok (a, s')) : ∃ t' x, m t = .ok (a, t') ∧ s'.InStep t' ∧ s.out.write x = .ok s'.out ∧
      t.out.write x = .ok t'.out ∧ s'.tally gap = s.tally gap := by
  obtain ⟨t', hrun', hechoes⟩ := hm.blind h.agrees h.buffer h.buffer' (by simp) hrun
  obtain ⟨x, hout, hout'⟩ := hechoes.written
  obtain ⟨hbuffer, hbuffer'⟩ := hechoes.stack_ne_nil
  have hjournal := (hm.quiet hrun).journal
  refine ⟨t', x, hrun', ⟨hechoes.agrees, ?_, hbuffer, hbuffer'⟩, hout, hout', by rw [Session.tally, hjournal]; rfl⟩
  rw [(hm.quiet hrun').journal, hjournal, h.journal]

namespace Lockstep

variable {related : Nat → String × α → String × α → Prop}

/-- Both actions a level deeper. -/
theorem indented {m m' : Render α} (hm : Lockstep gap n related m m') :
    Lockstep gap n related (indented m) (indented m') := by
  intro s t h a s₂ hrun
  obtain ⟨_, s₀, hindent, hrest⟩ := bind_eq_ok.1 hrun
  cases hindent
  obtain ⟨a', s₁, hbody, -⟩ := bind_eq_ok.1 hrest
  have hdepth : t.out.indent.depth = s.out.indent.depth := congrArg (· + 1) h.agrees.depth
  obtain ⟨b, t₁, x, y, k, hbody', hstep, hout, hout', htally, hrelated⟩ :=
    hm (h.withOut hdepth h.buffer h.buffer') hbody
  obtain ⟨out, hrun₁, hwrite⟩ := Blind.indented_of_write hbody hout
  obtain ⟨out', hrun', hwrite'⟩ := Blind.indented_of_write hbody' hout'
  cases hrun.symm.trans hrun₁
  refine ⟨b, _, x, y, k, hrun', hstep.withOut ?_ ?_ ?_, hwrite, hwrite', htally, hrelated⟩
  · rw [Buffers.depth_of_write hwrite, Buffers.depth_of_write hwrite', h.agrees.depth]
  · exact Buffers.stack_ne_nil_of_write hwrite
  · exact Buffers.stack_ne_nil_of_write hwrite'

end Lockstep

namespace Widens

/-- The same leaf, then two actions. -/
theorem after {m : Render α} {k k' : α → Render Unit} (hm : Leaf m) (hk : ∀ a, Widens gap n (k a) (k' a)) :
    Widens gap n (m >>= k) (m >>= k') := by
  intro s t h u s'' hrun
  obtain ⟨a, s', hfirst, hrest⟩ := bind_eq_ok.1 hrun
  obtain ⟨t', z, hfirst', hstep, hout, hout', htally⟩ := hm.run gap h hfirst
  obtain ⟨v, t'', x, y, k, hrest', hstep', hmore, hmore', htally', hgrows⟩ := hk a hstep hrest
  exact ⟨v, t'', z ++ x, z ++ y, k, by rw [bind_of_ok hfirst', hrest'], hstep', Buffers.write_write hout hmore,
    Buffers.write_write hout' hmore', by rw [htally', htally], hgrows.prepend z⟩

theorem seq {m : Render α} {k k' : α → Render Unit} (hm : Writes (fun _ => Pure.pure ()) false [] m)
    (hk : ∀ a, Widens gap n (k a) (k' a)) : Widens gap n (m >>= k) (m >>= k') := after hm.leaf hk

theorem leaf {m : Render Unit} (hm : Leaf m) : Widens gap 0 m m := by
  intro s t h u s' hrun
  obtain ⟨t', x, hrun', hstep, hout, hout', htally⟩ := hm.run gap h hrun
  exact ⟨u, t', x, x, 0, hrun', hstep, hout, hout', htally, .refl x⟩

theorem same {m : Render Unit} (hm : Writes (fun _ => Pure.pure ()) false [] m) : Widens gap 0 m m := leaf hm.leaf

theorem pure : Widens gap 0 (pure ()) (pure ()) := same (.pure ())

theorem bind {m m' k k' : Render Unit} {i j : Nat} (hm : Widens gap i m m') (hk : Widens gap j k k') :
    Widens gap (i + j) (do m; k) (do m'; k') := by
  intro s t h u s'' hrun
  obtain ⟨_, s', hfirst, hrest⟩ := bind_eq_ok.1 hrun
  obtain ⟨_, t', x, y, k₁, hfirst', hstep, hout, hout', htally, hgrows⟩ := hm h hfirst
  obtain ⟨v, t'', x', y', k₂, hrest', hstep', hmore, hmore', htally', hgrows'⟩ := hk hstep hrest
  refine ⟨v, t'', x ++ x', y ++ y', k₁ + k₂, by rw [bind_of_ok hfirst', hrest'], hstep',
    Buffers.write_write hout hmore, Buffers.write_write hout' hmore', by rw [htally', htally, Nat.add_assoc], ?_⟩
  have hboth := hgrows.append hgrows'
  rwa [Nat.add_add_add_comm] at hboth

/-- One line more. -/
theorem newline : Widens gap 1 newline (Pure.pure ()) := by
  intro s t h u s' hrun
  obtain ⟨out, hrun', hout⟩ := Prints.write "\n" s h.buffer
  cases hrun.symm.trans hrun'
  refine ⟨(), t, "\n", "", 0, rfl, h.withOut ?_ (Buffers.stack_ne_nil_of_write hout) h.buffer', hout,
    Buffers.write_empty h.buffer', rfl, ⟨by decide, by simp⟩⟩
  rw [Buffers.depth_of_write hout, h.agrees.depth]

/-- The items of a list, some of which the second action leaves out. -/
theorem eachKept {act act' : α → Render Unit} {keep : α → Bool} {items : List α}
    (hact : ∀ a ∈ items, Widens gap 0 (act a) (if keep a then act' a else Pure.pure ())) :
    Widens gap 0 (each act items) (each act' (items.filter keep)) := by
  induction items with
  | nil => exact pure
  | cons a items ih =>
    have hrest := ih fun b hb => hact b (List.mem_cons_of_mem a hb)
    have hfirst := hact a List.mem_cons_self
    by_cases hkeep : keep a
    · rw [if_pos hkeep] at hfirst
      rw [List.filter_cons_of_pos hkeep]
      exact bind hfirst hrest
    · rw [if_neg hkeep] at hfirst
      rw [List.filter_cons_of_neg hkeep]
      exact bind hfirst hrest

theorem indented {m m' : Render Unit} (hm : Widens gap n m m') : Widens gap n (indented m) (indented m') :=
  Lockstep.indented hm

/-- What is captured is held. -/
theorem capture {m m' : Render Unit} (hm : Widens gap n m m') : Holds gap n Outgrows (capture m) (capture m') := by
  intro s t h text s₂ hrun
  obtain ⟨_, s₀, hopen, hrest⟩ := bind_eq_ok.1 hrun
  cases hopen
  obtain ⟨_, s₁, hbody, -⟩ := bind_eq_ok.1 hrest
  have hpush : Session.InStep { s with out := s.out.push } { t with out := t.out.push } :=
    h.withOut h.agrees.depth (List.cons_ne_nil _ _) (List.cons_ne_nil _ _)
  obtain ⟨_, t₁, x, y, k, hbody', hstep, hout, hout', htally, hgrows⟩ := hm hpush hbody
  cases hrun.symm.trans (Blind.capture_of_write hbody hout)
  exact ⟨y, _, "", "", k, Blind.capture_of_write hbody' hout', hstep.withOut h.agrees.depth h.buffer h.buffer',
    Buffers.write_empty h.buffer, Buffers.write_empty h.buffer', htally, rfl, hgrows⟩

/-- An artifact is rendered in its scope. -/
theorem within {m m' : Render Unit} (f : Frame) (hm : Widens gap n m m') : Widens gap n (within f m) (within f m') := by
  have henter : Leaf (enter f) := ⟨.enter f, fun _ _ _ hrun => by cases hrun; exact ⟨rfl, rfl⟩⟩
  refine after henter fun _ => ?_
  exact bind hm (leaf ⟨.leave, quiet_leave⟩)

end Widens

namespace Holds

variable {related : Nat → α → α → Prop}

theorem indented {m m' : Render α} (hm : Holds gap n related m m') : Holds gap n related (indented m) (indented m') :=
  Lockstep.indented hm

/-- A leaf whose result is held, too. -/
theorem paired {m m' : Render α} {l : Render β} (hm : Holds gap n related m m') (hl : Leaf l) :
    Holds gap n (fun k r r' => related k r.1 r'.1 ∧ r.2 = r'.2)
      (do let a ← m; let b ← l; return (a, b)) (do let a ← m'; let b ← l; return (a, b)) := by
  intro s t h r s'' hrun
  obtain ⟨a, s', hfirst, hrest⟩ := bind_eq_ok.1 hrun
  obtain ⟨b, s₁, hleaf, hpure⟩ := bind_eq_ok.1 hrest
  cases hpure
  obtain ⟨a', t', x, y, k, hfirst', hstep, hout, hout', htally, hsame, hrelated⟩ := hm h hfirst
  obtain ⟨t'', z, hleaf', hstep', hmore, hmore', htally'⟩ := hl.run gap hstep hleaf
  refine ⟨(a', b), t'', x ++ z, y ++ z, k, ?_, hstep', Buffers.write_write hout hmore,
    Buffers.write_write hout' hmore', by rw [htally', htally], congrArg (· ++ z) hsame, hrelated, rfl⟩
  rw [bind_of_ok hfirst', bind_of_ok hleaf']
  rfl

/-- What is held is written in the end, in a text that grows with it. -/
theorem finish {m m' : Render α} {k : α → Render Unit} (text : α → Nat → String) (hm : Holds gap n related m m')
    (hk : ∀ a, Prints (text a) (k a))
    (hgrows : ∀ i depth a b, related i a b → Outgrows i (text a depth) (text b depth)) :
    Widens gap n (m >>= k) (m' >>= k) := by
  intro s t h u s'' hrun
  obtain ⟨a, s', hfirst, hrest⟩ := bind_eq_ok.1 hrun
  obtain ⟨b, t', x, y, i, hfirst', hstep, hout, hout', htally, hsame, hrelated⟩ := hm h hfirst
  obtain ⟨out, hrest₁, hmore⟩ := hk a s' hstep.buffer
  obtain ⟨out', hrest', hmore'⟩ := hk b t' hstep.buffer'
  cases hrest.symm.trans hrest₁
  rw [hstep.agrees.depth] at hmore'
  refine ⟨(), _, x ++ text a s'.out.depth, y ++ text b s'.out.depth, i, by rw [bind_of_ok hfirst', hrest'],
    hstep.withOut ?_ (Buffers.stack_ne_nil_of_write hmore) (Buffers.stack_ne_nil_of_write hmore'),
    Buffers.write_write hout hmore, Buffers.write_write hout' hmore', htally, ?_⟩
  · rw [Buffers.depth_of_write hmore, Buffers.depth_of_write hmore', hstep.agrees.depth]
  · obtain rfl : x = y := hsame
    exact (hgrows _ s'.out.depth a b hrelated).prepend x

end Holds

/-! ## What is written around a text -/

/-- The text for the artifacts that a scan found, from what they have printed. -/
def childrenText (text : String) (depth : Nat) : String :=
  if text.isEmpty then "" else "\n" ++ (lineAt depth scannedComment ++ ("\n" ++ text))

/-- The text of the end of a class, from its enum entries and its body. -/
def classEndText (count : Nat) (entries body : String) (depth : Nat) : String :=
  if body.isEmpty then
    if entries.isEmpty then "\n" ++ "\n"
    else if count ≤ entriesPerLine then "\x7b " ++ (Text.trim entries ++ (" \x7d" ++ "\n"))
    else "\x7b\n" ++ (entries ++ "\n" ++ lineAt depth "\x7d")
  else "\x7b\n" ++ ((if entries.isEmpty then "" else entries ++ ";" ++ "\n") ++ (body ++ lineAt depth "\x7d"))

theorem childrenText_prints (text : String) : Prints (childrenText text) (do
    if text.isEmpty then pure ()
    else do
      newline
      writeLineIndented scannedComment
      newline
      write text) := by
  unfold childrenText
  split
  · exact .pure
  · exact .seq (.write "\n") (.seq (.line _) (.seq (.write "\n") (.write text)))

theorem classEndText_prints (count : Nat) (entries body : String) :
    Prints (classEndText count entries body) (classEnd count entries body) := by
  unfold classEndText classEnd
  by_cases hbody : body.isEmpty
  · by_cases hentries : entries.isEmpty
    · simp only [hbody, hentries, Bool.not_true, Bool.false_eq_true, if_false, if_true]
      exact .seq (.write "\n") (.write "\n")
    · simp only [hbody, hentries, Bool.not_true, Bool.false_eq_true, if_false, if_true, Bool.not_false]
      split
      · exact .seq (.write _) (.seq (.write _) (.write _))
      · exact .seq (.write _) (.seq (.write _) (.line _))
  · simp only [hbody, Bool.false_eq_true, if_false, Bool.not_false, if_true]
    by_cases hentries : entries.isEmpty
    · simp only [hentries, if_true, String.empty_append]
      exact .seq (.write _) (.seq (.write _) (.line _))
    · simp only [hentries, Bool.false_eq_true, if_false]
      exact .seq (.write _) (.seq (.write _) (.seq (.write _) (.line _)))

theorem length_trim_le (s : String) : (Text.trim s).length ≤ s.length := by
  have hdrop : ∀ l : List Char, (l.dropWhile Text.isBlank).length ≤ l.length := fun l =>
    (List.dropWhile_sublist _).length_le
  have hright := hdrop (s.toList.dropWhile Text.isBlank).reverse
  have hleft := hdrop s.toList
  rw [List.length_reverse] at hright
  rw [Text.trim, Text.trimChars, String.length_ofList, List.length_reverse, ← String.length_toList]
  omega

theorem not_isEmpty_of_length_lt {x y : String} (h : y.length < x.length) : ¬ x.isEmpty := by
  intro hempty
  rw [String.isEmpty_iff.1 hempty] at h
  exact absurd h (Nat.not_lt_zero _)

theorem childrenText_grows {x y : String} (depth : Nat) (h : y.length < x.length) :
    (childrenText y depth).length + x.length ≤ (childrenText x depth).length + y.length := by
  rw [childrenText, childrenText, if_neg (not_isEmpty_of_length_lt h)]
  split
  · next hy =>
    rw [String.isEmpty_iff.1 hy]
    simp only [String.length_append, String.length_empty]
    omega
  · simp only [String.length_append]
    omega

/-- A longer body makes the end of the class longer by no less, also where the shorter one is empty and
goes without braces. -/
theorem classEndText_grows {x y : String} (count : Nat) (entries : String) (depth : Nat) (h : y.length < x.length) :
    (classEndText count entries y depth).length + x.length ≤ (classEndText count entries x depth).length + y.length := by
  have htrim := length_trim_le entries
  have hopen : "\x7b\n".length = 2 := rfl
  have hopen' : "\x7b ".length = 2 := rfl
  have hclose : " \x7d".length = 2 := rfl
  have hbrace : "\x7d".length = 1 := rfl
  have hline : "\n".length = 1 := rfl
  have hsemicolon : ";".length = 1 := rfl
  rw [classEndText, classEndText, if_neg (not_isEmpty_of_length_lt h)]
  by_cases hy : y.isEmpty
  · rw [if_pos hy]
    split
    · simp only [String.length_append, lineAt]
      omega
    · split
      · simp only [String.length_append, lineAt]
        omega
      · simp only [String.length_append, lineAt]
        omega
  · rw [if_neg hy]
    simp only [String.length_append]
    omega

/-! ## Artifacts inside -/

namespace Widens

section Steps

variable {i j : Frame → Render Unit} {g : Frame}

/-- Noting a visit counts its gaps. -/
theorem noted (hg : Widens gap (gap g.name) (i g) (j g)) (route : Route) :
    Widens gap 0 (fun s => i g (s.noted g.name route)) (fun s => j g (s.noted g.name route)) := by
  intro s t h u s' hrun
  obtain ⟨v, t', x, y, k, hrun', hstep, hout, hout', htally, hgrows⟩ := hg (h.noted g.name route) hrun
  rw [Session.tally_noted, Nat.add_assoc] at htally
  refine ⟨v, t', x, y, gap g.name + k, hrun', hstep, hout, hout', htally, ?_⟩
  rw [Nat.zero_add]
  exact hgrows

theorem takeContained (hg : Widens gap (gap g.name) (i g) (j g)) :
    Widens gap 0 ((Step.contained g).take i) ((Step.contained g).take j) := by
  intro s t h u s' hrun
  have hmarked : (s.marked g.name).InStep (t.marked g.name) :=
    ⟨h.agrees.marked g.name, h.journal, h.buffer, h.buffer'⟩
  exact noted hg .contained hmarked hrun

theorem takeScanned (hg : Widens gap (gap g.name) (i g) (j g)) :
    Widens gap 0 ((Step.scanned g).take i) ((Step.scanned g).take j) := by
  intro s t h u s' hrun
  rw [Step.take_scanned] at hrun
  rw [Step.take_scanned, h.agrees.isDone]
  split at hrun
  · next hdone =>
    rw [if_pos hdone]
    exact pure h hrun
  · next hdone =>
    rw [if_neg hdone]
    exact noted hg .scanned h hrun

end Steps

section Bare

variable {pool : Pool} {m : Artifact} (hm : m ∈ pool.artifacts) (hbare : m.IsBare) {i j : Frame → Render Unit}
  (hinside : ∀ g, pool.frame? g.name = some g → Widens gap (gap g.name) (i g) (j g))

include hinside in
theorem contained {a : Artifact} (ha : a ∈ pool.artifacts) : Widens gap 0 (contained i a) (contained j a) := by
  unfold Render.contained
  cases hd : a.metadata with
  | none => exact pure
  | some d => exact takeContained (g := ⟨a, d⟩) (hinside _ (Pool.frame?_of_mem ha (by simp [Artifact.frame?, hd])))

include hbare in
theorem contained_bare : Render.contained i m = Pure.pure () := by
  unfold Render.contained
  rw [hbare.metadata]
  rfl

include hinside in
theorem scanned {a : Artifact} (ha : a ∈ pool.artifacts) : Widens gap 0 (scanned i a) (scanned j a) := by
  unfold Render.scanned
  cases hd : a.metadata with
  | none =>
    simp only [onSome, ite_self]
    exact pure
  | some d => exact takeScanned (g := ⟨a, d⟩) (hinside _ (Pool.frame?_of_mem ha (by simp [Artifact.frame?, hd])))

include hbare in
theorem scanned_bare : Render.scanned i m = Pure.pure () := by
  unfold Render.scanned
  simp only [hbare.metadata, onSome, ite_self]
  rfl

include hm hbare hinside

/-- A scan finds the same artifacts that have metadata. -/
theorem children (a : Artifact) : Widens gap 0 (children pool i a) (children (pool.without m.name) j a) := by
  have heach : Widens gap 0 (each (Render.scanned i) (pool.inner a.name))
      (each (Render.scanned j) ((pool.inner a.name).filter (·.name ≠ m.name))) := by
    refine eachKept fun b hb => ?_
    have hb' := Pool.mem_of_mem_inner hb
    by_cases hname : b.name = m.name
    · obtain rfl : b = m := by
        have hget := Pool.get?_of_mem hb'
        rw [hname, Pool.get?_of_mem hm] at hget
        exact (Option.some.inj hget).symm
      rw [if_neg (by simp), scanned_bare hbare]
      exact pure
    · rw [if_pos (by simpa using hname)]
      exact scanned hinside hb'
  rw [← Pool.inner_without] at heach
  exact Holds.finish childrenText (capture heach) childrenText_prints fun _ depth _ _ h =>
    h.map (g := (childrenText · depth)) (childrenText_grows depth)

/-- For a bare companion a line is left. -/
theorem companion (c : ClassInfo) : Widens gap (c.companionClassName.toList.count m.name) (companion pool i c)
    (companion (pool.without m.name) j c) := by
  unfold Render.companion
  cases c.companionClassName with
  | none => exact pure
  | some name =>
    rw [Option.bind_some, Option.bind_some, Option.toList_some]
    by_cases hname : name = m.name
    · rw [hname, Pool.get?_of_mem hm, Pool.get?_without_self, List.count_singleton_self]
      simp only [onSome, contained_bare hbare]
      exact bind newline pure
    · rw [Pool.get?_without_of_ne hname, List.count_singleton, if_neg (by simpa using hname)]
      cases hget : pool.get? name with
      | none => exact pure
      | some a => exact seq .newline fun _ => contained hinside (Pool.mem_of_get? hget)

/-- For every bare part a line is left. -/
theorem parts (names : List String) : Widens gap (names.count m.name) (each (facadePart i) (names.filterMap pool.get?))
    (each (facadePart j) (names.filterMap (pool.without m.name).get?)) := by
  induction names with
  | nil => exact pure
  | cons name names ih =>
    by_cases hname : name = m.name
    · rw [hname, List.filterMap_cons_some (Pool.get?_of_mem hm), List.filterMap_cons_none (Pool.get?_without_self _ _),
        List.count_cons_self, Nat.add_comm]
      have hline : Widens gap 1 (facadePart i m) (Pure.pure ()) := by
        unfold facadePart
        rw [contained_bare hbare]
        exact newline
      exact bind hline ih
    · have hget' : (pool.without m.name).get? name = pool.get? name := Pool.get?_without_of_ne hname
      rw [List.count_cons_of_ne hname]
      cases hget : pool.get? name with
      | none =>
        rw [hget] at hget'
        rw [List.filterMap_cons_none hget, List.filterMap_cons_none hget']
        exact ih
      | some a =>
        rw [hget] at hget'
        rw [List.filterMap_cons_some hget, List.filterMap_cons_some hget', ← Nat.zero_add (names.count _)]
        exact bind (bind (contained hinside (Pool.mem_of_get? hget)) (same .newline)) ih

theorem nestedClasses (c : ClassInfo) :
    Widens gap 0 (nestedClasses pool i c) (nestedClasses (pool.without m.name) j c) := by
  unfold Render.nestedClasses declarationGroup
  rw [nestedArtifacts_without hm hbare]
  have hpool : ∀ a ∈ nestedArtifacts pool c, a ∈ pool.artifacts := by
    intro a ha
    obtain ⟨name, -, hget⟩ := List.mem_filterMap.1 (List.mem_filter.1 ha).1
    exact Pool.mem_of_get? hget
  have heach : Widens gap 0 (each (Render.contained i) (nestedArtifacts pool c))
      (each (Render.contained j) ((nestedArtifacts pool c).filter fun _ => true)) :=
    eachKept fun a ha => contained hinside (hpool a ha)
  rw [List.filter_true] at heach
  split
  · exact pure
  · refine seq .newline fun _ => ?_
    refine seq (.writeLineIndented _) fun _ => ?_
    refine seq .newline fun _ => ?_
    exact heach

theorem classBody (a : Artifact) (c : ClassInfo) : Widens gap (c.companionClassName.toList.count m.name)
    (classBody pool i a c) (classBody (pool.without m.name) j a c) := by
  unfold Render.classBody
  rw [secondaryConstructors_without hm hbare, members_without hm hbare]
  refine seq (.sealedSubclasses c) fun _ => ?_
  refine seq (.secondaryConstructors pool c) fun _ => ?_
  refine seq (.underlyingProperty c) fun _ => ?_
  refine seq (.members pool _) fun _ => ?_
  exact bind (companion hm hbare hinside c) (bind (nestedClasses hm hbare hinside c) (children hm hbare hinside a))

theorem classOf (f : Frame) (c : ClassInfo) : Widens gap (c.companionClassName.toList.count m.name)
    (classOf pool i f c) (classOf (pool.without m.name) j f c) := by
  unfold Render.classOf
  rw [declareOrigin_without hm hbare, constructor_without hm hbare]
  refine seq (.header f) fun _ => ?_
  refine seq (.jvmAnnots .block _) fun _ => ?_
  refine seq (.onSome (.versionRequirement .block)) fun _ => ?_
  refine seq (.contextReceivers _) fun _ => ?_
  refine seq (.className c) fun _ => ?_
  refine seq (.declareAll _) fun _ => ?_
  refine seq (.declareOrigin pool c) fun _ => ?_
  refine seq (.typeParameterList _ _) fun _ => ?_
  refine seq (.capture (.each (.constructor pool) _)) fun primary => ?_
  refine seq (.write _) fun _ => ?_
  refine seq (.enclosed (.typeUse false) _) fun _ => ?_
  have hentries : Writes (fun _ => Pure.pure ()) false [] (Render.capture (enumEntries 0 c.enumEntryNames)) :=
    .capture (.enumEntries 0 _)
  refine Holds.finish (fun r => classEndText c.enumEntryNames.length r.2 r.1)
    ((capture (classBody hm hbare hinside f.artifact c)).paired hentries.leaf).indented
    (fun (body, entries) => classEndText_prints _ entries body) ?_
  rintro n depth ⟨x, entries⟩ ⟨y, _⟩ ⟨hgrows, rfl⟩
  exact hgrows.map (g := (classEndText _ entries · depth)) (classEndText_grows _ entries depth)

theorem fileFacade (f : Frame) (ms : Members) :
    Widens gap 0 (fileFacade pool i f ms) (fileFacade (pool.without m.name) j f ms) := by
  unfold Render.fileFacade
  rw [members_without hm hbare]
  refine seq (.header f) fun _ => ?_
  refine seq (.members pool ms) fun _ => ?_
  exact children hm hbare hinside f.artifact

theorem multiFilePart (f : Frame) (info : PartInfo) :
    Widens gap 0 (multiFilePart pool i f info) (multiFilePart (pool.without m.name) j f info) := by
  unfold Render.multiFilePart
  rw [members_without hm hbare]
  refine seq (.header f) fun _ => ?_
  refine seq (.resolve _ _) fun name => ?_
  refine seq (.onSome fun fileName => .writeLineIndented _) fun _ => ?_
  refine seq (.writeLineIndented _) fun _ => ?_
  refine seq (.members pool _) fun _ => ?_
  exact children hm hbare hinside f.artifact

/-- **A rendering with a bare artifact in the pool and one without it** run in lockstep, if those of the
artifacts inside do. -/
theorem content (f : Frame) : Widens gap (f.spacedNames.count m.name) (content pool i f)
    (content (pool.without m.name) j f) := by
  refine within f ?_
  unfold Frame.spacedNames
  cases f.metadata.content with
  | classOf info => exact classOf hm hbare hinside f info
  | fileFacade ms => exact fileFacade hm hbare hinside f ms
  | synthetic info =>
    show Widens gap 0 (syntheticClass pool f info) (syntheticClass (pool.without m.name) f info)
    rw [syntheticClass_without hm hbare]
    exact same (.syntheticClass pool f info)
  | multiFileFacade partNames =>
    refine seq (.header f) fun _ => ?_
    refine seq .newline fun _ => ?_
    exact indented (parts hm hbare hinside _)
  | multiFilePart info => exact multiFilePart hm hbare hinside f info

end Bare

end Widens

/-! ## Entries -/

section Entries

variable {pool : Pool} {m : Artifact} (hm : m ∈ pool.artifacts) (hbare : m.IsBare)

include hm hbare

/-- The renderings to a bound on the nesting, by induction on it. -/
theorem artifactWithin_widens (bound : Nat) {f : Frame} (hf : pool.frame? f.name = some f) :
    Widens (pool.gaps m.name) (pool.gaps m.name f.name) (artifactWithin pool bound f)
      (artifactWithin (pool.without m.name) bound f) := by
  induction bound generalizing f with
  | zero =>
    intro s t _ u s' hrun
    cases hrun
  | succ bound ih =>
    have hgaps : pool.gaps m.name f.name = f.spacedNames.count m.name := by rw [Pool.gaps, hf]
    rw [hgaps]
    exact Widens.content hm hbare (fun g hg => ih hg) f

/-- An entry makes the same visits and marks with the bare artifact and without it, and its text is
longer with it by one character at least for every line that is left. -/
theorem entry_widens (hp : pool.Acyclic) (visited : NameSet) {f : Frame} (hf : pool.frame? f.name = some f) :
    ∃ x y s t, entry pool f (Session.start visited) = .ok (x, s) ∧
      entry (pool.without m.name) f (Session.start visited) = .ok (y, t) ∧ t.journal = s.journal ∧
      t.visited = s.visited ∧ Outgrows (s.tally (pool.gaps m.name)) x y := by
  obtain ⟨x, s, hentry, -, hrun⟩ := entry_runs hp visited f
  obtain ⟨y, t, hentry', -, hrun'⟩ := entry_runs (hp.without hm hbare) visited f
  have hstart : (entryState visited f).InStep (entryState visited f) :=
    ⟨⟨rfl, rfl, fun _ => rfl, rfl, rfl, fun _ => Iff.rfl⟩, rfl, List.cons_ne_nil _ _, List.cons_ne_nil _ _⟩
  obtain ⟨_, t', x', y', k, hwithin, hstep, hout, hout', htally, hgrows⟩ :=
    artifactWithin_widens hm hbare (nestingBound pool) hf hstart hrun
  -- The bound of the larger pool does for the smaller one.
  have hbound : nestingBound (pool.without m.name) ≤ nestingBound pool := by
    have hsize := pool.size_without_le m.name
    exact Nat.mul_le_mul (by omega) (by omega)
  cases hwithin.symm.trans (artifactWithin_mono hbound hrun')
  obtain rfl := text_of_entry hentry hrun hout
  obtain rfl := text_of_entry hentry' hrun' hout'
  refine ⟨x, y, _, _, hentry, hentry', hstep.journal, hstep.agrees.visited, ?_⟩
  have hfirst : (entryState visited f).tally (pool.gaps m.name) = pool.gaps m.name f.name := Nat.zero_add _
  have hall : Session.tally (pool.gaps m.name) { s with out := .empty } = s.tally (pool.gaps m.name) := rfl
  rw [hall, htally, hfirst]
  exact hgrows

end Entries

end Render

theorem Session.tally_eq_zero {pool : Pool} {inner : String} {s : Session} :
    s.tally (pool.gaps inner) = 0 ↔ ∀ v ∈ s.journal, ¬ pool.Spaces v.name inner := by
  rw [tally]
  induction s.journal with
  | nil => simp
  | cons v journal ih => simp [ih, Pool.gaps_eq_zero, and_comm]

/-! ## Printers -/

namespace Printer

/-- The printer of a pool without the artifact of a name. -/
def without (p : Printer) (name : String) : Printer := { p with pool := p.pool.without name }

/-- The answers for two texts are the same only if they are. -/
theorem answer_eq_iff {x y : String} :
    ((if x.isEmpty then none else some x) = if y.isEmpty then none else some y) ↔ x = y := by
  constructor
  · intro h
    split at h
    · next hx =>
      split at h
      · next hy => rw [String.isEmpty_iff.1 hx, String.isEmpty_iff.1 hy]
      · cases h
    · split at h
      · cases h
      · exact Option.some.inj h
  · rintro rfl
    rfl

/-- The printings of an artifact with and without a bare one in the pool. -/
theorem print_without {p : Printer} (hp : p.pool.Acyclic) {a m : Artifact} (ha : a ∈ p.pool.artifacts)
    (hm : m ∈ p.pool.artifacts) (hbare : m.IsBare) {d : Metadata} (hprintable : p.printable? a = some d) :
    ∃ (x y : String) (s : Session),
      p.print a = .ok (if x.isEmpty then none else some x, { p with visited := s.visited }) ∧
      (p.without m.name).print a =
        .ok (if y.isEmpty then none else some y, { p.without m.name with visited := s.visited }) ∧
      p.visits a = s.journal ∧ (p.without m.name).visits a = s.journal ∧
      Outgrows (s.tally (p.pool.gaps m.name)) x y := by
  have hframe : p.pool.frame? a.name = some ⟨a, d⟩ := by
    refine Pool.frame?_of_mem ha ?_
    rw [Artifact.frame?, (Option.filter_eq_some_iff.1 hprintable).1]
    rfl
  obtain ⟨x, y, s, t, hentry, hentry', hjournal, hvisited, hgrows⟩ :=
    Render.entry_widens hm hbare hp p.visited (f := ⟨a, d⟩) hframe
  have hprintable' : (p.without m.name).printable? a = some d := hprintable
  obtain ⟨text, p', hprint⟩ := p.print_runs hp a
  obtain ⟨text', q', hprint'⟩ := (p.without m.name).print_runs (hp.without hm hbare) a
  rcases print_cases hprint with ⟨hnone, -, -⟩ | ⟨e, x', s', hsome, hx, hvisits, rfl, rfl⟩
  · cases hnone.symm.trans hprintable
  · rcases print_cases hprint' with ⟨hnone, -, -⟩ | ⟨e', y', t', hsome', hy, hvisits', rfl, rfl⟩
    · cases hnone.symm.trans hprintable'
    · cases hsome.symm.trans hprintable
      cases hsome'.symm.trans hprintable'
      cases hx.symm.trans hentry
      cases hy.symm.trans hentry'
      rw [hvisited] at hprint'
      exact ⟨x, y, s, hprint, hprint', hvisits, hvisits'.trans hjournal, hgrows⟩

end Printer

/-- **When a bare artifact shows.** An artifact that has neither metadata nor methods changes neither
the visits nor the marks of any printing in its pool. It changes the text exactly if an artifact that is
rendered names it as its companion or as a part of a multi-file class: there a line is left for it. -/
theorem bare_artifact_shows_iff {p : Printer} (hp : p.pool.Acyclic) {a m : Artifact} (ha : a ∈ p.pool.artifacts)
    (hm : m ∈ p.pool.artifacts) (hbare : m.IsBare) :
    ∃ text text' p', p.print a = .ok (text, p') ∧ (p.without m.name).print a = .ok (text', p'.without m.name) ∧
      (p.without m.name).visits a = p.visits a ∧
      (text = text' ↔ ∀ v ∈ p.visits a, ¬ p.pool.Spaces v.name m.name) := by
  cases hprintable : p.printable? a with
  | none =>
    have hprintable' : (p.without m.name).printable? a = none := hprintable
    have hvisits : p.visits a = [] := by simp [Printer.visits, hprintable]
    refine ⟨none, none, p, by simp [Printer.print, hprintable], by simp [Printer.print, hprintable'], ?_, ?_⟩
    · simp [Printer.visits, hprintable, hprintable']
    · simp [hvisits]
  | some d =>
    obtain ⟨x, y, s, hprint, hprint', hvisits, hvisits', hgrows⟩ := Printer.print_without hp ha hm hbare hprintable
    refine ⟨_, _, _, hprint, hprint', hvisits'.trans hvisits.symm, ?_⟩
    rw [Printer.answer_eq_iff, hvisits, hgrows.eq_iff, Session.tally_eq_zero]

namespace Pool

/-- A class that names a companion and a nested class. -/
def bareOuter : Artifact :=
  sampleClass { className := "pkg/Outer", companionObjectName := some "Companion",
                nestedClassNames := ["Companion", "Key"] }

/-- The companion, without metadata. -/
def bareCompanion : Artifact := { name := "pkg/Outer$Companion" }

/-- The nested class, without metadata. -/
def bareNested : Artifact := { name := "pkg/Outer$Key" }

/-- A class with a bare companion and a bare nested class. -/
def bareArtifacts : List Artifact := [bareOuter, bareCompanion, bareNested]

theorem bareArtifacts_sorted : (bareArtifacts.map (·.name)).Pairwise (· < ·) := by decide

/-- The class and the bare artifacts as a pool. -/
def bare : Pool := ⟨bareArtifacts, bareArtifacts_sorted⟩

theorem bare_acyclic : bare.Acyclic := acyclic_of_rank (fun _ => 0) (by decide)

end Pool

/-- The nested class shows nowhere. -/
theorem bare_artifact_shows_sample : ∃ text p',
    ({ pool := .bare } : Printer).print Pool.bareOuter = .ok (text, p') ∧
    (({ pool := .bare } : Printer).without "pkg/Outer$Key").print Pool.bareOuter =
      .ok (text, p'.without "pkg/Outer$Key") := by
  obtain ⟨text, text', p', h, h', -, hsame⟩ := bare_artifact_shows_iff (p := { pool := .bare }) Pool.bare_acyclic
    (m := Pool.bareNested) List.mem_cons_self (List.mem_cons_of_mem _ (List.mem_cons_of_mem _ List.mem_cons_self))
    ⟨rfl, rfl⟩
  cases hsame.2 (by decide +kernel)
  exact ⟨text, p', h, h'⟩

/-- A bare artifact need not be invisible, not even to a new printer: the class leaves a line for the
companion, and a body that has only this line gets braces. -/
theorem bare_companion_shows : ¬ ∀ (pool : Pool) (a m : Artifact), pool.Acyclic → a ∈ pool.artifacts →
    m ∈ pool.artifacts → m.name ≠ a.name → m.metadata = none → m.methods = [] →
    ∃ text p' p'', ({ pool } : Printer).print a = .ok (text, p') ∧
      ({ pool := pool.without m.name } : Printer).print a = .ok (text, p'') := by
  intro hinvisible
  obtain ⟨text, p', p'', h, h'⟩ := hinvisible .bare Pool.bareOuter Pool.bareCompanion Pool.bare_acyclic
    List.mem_cons_self (List.mem_cons_of_mem _ List.mem_cons_self) (by decide) rfl rfl
  have hdiffer : (match ({ pool := .bare } : Printer).print Pool.bareOuter with
      | .ok (text, _) => (match ({ pool := Pool.bare.without Pool.bareCompanion.name } : Printer).print Pool.bareOuter with
        | .ok (text', _) => decide (text' = text)
        | .error _ => true)
      | .error _ => true) = false := by decide +kernel
  simp [h, h'] at hdiffer

end KotlinMetadata
