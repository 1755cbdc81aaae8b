/-
Renderings are balanced: on a pool without a containment cycle no rendering
breaks off, and each leaves the scopes, the depth and the buffers below the
active one as it found them.

`Kept` says so of the states before and after. `Writes.runs` gets it for
every derivable action from its steps, and `artifactWithin_runs` for
artifacts, by induction on the bound on their nesting: a step of containment
goes to an artifact with fewer below it (`Pool.card_below_lt`), a scan goes
to one that was not visited before.
-/
import KotlinMetadata.Printer
import KotlinMetadata.Proofs.Writes.Artifact

namespace KotlinMetadata

/-! ## Buffers -/

namespace Buffers

variable {b c : Buffers} {text : String}

theorem write_eq_ok : b.write text = .ok c ↔
    ∃ active below, b.stack = active :: below ∧ c = ⟨(active ++ text) :: below, b.depth⟩ := by
  unfold write
  cases hb : b.stack with
  | nil => simp
  | cons active below =>
    constructor
    · intro h
      cases h
      exact ⟨active, below, rfl, rfl⟩
    · rintro ⟨_, _, h, rfl⟩
      cases h
      rfl

theorem exists_write (h : b.stack ≠ []) (text : String) : ∃ c, b.write text = .ok c := by
  obtain ⟨active, below, hb⟩ := List.exists_cons_of_ne_nil h
  exact ⟨_, write_eq_ok.2 ⟨active, below, hb, rfl⟩⟩

theorem write_empty (h : b.stack ≠ []) : b.write "" = .ok b := by
  obtain ⟨active, below, hb⟩ := List.exists_cons_of_ne_nil h
  refine write_eq_ok.2 ⟨active, below, hb, ?_⟩
  rw [String.append_empty, ← hb]

/-- Two texts in a row are written as one. -/
theorem write_write {more : String} {d : Buffers} (h₁ : b.write text = .ok c) (h₂ : c.write more = .ok d) :
    b.write (text ++ more) = .ok d := by
  obtain ⟨active, below, hb, rfl⟩ := write_eq_ok.1 h₁
  obtain ⟨_, _, hc, rfl⟩ := write_eq_ok.1 h₂
  cases hc
  exact write_eq_ok.2 ⟨active, below, hb, by rw [String.append_assoc]⟩

theorem stack_ne_nil_of_write (h : b.write text = .ok c) : c.stack ≠ [] := by
  obtain ⟨active, below, -, rfl⟩ := write_eq_ok.1 h
  simp

theorem depth_of_write (h : b.write text = .ok c) : c.depth = b.depth := by
  obtain ⟨_, _, _, rfl⟩ := write_eq_ok.1 h
  rfl

/-- Different texts leave different buffers. -/
theorem eq_of_write_eq {text' : String} (hb : b.stack ≠ []) (h : b.write text = b.write text') : text = text' := by
  obtain ⟨c, hc⟩ := exists_write hb text
  obtain ⟨active, below, hstack, rfl⟩ := write_eq_ok.1 hc
  obtain ⟨_, _, hstack', he⟩ := write_eq_ok.1 (h.symm.trans hc)
  cases hstack.symm.trans hstack'
  simpa using he

/-- What was written into a new buffer comes back when it is closed. -/
theorem pop_of_push_write (h : b.push.write text = .ok c) : c.pop = .ok (text, b) := by
  obtain ⟨_, _, hb, rfl⟩ := write_eq_ok.1 h
  cases hb
  simp [pop, push, String.empty_append]

/-- What was written into a new buffer can be thrown away. -/
theorem reset_of_push_write (h : b.push.write text = .ok c) : c.reset = .ok b.push := by
  simp [reset, pop_of_push_write h, Except.map]

theorem outdent_of_indent_write (h : b.indent.write text = .ok c) :
    ∃ d, c.outdent = .ok d ∧ b.write text = .ok d := by
  obtain ⟨active, below, hb, rfl⟩ := write_eq_ok.1 h
  exact ⟨_, rfl, write_eq_ok.2 ⟨active, below, hb, rfl⟩⟩

end Buffers

/-! ## Balance -/

/-- A buffer and a scope are open. -/
structure Session.IsOpen (s : Session) : Prop where
  buffer : s.out.stack ≠ []
  frame : s.scope.frames ≠ []

/-- What a rendering keeps: it comes down to one text written into the active buffer, at the same
depth and in the same scopes, and the journal grows. -/
structure Kept (s s' : Session) : Prop where
  written : ∃ text, s.out.write text = .ok s'.out
  frames : s'.scope.frames = s.scope.frames
  package : s.scope.frames ≠ [] → s'.scope.package = s.scope.package
  journal : s.journal <:+ s'.journal

namespace Kept

variable {s s' s'' : Session}

theorem refl (h : s.out.stack ≠ []) : Kept s s :=
  ⟨⟨"", Buffers.write_empty h⟩, rfl, fun _ => rfl, List.suffix_rfl⟩

theorem trans (h₁ : Kept s s') (h₂ : Kept s' s'') : Kept s s'' := by
  obtain ⟨text, ht⟩ := h₁.written
  obtain ⟨more, hm⟩ := h₂.written
  refine ⟨⟨text ++ more, Buffers.write_write ht hm⟩, h₂.frames.trans h₁.frames, fun h => ?_,
    h₁.journal.trans h₂.journal⟩
  rw [h₂.package (by rw [h₁.frames]; exact h), h₁.package h]

theorem isOpen (h : Kept s s') (hs : s.IsOpen) : s'.IsOpen := by
  obtain ⟨text, ht⟩ := h.written
  exact ⟨Buffers.stack_ne_nil_of_write ht, by rw [h.frames]; exact hs.frame⟩

/-- The buffers: as many as before, and those below the active one unchanged. -/
theorem buffers (h : Kept s s') : s'.out.depth = s.out.depth ∧
    s'.out.stack.length = s.out.stack.length ∧ s'.out.stack.tail = s.out.stack.tail := by
  obtain ⟨text, ht⟩ := h.written
  obtain ⟨active, below, hs, he⟩ := Buffers.write_eq_ok.1 ht
  simp [he, hs]

end Kept

/-! ## Actions that succeed -/

namespace Render

variable {α β : Type}

/-- An action succeeds and keeps what a rendering keeps, from every open state whose journal ends
with a given one. -/
def Runs (past : List Visit) (m : Render α) : Prop :=
  ∀ s : Session, s.IsOpen → past <:+ s.journal → ∃ a s', m s = .ok (a, s') ∧ Kept s s'

namespace Runs

variable {past : List Visit}

theorem pure (a : α) : Runs past (pure a : Render α) := fun s hs _ => ⟨a, s, rfl, .refl hs.buffer⟩

theorem bind {m : Render α} {k : α → Render β} (hm : Runs past m) (hk : ∀ a, Runs past (k a)) :
    Runs past (m >>= k) := by
  intro s hs hj
  obtain ⟨a, s₁, h₁, kept₁⟩ := hm s hs hj
  obtain ⟨c, s₂, h₂, kept₂⟩ := hk a s₁ (kept₁.isOpen hs) (hj.trans kept₁.journal)
  exact ⟨c, s₂, by rw [bind_of_ok h₁, h₂], kept₁.trans kept₂⟩

theorem write (text : String) : Runs past (write text) := by
  intro s hs _
  obtain ⟨out, hout⟩ := Buffers.exists_write hs.buffer text
  refine ⟨(), { s with out }, by simp [Render.write, changeOut, hout], ?_⟩
  exact ⟨⟨text, hout⟩, rfl, fun _ => rfl, List.suffix_rfl⟩

theorem writeIndented (text : String) : Runs past (writeIndented text) :=
  fun s => write (Buffers.indentation s.out.depth ++ text) s

theorem separate (brackets : List Char) : Runs past (separateUnlessAfter brackets) := by
  refine bind (fun s hs _ => ⟨s.out.previousChar?, s, rfl, .refl hs.buffer⟩) fun last => ?_
  split
  · exact pure ()
  · exact write ", "

theorem current : Runs past current := by
  intro s hs _
  obtain ⟨f, rest, hf⟩ := List.exists_cons_of_ne_nil hs.frame
  exact ⟨f, s, by simp [Render.current, Scope.current, hf], .refl hs.buffer⟩

/-- An action run in a buffer of its own leaves the buffers as they were. -/
theorem capture_of_ok {m : Render Unit} {s s' : Session} (h : m { s with out := s.out.push } = .ok ((), s'))
    (kept : Kept { s with out := s.out.push } s') :
    ∃ text, Render.capture m s = .ok (text, { s' with out := s.out }) := by
  obtain ⟨text, ht⟩ := kept.written
  have hopen : openBuffer s = .ok ((), { s with out := s.out.push }) := rfl
  refine ⟨text, ?_⟩
  unfold Render.capture
  rw [bind_of_ok hopen, bind_of_ok h]
  simp [closeBuffer, Buffers.pop_of_push_write ht]

theorem capture {m : Render Unit} (hm : Runs past m) : Runs past (capture m) := by
  intro s hs hj
  obtain ⟨_, s', h, kept⟩ := hm { s with out := s.out.push } ⟨by simp [Buffers.push], hs.frame⟩ hj
  obtain ⟨text, ht⟩ := capture_of_ok h kept
  refine ⟨text, _, ht, ⟨⟨"", Buffers.write_empty hs.buffer⟩, kept.frames, kept.package, kept.journal⟩⟩

/-- What the first action writes is thrown away. The second then starts as from a new buffer. -/
theorem redone {m₁ m₂ : Render Unit} (h₁ : Runs past m₁) (h₂ : Runs past m₂) :
    Runs past (Render.capture (do m₁; reset; m₂)) := by
  intro s hs hj
  obtain ⟨_, s₁, hm₁, kept₁⟩ := h₁ { s with out := s.out.push } ⟨by simp [Buffers.push], hs.frame⟩ hj
  obtain ⟨text, ht⟩ := kept₁.written
  have hreset : reset s₁ = .ok ((), { s₁ with out := s.out.push }) := by
    simp [reset, changeOut, Buffers.reset_of_push_write ht]
  have kept : Kept { s with out := s.out.push } { s₁ with out := s.out.push } :=
    ⟨⟨"", Buffers.write_empty (by simp [Buffers.push])⟩, kept₁.frames, kept₁.package, kept₁.journal⟩
  have hopen := kept.isOpen ⟨by simp [Buffers.push], hs.frame⟩
  obtain ⟨_, s₂, hm₂, kept₂⟩ := h₂ _ hopen (hj.trans kept.journal)
  have hrun : (do m₁; reset; m₂ : Render Unit) { s with out := s.out.push } = .ok ((), s₂) := by
    rw [bind_of_ok hm₁, bind_of_ok hreset, hm₂]
  obtain ⟨text, ht⟩ := capture_of_ok hrun (kept.trans kept₂)
  have kept' := kept.trans kept₂
  exact ⟨text, _, ht, ⟨⟨"", Buffers.write_empty hs.buffer⟩, kept'.frames, kept'.package, kept'.journal⟩⟩

theorem indented {m : Render α} (hm : Runs past m) : Runs past (indented m) := by
  intro s hs hj
  obtain ⟨a, s', h, kept⟩ := hm { s with out := s.out.indent } ⟨hs.buffer, hs.frame⟩ hj
  obtain ⟨text, ht⟩ := kept.written
  obtain ⟨out, hout, hwrite⟩ := Buffers.outdent_of_indent_write ht
  have hindent : indent s = .ok ((), { s with out := s.out.indent }) := rfl
  have houtdent : outdent s' = .ok ((), { s' with out }) := by simp [outdent, changeOut, hout]
  refine ⟨a, { s' with out }, ?_, ⟨⟨text, hwrite⟩, kept.frames, kept.package, kept.journal⟩⟩
  unfold Render.indented
  rw [bind_of_ok hindent, bind_of_ok h, bind_of_ok houtdent]
  rfl

end Runs

/-- An action runs if its steps do. -/
theorem Writes.runs {inside : Frame → Render Unit} {b : Bool} {l : List Step} {m : Render α}
    (hm : Writes inside b l m) {past : List Visit} (hl : ∀ st ∈ l, Runs past (st.take inside)) :
    Runs past m := by
  induction hm with
  | pure a => exact .pure a
  | bind _ _ ihm ihk =>
    refine .bind (ihm fun st hst => hl st (List.mem_append_left _ hst)) fun a => ?_
    exact ihk a fun st hst => hl st (List.mem_append_right _ hst)
  | write text => exact .write text
  | writeIndented text => exact .writeIndented text
  | readPlace g => exact fun s hs _ => ⟨_, s, rfl, .refl hs.buffer⟩
  | current => exact .current
  | typeParameterName id => exact fun s hs _ => ⟨_, s, rfl, .refl hs.buffer⟩
  | declare p =>
    exact fun s hs _ => ⟨(), _, rfl, ⟨"", Buffers.write_empty hs.buffer⟩, rfl, fun _ => rfl, List.suffix_rfl⟩
  | separate brackets => exact .separate brackets
  | opened _ _ ih => exact .bind (.write _) fun _ => ih (by simp)
  | capture _ ih => exact .capture (ih hl)
  | redone _ _ ih₁ ih₂ => exact .redone (ih₁ (by simp)) (ih₂ (by simp))
  | indented _ ih => exact .indented (ih hl)
  | step st => exact hl st (by simp)

/-- An action in the scope of an artifact. It needs no scope around it. -/
theorem within_of_runs {body : Render Unit} {f : Frame} {s : Session} (hbody : Runs s.journal body)
    (hs : s.out.stack ≠ []) : ∃ s', within f body s = .ok ((), s') ∧ Kept s s' := by
  have henter : enter f s = .ok ((), { s with scope := s.scope.enter f }) := rfl
  have hframes : (s.scope.enter f).frames = f :: s.scope.frames := by
    unfold Scope.enter
    split
    · next h => simp [h]
    · rfl
  have hpackage : s.scope.frames ≠ [] → (s.scope.enter f).package = s.scope.package := by
    intro h
    unfold Scope.enter
    split
    · next hnil => exact absurd hnil h
    · rfl
  obtain ⟨_, s', h, kept⟩ := hbody { s with scope := s.scope.enter f } ⟨hs, by simp [hframes]⟩ List.suffix_rfl
  have hinner : s'.scope.frames = f :: s.scope.frames := kept.frames.trans hframes
  have hleave : leave s' = .ok ((), { s' with scope := { s'.scope with frames := s.scope.frames } }) := by
    simp [leave, Scope.leave, hinner]
  refine ⟨{ s' with scope := { s'.scope with frames := s.scope.frames } }, ?_,
    ⟨kept.written, rfl, fun hne => ?_, kept.journal⟩⟩
  · unfold within
    rw [bind_of_ok henter, bind_of_ok h, hleave]
  · exact (kept.package (by simp [hframes])).trans (hpackage hne)

end Render

/-! ## Artifacts -/

namespace Pool

variable {pool : Pool}

/-- The names of the pool that are not in a journal. -/
def unvisited (pool : Pool) (journal : List Visit) : Finset String :=
  pool.names.toFinset.filter fun n => ∀ v ∈ journal, v.name ≠ n

theorem mem_unvisited {journal : List Visit} {n : String} :
    n ∈ pool.unvisited journal ↔ n ∈ pool.names ∧ ∀ v ∈ journal, v.name ≠ n := by
  simp [unvisited]

theorem card_unvisited_le (pool : Pool) (journal : List Visit) :
    (pool.unvisited journal).card ≤ pool.size := by
  calc (pool.unvisited journal).card ≤ pool.names.toFinset.card :=
        Finset.card_le_card (Finset.filter_subset _ _)
    _ ≤ pool.names.length := List.toFinset_card_le _
    _ = pool.size := List.length_map _

/-- The longer the journal, the fewer are unvisited. -/
theorem unvisited_subset {journal past : List Visit} (h : past <:+ journal) :
    pool.unvisited journal ⊆ pool.unvisited past := by
  intro n hn
  obtain ⟨hname, hall⟩ := mem_unvisited.1 hn
  exact mem_unvisited.2 ⟨hname, fun v hv => hall v (h.subset hv)⟩

/-- The first visit of an artifact leaves fewer unvisited. -/
theorem card_unvisited_lt {journal : List Visit} {v : Visit} (hpool : v.name ∈ pool.names)
    (hnew : ∀ w ∈ journal, w.name ≠ v.name) :
    (pool.unvisited (v :: journal)).card < (pool.unvisited journal).card := by
  refine Finset.card_lt_card (Finset.ssubset_iff_of_subset (unvisited_subset (List.suffix_cons _ _)) |>.2 ?_)
  refine ⟨v.name, mem_unvisited.2 ⟨hpool, hnew⟩, fun hn => ?_⟩
  exact (mem_unvisited.1 hn).2 v (by simp) rfl

end Pool

namespace Render

variable {pool : Pool} {inside : Frame → Render Unit} {past : List Visit}

/-- What the bound on the nesting must exceed: as many containments as artifacts for each scan that
is still possible, and those below the artifact itself. -/
noncomputable def depthNeeded (pool : Pool) (journal : List Visit) (f : Frame) : Nat :=
  (pool.unvisited journal).card * (pool.size + 1) + (pool.below f).card

theorem depthNeeded_lt_nestingBound (pool : Pool) (journal : List Visit) (f : Frame) :
    depthNeeded pool journal f < nestingBound pool := by
  have hscans := Nat.mul_le_mul_right (pool.size + 1) (pool.card_unvisited_le journal)
  have hbelow := pool.card_below_le f
  unfold depthNeeded nestingBound
  rw [Nat.add_mul pool.size 1 (pool.size + 1)]
  omega

/-- A step of containment needs less depth: no fewer artifacts are visited, and fewer are below. -/
theorem depthNeeded_contained (hp : pool.Acyclic) {f g : Frame} {c : String} (hc : c ∈ f.containedNames)
    (hg : pool.frame? c = some g) {journal : List Visit} (hj : past <:+ journal) :
    depthNeeded pool journal g < depthNeeded pool past f := by
  have hbelow := Pool.card_below_lt hp hc hg
  have hleft := Finset.card_le_card (pool.unvisited_subset hj)
  have hscans := Nat.mul_le_mul_right (pool.size + 1) hleft
  unfold depthNeeded
  omega

/-- A scan needs less depth: one unvisited artifact less pays for whatever is below. -/
theorem depthNeeded_scanned (f g : Frame) {v : Visit} (hv : v.name ∈ pool.names) {journal : List Visit}
    (hj : past <:+ journal) (hnew : ∀ w ∈ journal, w.name ≠ v.name) :
    depthNeeded pool (v :: journal) g < depthNeeded pool past f := by
  have hbelow := pool.card_below_le g
  have hfewer := Pool.card_unvisited_lt hv hnew
  have hleft := Finset.card_le_card (pool.unvisited_subset hj)
  have hscans := Nat.mul_le_mul_right (pool.size + 1) (hfewer.trans_le hleft)
  rw [Nat.succ_mul] at hscans
  unfold depthNeeded
  omega

/-- **The bound on the nesting suffices**, by induction on it: every step needs less depth than the
artifact it is taken from. -/
theorem artifactWithin_runs (hp : pool.Acyclic) (bound : Nat) (f : Frame) (s : Session)
    (hs : s.out.stack ≠ []) (hbound : depthNeeded pool s.journal f < bound) :
    ∃ s', artifactWithin pool bound f s = .ok ((), s') ∧ Kept s s' := by
  induction bound generalizing f s with
  | zero => omega
  | succ bound ih =>
    -- The step to an artifact, after its visit was noted.
    have visit : ∀ (t : Session) (g : Frame) (route : Route), t.out.stack ≠ [] →
        depthNeeded pool (t.noted g.name route).journal g < depthNeeded pool s.journal f →
        ∃ t', artifactWithin pool bound g (t.noted g.name route) = .ok ((), t') ∧ Kept t t' := by
      intro t g route ht hneeded
      obtain ⟨t', h, kept⟩ := ih g (t.noted g.name route) ht (by omega)
      have hnoted := (List.suffix_cons _ t.journal).trans kept.journal
      exact ⟨t', h, ⟨kept.written, kept.frames, kept.package, hnoted⟩⟩
    obtain ⟨body, hcontent, hwrites⟩ := Writes.content pool (artifactWithin pool bound) f
    rw [artifactWithin, hcontent]
    refine within_of_runs (hwrites.runs fun st hst t ht hj => ?_) hs
    rcases List.mem_append.1 hst with hst | hst
    · obtain ⟨g, hg, rfl⟩ := List.mem_map.1 hst
      obtain ⟨c, hc, hframe⟩ := List.mem_filterMap.1 hg
      obtain ⟨t', h, kept⟩ := visit (t.marked g.name) g .contained ht.buffer
        (depthNeeded_contained hp hc hframe (hj.trans (List.suffix_cons _ _)))
      exact ⟨(), t', h, ⟨kept.written, kept.frames, kept.package, kept.journal⟩⟩
    · obtain ⟨g, hg, rfl⟩ := List.mem_map.1 hst
      have hmem : g.name ∈ pool.names := by
        split at hg
        · exact Pool.mem_names_of_frame? (Pool.frame?_of_mem_inner hg)
        · cases hg
      rw [Step.take_scanned]
      split
      · exact ⟨(), t, rfl, .refl ht.buffer⟩
      · next hdone =>
        have hnew : ∀ w ∈ t.journal, w.name ≠ g.name := by
          intro w hw he
          refine hdone (Bool.or_eq_true_iff.2 (.inr (List.any_eq_true.2 ⟨w, hw, ?_⟩)))
          simpa using he
        obtain ⟨t', h, kept⟩ := visit t g .scanned ht.buffer (depthNeeded_scanned f g hmem hj hnew)
        exact ⟨(), t', h, kept⟩

/-- On a pool without a cycle the rendering of an artifact succeeds, and is balanced. -/
theorem artifact_runs (hp : pool.Acyclic) (f : Frame) {s : Session} (hs : s.out.stack ≠ []) :
    ∃ s', artifact pool f s = .ok ((), s') ∧ Kept s s' :=
  artifactWithin_runs hp (nestingBound pool) f s hs (depthNeeded_lt_nestingBound pool _ f)

/-- The state in which the rendering of an entry begins: its visit noted and a buffer open. -/
def entryState (visited : NameSet) (f : Frame) : Session :=
  { (Session.start visited).noted f.name .top with out := Buffers.empty.push }

/-- An entry succeeds, balanced, with the visits that the rendering of its artifact makes. -/
theorem entry_runs (hp : pool.Acyclic) (visited : NameSet) (f : Frame) :
    ∃ text t, entry pool f (Session.start visited) = .ok (text, { t with out := .empty }) ∧
      Session.isBalanced { t with out := .empty } ∧ artifact pool f (entryState visited f) = .ok ((), t) := by
  obtain ⟨t, h, kept⟩ := artifact_runs hp f (s := entryState visited f) (by simp [entryState, Buffers.push])
  obtain ⟨text, ht⟩ := Runs.capture_of_ok (s := (Session.start visited).noted f.name .top) h kept
  have hrecord : record f.name .top (Session.start visited) = .ok ((), (Session.start visited).noted f.name .top) :=
    rfl
  have hbalanced : Session.isBalanced { t with out := .empty } = true := by
    have hframes : t.scope.frames = [] := kept.frames
    simp [Session.isBalanced, Buffers.isEmpty, Buffers.empty, Scope.isEmpty, hframes]
  refine ⟨text, t, ?_, hbalanced, h⟩
  unfold entry
  rw [← Frame.name, bind_of_ok hrecord, bind_of_ok ht]
  change (if Session.isBalanced { t with out := .empty } then pure text else throw _ : Render String) _ = _
  rw [if_pos hbalanced]
  rfl

end Render

/-- A printer never breaks off. -/
theorem Printer.print_runs {p : Printer} (hp : p.pool.Acyclic) (a : Artifact) :
    ∃ text p', p.print a = .ok (text, p') := by
  unfold print
  split
  · exact ⟨none, p, rfl⟩
  · next d _ =>
    obtain ⟨text, t, h, -, -⟩ := Render.entry_runs hp p.visited ⟨a, d⟩
    rw [h]
    exact ⟨_, _, rfl⟩

/-- Every node is rendered with success and balance: a leaf inside a scope, an artifact anywhere. -/
theorem Node.visit_kept {pool : Pool} (hp : pool.Acyclic) (node : Node) {s : Session}
    (hs : s.out.stack ≠ []) (hleaf : node.isLeaf → s.scope.frames ≠ []) :
    ∃ s', node.visit pool s = .ok ((), s') ∧ Kept s s' := by
  cases hnode : node.isLeaf with
  | true =>
    have hwrites : Render.Writes (fun _ => pure ()) false [] (node.visit pool) := node.writes_of_isLeaf pool hnode
    have hruns : Render.Runs s.journal (node.visit pool) := hwrites.runs (by simp)
    obtain ⟨_, s', h, kept⟩ := hruns s ⟨hs, hleaf hnode⟩ List.suffix_rfl
    exact ⟨s', h, kept⟩
  | false =>
    cases node with
    | artifact f => exact Render.artifact_runs hp f hs
    | _ => cases hnode

/-- **Renderings are balanced.** On a pool without a containment cycle no printing and no entry
breaks off, whatever was printed before, and nothing stays open behind an entry. Each node leaves the
scopes, the depth, the number of buffers and the buffers below the active one as they were, and the
package too if there was a scope. -/
theorem rendering_balanced {pool : Pool} (hp : pool.Acyclic) :
    (∀ (p : Printer) (a : Artifact), p.pool = pool → ∃ text p', p.print a = .ok (text, p')) ∧
    (∀ (visited : NameSet) (f : Frame), ∃ text s,
      Render.entry pool f (Session.start visited) = .ok (text, s) ∧ s.isBalanced) ∧
    (∀ (node : Node) (s : Session), s.out.stack ≠ [] → (node.isLeaf → s.scope.frames ≠ []) →
      ∃ s', node.visit pool s = .ok ((), s') ∧
        s'.scope.frames = s.scope.frames ∧
        (s.scope.frames ≠ [] → s'.scope.package = s.scope.package) ∧
        s'.out.depth = s.out.depth ∧
        s'.out.stack.length = s.out.stack.length ∧
        s'.out.stack.tail = s.out.stack.tail) := by
  refine ⟨?_, fun visited f => ?_, fun node s hs hleaf => ?_⟩
  · rintro p a rfl
    exact p.print_runs hp a
  · obtain ⟨text, t, h, hbalanced, -⟩ := Render.entry_runs hp visited f
    exact ⟨text, _, h, hbalanced⟩
  · obtain ⟨s', h, kept⟩ := node.visit_kept hp hs hleaf
    obtain ⟨hdepth, hlength, htail⟩ := kept.buffers
    exact ⟨s', h, kept.frames, kept.package, hdepth, hlength, htail⟩

/-- The nested class of the sample is rendered inside its outermost class. -/
theorem rendering_balanced_sample : Pool.sample.Acyclic ∧
    ∃ text p', ({ pool := Pool.sample } : Printer).print Pool.sampleOuter = .ok (text, p') :=
  ⟨Pool.sample_acyclic, (rendering_balanced Pool.sample_acyclic).1 _ _ rfl⟩

end KotlinMetadata
