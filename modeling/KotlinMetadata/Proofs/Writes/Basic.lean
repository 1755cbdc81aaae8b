/-
What a rendering action is made of. `Writes` derives an action from the
operations that renderers use: writing, reading the scope, declaring type
parameters, capturing, indenting, and steps to an artifact inside the one
being rendered, which it lists in the order they are taken.

Every renderer has one derivation (`Proofs.Writes.Declaration`,
`Proofs.Writes.Artifact`). A property of renderings is then shown once, by
induction on derivations, and no renderer is opened again.
-/
import KotlinMetadata.Proofs.Containment
import KotlinMetadata.Render.Artifact

namespace KotlinMetadata

/-- The state after the visit of an artifact was noted. -/
def Session.noted (s : Session) (name : String) (route : Route) : Session :=
  { s with journal := ⟨name, route, s.out.depth, s.scope.frames.map Frame.kind⟩ :: s.journal }

/-- The state after an artifact was noted as printed inside another. -/
def Session.marked (s : Session) (name : String) : Session := { s with visited := s.visited.insert name }

/-- A step from an artifact to one inside it. -/
inductive Step where
  /-- To an artifact that the one around it contains. -/
  | contained (f : Frame)
  /-- To an artifact that a scan found. -/
  | scanned (f : Frame)

namespace Step

variable (inside : Frame → Render Unit) (f : Frame) (s : Session)

/-- Takes a step: notes the visit and renders the artifact, unless a scan finds that it is done. -/
def take : Step → Render Unit
  | contained f => do
    Render.markVisited f.name
    Render.record f.name .contained
    inside f
  | scanned f => do
    if ← Render.isDone f.name then pure ()
    else do
      Render.record f.name .scanned
      inside f

theorem take_contained : (contained f).take inside s = inside f ((s.marked f.name).noted f.name .contained) :=
  rfl

theorem take_scanned : (scanned f).take inside s =
    if s.visited.contains f.name || s.hasEmitted f.name then .ok ((), s)
    else inside f (s.noted f.name .scanned) := by
  change (if s.visited.contains f.name || s.hasEmitted f.name then pure ()
    else do Render.record f.name .scanned; inside f : Render Unit) s = _
  split
  · rfl
  · rfl

end Step

namespace Render

theorem bind_of_ok {α β : Type} {m : Render α} {k : α → Render β} {s s' : Session} {a : α}
    (h : m s = .ok (a, s')) : (m >>= k) s = k a s' := by
  change Except.bind (m s) _ = _
  rw [h]
  rfl

theorem bind_eq_ok {α β : Type} {m : Render α} {k : α → Render β} {s : Session} {r : β × Session} :
    (m >>= k) s = .ok r ↔ ∃ a s', m s = .ok (a, s') ∧ k a s' = .ok r := by
  constructor
  · intro h
    cases hm : m s with
    | error fault =>
      change Except.bind (m s) _ = _ at h
      rw [hm] at h
      cases h
    | ok result =>
      obtain ⟨a, s'⟩ := result
      exact ⟨a, s', rfl, by rw [← h, bind_of_ok hm]⟩
  · rintro ⟨a, s', hm, hk⟩
    rw [bind_of_ok hm, hk]

theorem bind_of_error {α β : Type} {m : Render α} {k : α → Render β} {s : Session} {fault : Fault}
    (h : m s = .error fault) : (m >>= k) s = .error fault := by
  change Except.bind (m s) _ = _
  rw [h]
  rfl

theorem bind_congr_at {α β : Type} {m m' : Render α} {k k' : α → Render β} {s : Session} (hm : m s = m' s)
    (hk : ∀ a t, m s = .ok (a, t) → k a t = k' a t) : (m >>= k) s = (m' >>= k') s := by
  change Except.bind (m s) _ = Except.bind (m' s) _
  rw [← hm]
  cases h : m s with
  | error fault => rfl
  | ok r => exact hk r.1 r.2 h

/-- Reads the artifacts being rendered and the package. -/
def readPlace {α : Type} (g : List Frame → String → α) : Render α := fun s =>
  .ok (g s.scope.frames s.scope.package, s)

/-- The derivations of actions that write into the active buffer and take some steps. An action that
`peeks` may look at the last character of the buffer before it has written any; the others look at
none but their own (`opened`). What is thrown away (`redone`) was written into a buffer of its own. -/
inductive Writes (inside : Frame → Render Unit) :
    (peeks : Bool) → List Step → {α : Type} → Render α → Prop
  | pure {b} {α : Type} (a : α) : Writes inside b [] (pure a : Render α)
  | bind {b l₁ l₂} {α β : Type} {m : Render α} {k : α → Render β} : Writes inside b l₁ m →
      (∀ a, Writes inside b l₂ (k a)) → Writes inside b (l₁ ++ l₂) (m >>= k)
  | write {b} (text : String) : Writes inside b [] (write text)
  | writeIndented {b} (text : String) : Writes inside b [] (writeIndented text)
  | readPlace {b} {α : Type} (g : List Frame → String → α) : Writes inside b [] (readPlace g)
  | current {b} : Writes inside b [] current
  | typeParameterName {b} (id : UInt32) : Writes inside b [] (typeParameterName id)
  | declare {b} (p : TypeParameter) : Writes inside b [] (declare p)
  | separate (brackets : List Char) : Writes inside true [] (separateUnlessAfter brackets)
  | opened {b} {text : String} {m : Render Unit} (h : text ≠ "") : Writes inside true [] m →
      Writes inside b [] (do Render.write text; m)
  | capture {b l} {m : Render Unit} : Writes inside false l m → Writes inside b l (capture m)
  | redone {b} {m₁ m₂ : Render Unit} : Writes inside false [] m₁ → Writes inside false [] m₂ →
      Writes inside b [] (Render.capture (do m₁; reset; m₂))
  | indented {b l} {α : Type} {m : Render α} : Writes inside b l m → Writes inside b l (indented m)
  | step {b} (st : Step) : Writes inside b [st] (st.take inside)

namespace Writes

variable {inside : Frame → Render Unit} {b : Bool} {l : List Step} {α β : Type}

/-! ## Sequences and choices -/

/-- An action without steps, then another. -/
theorem seq {m : Render α} {k : α → Render β} (hm : Writes inside b [] m)
    (hk : ∀ a, Writes inside b l (k a)) : Writes inside b l (m >>= k) := bind hm hk

/-- An action, then others without steps. -/
theorem andThen {m : Render α} {k : α → Render β} (hm : Writes inside b l m)
    (hk : ∀ a, Writes inside b [] (k a)) : Writes inside b l (m >>= k) := by
  have h := bind hm hk
  rwa [List.append_nil] at h

theorem ite {c : Prop} [Decidable c] {m n : Render α} (hm : Writes inside b l m)
    (hn : Writes inside b l n) : Writes inside b l (if c then m else n) := by
  split
  · exact hm
  · exact hn

/-- An action that is chosen by the place. -/
theorem atPlace {g : List Frame → String → Render α} (h : ∀ frames package, Writes inside b l (g frames package)) :
    Writes inside b l (fun s => g s.scope.frames s.scope.package s) := by
  have hread : Writes inside b l (do
      let place ← Render.readPlace Prod.mk
      g place.1 place.2) := .seq (.readPlace Prod.mk) fun place => h place.1 place.2
  exact hread

theorem newline : Writes inside b [] Render.newline := .write "\n"

theorem writeLine (text : String) : Writes inside b [] (Render.writeLine text) := .write (text ++ "\n")

theorem writeLineIndented (text : String) : Writes inside b [] (Render.writeLineIndented text) :=
  .writeIndented (text ++ "\n")

theorem resolve (qualified nesting : String) : Writes inside b [] (Render.resolve qualified nesting) :=
  .readPlace fun frames package => (Scope.mk frames .empty package).resolve qualified nesting

/-! ## Lists -/

/-- The steps for an item, if there is one. -/
theorem onSomeSteps {act : α → Render Unit} {steps : α → List Step}
    (h : ∀ a, Writes inside b (steps a) (act a)) (o : Option α) :
    Writes inside b (o.toList.flatMap steps) (Render.onSome act o) := by
  cases o with
  | none => exact .pure ()
  | some a =>
    rw [Option.toList_some, List.flatMap_singleton]
    exact h a

theorem onSome {act : α → Render Unit} {o : Option α} (h : ∀ a, Writes inside b [] (act a)) :
    Writes inside b [] (Render.onSome act o) := by
  have hs := onSomeSteps h o
  rwa [List.flatMap_eq_nil_iff.2 fun _ _ => rfl] at hs

/-- The steps for each item, one after the other. -/
theorem eachSteps {act : α → Render Unit} {steps : α → List Step}
    (h : ∀ a, Writes inside b (steps a) (act a)) (items : List α) :
    Writes inside b (items.flatMap steps) (Render.each act items) := by
  induction items with
  | nil => exact .pure ()
  | cons a items ih => exact .bind (h a) fun _ => ih

theorem each {act : α → Render Unit} (h : ∀ a, Writes inside b [] (act a)) (items : List α) :
    Writes inside b [] (Render.each act items) := by
  have hs := eachSteps h items
  rwa [List.flatMap_eq_nil_iff.2 fun _ _ => rfl] at hs

theorem eachFrom {act : Nat → α → Render Unit} (h : ∀ i a, Writes inside b [] (act i a))
    (index : Nat) (items : List α) : Writes inside b [] (Render.eachFrom act index items) := by
  induction items generalizing index with
  | nil => exact .pure ()
  | cons a items ih => exact .seq (h index a) fun _ => ih (index + 1)

theorem separated {separator : String} {act : α → Render Unit} (h : ∀ a, Writes inside b [] (act a))
    (items : List α) : Writes inside b [] (Render.separated separator act items) := by
  cases items with
  | nil => exact .pure ()
  | cons a items =>
    refine .seq (h a) fun _ => ?_
    refine each (fun c => ?_) items
    refine .seq (.write separator) fun _ => ?_
    exact h c

theorem enclosed {opening separator closing : String} {act : α → Render Unit}
    (h : ∀ a, Writes inside b [] (act a)) (items : List α) :
    Writes inside b [] (Render.enclosed opening separator closing act items) := by
  unfold Render.enclosed
  refine .ite (.pure ()) ?_
  refine .seq (.write opening) fun _ => ?_
  refine .seq (separated h items) fun _ => ?_
  exact .write closing

end Writes

end Render

end KotlinMetadata
