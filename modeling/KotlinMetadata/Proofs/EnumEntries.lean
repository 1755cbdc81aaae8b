/-
The entries of an enum class. They are written by one loop over their
indices, and read as rows of five: every row begins on a line of its own
and all but the last end with a comma (`Render.entriesText`).

`Render.loopText` is what the loop writes. It is followed first through one
row (`loopText_row`), then from row to row (`loopText_rows`). The end of the
class depends on the entries and on the body, which was rendered before
them; a text that is captured changes nothing else, so it is as if the end
were written from the body alone (`Render.classEnd_after`).
-/
import KotlinMetadata.Proofs.BareArtifacts
import KotlinMetadata.Proofs.Depth
import KotlinMetadata.Proofs.TypeText

namespace KotlinMetadata

/-! ## Rows -/

/-- A list in rows of a size, the last one possibly shorter. -/
inductive Rows (size : Nat) : List String → List (List String) → Prop
  | none : Rows size [] []
  | last {row} : row ≠ [] → row.length ≤ size → Rows size row [row]
  | full {row rest rows} : row.length = size → rest ≠ [] → Rows size rest rows → Rows size (row ++ rest) (row :: rows)

namespace Rows

variable {size : Nat} {names : List String} {rows : List (List String)}

theorem exists_rows (hsize : 0 < size) (names : List String) : ∃ rows, Rows size names rows := by
  generalize hn : names.length = n
  induction n using Nat.strongRecOn generalizing names with
  | ind n ih =>
    by_cases hnil : names = []
    · exact ⟨[], hnil ▸ .none⟩
    by_cases hlast : names.length ≤ size
    · exact ⟨[names], .last hnil hlast⟩
    have hdrop : names.drop size ≠ [] := fun h => hlast (List.drop_eq_nil_iff.1 h)
    obtain ⟨rows, hrows⟩ := ih (names.drop size).length (by rw [List.length_drop]; omega) _ rfl
    have hfull : (names.take size).length = size := List.length_take_of_le (by omega)
    refine ⟨names.take size :: rows, ?_⟩
    simpa using Rows.full hfull hdrop hrows

theorem eq_nil_iff (h : Rows size names rows) : rows = [] ↔ names = [] := by
  cases h with
  | none => simp
  | last hrow _ => simp [hrow]
  | full _ hrest _ => simp [hrest]

end Rows

namespace Render

/-- The rows of entries, indented and each on a line of its own. -/
def entriesText (rows : List (List String)) (depth : Nat) : String :=
  Text.joinWith ",\n" (rows.map fun row => Buffers.indentation depth ++ Text.joinWith ", " row)

/-! ## The loop -/

/-- What stands before the entry of an index. -/
def leadText (index depth : Nat) : String :=
  if index % entriesPerLine = 0 then (if index = 0 then "" else "\n") ++ Buffers.indentation depth else ""

/-- What stands after the entry of an index, if there is another. -/
def gapText (index : Nat) : String := if (index + 1) % entriesPerLine = 0 then "," else ", "

/-- What is written for entries from an index on. -/
def loopText : (index : Nat) → List String → (depth : Nat) → String
  | _, [], _ => ""
  | index, entry :: rest, depth =>
    leadText index depth ++ entry ++ (if rest.isEmpty then "" else gapText index) ++ loopText (index + 1) rest depth

theorem Prints.indentedText (text : String) :
    Prints (fun depth => Buffers.indentation depth ++ text) (writeIndented text) :=
  fun s => write (Buffers.indentation s.out.depth ++ text) s

theorem Prints.ofEq {text text' : Nat → String} {m : Render Unit} (hm : Prints text m)
    (h : ∀ depth, text depth = text' depth) : Prints text' m := by
  rwa [← funext h]

theorem enumEntries_prints (index : Nat) (names : List String) :
    Prints (loopText index names) (enumEntries index names) := by
  induction names generalizing index with
  | nil => exact .pure
  | cons entry rest ih =>
    unfold enumEntries
    -- what comes after a condition: the entries to come, the comma before them, the name before that
    extract_lets tail comma name
    have htail : Prints (loopText (index + 1) rest) (tail ()) := ih (index + 1)
    have hcomma : Prints (fun depth => (if rest.isEmpty then "" else gapText index) ++ loopText (index + 1) rest depth)
        (comma ()) := by
      by_cases hlast : rest.isEmpty
      · simp only [comma, hlast, if_true, String.empty_append]
        exact htail
      · simp only [comma, hlast, if_false, Bool.false_eq_true, gapText]
        split
        · exact .seq (.write ",") htail
        · exact (Prints.seq (.write ",") (.seq (.write " ") htail)).ofEq fun depth => (String.append_assoc ..).symm
    have hname : Prints (fun depth => (if index % entriesPerLine = 0 then Buffers.indentation depth else "") ++ entry ++
        ((if rest.isEmpty then "" else gapText index) ++ loopText (index + 1) rest depth)) (name ()) := by
      by_cases hrow : index % entriesPerLine = 0
      · simp only [name, hrow, if_true]
        exact .seq (.indentedText entry) hcomma
      · simp only [name, hrow, if_false, String.empty_append]
        exact .seq (.write entry) hcomma
    by_cases hfirst : index = 0
    · subst hfirst
      exact hname.ofEq fun depth => by simp [loopText, leadText, String.append_assoc]
    · by_cases hrow : index % entriesPerLine = 0
      · simp only [hrow, Nat.pos_of_ne_zero hfirst, decide_true, Bool.and_true, if_true] at hname ⊢
        exact (Prints.seq (.write "\n") hname).ofEq fun depth => by
          simp [loopText, leadText, hrow, hfirst, String.append_assoc]
      · simp only [hrow, decide_false, Bool.and_false, if_false, Bool.false_eq_true] at hname ⊢
        exact hname.ofEq fun depth => by simp [loopText, leadText, hrow, String.append_assoc]

/-! ## Row by row -/

variable {index : Nat} {row rest names : List String} {rows : List (List String)}

theorem leadText_of_first (h : index % 5 = 0) (depth : Nat) :
    leadText index depth = (if index = 0 then "" else "\n") ++ Buffers.indentation depth := if_pos h

theorem leadText_of_not_first (h : index % 5 ≠ 0) (depth : Nat) : leadText index depth = "" := if_neg h

theorem gapText_of_last (h : (index + 1) % 5 = 0) : gapText index = "," := if_pos h

theorem gapText_of_not_last (h : (index + 1) % 5 ≠ 0) : gapText index = ", " := if_neg h

/-- A row is led in by its first entry, and ends with a comma if it is not the last. -/
theorem loopText_row (hrow : row ≠ []) (hfits : index % 5 + row.length ≤ 5)
    (hfull : rest ≠ [] → index % 5 + row.length = 5) (depth : Nat) :
    loopText index (row ++ rest) depth = leadText index depth ++ Text.joinWith ", " row ++
      (if rest.isEmpty then "" else ",") ++ loopText (index + row.length) rest depth := by
  induction row generalizing index with
  | nil => exact absurd rfl hrow
  | cons entry row ih =>
    rw [List.length_cons] at hfits hfull
    rw [List.cons_append, loopText, Text.joinWith_cons]
    cases row with
    | nil =>
      cases rest with
      | nil => simp [Text.joinWith]
      | cons next rest =>
        have hend := hfull (List.cons_ne_nil next rest)
        rw [List.length_nil] at hend
        simp [Text.joinWith, gapText_of_last (show (index + 1) % 5 = 0 by omega)]
    | cons next row =>
      rw [List.length_cons] at hfits hfull
      have hinside : (index + 1) % 5 ≠ 0 := by omega
      have hrest := @ih (index + 1) (List.cons_ne_nil next row) (by rw [List.length_cons]; omega)
        fun hne => by
          have hend := hfull hne
          rw [List.length_cons]
          omega
      have hcount : index + (entry :: next :: row).length = index + 1 + (next :: row).length := by
        simp only [List.length_cons]
        omega
      rw [hrest, gapText_of_not_last hinside, leadText_of_not_first hinside, hcount]
      simp [String.append_assoc]

/-- From the first entry of a row on, the loop writes row by row. -/
theorem loopText_rows (h : Rows 5 names rows) (hindex : index % 5 = 0) (depth : Nat) :
    loopText index names depth = (if index = 0 ∨ names = [] then "" else "\n") ++ entriesText rows depth := by
  induction h generalizing index with
  | none => simp [loopText, entriesText, Text.joinWith]
  | @last row hrow hlength =>
    have htext := @loopText_row index row [] hrow (by omega) (fun hne => absurd rfl hne) depth
    rw [List.append_nil, leadText_of_first hindex] at htext
    rw [htext]
    simp [loopText, entriesText, Text.joinWith, hrow, String.append_assoc]
  | @full row rest rows hlength hrest hrows ih =>
    have hrow : row ≠ [] := by
      rintro rfl
      cases hlength
    have hmore : rows ≠ [] := mt hrows.eq_nil_iff.1 hrest
    rw [loopText_row hrow (by omega) (fun _ => by omega), ih (by omega), leadText_of_first hindex, entriesText,
      entriesText, List.map_cons, Text.joinWith_cons]
    have hbreak : ∀ text : String, "," ++ ("\n" ++ text) = ",\n" ++ text := fun text => (String.append_assoc ..).symm
    simp [hrow, hrest, hmore, hlength, hbreak, String.append_assoc]

/-- The entries of a class, captured. -/
theorem capture_enumEntries (h : Rows 5 names rows) (s : Session) :
    capture (enumEntries 0 names) s = .ok (entriesText rows s.out.depth, s) := by
  obtain ⟨out, hrun, hout⟩ := enumEntries_prints 0 names { s with out := s.out.push } (List.cons_ne_nil _ _)
  have htext : loopText 0 names s.out.depth = entriesText rows s.out.depth := by simp [loopText_rows h]
  have hcapture := Blind.capture_of_write hrun hout
  rw [← htext]
  exact hcapture

/-! ## The end of a class -/

/-- What stands after the head of a class with entries, by its body and at a depth: the entries are one
level deeper. -/
def classEnding (names : List String) (rows : List (List String)) (body : String) (depth : Nat) : String :=
  let entries := entriesText rows (depth + 1)
  let brace := Buffers.indentation depth ++ "\x7d\n"
  if body ≠ "" then "\x7b\n" ++ (if names = [] then "" else entries ++ ";\n") ++ body ++ brace
  else if names = [] then "\n\n"
  else if names.length ≤ 5 then "\x7b " ++ Text.trim entries ++ " \x7d\n"
  else "\x7b\n" ++ entries ++ "\n" ++ brace

/-- Writes a text that depends on the depth. -/
def writeAtDepth (text : Nat → String) : Render Unit := fun s => write (text s.out.depth) s

/-- One level down, entries are not empty, whatever their names. -/
theorem entriesText_eq_empty_iff (h : Rows 5 names rows) (depth : Nat) :
    entriesText rows (depth + 1) = "" ↔ names = [] := by
  rw [← h.eq_nil_iff]
  constructor
  · intro hempty
    cases rows with
    | nil => rfl
    | cons row rows =>
      have hindent : (Buffers.indentation (depth + 1)).toList ≠ [] := by simp [Buffers.toList_indentation]
      rw [entriesText, List.map_cons, Text.joinWith_cons] at hempty
      simp only [String.append_eq_empty_iff] at hempty
      simp [hempty.1.1] at hindent
  · rintro rfl
    rfl

theorem classEndText_eq (h : Rows 5 names rows) (body : String) (depth : Nat) :
    classEndText names.length (entriesText rows (depth + 1)) body depth = classEnding names rows body depth := by
  have hclose : " \x7d" ++ "\n" = " \x7d\n" := rfl
  have hbrace : "\x7d" ++ "\n" = "\x7d\n" := rfl
  have hlast : ";" ++ "\n" = ";\n" := rfl
  have hlines : "\n" ++ "\n" = "\n\n" := rfl
  unfold classEndText classEnding
  simp only [String.isEmpty_iff, entriesText_eq_empty_iff h, lineAt, ite_not, entriesPerLine, String.append_assoc,
    hclose, hbrace, hlast, hlines]

/-- The end of a class is one text. -/
theorem classEnd_eq_write (h : Rows 5 names rows) (body : String) (s : Session) :
    classEnd names.length (entriesText rows (s.out.depth + 1)) body s =
      writeAtDepth (classEnding names rows body) s := by
  refine eq_write (fun hs => ?_) fun hs => ?_
  · obtain ⟨out, hrun, hout⟩ := classEndText_prints names.length (entriesText rows (s.out.depth + 1)) body s hs
    rw [classEndText_eq h] at hout
    exact ⟨out, hout, hrun⟩
  · have hfirst : ∀ (text : String) (k : Unit → Render Unit), (write text >>= k) s = .error .noActiveBuffer :=
      fun text k => bind_of_error (write_of_no_buffer hs text)
    unfold classEnd
    split
    · exact hfirst _ _
    · split
      · split
        · exact hfirst _ _
        · exact hfirst _ _
      · exact hfirst _ _

/-- The entries are captured after the body and change nothing else. -/
theorem classEnd_after (h : Rows 5 names rows) (act : Render String) :
    (indented (do
      let body ← act
      let entries ← capture (enumEntries 0 names)
      return (body, entries)) >>= fun r => classEnd names.length r.2 r.1) =
    indented act >>= fun body => writeAtDepth (classEnding names rows body) := by
  funext s
  simp only [indented, bind_assoc, pure_bind]
  refine bind_congr_at rfl fun _ s₁ _ => bind_congr_at rfl fun body s₂ _ => ?_
  rw [bind_of_ok (capture_enumEntries h s₂)]
  refine bind_congr_at rfl fun _ s₃ hout => ?_
  have hdepth : s₂.out.depth = s₃.out.depth + 1 := by
    unfold outdent changeOut Buffers.outdent at hout
    cases hd : s₂.out.depth with
    | zero => simp [hd] at hout
    | succ depth =>
      simp only [hd, Except.ok.injEq, Prod.mk.injEq, true_and] at hout
      rw [← hout]
  rw [hdepth]
  exact classEnd_eq_write h body s₃

/-- Writes a class up to the space before its braces. -/
def classHead (pool : Pool) (f : Frame) (c : ClassInfo) : Render Unit := do
  header f
  jvmAnnots .block f.artifact.annotations
  onSome (versionRequirement .block) c.versionRequirement
  contextReceivers c.contextReceivers
  className c
  declareAll c.typeParameters
  declareOrigin pool c
  typeParameterList c.typeParameters ">"
  let primary ← capture (each (constructor pool) c.printedPrimary)
  write (if primary.isEmpty then " " else primary)
  enclosed ": " ", " " " typeUse c.printedSuperTypes

theorem classOf_eq (pool : Pool) (inside : Frame → Render Unit) (f : Frame) {c : ClassInfo}
    (h : Rows 5 c.enumEntryNames rows) : classOf pool inside f c = (do
      classHead pool f c
      let body ← indented (capture (classBody pool inside f.artifact c))
      writeAtDepth (classEnding c.enumEntryNames rows body)) := by
  rw [← classEnd_after h]
  unfold classOf classHead
  simp only [bind_assoc]

end Render

/-- **The entries of an enum class.** The names of the entries of any class are in rows of five, the last one
possibly shorter. At every depth the entries are written row by row, indented to it, the names with a comma
and a space between them and the rows with a comma and a line break. Whatever its body is, the class ends
after its head with one text (`classEnding`): the entries and a semicolon on lines of their own, if there
are any, and the body between braces; without a body, the entries within one line of braces if there are
no more than five and else on lines of their own; and with neither, two line breaks. -/
theorem enum_entries_in_rows (c : ClassInfo) : ∃ rows, Rows 5 c.enumEntryNames rows ∧
    (∀ s, Render.capture (Render.enumEntries 0 c.enumEntryNames) s = .ok (Render.entriesText rows s.out.depth, s)) ∧
    (∀ body s, Render.classEnd c.enumEntryNames.length (Render.entriesText rows (s.out.depth + 1)) body s =
      Render.writeAtDepth (Render.classEnding c.enumEntryNames rows body) s) ∧
    ∀ pool inside f, Render.classOf pool inside f c = (do
      Render.classHead pool f c
      let body ← Render.indented (Render.capture (Render.classBody pool inside f.artifact c))
      Render.writeAtDepth (Render.classEnding c.enumEntryNames rows body)) := by
  obtain ⟨rows, h⟩ := Rows.exists_rows (Nat.succ_pos 4) c.enumEntryNames
  refine ⟨rows, h, Render.capture_enumEntries h, Render.classEnd_eq_write h, fun pool inside f => ?_⟩
  exact Render.classOf_eq pool inside f h

end KotlinMetadata
