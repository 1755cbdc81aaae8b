/-
Reports and texts. Both outputs of a batch come from the same list of
printed artifacts: the text joins what was printed, the report counts the
artifacts and files what was printed under external names.

The counters follow from what one artifact adds to them (`Report.Counts`).
External names are in the order of the internal ones, if these have no
points (`Name.toExternal_lt`), so every entry goes to the end of the list and
none takes the place of another (`Report.entries_ofPrinted`).
-/
import KotlinMetadata.Proofs.Answers
import KotlinMetadata.Proofs.Resolution
import KotlinMetadata.Report

namespace KotlinMetadata

/-! ## External names -/

namespace Name

/-- A point for a slash, as in external names. -/
def pointed (c : Char) : Char := if c = '/' then '.' else c

theorem toList_toExternal (s : String) : (toExternal s).toList = s.toList.map pointed := by
  rw [toExternal, Text.replaceChar, String.toList_ofList]
  exact Text.replaceEach_singleton '/' '.' s.toList

/-- The point comes right before the slash, so it has the same place among the other characters. -/
theorem pointed_lt {c d : Char} (hc : c ≠ '.') (h : c < d) : pointed c < pointed d := by
  have hpoint : c.toNat ≠ 46 := fun heq => hc (Char.toNat_inj.1 heq)
  change c.toNat < d.toNat at h
  change (pointed c).toNat < (pointed d).toNat
  unfold pointed
  by_cases hcs : c = '/'
  · subst hcs
    have hds : d ≠ '/' := by
      rintro rfl
      omega
    rw [if_pos rfl, if_neg hds]
    exact Nat.lt_trans (by decide) h
  · rw [if_neg hcs]
    by_cases hds : d = '/'
    · subst hds
      have hlt : c.toNat < 47 := h
      rw [if_pos rfl]
      change c.toNat < 46
      omega
    · rw [if_neg hds]
      exact h

theorem toExternal_lt {s t : String} (hs : '.' ∉ s.toList) (h : s < t) : toExternal s < toExternal t := by
  rw [String.lt_iff] at h ⊢
  rw [toList_toExternal, toList_toExternal]
  generalize t.toList = ds at h
  generalize s.toList = cs at hs h
  induction cs generalizing ds with
  | nil =>
    cases ds with
    | nil => exact absurd h (List.lt_irrefl _)
    | cons d ds => exact List.nil_lt_cons _ _
  | cons c cs ih =>
    cases ds with
    | nil => exact absurd h (List.not_lt_nil _)
    | cons d ds =>
      rw [List.mem_cons, not_or] at hs
      rw [List.map_cons, List.map_cons, List.cons_lt_cons_iff]
      rcases List.cons_lt_cons_iff.1 h with hlt | ⟨rfl, hlt⟩
      · exact .inl (pointed_lt (Ne.symm hs.1) hlt)
      · exact .inr ⟨rfl, ih ds hs.2 hlt⟩

theorem map_pointed {s : List Char} (h : '/' ∉ s) : s.map pointed = s := by
  exact (Text.replaceEach_singleton '/' '.' s).symm.trans (Text.replaceEach_of_not_mem h)

end Name

namespace Text

variable {sep : Char} {s : List Char}

/-- A text that a character occurs in, cut at the last occurrence. -/
theorem exists_cut_of_mem (h : sep ∈ s) : ∃ front rest, s = front ++ sep :: rest ∧ sep ∉ rest := by
  obtain ⟨rest, front, heq, hnot⟩ := List.eq_append_cons_of_mem (List.mem_reverse.2 h)
  refine ⟨front.reverse, rest.reverse, ?_, mt List.mem_reverse.1 hnot⟩
  rw [← List.reverse_reverse s, heq]
  simp

theorem beforeLast?_of_not_mem (h : sep ∉ s) : beforeLast? sep s = none := by
  induction s with
  | nil => rfl
  | cons c s ih =>
    rw [List.mem_cons, not_or] at h
    rw [beforeLast?, ih h.2, if_neg (Ne.symm h.1)]

theorem beforeLast?_append (front : List Char) (h : sep ∉ s) : beforeLast? sep (front ++ sep :: s) = some front := by
  induction front with
  | nil => rw [List.nil_append, beforeLast?, beforeLast?_of_not_mem h, if_pos rfl]
  | cons c front ih => rw [List.cons_append, beforeLast?, ih]

end Text

namespace Name

variable {s : String}

theorem short_of_not_mem (h : '/' ∉ s.toList) : short s = s := by
  rw [short, Text.afterLast?_of_not_mem h, Option.getD_none, String.ofList_toList]

theorem toExternal_of_not_mem (h : '/' ∉ s.toList) : toExternal s = s := by
  rw [← String.toList_inj, toList_toExternal, map_pointed h]

/-- The parts of a name in a package. -/
theorem cut (h : '/' ∈ s.toList) :
    s.toList = (package s).toList ++ '/' :: (short s).toList ∧ '/' ∉ (short s).toList := by
  obtain ⟨front, rest, heq, hrest⟩ := Text.exists_cut_of_mem h
  have hpackage : package s = String.ofList front := by
    rw [package, heq, Text.beforeLast?_append front hrest, Option.getD_some]
  have hshort : short s = String.ofList rest := by
    rw [short, heq, Text.afterLast?_append front hrest, Option.getD_some]
  rw [hpackage, hshort, String.toList_ofList, String.toList_ofList]
  exact ⟨heq, hrest⟩

/-- An external name is its package, a point and its short name. -/
theorem toExternal_of_mem (h : '/' ∈ s.toList) : toExternal s = externalPackage s ++ "." ++ short s := by
  obtain ⟨heq, hrest⟩ := cut h
  rw [← String.toList_inj, toList_toExternal, heq, List.map_append, List.map_cons, map_pointed hrest,
    String.toList_append, String.toList_append, externalPackage, toList_toExternal]
  simp [pointed]

/-- The short name is the same in both forms. -/
theorem shortExternal_toExternal (hs : '.' ∉ s.toList) : shortExternal (toExternal s) = short s := by
  by_cases h : '/' ∈ s.toList
  · have hpoint : '.' ∉ (short s).toList := by
      rw [(cut h).1] at hs
      exact fun hmem => hs (List.mem_append_right _ (List.mem_cons_of_mem _ hmem))
    rw [shortExternal, toExternal_of_mem h, String.append_assoc, String.toList_append, String.toList_append]
    change String.ofList ((Text.afterLast? '.' (_ ++ '.' :: (short s).toList)).getD _) = _
    rw [Text.afterLast?_append _ hpoint, Option.getD_some, String.ofList_toList]
  · rw [toExternal_of_not_mem h, short_of_not_mem h, shortExternal, Text.afterLast?_of_not_mem hs, Option.getD_none,
      String.ofList_toList]

end Name

/-! ## Counters -/

/-- The functions that a content declares. -/
def Content.functions : Content → List Function
  | .classOf info => info.members.functions
  | .fileFacade members => members.functions
  | .synthetic info => info.functions
  | .multiFileFacade _ => []
  | .multiFilePart info => info.members.functions

namespace Artifact

/-- Whether an artifact has metadata of a kind. -/
def isOf (kind : ContentKind) (a : Artifact) : Bool := a.metadata.any (·.kind = kind)

/-- The functions that the metadata of an artifact declares. -/
def functions (a : Artifact) : List Function := a.metadata.elim [] (·.content.functions)

end Artifact

namespace Report

variable {r : Report} {as : List Artifact}

/-- What the counters of a report on some artifacts are. -/
structure Counts (r : Report) (as : List Artifact) : Prop where
  classes : r.classes = as.length
  ofKind : ∀ k, r.ofKind k = as.countP (·.isOf k)
  normal : r.normalFunctions = ((as.filter (!·.isOf .synthetic)).flatMap (·.functions)).length
  synthetic : r.syntheticFunctions = ((as.filter (·.isOf .synthetic)).flatMap (·.functions)).length

/-- One artifact more, printed or not. -/
theorem Counts.record (h : r.Counts as) (a : Artifact) (text : Option String) :
    (r.record a text).Counts (as ++ [a]) := by
  obtain ⟨hclasses, hkind, hnormal, hsynthetic⟩ := h
  unfold Report.record
  cases hd : a.metadata with
  | none => constructor <;> simp [*, Artifact.isOf, Artifact.functions]
  | some d =>
    obtain ⟨version, content⟩ := d
    refine ⟨?_, fun k => ?_, ?_, ?_⟩
    · simp [hclasses]
    · have hof : a.isOf k = decide (content.kind = k) := by rw [Artifact.isOf, hd]; rfl
      by_cases hk : k = content.kind
      · subst hk
        simp [hkind, hof, Metadata.kind]
      · simp [hkind, hof, Metadata.kind, hk, Ne.symm hk]
    all_goals
      cases content <;>
        simp [*, Artifact.isOf, Artifact.functions, Metadata.kind, Content.kind, Content.functions,
          Content.normalFunctions, Content.syntheticFunctions, Content.members?]

theorem counts_ofPrinted (input : String) (printed : List (Artifact × Option String)) :
    (ofPrinted input printed).Counts (printed.map (·.1)) := by
  have run : ∀ (r : Report) (as : List Artifact), r.Counts as →
      (printed.foldl (fun r x => r.record x.1 x.2) r).Counts (as ++ printed.map (·.1)) := by
    induction printed with
    | nil => intro r as h; simpa using h
    | cons x printed ih =>
      intro r as h
      have hrest := ih _ _ (h.record x.1 x.2)
      rw [List.append_assoc] at hrest
      exact hrest
  exact run _ [] ⟨rfl, fun _ => rfl, rfl, rfl⟩

/-- An artifact with metadata is of one kind. -/
theorem countP_isOf (as : List Artifact) :
    as.countP (·.isOf .classOf) + as.countP (·.isOf .fileFacade) + as.countP (·.isOf .multiFileFacade) +
      as.countP (·.isOf .multiFilePart) + as.countP (·.isOf .synthetic) = as.countP (·.metadata.isSome) := by
  induction as with
  | nil => rfl
  | cons a as ih =>
    simp only [List.countP_cons, ← ih, Artifact.isOf]
    cases a.metadata with
    | none => rfl
    | some d => cases hk : d.kind <;> simp [hk] <;> omega

/-! ## Entries -/

/-- The greatest key goes to the end. -/
theorem place_of_greatest {key : String} {e : ReportEntry} {entries : List (String × ReportEntry)}
    (h : ∀ x ∈ entries, x.1 < key) : place key e entries = entries ++ [(key, e)] := by
  induction entries with
  | nil => rfl
  | cons x entries ih =>
    have hlt : x.1 < key := h x List.mem_cons_self
    have hne : key ≠ x.1 := fun heq => String.lt_irrefl _ (heq ▸ hlt)
    rw [place, if_neg (fun hgt => String.lt_irrefl _ (String.lt_trans hlt hgt)), if_neg hne,
      ih fun y hy => h y (List.mem_cons_of_mem _ hy), List.cons_append]

/-- The entry for what was printed of an artifact. -/
def filed? (x : Artifact × Option String) : Option ReportEntry :=
  x.1.metadata.bind fun d => x.2.map (entryOf x.1 d.kind)

/-- The entries for what was printed, by external names. -/
def filed (printed : List (Artifact × Option String)) : List (String × ReportEntry) :=
  printed.filterMap fun x => (filed? x).map (x.1.externalName, ·)

theorem entries_record (r : Report) (a : Artifact) (text : Option String) :
    (r.record a text).entries = (filed? (a, text)).elim r.entries (place a.externalName · r.entries) := by
  unfold record filed?
  cases a.metadata <;> cases text <;> rfl

theorem filed_concat (printed : List (Artifact × Option String)) (x : Artifact × Option String) :
    filed (printed ++ [x]) = filed printed ++ ((filed? x).map (x.1.externalName, ·)).toList := by
  rw [filed, List.filterMap_append]
  cases hx : filed? x <;> simp [filed, hx]

/-- The keys are the external names, in the order of the artifacts. -/
theorem keys_filed_sublist (printed : List (Artifact × Option String)) :
    ((filed printed).map (·.1)).Sublist (printed.map (·.1.externalName)) := by
  induction printed with
  | nil => exact .slnil
  | cons x printed ih =>
    rw [filed, List.filterMap_cons]
    cases filed? x with
    | none => exact ih.cons _
    | some e => exact ih.cons_cons _

/-- If the external names increase, each artifact adds its entry at the end. -/
theorem entries_ofPrinted (input : String) {printed : List (Artifact × Option String)}
    (h : (printed.map (·.1.externalName)).Pairwise (· < ·)) : (ofPrinted input printed).entries = filed printed := by
  have run : ∀ (r : Report) (done : List (Artifact × Option String)), r.entries = filed done →
      ((done ++ printed).map (·.1.externalName)).Pairwise (· < ·) →
      (printed.foldl (fun r x => r.record x.1 x.2) r).entries = filed (done ++ printed) := by
    clear h
    induction printed with
    | nil => intro r done hr _; simpa using hr
    | cons x printed ih =>
      intro r done hr hsorted
      rw [List.append_cons] at hsorted ⊢
      refine ih _ (done ++ [x]) ?_ hsorted
      -- whatever is there already has a smaller key
      have hgreatest : ∀ e ∈ r.entries, e.1 < x.1.externalName := by
        intro e he
        rw [hr] at he
        rw [List.append_assoc, List.map_append, List.pairwise_append] at hsorted
        have hkey := (keys_filed_sublist done).subset (List.mem_map_of_mem he)
        exact hsorted.2.2 _ hkey _ (List.mem_map_of_mem (by simp))
      rw [entries_record, filed_concat, ← hr]
      cases filed? x with
      | none => simp
      | some e => exact place_of_greatest hgreatest
  exact run _ [] rfl h

/-- An artifact is found under its external name exactly if it has an entry. -/
theorem lookup_filed {printed : List (Artifact × Option String)} (h : (printed.map (·.1.externalName)).Nodup)
    {a : Artifact} {answer : Option String} (ha : (a, answer) ∈ printed) :
    (filed printed).lookup a.externalName = filed? (a, answer) := by
  induction printed with
  | nil => cases ha
  | cons y printed ih =>
    rw [List.map_cons, List.nodup_cons] at h
    rw [filed, List.filterMap_cons]
    rcases List.mem_cons.1 ha with rfl | ha
    · cases filed? (a, answer) with
      | none =>
        -- no later entry has the same key
        change (filed printed).lookup a.externalName = none
        rw [List.lookup_eq_none_iff]
        intro e he
        have hkey := (keys_filed_sublist printed).subset (List.mem_map_of_mem he)
        exact bne_iff_ne.2 fun heq => h.1 (heq ▸ hkey)
      | some e => simp
    · have hne : a.externalName ≠ y.1.externalName := fun heq => h.1 (List.mem_map.2 ⟨(a, answer), ha, heq⟩)
      cases filed? y with
      | none => exact ih h.2 ha
      | some e =>
        simp only [Option.map_some, List.lookup_cons, beq_false_of_ne hne]
        exact ih h.2 ha

end Report

/-! ## Documents -/

namespace Json

/-- The value that a key has in an object. -/
def member? (key : String) : Json → Option Json
  | .object members => members.lookup key
  | _ => none

/-- The value that a path of keys leads to. -/
def at? : List String → Json → Option Json
  | [], doc => some doc
  | key :: path, doc => (doc.member? key).bind (at? path)

/-- The string that a path of keys leads to. -/
def textAt? (path : List String) (doc : Json) : Option String :=
  match doc.at? path with
  | some (.string text) => some text
  | _ => none

end Json

namespace Report

variable {r : Report} {as : List Artifact} {printed : List (Artifact × Option String)}

/-- A document that counts artifacts: all of them, those of each kind, which are those with metadata, and
the functions they declare. -/
structure Tells (doc : Json) (as : List Artifact) : Prop where
  classes : doc.at? ["statistics", "java", "classes"] = some (count as.length)
  kinds : doc.at? ["statistics", "kotlin", "metadata"] =
    some (.object (ContentKind.byLabel.map fun k => (k.label, count (as.countP (·.isOf k)))))
  kinds_sum : as.countP (·.isOf .classOf) + as.countP (·.isOf .fileFacade) + as.countP (·.isOf .multiFileFacade) +
    as.countP (·.isOf .multiFilePart) + as.countP (·.isOf .synthetic) = as.countP (·.metadata.isSome)
  normal : doc.at? ["statistics", "kotlin", "functions", "normal"] =
    some (count ((as.filter (!·.isOf .synthetic)).flatMap (·.functions)).length)
  synthetic : doc.at? ["statistics", "kotlin", "functions", "synthetic"] =
    some (count ((as.filter (·.isOf .synthetic)).flatMap (·.functions)).length)

theorem Counts.tells (h : r.Counts as) : Tells r.toJson as := by
  obtain ⟨hclasses, hkind, hnormal, hsynthetic⟩ := h
  refine ⟨?_, ?_, countP_isOf as, ?_, ?_⟩
  · rw [← hclasses]; rfl
  · simp only [← hkind]; rfl
  · rw [← hnormal]; rfl
  · rw [← hsynthetic]; rfl

/-- A document that has one member for each artifact with a text, under its external name: the package,
the short name, the kind and the text. The external name is the package, a point and the short name, or
the short name alone in the default package. -/
structure Files (doc : Json) (printed : List (Artifact × Option String)) : Prop where
  keys : ∃ members, doc.at? ["metadata"] = some (.object members) ∧
    members.map (·.1) = (Printer.listed printed).map (·.1.externalName) ∧ (members.map (·.1)).Nodup
  entry : ∀ a text, (a, some text) ∈ printed → ∃ d, a.metadata = some d ∧
    doc.at? ["metadata", a.externalName] = some (.object [
      ("package", .string (Name.externalPackage a.name)), ("name", .string (Name.short a.name)),
      ("kind", .string d.kind.label), ("printed", .string text)]) ∧
    a.externalName =
      if '/' ∈ a.name.toList then Name.externalPackage a.name ++ "." ++ Name.short a.name else Name.short a.name

theorem lookup_entryJson (key : String) (entries : List (String × ReportEntry)) :
    (entries.map fun x => (x.1, entryJson x.2)).lookup key = (entries.lookup key).map entryJson := by
  induction entries with
  | nil => rfl
  | cons x entries ih =>
    rw [List.map_cons, List.lookup_cons, List.lookup_cons, ih]
    cases key == x.1 <;> rfl

/-- What a report has under a key. -/
theorem at?_entry (r : Report) (key : String) (path : List String) :
    r.toJson.at? ("metadata" :: key :: path) = ((r.entries.lookup key).map entryJson).bind (Json.at? path) := by
  rw [← lookup_entryJson]
  rfl

section Filed

variable (hmetadata : ∀ a text, (a, some text) ∈ printed → ∃ d, a.metadata = some d)
include hmetadata

/-- There is an entry for each artifact with a text. -/
theorem keys_filed : (filed printed).map (·.1) = (Printer.listed printed).map (·.1.externalName) := by
  rw [filed, Printer.listed, List.map_filterMap, List.map_filterMap]
  refine List.filterMap_congr fun x hx => ?_
  obtain ⟨a, answer⟩ := x
  cases answer with
  | none => cases hd : a.metadata <;> simp [filed?, hd]
  | some text =>
    obtain ⟨d, hd⟩ := hmetadata a text hx
    simp [filed?, hd]

variable (hentries : r.entries = filed printed) (hdistinct : (printed.map (·.1.externalName)).Nodup)
include hentries hdistinct

/-- The text under the external name of an artifact is what was printed of it. -/
theorem textAt?_printed {a : Artifact} {answer : Option String} (ha : (a, answer) ∈ printed) :
    r.toJson.textAt? ["metadata", a.externalName, "printed"] = answer := by
  rw [Json.textAt?, at?_entry, hentries, lookup_filed hdistinct ha, filed?]
  cases answer with
  | none => cases a.metadata <;> rfl
  | some text =>
    obtain ⟨d, hd⟩ := hmetadata a text ha
    rw [hd]
    rfl

theorem files_toJson (hnames : ∀ x ∈ printed, '.' ∉ x.1.name.toList) : Files r.toJson printed := by
  constructor
  · have hkeys : (r.entries.map fun x => (x.1, entryJson x.2)).map (·.1) = (filed printed).map (·.1) := by
      rw [hentries, List.map_map]
      rfl
    refine ⟨_, rfl, ?_, ?_⟩
    · rw [hkeys, keys_filed hmetadata]
    · rw [hkeys]
      exact hdistinct.sublist (keys_filed_sublist printed)
  · intro a text ha
    obtain ⟨d, hd⟩ := hmetadata a text ha
    refine ⟨d, hd, ?_, ?_⟩
    · rw [at?_entry, hentries, lookup_filed hdistinct ha, filed?, hd, ← Name.shortExternal_toExternal (hnames _ ha)]
      rfl
    · split
      · next hslash => exact Name.toExternal_of_mem hslash
      · next hslash => rw [Artifact.externalName, Name.toExternal_of_not_mem hslash, Name.short_of_not_mem hslash]

end Filed

end Report

/-! ## Outputs -/

namespace Printer

variable {p p' : Printer} {a : Artifact} {as : List Artifact} {answer : Option String}
  {printed before after : List (Artifact × Option String)}

/-- Printing several artifacts is printing the first, and the others with the printer that it leaves. -/
theorem printEach_cons : p.printEach (a :: as) = .ok (printed, p') ↔ ∃ answer q answers,
    p.print a = .ok (answer, q) ∧ q.printEach as = .ok (answers, p') ∧ printed = (a, answer) :: answers := by
  constructor
  · intro h
    unfold printEach at h
    split at h
    · cases h
    · next answer q hprint =>
      split at h
      · cases h
      · next answers r hrest =>
        cases h
        exact ⟨answer, q, answers, hprint, hrest, rfl⟩
  · rintro ⟨answer, q, answers, hprint, hrest, rfl⟩
    simp only [printEach, hprint, hrest]

/-- Printing goes through all artifacts, and gives a text only for one with metadata. -/
theorem printEach_shows (h : p.printEach as = .ok (printed, p')) :
    printed.map (·.1) = as ∧ ∀ a text, (a, some text) ∈ printed → ∃ d, a.metadata = some d := by
  induction as generalizing p printed with
  | nil =>
    cases h
    simp
  | cons a as ih =>
    obtain ⟨answer, q, answers, hprint, hrest, rfl⟩ := printEach_cons.1 h
    obtain ⟨hmap, hmetadata⟩ := ih hrest
    refine ⟨by rw [List.map_cons, hmap], fun b text hb => ?_⟩
    rcases List.mem_cons.1 hb with heq | hb
    · cases heq
      rcases print_cases hprint with ⟨hnone, -, -⟩ | ⟨d, -, -, hsome, -⟩
      · simp [print, hnone] at hprint
      · exact ⟨d, (Option.filter_eq_some_iff.1 hsome).1⟩
    · exact hmetadata b text hb

/-- Each answer is that of the printer that has printed the artifacts before it. -/
theorem printEach_at (h : p.printEach as = .ok (printed, p')) (hat : printed = before ++ (a, answer) :: after) :
    ∃ q q', p.printEach (before.map (·.1)) = .ok (before, q) ∧ q.print a = .ok (answer, q') := by
  induction before generalizing p as printed with
  | nil =>
    cases as with
    | nil =>
      cases h
      cases hat
    | cons b as =>
      obtain ⟨_, q, _, hprint, -, rfl⟩ := printEach_cons.1 h
      cases hat
      exact ⟨p, q, rfl, hprint⟩
  | cons x before ih =>
    cases as with
    | nil =>
      cases h
      cases hat
    | cons b as =>
      obtain ⟨_, q, answers, hprint, hrest, rfl⟩ := printEach_cons.1 h
      cases hat
      obtain ⟨r, r', hbefore, hlast⟩ := ih hrest rfl
      exact ⟨r, r', printEach_cons.2 ⟨_, q, _, hprint, hbefore, rfl⟩, hlast⟩

/-- Artifacts with the answers of a printer that prints them one after the other. -/
structure PrintsEach (p : Printer) (as : List Artifact) (printed : List (Artifact × Option String)) : Prop where
  run : ∃ p', p.printEach as = .ok (printed, p')
  artifacts : printed.map (·.1) = as
  /-- Each answer is that of `print`, with what was marked for the artifacts before. -/
  answer : ∀ before a answer after, printed = before ++ (a, answer) :: after →
    ∃ q q', p.printEach (before.map (·.1)) = .ok (before, q) ∧ q.print a = .ok (answer, q')

/-- Artifacts and answers that stand at the same place belong together. -/
theorem PrintsEach.mem_of_getElem? {i : Nat} (h : p.PrintsEach as printed) (ha : as[i]? = some a)
    (hanswer : (printed.map (·.2))[i]? = some answer) : (a, answer) ∈ printed := by
  rw [← h.artifacts] at ha
  rw [List.getElem?_map, Option.map_eq_some_iff] at ha hanswer
  obtain ⟨x, hx, rfl⟩ := ha
  obtain ⟨y, hy, rfl⟩ := hanswer
  obtain rfl : x = y := Option.some.inj (hx.symm.trans hy)
  exact List.mem_of_getElem? hx

end Printer

namespace Batch

variable {b : Batch} {printed : List (Artifact × Option String)}

/-- The printer that a batch begins with. It has printed nothing yet. -/
def printer (b : Batch) : Printer where
  pool := b.pool
  excludeEmbedded := b.excludeEmbedded
  visited := .empty

theorem printed_printsEach (h : b.printed = .ok printed) : b.printer.PrintsEach b.accepted printed := by
  change (b.printer.printEach b.accepted).map (·.1) = .ok printed at h
  cases heach : b.printer.printEach b.accepted with
  | error fault =>
    rw [heach] at h
    cases h
  | ok result =>
    rw [heach] at h
    cases h
    exact ⟨⟨_, heach⟩, (Printer.printEach_shows heach).1, fun _ _ _ _ => Printer.printEach_at heach⟩

theorem exists_printed (hp : b.pool.Acyclic) :
    ∃ printed, b.printed = .ok printed ∧ ∀ x ∈ printed, b.printer.Answers x.1 x.2 := by
  obtain ⟨printed, p', heach, -, hanswers⟩ := Printer.printEach_answers (p := b.printer) hp b.accepted
  refine ⟨printed, ?_, hanswers⟩
  change (b.printer.printEach b.accepted).map (·.1) = _
  rw [heach]
  rfl

theorem accepted_sorted (b : Batch) : (b.accepted.map (·.name)).Pairwise (· < ·) :=
  b.pool.sorted.sublist (List.filter_sublist.map _)

theorem externalName_sorted (hnames : ∀ a ∈ b.pool.artifacts, '.' ∉ a.name.toList) :
    (b.accepted.map (·.externalName)).Pairwise (· < ·) := by
  have hsorted := b.accepted_sorted
  rw [List.pairwise_map] at hsorted ⊢
  exact hsorted.imp_of_mem fun ha _ hlt => Name.toExternal_lt (hnames _ (List.mem_of_mem_filter ha)) hlt

end Batch

/-- **Report and text agree.** Take a batch over a pool whose names have no points, with any filter, options
and divider. It prints the artifacts that the filter accepts one after the other, with a new printer, and has
for each the answer of that printer; if nothing contains itself it succeeds, and has a text for exactly those
artifacts that are not left out. The report counts the accepted artifacts, those with metadata by their kinds,
and the functions they declare, and has one entry for each artifact with a text, by its external name. The
other output is those texts, as the report has them, in the order of the internal names and with the divider
between them. -/
theorem report_and_text_agree {b : Batch} (hnames : ∀ a ∈ b.pool.artifacts, '.' ∉ a.name.toList) (divider : String) :
    (b.pool.Acyclic → ∃ printed, b.printed = .ok printed ∧ ∀ x ∈ printed, b.printer.Answers x.1 x.2) ∧
    (b.accepted.map (·.name)).Pairwise (· < ·) ∧
    ∀ printed, b.printed = .ok printed → b.printer.PrintsEach b.accepted printed ∧ ∃ doc,
      { b with layout := .report }.output = .ok (doc.pretty 0 ++ "\n") ∧
      Report.Tells doc b.accepted ∧ Report.Files doc printed ∧
      { b with layout := .divided divider }.output = .ok (Text.joinWith divider
        (b.accepted.filterMap fun a => doc.textAt? ["metadata", a.externalName, "printed"])) := by
  refine ⟨Batch.exists_printed, b.accepted_sorted, fun printed h => ?_⟩
  have hprints := Batch.printed_printsEach h
  obtain ⟨p', hrun⟩ := hprints.run
  obtain ⟨hmap, hmetadata⟩ := Printer.printEach_shows hrun
  have hsorted : (printed.map (·.1.externalName)).Pairwise (· < ·) := by
    have hexternal := Batch.externalName_sorted hnames
    rwa [← hmap, List.map_map] at hexternal
  have hdistinct : (printed.map (·.1.externalName)).Nodup := hsorted.imp fun hlt => Std.ne_of_lt hlt
  have hentries := Report.entries_ofPrinted b.input hsorted
  have hpoints : ∀ x ∈ printed, '.' ∉ x.1.name.toList := fun x hx =>
    hnames _ (List.mem_of_mem_filter (hmap ▸ List.mem_map_of_mem hx))
  refine ⟨hprints, (Report.ofPrinted b.input printed).toJson, ?_, ?_, ?_, ?_⟩
  · change b.printed.map _ = _
    rw [h]
    rfl
  · rw [← hmap]
    exact (Report.counts_ofPrinted b.input printed).tells
  · exact Report.files_toJson hmetadata hentries hdistinct hpoints
  · have htexts : printed.filterMap (·.2) = b.accepted.filterMap fun a =>
        (Report.ofPrinted b.input printed).toJson.textAt? ["metadata", a.externalName, "printed"] := by
      rw [← hmap, List.filterMap_map]
      exact List.filterMap_congr fun x hx => (Report.textAt?_printed hmetadata hentries hdistinct hx).symm
    change b.printed.map _ = _
    rw [h, ← htexts]
    rfl

/-- The sample as a batch. -/
def Batch.sample : Batch where
  pool := .sample
  layout := .report
  input := "sample.json"

/-- What the batch prints of the companion of the outermost class. -/
def Batch.sampleText : String :=
  "package pkg\n\n/**\n* Kotlin companion class (metadata version 1.9.0).\n" ++
  "* From Java class: pkg.Outer$Companion\n*/\ncompanion object Outer_Companion \n\n"

theorem report_and_text_agree_sample : (∀ a ∈ Batch.sample.pool.artifacts, '.' ∉ a.name.toList) ∧ ∃ doc : Json,
    { Batch.sample with layout := .report }.output = .ok (doc.pretty 0 ++ "\n") ∧
    doc.at? ["statistics", "java", "classes"] = some (Report.count 3) ∧
    doc.at? ["metadata", "pkg.Outer$Companion"] = some (.object [
      ("package", .string "pkg"), ("name", .string "Outer$Companion"), ("kind", .string "class"),
      ("printed", .string Batch.sampleText)]) ∧
    { Batch.sample with layout := .divided "\n" }.output = .ok (Text.joinWith "\n"
      (Pool.sampleArtifacts.filterMap fun a => doc.textAt? ["metadata", a.externalName, "printed"])) := by
  have hnames : ∀ a ∈ Batch.sample.pool.artifacts, '.' ∉ a.name.toList := by decide
  obtain ⟨hruns, -, hall⟩ := report_and_text_agree hnames "\n"
  obtain ⟨printed, hprinted, -⟩ := hruns Pool.sample_acyclic
  obtain ⟨hprints, doc, hreport, htells, hfiles, htext⟩ := hall printed hprinted
  have haccepted : Batch.sample.accepted = Pool.sampleArtifacts := rfl
  -- The companion comes second, after the class that contains it.
  have hartifact : Batch.sample.accepted[1]? = some Pool.sampleCompanion := rfl
  have htexts : (Batch.sample.printed.map fun printed => (printed.map (·.2))[1]?) =
      .ok (some (some Batch.sampleText)) := by decide +kernel
  rw [hprinted] at htexts
  have hcompanion : (Pool.sampleCompanion, some Batch.sampleText) ∈ printed :=
    hprints.mem_of_getElem? hartifact (Except.ok.inj htexts)
  obtain ⟨d, hd, hentry, -⟩ := hfiles.entry _ _ hcompanion
  cases hd
  rw [haccepted] at htext htells
  exact ⟨hnames, doc, hreport, htells.classes, hentry, htext⟩

end KotlinMetadata
