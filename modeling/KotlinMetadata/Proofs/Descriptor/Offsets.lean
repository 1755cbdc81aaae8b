/-
Reading descriptors by byte offsets. These readers walk one text by offsets
and cut pieces out of it, and a cut inside a character or past the end is a
trouble of its own; the readers on lists of characters cut nothing, as they
hand on what is left.

Both give the same answers (`parseType_eq`, `parseMethod_eq`),
so no cut ever goes wrong: every offset that is come to is the number of
bytes of the characters before it (`typeAt_eq`). The loop over parameters
ends because the offset grows with every type (`typeAt_advances`).
-/
import KotlinMetadata.Proofs.Descriptor.Grammar

namespace KotlinMetadata.Descriptor

/-! ## Bytes -/

@[simp] theorem byteCount_nil : byteCount [] = 0 := rfl

@[simp] theorem byteCount_cons (c : Char) (s : List Char) : byteCount (c :: s) = c.utf8Size + byteCount s := rfl

@[simp] theorem byteCount_append (s t : List Char) : byteCount (s ++ t) = byteCount s + byteCount t := by
  induction s with
  | nil => simp
  | cons c s ih => simp [ih, Nat.add_assoc]

theorem byteCount_eq (s : List Char) : byteCount s = (String.ofList s).utf8ByteSize := by
  induction s with
  | nil => rfl
  | cons c s ih =>
    rw [← List.singleton_append, String.ofList_append, String.utf8ByteSize_append, ← ih, byteCount_append,
      ← String.singleton_eq_ofList, String.utf8ByteSize_singleton]
    rfl

theorem byteCount_toList (d : String) : byteCount d.toList = d.utf8ByteSize := by
  rw [byteCount_eq, String.ofList_toList]

/-- A text cut after a number of bytes, unless that is past its end or inside a character. -/
def cut? : Nat → List Char → Option (List Char × List Char)
  | 0, s => some ([], s)
  | _ + 1, [] => none
  | n + 1, c :: s =>
    if c.utf8Size ≤ n + 1 then (cut? (n + 1 - c.utf8Size) s).map fun (before, after) => (c :: before, after)
    else none

theorem cut?_append (before after : List Char) : cut? (byteCount before) (before ++ after) = some (before, after) := by
  induction before with
  | nil => cases after <;> rfl
  | cons c before ih =>
    have hpos := c.utf8Size_pos
    obtain ⟨n, hn⟩ : ∃ n, byteCount (c :: before) = n + 1 := ⟨c.utf8Size + byteCount before - 1, by simp; omega⟩
    have hrest : n + 1 - c.utf8Size = byteCount before := by
      rw [← hn]
      simp
    rw [hn, List.cons_append, cut?, if_pos (by rw [← hn]; simp), hrest, ih]
    rfl

theorem of_cut? {n : Nat} {s before after : List Char} (h : cut? n s = some (before, after)) :
    s = before ++ after ∧ byteCount before = n := by
  induction s generalizing n before with
  | nil =>
    cases n with
    | zero =>
      cases h
      exact ⟨rfl, rfl⟩
    | succ n => cases h
  | cons c s ih =>
    cases n with
    | zero =>
      cases h
      exact ⟨rfl, rfl⟩
    | succ n =>
      rw [cut?] at h
      split at h
      · next hsize =>
        obtain ⟨⟨front, back⟩, hcut, heq⟩ := Option.map_eq_some_iff.1 h
        cases heq
        obtain ⟨rfl, hcount⟩ := ih hcut
        exact ⟨rfl, by rw [byteCount_cons, hcount]; omega⟩
      · cases h

/-- The number of bytes before the first occurrence of a character. -/
def byteIndex? (c : Char) : List Char → Option Nat
  | [] => none
  | x :: s => if x = c then some 0 else (byteIndex? c s).map (x.utf8Size + ·)

theorem byteIndex?_append {c : Char} {s : List Char} (h : c ∉ s) (rest : List Char) :
    byteIndex? c (s ++ c :: rest) = some (byteCount s) := by
  induction s with
  | nil => simp [byteIndex?]
  | cons x s ih =>
    obtain ⟨hx, hs⟩ := List.ne_and_not_mem_of_not_mem_cons h
    simp [byteIndex?, Ne.symm hx, ih hs]

theorem lt_of_byteIndex? {c : Char} {s : List Char} {n : Nat} (h : byteIndex? c s = some n) :
    n + c.utf8Size ≤ byteCount s := by
  induction s generalizing n with
  | nil => cases h
  | cons x s ih =>
    rw [byteIndex?] at h
    split at h
    · next hx =>
      cases h
      rw [hx, byteCount_cons]
      omega
    · obtain ⟨m, hm, rfl⟩ := Option.map_eq_some_iff.1 h
      have := ih hm
      rw [byteCount_cons]
      omega

theorem byteIndex?_eq_none {c : Char} {s : List Char} (h : c ∉ s) : byteIndex? c s = none := by
  induction s with
  | nil => rfl
  | cons x s ih =>
    obtain ⟨hx, hs⟩ := List.ne_and_not_mem_of_not_mem_cons h
    simp [byteIndex?, Ne.symm hx, ih hs]

/-! ## The readers -/

/-- What can go wrong when a descriptor is read by offsets. -/
inductive Trouble where
  /-- A cut inside a character or past the end. -/
  | badCut
  /-- The text is no descriptor. -/
  | malformed (why : Malformed)
deriving DecidableEq, Repr

namespace ByOffset

/-- The text from an offset on. -/
def textFrom (d : String) (offset : Nat) : Except Trouble (List Char) :=
  match cut? offset d.toList with
  | some (_, after) => .ok after
  | none => .error .badCut

/-- The text between two offsets. -/
def textBetween (d : String) (first last : Nat) : Except Trouble (List Char) :=
  if first ≤ last then
    match textFrom d first with
    | .error trouble => .error trouble
    | .ok rest =>
      match cut? (last - first) rest with
      | some (before, _) => .ok before
      | none => .error .badCut
  else .error .badCut

/-- The element that begins at an offset, and the offset behind it. -/
def elementAt (d : String) (start : Nat) : Except Trouble (Element × Nat) :=
  match textFrom d start with
  | .error trouble => .error trouble
  | .ok [] => .error (.malformed (if d.isEmpty then .empty else .unterminated d))
  | .ok (c :: rest) =>
    match Primitive.ofLetter? c with
    | some p => .ok (.primitive p, start + 1)
    | none =>
      if c = 'L' then
        match byteIndex? ';' (c :: rest) with
        | none => .error (.malformed (.unterminated d))
        | some length =>
          match textBetween d (start + 1) (start + length) with
          | .error trouble => .error trouble
          | .ok name => .ok (.object name, start + length + 1)
      else .error (.malformed (.unexpected d start c))

/-- The type that begins at an offset, and the offset behind it. -/
def typeAt (d : String) (offset : Nat) : Except Trouble (FieldType × Nat) :=
  match textFrom d offset with
  | .error trouble => .error trouble
  | .ok rest =>
    let dimensions := (rest.takeWhile (· = '[')).length
    match elementAt d (offset + dimensions) with
    | .error trouble => .error trouble
    | .ok (e, next) => .ok (⟨dimensions, e⟩, next)

/-- An element ends behind its start and within the text. -/
theorem elementAt_advances {d : String} {start next : Nat} {e : Element}
    (h : elementAt d start = .ok (e, next)) : start < next ∧ next ≤ byteCount d.toList := by
  unfold elementAt at h
  split at h
  · cases h
  · cases h
  · next c rest hfrom =>
    have hcount : start + byteCount (c :: rest) = byteCount d.toList := by
      unfold textFrom at hfrom
      split at hfrom
      · next before after hcut =>
        cases hfrom
        obtain ⟨hd, rfl⟩ := of_cut? hcut
        rw [hd, byteCount_append]
      · cases hfrom
    have hpos := c.utf8Size_pos
    rw [byteCount_cons] at hcount
    split at h
    · cases h
      omega
    · split at h
      · split at h
        · cases h
        · next length hindex =>
          have hlength := lt_of_byteIndex? hindex
          rw [byteCount_cons] at hlength
          have hsize : (';' : Char).utf8Size = 1 := by decide
          split at h
          · cases h
          · cases h
            omega
      · cases h

/-- **The offset grows** by at least one byte with every type, and stays within the text. -/
theorem typeAt_advances {d : String} {offset next : Nat} {t : FieldType}
    (h : typeAt d offset = .ok (t, next)) : offset < next ∧ next ≤ byteCount d.toList := by
  unfold typeAt at h
  split at h
  · cases h
  · dsimp only at h
    split at h
    · cases h
    · next e next' helement =>
      cases h
      obtain ⟨hlt, hle⟩ := elementAt_advances helement
      exact ⟨by omega, hle⟩

/-- The types from an offset up to a `)`, and the offset of that. -/
def parametersFrom (d : String) (offset : Nat) : Except Trouble (List FieldType × Nat) :=
  match textFrom d offset with
  | .error trouble => .error trouble
  | .ok [] => .error (.malformed (.noParameters d))
  | .ok (c :: _) =>
    if c = ')' then .ok ([], offset)
    else
      match _h : typeAt d offset with
      | .error trouble => .error trouble
      | .ok (t, next) =>
        match parametersFrom d next with
        | .error trouble => .error trouble
        | .ok (ts, close) => .ok (t :: ts, close)
termination_by byteCount d.toList - offset
decreasing_by
  obtain ⟨hlt, hle⟩ := typeAt_advances _h
  omega

/-- The type that a descriptor is. -/
def parseType (d : String) : Except Trouble FieldType :=
  match typeAt d 0 with
  | .error trouble => .error trouble
  | .ok (t, next) => if next = d.utf8ByteSize then .ok t else .error (.malformed (.trailing d))

/-- The method type that a descriptor is. -/
def parseMethod (d : String) : Except Trouble MethodType :=
  if Text.beginsWith "(" d then
    match parametersFrom d 1 with
    | .error trouble => .error trouble
    | .ok (parameters, close) =>
      match typeAt d (close + 1) with
      | .error trouble => .error trouble
      | .ok (result, next) =>
        if next = d.utf8ByteSize then .ok ⟨parameters, result⟩ else .error (.malformed (.trailing d))
  else .error (.malformed (.noParameters d))

/-! ## The same answers -/

/-- What a reader of characters answers, with the offset in place of what is left. -/
def placed {α : Type} (d : String) : Except Stop (α × List Char) → Except Trouble (α × Nat)
  | .ok (a, left) => .ok (a, byteCount d.toList - byteCount left)
  | .error stop => .error (.malformed (stop.malformed d))

variable {d : String} {used s : List Char}

theorem textFrom_append (hd : d.toList = used ++ s) : textFrom d (byteCount used) = .ok s := by
  rw [textFrom, hd, cut?_append]

theorem textBetween_append {left : List Char} (hd : d.toList = used ++ (s ++ left)) :
    textBetween d (byteCount used) (byteCount used + byteCount s) = .ok s := by
  rw [textBetween, if_pos (Nat.le_add_right _ _), textFrom_append hd, Nat.add_sub_cancel_left]
  simp only [cut?_append]

theorem elementAt_eq (hd : d.toList = used ++ s) :
    elementAt d (byteCount used) = placed d (readElement s) := by
  unfold elementAt
  rw [textFrom_append hd]
  cases s with
  | nil => rfl
  | cons c s =>
    have hcount := congrArg byteCount hd
    rw [byteCount_append, byteCount_cons] at hcount
    cases hletter : Primitive.ofLetter? c with
    | some p =>
      have hsize : c.utf8Size = 1 := by
        rw [← Primitive.ofLetter?_eq_some.1 hletter]
        cases p <;> decide
      have hnext : byteCount d.toList - byteCount s = byteCount used + 1 := by omega
      simp only [readElement, hletter, placed, hnext]
    | none =>
      by_cases hc : c = 'L'
      · subst hc
        have hsize : ('L' : Char).utf8Size = 1 := by decide
        cases hread : readClassName s with
        | error stop =>
          obtain ⟨rfl, hnot⟩ := of_readClassName_error hread
          have hnone : byteIndex? ';' ('L' :: s) = none :=
            byteIndex?_eq_none (List.not_mem_cons_of_ne_of_not_mem (by decide) hnot)
          have hempty : d.isEmpty = false := by
            rw [← Bool.not_eq_true, String.isEmpty_iff]
            rintro rfl
            simp at hd
          simp [readElement, hletter, hread, hnone, placed, Stop.malformed, hempty]
        | ok r =>
          obtain ⟨name, left⟩ := r
          obtain ⟨hname, rfl⟩ := of_readClassName hread
          have hindex : byteIndex? ';' ('L' :: (name ++ ';' :: left)) = some (1 + byteCount name) := by
            have := byteIndex?_append (List.not_mem_cons_of_ne_of_not_mem (by decide) hname : ';' ∉ 'L' :: name) left
            rwa [List.cons_append, byteCount_cons, hsize] at this
          have hbetween : textBetween d (byteCount used + 1) (byteCount used + (1 + byteCount name)) = .ok name := by
            have hsplit : d.toList = (used ++ ['L']) ++ (name ++ ';' :: left) := by
              rw [hd]
              simp
            have hname := textBetween_append hsplit
            rwa [byteCount_append, byteCount_cons, hsize, byteCount_nil, Nat.add_zero, Nat.add_assoc] at hname
          have hnext : byteCount d.toList - byteCount left = byteCount used + (1 + byteCount name) + 1 := by
            have hsemicolon : (';' : Char).utf8Size = 1 := by decide
            rw [byteCount_append, byteCount_cons] at hcount
            omega
          simp only [readElement, hletter, hread, hindex, hbetween, placed, hnext, if_true]
      · have hat : byteCount d.toList - byteCount (c :: s) = byteCount used := by
          rw [byteCount_cons]
          omega
        simp only [readElement, hletter, hc, placed, Stop.malformed, hat, if_false]

/-- The dimensions of a type, then its element. -/
theorem readType_eq (s : List Char) : readType s =
    match readElement (s.dropWhile (· = '[')) with
    | .ok (e, left) => .ok (⟨(s.takeWhile (· = '[')).length, e⟩, left)
    | .error stop => .error stop := by
  induction s with
  | nil => rfl
  | cons c s ih =>
    rw [readType]
    by_cases hc : c = '['
    · subst hc
      simp only [if_true, ih, decide_true, List.dropWhile_cons_of_pos, List.takeWhile_cons_of_pos, List.length_cons]
      cases readElement (s.dropWhile (· = '[')) with
      | error stop => rfl
      | ok r => rfl
    · have hdrop : (c :: s).dropWhile (· = '[') = c :: s := List.dropWhile_cons_of_neg (by simpa using hc)
      have htake : (c :: s).takeWhile (· = '[') = [] := List.takeWhile_cons_of_neg (by simpa using hc)
      cases hread : readElement (c :: s) with
      | error stop => simp only [if_neg hc, hdrop, hread]
      | ok r => simp only [if_neg hc, hdrop, htake, hread, List.length_nil]

theorem byteCount_takeWhile_bracket (s : List Char) :
    byteCount (s.takeWhile (· = '[')) = (s.takeWhile (· = '[')).length := by
  induction s with
  | nil => rfl
  | cons c s ih =>
    by_cases hc : c = '['
    · have hsize : ('[' : Char).utf8Size = 1 := by decide
      simp [hc, ih, hsize, Nat.add_comm]
    · simp [hc]

/-- A type is read alike, whatever precedes it. -/
theorem typeAt_eq (hd : d.toList = used ++ s) : typeAt d (byteCount used) = placed d (readType s) := by
  have hsplit : d.toList = (used ++ s.takeWhile (· = '[')) ++ s.dropWhile (· = '[') := by
    rw [hd, List.append_assoc, List.takeWhile_append_dropWhile]
  have helement := elementAt_eq hsplit
  rw [byteCount_append, byteCount_takeWhile_bracket] at helement
  rw [typeAt, textFrom_append hd, readType_eq]
  simp only [helement]
  cases readElement (s.dropWhile (· = '[')) with
  | error stop => rfl
  | ok r => rfl

/-- The list goes on behind a type. -/
theorem parametersFrom_cons {c : Char} {rest left : List Char} {t : FieldType} (hd : d.toList = used ++ c :: rest)
    (hc : c ≠ ')') (hread : readType (c :: rest) = .ok (t, left)) :
    parametersFrom d (byteCount used) =
      match parametersFrom d (byteCount (used ++ t.descriptor)) with
      | .error trouble => .error trouble
      | .ok (ts, close) => .ok (t :: ts, close) := by
  obtain ⟨-, hrest⟩ := of_readType hread
  have hnext : byteCount d.toList - byteCount left = byteCount (used ++ t.descriptor) := by
    rw [hd, hrest, ← List.append_assoc, byteCount_append (used ++ t.descriptor)]
    omega
  have htype := typeAt_eq hd
  rw [hread, placed, hnext] at htype
  rw [parametersFrom, textFrom_append hd]
  simp only [if_neg hc]
  split
  · next heq => cases htype.symm.trans heq
  · next heq =>
    cases htype.symm.trans heq
    rfl

/-- A list of parameters is read alike; the offset is that of its `)`. -/
theorem parametersFrom_eq (hd : d.toList = used ++ s) : parametersFrom d (byteCount used) =
    match readParameters s with
    | .ok (ts, left) => .ok (ts, byteCount d.toList - byteCount left - 1)
    | .error .unclosed => .error (.malformed (.noParameters d))
    | .error (.inType stop) => .error (.malformed (stop.malformed d)) := by
  fun_induction readParameters s generalizing used with
  | case1 => rw [parametersFrom, textFrom_append hd]
  | case2 rest =>
    have hclose : byteCount d.toList - byteCount rest - 1 = byteCount used := by
      have hsize : (')' : Char).utf8Size = 1 := by decide
      rw [hd, byteCount_append, byteCount_cons, hsize]
      omega
    rw [parametersFrom, textFrom_append hd]
    simp only [if_true, hclose]
  | case3 c rest hc stop hread =>
    have htype := typeAt_eq hd
    rw [hread, placed] at htype
    rw [parametersFrom, textFrom_append hd]
    simp only [if_neg hc]
    split
    · next heq =>
      cases htype.symm.trans heq
      rfl
    · next heq => cases htype.symm.trans heq
  | case4 c rest hc t left hread ts left' hrest ih =>
    have hrest' : d.toList = (used ++ t.descriptor) ++ left := by
      rw [hd, (of_readType hread).2, List.append_assoc]
    rw [parametersFrom_cons hd hc hread, ih hrest', hrest]
  | case5 c rest hc t left hread stop hrest ih =>
    have hrest' : d.toList = (used ++ t.descriptor) ++ left := by
      rw [hd, (of_readType hread).2, List.append_assoc]
    rw [parametersFrom_cons hd hc hread, ih hrest', hrest]
    cases stop with
    | unclosed => rfl
    | inType stop => rfl

/-- A type that is read to the end of the text, or not. -/
theorem ended_iff {left : List Char} (hd : d.toList = used ++ left) :
    byteCount d.toList - byteCount left = d.utf8ByteSize ↔ left = [] := by
  rw [← byteCount_toList, hd, byteCount_append]
  cases left with
  | nil => simp
  | cons c left =>
    have hpos := c.utf8Size_pos
    rw [byteCount_cons]
    constructor
    · intro h
      omega
    · intro h
      cases h

/-- **Reading by offsets** gives the same answers: no cut goes wrong. -/
theorem parseType_eq (d : String) : parseType d = (Descriptor.parseType d).mapError .malformed := by
  have hall : d.toList = [] ++ d.toList := rfl
  have htype := typeAt_eq hall
  rw [byteCount_nil] at htype
  rw [parseType, htype, Descriptor.parseType]
  cases hread : readType d.toList with
  | error stop => rfl
  | ok r =>
    obtain ⟨t, left⟩ := r
    have hended := ended_iff (of_readType hread).2
    rw [placed]
    cases left with
    | nil =>
      simp only [if_pos (hended.2 rfl)]
      rfl
    | cons c left =>
      simp only [if_neg (mt hended.1 (List.cons_ne_nil c left))]
      rfl

theorem parseMethod_eq (d : String) : parseMethod d = (Descriptor.parseMethod d).mapError .malformed := by
  rw [parseMethod, Descriptor.parseMethod]
  split
  · next hbegins =>
    obtain ⟨s, hd⟩ : ∃ s, d.toList = '(' :: s := by
      obtain ⟨s, hs⟩ := List.isPrefixOf_iff_prefix.1 hbegins
      exact ⟨s, hs.symm⟩
    have hopen : d.toList = ['('] ++ s := hd
    have hparameters := parametersFrom_eq hopen
    have hone : byteCount ['('] = 1 := by decide
    rw [hone] at hparameters
    simp only [hd, hparameters]
    cases hread : readParameters s with
    | error stop =>
      cases stop with
      | unclosed => rfl
      | inType stop => rfl
    | ok r =>
      obtain ⟨ts, left⟩ := r
      have hsplit : d.toList = ('(' :: ts.flatMap FieldType.descriptor ++ [')']) ++ left := by
        rw [hd, (of_readParameters hread).2]
        simp
      have hclose : byteCount d.toList - byteCount left - 1 + 1 =
          byteCount ('(' :: ts.flatMap FieldType.descriptor ++ [')']) := by
        have hsize : (')' : Char).utf8Size = 1 := by decide
        rw [hsplit, byteCount_append, byteCount_append, byteCount_cons ')', hsize]
        omega
      rw [hd] at hclose
      simp only [hclose, typeAt_eq hsplit]
      cases hresult : readType left with
      | error stop => rfl
      | ok r =>
        obtain ⟨t, rest⟩ := r
        have hrest : d.toList = ('(' :: ts.flatMap FieldType.descriptor ++ [')'] ++ t.descriptor) ++ rest := by
          rw [hsplit, (of_readType hresult).2, List.append_assoc _ t.descriptor]
        have hended := ended_iff hrest
        rw [placed]
        cases rest with
        | nil =>
          simp only [if_pos (hended.2 rfl)]
          rfl
        | cons c rest =>
          simp only [if_neg (mt hended.1 (List.cons_ne_nil c rest))]
          rfl
  · next hbegins =>
    split
    · next s hd =>
      refine absurd ?_ hbegins
      rw [Text.beginsWith, hd]
      rfl
    · rfl

end ByOffset

end KotlinMetadata.Descriptor
