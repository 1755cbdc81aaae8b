/-
Loading a pool from the artifacts of a document. It fails exactly if a name
occurs twice, and then the first repeated one is told; otherwise the order
of the document leaves no trace: the pool lists the artifacts by the UTF-8
bytes of their names, and whatever is printed from it is the same.

A pool is told by its members (`Pool.ext_mem`). `Pool.ofList_cases` follows
the loading artifact by artifact. `utf8EncodeChar_lt` is why names that are
compared by code points are in the order of their bytes.
-/
import KotlinMetadata.Proofs.Containment
import KotlinMetadata.Report
import Mathlib.Data.List.Nodup

namespace KotlinMetadata

/-! ## The order of bytes -/

namespace Text

/-- The bytes of a text in UTF-8. -/
def bytes (s : String) : List UInt8 := s.toUTF8.data.toList

theorem bytes_eq (s : String) : bytes s = s.toList.flatMap String.utf8EncodeChar := by
  unfold bytes
  rw [String.toUTF8_eq_toByteArray, ← String.utf8Encode_toList, List.utf8Encode, List.toList_data_toByteArray]

theorem byte_cons_lt {m n : Nat} {x y : List UInt8} (hn : n < 256) (hle : m ≤ n) (h : m = n → x < y) :
    UInt8.ofNat m :: x < UInt8.ofNat n :: y := by
  rw [List.cons_lt_cons_iff]
  rcases Nat.eq_or_lt_of_le hle with heq | hlt
  · exact .inr ⟨by rw [heq], h heq⟩
  · left
    rw [UInt8.lt_iff_toNat_lt, UInt8.toNat_ofNat', UInt8.toNat_ofNat', Nat.mod_eq_of_lt (by omega),
      Nat.mod_eq_of_lt (by omega)]
    exact hlt

/-- The bytes of a greater character are greater, whatever follows. Characters with more bytes have a
greater first byte; of as many bytes, the first that differs decides. -/
theorem utf8EncodeChar_lt {c d : Char} (h : c < d) (x y : List UInt8) :
    String.utf8EncodeChar c ++ x < String.utf8EncodeChar d ++ y := by
  have hlt : c.val.toNat < d.val.toNat := h
  have hd : d.val.toNat < 1114112 := by
    rcases d.valid with hvalid | hvalid
    · have : d.val.toNat < 55296 := hvalid
      omega
    · exact hvalid.2
  rw [String.utf8EncodeChar, String.utf8EncodeChar]
  generalize c.val.toNat = v at hlt
  generalize d.val.toNat = w at hlt hd
  have differ : ∀ {m n : Nat} {x y : List UInt8}, n < 256 → m < n → UInt8.ofNat m :: x < UInt8.ofNat n :: y :=
    fun hn hlt => byte_cons_lt hn hlt.le fun heq => absurd heq hlt.ne
  -- Ten pairs of lengths are left, as the first character is the smaller one.
  split_ifs <;> try omega
  · exact differ (by omega) hlt
  · exact differ (by omega) (by omega)
  · exact differ (by omega) (by omega)
  · exact differ (by omega) (by omega)
  · exact byte_cons_lt (by omega) (by omega) fun _ => differ (by omega) (by omega)
  · exact differ (by omega) (by omega)
  · exact differ (by omega) (by omega)
  · refine byte_cons_lt (by omega) (by omega) fun _ => ?_
    exact byte_cons_lt (by omega) (by omega) fun _ => differ (by omega) (by omega)
  · exact differ (by omega) (by omega)
  · refine byte_cons_lt (by omega) (by omega) fun _ => byte_cons_lt (by omega) (by omega) fun _ => ?_
    exact byte_cons_lt (by omega) (by omega) fun _ => differ (by omega) (by omega)

theorem bytes_lt {s t : String} (h : s < t) : bytes s < bytes t := by
  rw [String.lt_iff] at h
  rw [bytes_eq, bytes_eq]
  generalize t.toList = ds at h
  generalize s.toList = cs at h
  induction cs generalizing ds with
  | nil =>
    cases ds with
    | nil => exact absurd h (List.lt_irrefl _)
    | cons d ds =>
      have hne : (d :: ds).flatMap String.utf8EncodeChar ≠ [] := by
        simp [List.flatMap_cons, String.utf8EncodeChar_ne_nil]
      obtain ⟨b, bs, hb⟩ := List.exists_cons_of_ne_nil hne
      rw [hb]
      exact List.nil_lt_cons b bs
  | cons c cs ih =>
    cases ds with
    | nil => exact absurd h (List.not_lt_nil _)
    | cons d ds =>
      rw [List.flatMap_cons, List.flatMap_cons]
      rcases List.cons_lt_cons_iff.1 h with hlt | ⟨rfl, hlt⟩
      · exact utf8EncodeChar_lt hlt _ _
      · exact List.append_left_lt (ih ds hlt)

end Text

/-! ## Members -/

namespace Pool

variable {p q : Pool} {a b : Artifact} {as bs : List Artifact} {n : String}

theorem get?_eq_some_iff : p.get? n = some a ↔ a ∈ p.artifacts ∧ a.name = n := by
  constructor
  · intro h
    exact ⟨mem_of_get? h, name_of_get? h⟩
  · rintro ⟨ha, rfl⟩
    exact get?_of_mem ha

theorem nodup_artifacts (p : Pool) : p.artifacts.Nodup := by
  refine List.Nodup.of_map (·.name) (List.Pairwise.imp (fun {x y} hlt heq => ?_) p.sorted)
  rw [heq] at hlt
  exact String.lt_irrefl _ hlt

/-- Pools with the same members are equal. -/
theorem ext_mem (h : ∀ a, a ∈ p.artifacts ↔ a ∈ q.artifacts) : p = q := by
  have hperm := (List.perm_ext_iff_of_nodup p.nodup_artifacts q.nodup_artifacts).2 h
  have hp := List.pairwise_map.1 p.sorted
  have hq := List.pairwise_map.1 q.sorted
  have heq : p.artifacts = q.artifacts := by
    refine hperm.eq_of_pairwise (fun x y _ _ hxy hyx => ?_) hp hq
    exact absurd (String.lt_trans hxy hyx) (String.lt_irrefl _)
  cases p
  cases q
  cases heq
  rfl

theorem pairwise_bytes (p : Pool) : p.artifacts.Pairwise fun a b => Text.bytes a.name < Text.bytes b.name :=
  (List.pairwise_map.1 p.sorted).imp Text.bytes_lt

/-! ## Offers -/

/-- A list in which the name is taken stays as it is. -/
theorem place_of_taken (h : (place a as).1 = true) : (place a as).2 = as := by
  induction as with
  | nil => cases h
  | cons x as ih =>
    simp only [place] at h ⊢
    split
    · next hlt => simp [hlt] at h
    · next hnlt =>
      split
      · rfl
      · next hne => rw [ih (by simpa [hnlt, hne] using h)]

theorem mem_place_of_free (h : (place a as).1 = false) : b ∈ (place a as).2 ↔ b = a ∨ b ∈ as := by
  induction as with
  | nil => simp [place]
  | cons x as ih =>
    simp only [place] at h ⊢
    split
    · exact List.mem_cons
    · next hnlt =>
      split
      · next heq =>
        rw [if_neg hnlt, if_pos heq] at h
        cases h
      · next hne =>
        rw [List.mem_cons, List.mem_cons, ih (by simpa [hnlt, hne] using h), or_left_comm]

theorem place_fst_iff (hs : (as.map (·.name)).Pairwise (· < ·)) :
    (place a as).1 = true ↔ a.name ∈ as.map (·.name) := by
  induction as with
  | nil => simp [place]
  | cons x as ih =>
    rw [List.map_cons, List.pairwise_cons] at hs
    rw [place, List.map_cons, List.mem_cons]
    split
    · next hlt =>
      -- The list goes up from `x`, so a smaller name is nowhere in it.
      have hne : a.name ≠ x.name := fun heq => String.lt_irrefl _ (heq ▸ hlt)
      have hnot : a.name ∉ as.map (·.name) := fun hmem =>
        String.lt_irrefl _ (String.lt_trans hlt (hs.1 _ hmem))
      simp [hne, hnot]
    · split
      · next heq => simp [heq]
      · next hne => simp [hne, ih hs.2]

theorem offer_of_mem (h : a.name ∈ p.names) : p.offer a = (some ⟨a.name⟩, p) := by
  have htaken := (place_fst_iff p.sorted).2 h
  simp only [offer, htaken, place_of_taken htaken, if_true]

theorem offer_of_not_mem (h : a.name ∉ p.names) :
    ∃ q, p.offer a = (none, q) ∧ ∀ b, b ∈ q.artifacts ↔ b = a ∨ b ∈ p.artifacts := by
  have hfree : (place a p.artifacts).1 = false := by
    rw [Bool.eq_false_iff]
    exact mt (place_fst_iff p.sorted).1 h
  refine ⟨⟨(place a p.artifacts).2, pairwise_place p.sorted⟩, ?_, fun b => mem_place_of_free hfree⟩
  simp [offer, hfree]

theorem insert_of_mem (h : a.name ∈ p.names) : p.insert a = .error ⟨a.name⟩ := by
  rw [insert, offer_of_mem h]

theorem insert_of_not_mem (h : a.name ∉ p.names) :
    ∃ q, p.insert a = .ok q ∧ ∀ b, b ∈ q.artifacts ↔ b = a ∨ b ∈ p.artifacts := by
  obtain ⟨q, hq, hmem⟩ := offer_of_not_mem h
  exact ⟨q, by rw [insert, hq], hmem⟩

/-! ## Loading -/

theorem ofList_concat (as : List Artifact) (a : Artifact) :
    ofList (as ++ [a]) = ofList as >>= fun p => p.insert a := by
  simp only [ofList, List.foldlM_append, List.foldlM_cons, List.foldlM_nil, bind_pure]

/-- Either the names are distinct and all artifacts go in, or loading ends at the first artifact
whose name occurred before. -/
theorem ofList_cases (as : List Artifact) :
    ((as.map (·.name)).Nodup ∧ ∃ p, ofList as = .ok p ∧ ∀ b, b ∈ p.artifacts ↔ b ∈ as) ∨
    ∃ before a after, as = before ++ a :: after ∧ (before.map (·.name)).Nodup ∧
      a.name ∈ before.map (·.name) ∧ ofList as = .error ⟨a.name⟩ := by
  induction as using List.reverseRecOn with
  | nil => exact .inl ⟨List.nodup_nil, empty, rfl, fun b => Iff.rfl⟩
  | append_singleton as x ih =>
    rw [ofList_concat]
    rcases ih with ⟨hnodup, p, hp, hmem⟩ | ⟨before, a, after, rfl, hnodup, ha, herror⟩
    · have hnames : x.name ∈ p.names ↔ x.name ∈ as.map (·.name) := by
        simp only [names, List.mem_map, hmem]
      by_cases hx : x.name ∈ as.map (·.name)
      · refine .inr ⟨as, x, [], rfl, hnodup, hx, ?_⟩
        rw [hp]
        exact insert_of_mem (hnames.2 hx)
      · obtain ⟨q, hq, hmemq⟩ := insert_of_not_mem (mt hnames.1 hx)
        refine .inl ⟨?_, q, by rw [hp]; exact hq, fun b => ?_⟩
        · rw [List.map_append, List.map_singleton]
          exact List.nodup_append.2 ⟨hnodup, List.nodup_singleton _, by
            rintro n hn m hm rfl
            exact hx (List.mem_singleton.1 hm ▸ hn)⟩
        · rw [hmemq, hmem, List.mem_append, List.mem_singleton, or_comm]
    · exact .inr ⟨before, a, after ++ [x], by simp, hnodup, ha, by rw [herror]; rfl⟩

theorem ofList_of_nodup (h : (as.map (·.name)).Nodup) :
    ∃ p, ofList as = .ok p ∧ ∀ b, b ∈ p.artifacts ↔ b ∈ as := by
  rcases ofList_cases as with ⟨-, hok⟩ | ⟨before, a, after, rfl, -, ha, -⟩
  · exact hok
  · rw [List.map_append, List.map_cons] at h
    exact absurd rfl ((List.nodup_append.1 h).2.2 _ ha _ List.mem_cons_self)

theorem ofList_of_repeated {before after : List Artifact} (hnodup : (before.map (·.name)).Nodup)
    (ha : a.name ∈ before.map (·.name)) : ofList (before ++ a :: after) = .error ⟨a.name⟩ := by
  obtain ⟨p, hp, hmem⟩ := ofList_of_nodup hnodup
  have hname : a.name ∈ p.names := by
    simpa only [names, List.mem_map, hmem] using ha
  rw [ofList] at hp
  rw [ofList, List.foldlM_append, hp]
  change (p.insert a).bind _ = _
  rw [insert_of_mem hname]
  rfl

theorem nodup_of_ofList (h : ofList as = .ok p) : (as.map (·.name)).Nodup ∧ ∀ b, b ∈ p.artifacts ↔ b ∈ as := by
  rcases ofList_cases as with ⟨hnodup, q, hq, hmem⟩ | ⟨_, _, _, _, _, _, herror⟩
  · cases h.symm.trans hq
    exact ⟨hnodup, hmem⟩
  · cases h.symm.trans herror

/-- The order of the artifacts does not matter. -/
theorem ofList_perm (h : ofList as = .ok p) (hperm : bs.Perm as) : ofList bs = .ok p := by
  obtain ⟨hnodup, hmem⟩ := nodup_of_ofList h
  obtain ⟨q, hq, hmemq⟩ := ofList_of_nodup ((hperm.map _).nodup_iff.2 hnodup)
  obtain rfl : q = p := ext_mem fun b => by rw [hmem, hmemq, hperm.mem_iff]
  exact hq

theorem ofList_eq_error_iff {d : Duplicate} : ofList as = .error d ↔ ∃ before a after,
    as = before ++ a :: after ∧ (before.map (·.name)).Nodup ∧ a.name ∈ before.map (·.name) ∧ d = ⟨a.name⟩ := by
  constructor
  · intro h
    rcases ofList_cases as with ⟨-, q, hq, -⟩ | ⟨before, a, after, has, hnodup, ha, herror⟩
    · cases h.symm.trans hq
    · cases h.symm.trans herror
      exact ⟨before, a, after, has, hnodup, ha, rfl⟩
  · rintro ⟨before, a, after, rfl, hnodup, ha, rfl⟩
    exact ofList_of_repeated hnodup ha

/-! ## Offers one after another -/

theorem offer_eq_some_iff {d : Duplicate} : (p.offer a).1 = some d ↔ a.name ∈ p.names ∧ d = ⟨a.name⟩ := by
  by_cases h : a.name ∈ p.names
  · simp [offer_of_mem h, h, eq_comm]
  · obtain ⟨q, hq, -⟩ := offer_of_not_mem h
    simp [hq, h]

theorem offer_of_isSome (h : (p.offer a).1.isSome) : (p.offer a).2 = p := by
  obtain ⟨d, hd⟩ := Option.isSome_iff_exists.1 h
  rw [offer_of_mem (offer_eq_some_iff.1 hd).1]

theorem get?_offer (p : Pool) (a : Artifact) (n : String) :
    (p.offer a).2.get? n = (p.get? n).or (if a.name = n then some a else none) := by
  by_cases h : a.name ∈ p.names
  · rw [offer_of_mem h]
    obtain ⟨b, hb, hname⟩ := List.mem_map.1 h
    by_cases hn : a.name = n
    · rw [get?_eq_some_iff.2 ⟨hb, hname.trans hn⟩, Option.some_or]
    · rw [if_neg hn, Option.or_none]
  · obtain ⟨q, hq, hmem⟩ := offer_of_not_mem h
    rw [hq]
    by_cases hn : a.name = n
    · have hnone : p.get? n = none := by
        refine Option.eq_none_iff_forall_ne_some.2 fun b hb => h ?_
        obtain ⟨hmemb, hname⟩ := get?_eq_some_iff.1 hb
        exact List.mem_map.2 ⟨b, hmemb, hname.trans hn.symm⟩
      rw [hnone, if_pos hn, Option.none_or]
      exact get?_eq_some_iff.2 ⟨(hmem a).2 (.inl rfl), hn⟩
    · refine Option.ext fun b => ?_
      rw [if_neg hn, Option.or_none, get?_eq_some_iff, get?_eq_some_iff, hmem]
      constructor
      · rintro ⟨rfl | hb, hname⟩
        · exact absurd hname hn
        · exact ⟨hb, hname⟩
      · rintro ⟨hb, hname⟩
        exact ⟨.inr hb, hname⟩

/-- Of the artifacts offered under a name the pool has the first. -/
theorem get?_offered (as : List Artifact) (n : String) :
    (as.foldl (fun p a => (p.offer a).2) p).get? n = (p.get? n).or (as.find? (·.name = n)) := by
  induction as generalizing p with
  | nil => simp
  | cons a as ih =>
    rw [List.foldl_cons, ih, get?_offer, Option.or_assoc, List.find?_cons]
    by_cases hn : a.name = n
    · simp [hn]
    · simp [hn]

end Pool

/-- **Loading does not depend on the order of a document.** Artifacts can be loaded exactly if their
names are distinct. Then every order gives the same pool, with these artifacts in the increasing order
of the UTF-8 bytes of their names, each found by its name, and every printing and every run comes out
the same. Otherwise the refusal names the first artifact whose name occurred before. An artifact is
refused by a pool exactly if its name is taken, and the pool stays as it is. -/
theorem loading_ignores_order :
    (∀ as, (∃ p, Pool.ofList as = .ok p) ↔ (as.map (·.name)).Nodup) ∧
    (∀ as p, Pool.ofList as = .ok p →
      p.artifacts.Perm as ∧
      (p.artifacts.Pairwise fun a b => Text.bytes a.name < Text.bytes b.name) ∧
      (∀ n a, p.get? n = some a ↔ a ∈ as ∧ a.name = n) ∧
      ∀ bs, bs.Perm as → Pool.ofList bs = .ok p ∧ ∀ q, Pool.ofList bs = .ok q →
        (∀ printer : Printer, { printer with pool := q }.printAll = { printer with pool := p }.printAll) ∧
        ∀ batch : Batch, { batch with pool := q }.output = { batch with pool := p }.output) ∧
    (∀ as d, Pool.ofList as = .error d ↔ ∃ before a after, as = before ++ a :: after ∧
      (before.map (·.name)).Nodup ∧ a.name ∈ before.map (·.name) ∧ d = ⟨a.name⟩) ∧
    (∀ (p : Pool) (a : Artifact) (d : Pool.Duplicate), (p.offer a).1 = some d ↔ a.name ∈ p.names ∧ d = ⟨a.name⟩) ∧
    (∀ (p : Pool) (a : Artifact), (p.offer a).1.isSome → (p.offer a).2 = p) ∧
    ∀ (as : List Artifact) (n : String),
      (as.foldl (fun p a => (p.offer a).2) Pool.empty).get? n = as.find? (·.name = n) := by
  refine ⟨fun as => ⟨?_, ?_⟩, fun as p h => ⟨?_, p.pairwise_bytes, ?_, fun bs hperm => ?_⟩,
    fun as d => Pool.ofList_eq_error_iff, fun p a d => Pool.offer_eq_some_iff, fun p a => Pool.offer_of_isSome,
    fun as n => ?_⟩
  · rintro ⟨p, h⟩
    exact (Pool.nodup_of_ofList h).1
  · intro h
    obtain ⟨p, hp, -⟩ := Pool.ofList_of_nodup h
    exact ⟨p, hp⟩
  · obtain ⟨hnodup, hmem⟩ := Pool.nodup_of_ofList h
    exact (List.perm_ext_iff_of_nodup p.nodup_artifacts hnodup.of_map).2 hmem
  · intro n a
    rw [Pool.get?_eq_some_iff, (Pool.nodup_of_ofList h).2]
  · have hbs := Pool.ofList_perm h hperm
    refine ⟨hbs, fun q hq => ?_⟩
    cases hbs.symm.trans hq
    exact ⟨fun _ => rfl, fun _ => rfl⟩
  · rw [Pool.get?_offered]
    rfl

/-- The sample is loaded from its artifacts in either order. -/
theorem loading_ignores_order_sample : Pool.ofList Pool.sampleArtifacts = .ok Pool.sample ∧
    Pool.ofList Pool.sampleArtifacts.reverse = .ok Pool.sample := by
  have h : Pool.ofList Pool.sampleArtifacts = .ok Pool.sample := by rfl
  exact ⟨h, ((loading_ignores_order.2.1 _ _ h).2.2.2 _ (List.reverse_perm _)).1⟩

end KotlinMetadata
