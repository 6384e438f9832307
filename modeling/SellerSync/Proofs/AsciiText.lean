import Mathlib
import SellerSync.Web.Idna
/-! The character tables answer by bisection over ranges, so what they say about a character depends
on every row. -/

namespace SellerSync

namespace Text

theorem isUpper_iff (c : Char) : c.isUpper = true ↔ 65 ≤ c.toNat ∧ c.toNat ≤ 90 := by
  simp only [Char.isUpper, ge_iff_le, decide_eq_true_eq, Char.toNat, UInt32.le_iff_toNat_le]
  rfl

theorem isLower_iff (c : Char) : c.isLower = true ↔ 97 ≤ c.toNat ∧ c.toNat ≤ 122 := by
  simp only [Char.isLower, ge_iff_le, Bool.and_eq_true, decide_eq_true_eq, Char.toNat,
    UInt32.le_iff_toNat_le]
  rfl

theorem isDigit_iff (c : Char) : c.isDigit = true ↔ 48 ≤ c.toNat ∧ c.toNat ≤ 57 := by
  simp only [Char.isDigit, ge_iff_le, Bool.and_eq_true, decide_eq_true_eq, Char.toNat,
    UInt32.le_iff_toNat_le]
  rfl

namespace RangeTable

section Bisect

variable {α : Type} (rows : Array α) (key : α → Nat) (n : Nat)

theorem bisect_spec {lo hi j : Nat} (hlo : lo < hi) (hhi : hi ≤ rows.size)
    (hj : bisect rows key n lo hi = j) :
    ∃ _ : j < hi, lo ≤ j ∧ (j = lo ∨ key rows[j] ≤ n) ∧ ∀ h : j + 1 < hi, n < key rows[j + 1] := by
  fun_induction bisect rows key n lo hi with
  | case1 lo hi hlt mid r hr hle ih =>
    obtain ⟨hjh, hmj, hkey, hnext⟩ := ih (by omega) hhi hj
    obtain ⟨hmid, rfl⟩ := Array.getElem?_eq_some_iff.1 hr
    refine ⟨hjh, by omega, .inr ?_, hnext⟩
    rcases hkey with rfl | hk
    · exact hle
    · exact hk
  | case2 lo hi hlt mid r hr hgt ih =>
    obtain ⟨hjm, hlj, hkey, hnext⟩ := ih (by omega) (by omega) hj
    obtain ⟨hmid, rfl⟩ := Array.getElem?_eq_some_iff.1 hr
    refine ⟨by omega, hlj, hkey, fun h => ?_⟩
    by_cases hm : j + 1 < mid
    · exact hnext hm
    · have hjm' : j + 1 = mid := by omega
      simp only [hjm']
      omega
  | case3 lo hi hlt mid hr =>
    rw [Array.getElem?_eq_none_iff] at hr
    omega
  | case4 lo hi hge =>
    subst hj
    exact ⟨hlo, le_refl _, .inl rfl, fun h => absurd h hge⟩

end Bisect

variable {α : Type} {rows : Array α} {key first last : α → Nat} {n : Nat}

theorem lastAtMost?_spec {r : α} (h : lastAtMost? rows key n = some r) : r ∈ rows ∧ key r ≤ n := by
  unfold lastAtMost? at h
  split at h
  · rename_i r' hr
    split at h
    · cases h
      exact ⟨Array.mem_of_getElem? hr, by assumption⟩
    · cases h
  · cases h

theorem lastAtMost?_eq_none (h : ∀ r ∈ rows, n < key r) : lastAtMost? rows key n = none := by
  rcases hl : lastAtMost? rows key n with _ | r
  · rfl
  · have hr := lastAtMost?_spec hl
    have := h r hr.1
    omega

theorem lastAtMost?_eq_some {i : Nat} {r : α} (hi : rows[i]? = some r)
    (hsplit : ∀ j x, rows[j]? = some x → (key x ≤ n ↔ j ≤ i)) :
    lastAtMost? rows key n = some r := by
  have hsize : i < rows.size := (Array.getElem?_eq_some_iff.1 hi).1
  obtain ⟨hj, -, hkey, hnext⟩ :=
    bisect_spec rows key n (by omega : 0 < rows.size) (le_refl rows.size) rfl
  have heq : bisect rows key n 0 rows.size = i := by
    rcases Nat.lt_trichotomy (bisect rows key n 0 rows.size) i with hlt | heq | hgt
    · have hup := hnext (by omega)
      have hdown := (hsplit (bisect rows key n 0 rows.size + 1) _
        (Array.getElem?_eq_getElem (by omega))).2 (by omega)
      omega
    · exact heq
    · rcases hkey with h0 | hk
      · omega
      · have := (hsplit _ _ (Array.getElem?_eq_getElem hj)).1 hk
        omega
  unfold lastAtMost?
  simp only [heq, hi, (hsplit i r hi).2 (le_refl i), ↓reduceIte]

/-- The same, with the table read as a list: the rows before `r` start at or below `n`, and
those after it above. -/
theorem lastAtMost?_of_toList (pre : List α) {post : List α} {r : α}
    (hrows : rows.toList = pre ++ r :: post)
    (hpre : ∀ x ∈ pre, key x ≤ n) (hr : key r ≤ n) (hpost : ∀ x ∈ post, n < key x) :
    lastAtMost? rows key n = some r := by
  refine lastAtMost?_eq_some (i := pre.length) ?_ ?_
  · rw [← Array.getElem?_toList, hrows]
    simp
  · intro j x hx
    rw [← Array.getElem?_toList, hrows, List.getElem?_append] at hx
    split at hx
    · have := hpre x (List.mem_of_getElem? hx)
      omega
    · rw [List.getElem?_cons] at hx
      split at hx
      · cases hx
        omega
      · have := hpost x (List.mem_of_getElem? hx)
        omega

theorem find?_spec {r : α} (h : find? rows first last n = some r) :
    r ∈ rows ∧ first r ≤ n ∧ n ≤ last r := by
  unfold find? at h
  split at h
  · rename_i r' hr
    split at h
    · cases h
      exact ⟨(lastAtMost?_spec hr).1, (lastAtMost?_spec hr).2, by assumption⟩
    · cases h
  · cases h

theorem find?_eq_none (h : ∀ r ∈ rows, n < first r) : find? rows first last n = none := by
  simp [find?, lastAtMost?_eq_none h]

theorem find?_of_toList (pre : List α) {post : List α} {r : α}
    (hrows : rows.toList = pre ++ r :: post) (hpre : ∀ x ∈ pre, first x ≤ n) (hr : first r ≤ n)
    (hlast : n ≤ last r) (hpost : ∀ x ∈ post, n < first x) : find? rows first last n = some r := by
  simp [find?, lastAtMost?_of_toList pre hrows hpre hr hpost, hlast]

end RangeTable

/-! ## ASCII characters in the character tables -/

theorem nfcTables_above_ascii :
    (∀ r ∈ combiningClassRanges.toList, 128 ≤ r.1) ∧ (∀ r ∈ markRanges.toList, 128 ≤ r.1) ∧
    (∀ r ∈ canonicalDecompositions.toList, 128 ≤ r.1) ∧
    ∀ r ∈ primaryComposites.toList, 128 ≤ r.2.1 := by
  refine ⟨by decide +kernel, by decide +kernel, ?_, by decide +kernel⟩
  have h₁ : ∀ r ∈ decompositionsAlphabetic.toList, 128 ≤ r.1 := by decide +kernel
  have h₂ : ∀ r ∈ decompositionsCompatibility.toList, 128 ≤ r.1 := by decide +kernel
  have h₃ : ∀ r ∈ decompositionsSupplementary.toList, 128 ≤ r.1 := by decide +kernel
  simp only [canonicalDecompositions, Array.toList_append, List.mem_append]
  rintro r ((hr | hr) | hr)
  · exact h₁ r hr
  · exact h₂ r hr
  · exact h₃ r hr

variable {c : Char}

theorem combiningClass_of_ascii (hc : c.toNat < 128) : combiningClass c = 0 := by
  have hnone : RangeTable.find? combiningClassRanges (fun r => r.1) (fun r => r.2.1) c.toNat = none :=
    RangeTable.find?_eq_none fun r hr => by
      have := nfcTables_above_ascii.1 r (Array.mem_def.1 hr)
      omega
  unfold combiningClass
  rw [hnone]

theorem isMark_of_ascii (hc : c.toNat < 128) : isMark c = false := by
  have hnone : RangeTable.find? markRanges (fun r => r.1) (fun r => r.2) c.toNat = none :=
    RangeTable.find?_eq_none fun r hr => by
      have := nfcTables_above_ascii.2.1 r (Array.mem_def.1 hr)
      omega
  simp only [isMark, hnone, Option.isSome_none]

namespace Nfc

theorem decompose_of_ascii (hc : c.toNat < 128) : decompose c = [c] := by
  have hbase : ¬ syllableBase ≤ c.toNat := by
    simp only [syllableBase]
    omega
  have hsyl : isSyllable c.toNat = false := by simp [isSyllable, hbase]
  have hnone : RangeTable.lastAtMost? canonicalDecompositions (fun r => r.1) c.toNat = none :=
    RangeTable.lastAtMost?_eq_none fun r hr => by
      have := nfcTables_above_ascii.2.2.1 r (Array.mem_def.1 hr)
      omega
  simp only [decompose, hsyl, Bool.false_eq_true, ↓reduceIte, hnone]

theorem composePair_of_ascii (a : Char) {b : Char} (hb : b.toNat < 128) : composePair a b = none := by
  unfold composePair
  have hvowel : ¬ vowelBase ≤ b.toNat := by simp only [vowelBase]; omega
  have htrail : ¬ trailBase < b.toNat := by simp only [trailBase]; omega
  simp only [hvowel, htrail, false_and, and_false, ↓reduceIte]
  split
  · rename_i p q r hfound
    have hmem := (RangeTable.lastAtMost?_spec hfound).1
    have := nfcTables_above_ascii.2.2.2 _ (Array.mem_def.1 hmem)
    simp only at this
    split
    · omega
    · rfl
  · rfl

theorem push_of_ascii (done : List Char) (s : Char) (hc : c.toNat < 128) :
    Composer.push ⟨done, some s, []⟩ c = ⟨s :: done, some c, []⟩ := by
  simp [Composer.push, blocked, composePair_of_ascii s hc, combiningClass_of_ascii hc]

theorem foldl_push_of_ascii (done : List Char) (s : Char) {cs : List Char}
    (h : ∀ c ∈ cs, c.toNat < 128) :
    (cs.foldl Composer.push ⟨done, some s, []⟩).finish = done.reverse ++ s :: cs := by
  induction cs generalizing done s with
  | nil => simp [Composer.finish]
  | cons c cs ih =>
    rw [List.foldl_cons, push_of_ascii done s (h c (by simp)),
      ih _ _ fun x hx => h x (by simp [hx])]
    simp

theorem compose_of_ascii {cs : List Char} (h : ∀ c ∈ cs, c.toNat < 128) : compose cs = cs := by
  cases cs with
  | nil => rfl
  | cons c cs =>
    have hc := h c (by simp)
    have hfirst : Composer.push {} c = ⟨[], some c, []⟩ := by
      simp [Composer.push, combiningClass_of_ascii hc]
    simp only [compose, List.foldl_cons, hfirst]
    rw [foldl_push_of_ascii [] c fun x hx => h x (by simp [hx])]
    rfl

theorem reorderFrom_of_starters {cs : List Char} (h : ∀ c ∈ cs, combiningClass c = 0) :
    reorderFrom [] cs = cs := by
  induction cs with
  | nil => simp [reorderFrom, sortMarks]
  | cons c cs ih =>
    simp [reorderFrom, h c (by simp), sortMarks, ih fun x hx => h x (by simp [hx])]

end Nfc

/-- Normalization leaves ASCII text as it is. -/
theorem nfc_of_ascii {cs : List Char} (h : ∀ c ∈ cs, c.toNat < 128) : nfc cs = cs := by
  have hdec : cs.flatMap Nfc.decompose = cs := by
    induction cs with
    | nil => rfl
    | cons c cs ih =>
      simp [Nfc.decompose_of_ascii (h c (by simp)), ih fun x hx => h x (by simp [hx])]
  rw [nfc, hdec, Nfc.reorder,
    Nfc.reorderFrom_of_starters fun c hc => combiningClass_of_ascii (h c hc),
    Nfc.compose_of_ascii h]

end Text

namespace Idna

open Text

theorem mappingRows_toList : ∃ rest, mappingRows.toList =
    ⟨0x0, 0x40, .valid⟩ :: ⟨0x41, 0x5A, .shift 32 1⟩ :: ⟨0x5B, 0x7F, .valid⟩ ::
      ⟨0x80, 0x9F, .disallowed⟩ :: rest ∧ ∀ r ∈ rest, 0xA0 ≤ r.first := by
  have hhead : rowsAlphabets.toList = ⟨0x0, 0x40, .valid⟩ :: ⟨0x41, 0x5A, .shift 32 1⟩ ::
      ⟨0x5B, 0x7F, .valid⟩ :: ⟨0x80, 0x9F, .disallowed⟩ :: rowsAlphabets.toList.drop 4 := by
    decide +kernel
  have h₁ : ∀ r ∈ rowsAlphabets.toList.drop 4, 0xA0 ≤ r.first := by decide +kernel
  have h₂ : ∀ r ∈ rowsSymbols.toList, 0xA0 ≤ r.first := by decide +kernel
  have h₃ : ∀ r ∈ rowsEastAsian.toList, 0xA0 ≤ r.first := by decide +kernel
  have h₄ : ∀ r ∈ rowsCompatibilityIdeographs.toList, 0xA0 ≤ r.first := by decide +kernel
  have h₅ : ∀ r ∈ rowsPresentationForms.toList, 0xA0 ≤ r.first := by decide +kernel
  have h₆ : ∀ r ∈ rowsHistoric.toList, 0xA0 ≤ r.first := by decide +kernel
  have h₇ : ∀ r ∈ rowsMathematical.toList, 0xA0 ≤ r.first := by decide +kernel
  have h₈ : ∀ r ∈ rowsSupplementaryIdeographs.toList, 0xA0 ≤ r.first := by decide +kernel
  refine ⟨rowsAlphabets.toList.drop 4 ++ rowsSymbols.toList ++ rowsEastAsian.toList ++
    rowsCompatibilityIdeographs.toList ++ rowsPresentationForms.toList ++ rowsHistoric.toList ++
    rowsMathematical.toList ++ rowsSupplementaryIdeographs.toList, ?_, ?_⟩
  · simp only [mappingRows, Array.toList_append]
    nth_rewrite 1 [hhead]
    simp only [List.cons_append]
  · simp only [List.mem_append]
    rintro r (((((((hr | hr) | hr) | hr) | hr) | hr) | hr) | hr)
    exacts [h₁ r hr, h₂ r hr, h₃ r hr, h₄ r hr, h₅ r hr, h₆ r hr, h₇ r hr, h₈ r hr]

variable {c : Char}

theorem rowOf?_of_ascii (hc : c.toNat < 128) :
    rowOf? c = some (if c.toNat ≤ 0x40 then ⟨0x0, 0x40, .valid⟩
      else if c.toNat ≤ 0x5A then ⟨0x41, 0x5A, .shift 32 1⟩ else ⟨0x5B, 0x7F, .valid⟩) := by
  obtain ⟨rest, hrows, hrest⟩ := mappingRows_toList
  have habove : ∀ r ∈ rest, c.toNat < r.first := fun r hr => by
    have := hrest r hr
    omega
  unfold rowOf?
  split_ifs with h₁ h₂
  · refine RangeTable.find?_of_toList [] hrows (by simp) (by simp) h₁ ?_
    simp only [List.mem_cons]
    rintro r (rfl | rfl | rfl | hr)
    all_goals first | (simp only; omega) | exact habove r hr
  · refine RangeTable.find?_of_toList [(⟨0x0, 0x40, .valid⟩ : MappingRow)] hrows (by simp) (by simp; omega) h₂ ?_
    simp only [List.mem_cons]
    rintro r (rfl | rfl | hr)
    all_goals first | (simp only; omega) | exact habove r hr
  · refine RangeTable.find?_of_toList [(⟨0x0, 0x40, .valid⟩ : MappingRow), ⟨0x41, 0x5A, .shift 32 1⟩] hrows
      (by simp; omega) (by simp; omega) (by simp; omega) ?_
    simp only [List.mem_cons]
    rintro r (rfl | hr)
    all_goals first | (simp only; omega) | exact habove r hr

theorem rowOf?_of_c1 (h₁ : 0x80 ≤ c.toNat) (h₂ : c.toNat ≤ 0x9F) :
    rowOf? c = some ⟨0x80, 0x9F, .disallowed⟩ := by
  obtain ⟨rest, hrows, hrest⟩ := mappingRows_toList
  refine RangeTable.find?_of_toList [(⟨0x0, 0x40, .valid⟩ : MappingRow), ⟨0x41, 0x5A, .shift 32 1⟩,
    ⟨0x5B, 0x7F, .valid⟩] hrows (by simp; omega) h₁ h₂ fun r hr => ?_
  have := hrest r hr
  omega

theorem mapChar_of_ascii (hc : c.toNat < 128) (hu : c.isUpper = false) : mapChar c = some [c] := by
  have hu' : ¬ (65 ≤ c.toNat ∧ c.toNat ≤ 90) := by
    intro h
    rw [← isUpper_iff, hu] at h
    exact Bool.false_ne_true h
  rw [mapChar, rowOf?_of_ascii hc]
  split_ifs with h₁ h₂
  · rfl
  · omega
  · rfl

theorem isValid_of_ascii (hc : c.toNat < 128) (hu : c.isUpper = false) : isValid c = true := by
  have hu' : ¬ (65 ≤ c.toNat ∧ c.toNat ≤ 90) := by
    intro h
    rw [← isUpper_iff, hu] at h
    exact Bool.false_ne_true h
  rw [isValid, rowOf?_of_ascii hc]
  split_ifs with h₁ h₂
  · rfl
  · omega
  · rfl

theorem isValid_of_c1 (h₁ : 0x80 ≤ c.toNat) (h₂ : c.toNat ≤ 0x9F) : isValid c = false := by
  rw [isValid, rowOf?_of_c1 h₁ h₂]
  rfl

theorem bidiClassRanges_ascii_not_rtl :
    ∀ r ∈ bidiClassRanges.toList, isRightToLeft r.2.2 = false ∨ 128 ≤ r.1 := by
  decide +kernel

theorem isRightToLeft_of_ascii (hc : c.toNat < 128) : isRightToLeft (bidiClass c) = false := by
  unfold bidiClass
  split
  · rename_i r hfound
    obtain ⟨hmem, hfirst, -⟩ := RangeTable.find?_spec hfound
    rcases bidiClassRanges_ascii_not_rtl r (Array.mem_def.1 hmem) with h | h
    · exact h
    · omega
  · rfl

end Idna

end SellerSync
