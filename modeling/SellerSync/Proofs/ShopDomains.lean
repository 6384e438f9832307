import Mathlib
import SellerSync.Auth.Consent
import SellerSync.Proofs.AsciiText
/-! What `Consent.shopDomain?` makes of a typed shop name, for every text. -/

namespace SellerSync

namespace Text

theorem toNat_ofNat (n : Nat) : (Char.ofNat n).toNat = n ∨ (Char.ofNat n).toNat = 0 := by
  unfold Char.ofNat
  split
  · exact .inl (Char.toNat_ofNatAux _)
  · exact .inr rfl

theorem lowercaseRuns_ascii : ∀ r ∈ lowercaseRuns.toList, r.1 < 128 → 65 ≤ r.1 ∧ r.2.1 ≤ 90 := by
  decide +kernel

theorem lowercaseRuns_clear :
    lowercaseRuns.toList.all (fun r => decide (90 < (r.1 : Int) + r.2.2.1 ∨
      (r.2.1 : Int) + r.2.2.1 < 65)) = true := by
  decide +kernel

theorem lowerSimple_ascii_upper : ∀ n < 26, (lowerSimple (Char.ofNat (65 + n))).isUpper = false := by
  decide +kernel

theorem lowerSimple_not_upper (c : Char) : (lowerSimple c).isUpper = false := by
  by_cases hu : c.isUpper = true
  · rw [isUpper_iff] at hu
    have hc : Char.ofNat (65 + (c.toNat - 65)) = c := by
      rw [show 65 + (c.toNat - 65) = c.toNat by omega, Char.ofNat_toNat]
    simpa [hc] using lowerSimple_ascii_upper (c.toNat - 65) (by omega)
  · dsimp only [lowerSimple]
    split
    · rename_i first last delta step hfind
      split
      · -- the run that holds `c` moves it clear of the uppercase letters
        have hmem := Array.mem_of_find?_eq_some hfind
        have hin := Array.find?_some hfind
        have hclear := List.all_eq_true.1 lowercaseRuns_clear _ (Array.mem_toList_iff.2 hmem)
        simp only [decide_eq_true_eq] at hin hclear
        rcases toNat_ofNat (c.toNat + delta).toNat with h | h <;>
          simp only [Bool.eq_false_iff, ne_eq, isUpper_iff, h] <;> omega
      · simpa using hu
    · simpa using hu

theorem lowerChars_not_upper (before cs : List Char) :
    ∀ c ∈ lowerChars before cs, c.isUpper = false := by
  induction cs generalizing before with
  | nil => simp [lowerChars]
  | cons x rest ih =>
    intro c hc
    simp only [lowerChars, List.mem_append] at hc
    rcases hc with hc | hc
    · -- the characters written for `x`: a sigma, an `i` with its dot, or `x` mapped
      split at hc
      · split at hc <;> simp only [List.mem_singleton] at hc <;> subst hc <;> decide
      · split at hc
        · simp only [List.mem_cons, List.not_mem_nil, or_false] at hc
          rcases hc with rfl | rfl <;> decide
        · rw [List.mem_singleton] at hc
          rw [hc]
          exact lowerSimple_not_upper x
    · exact ih _ c hc

end Text

namespace Consent

/-- The characters of a normalized shop host: lowercase ASCII letters, digits, `-` and `.`. -/
def isShopChar (c : Char) : Bool := c.isLower || c.isDigit || c == '-' || c == '.'

theorem toNat_lt_of_isShopChar {c : Char} (h : isShopChar c = true) : c.toNat < 128 := by
  simp only [isShopChar, Bool.or_eq_true, beq_iff_eq] at h
  rcases h with ((h | h) | rfl) | rfl
  · have := (Text.isLower_iff c).1 h
    omega
  · have := (Text.isDigit_iff c).1 h
    omega
  · decide
  · decide

theorem of_ascii {P : Char → Prop} (hP : ∀ n < 128, P (Char.ofNat n)) {c : Char}
    (hc : c.toNat < 128) : P c := by
  simpa [Char.ofNat_toNat] using hP c.toNat hc

theorem isUpper_of_isShopChar {c : Char} (h : isShopChar c = true) : c.isUpper = false := by
  rw [Bool.eq_false_iff, ne_eq, Text.isUpper_iff]
  simp only [isShopChar, Bool.or_eq_true, beq_iff_eq] at h
  rcases h with ((h | h) | rfl) | rfl
  · have := (Text.isLower_iff c).1 h
    omega
  · have := (Text.isDigit_iff c).1 h
    omega
  · decide
  · decide

theorem lowerSimple_of_isShopChar {c : Char} (h : isShopChar c = true) : Text.lowerSimple c = c := by
  have hc := toNat_lt_of_isShopChar h
  have hu : ¬ (65 ≤ c.toNat ∧ c.toNat ≤ 90) := by
    rw [← Text.isUpper_iff, isUpper_of_isShopChar h]
    simp
  have hnone : Text.lowercaseRuns.find? (fun r => decide (r.1 ≤ c.toNat ∧ c.toNat ≤ r.2.1)) = none := by
    rw [Array.find?_eq_none]
    intro r hr hin
    have := Text.lowercaseRuns_ascii r (Array.mem_toList_iff.2 hr)
    simp only [decide_eq_true_eq] at hin
    omega
  dsimp only [Text.lowerSimple]
  split
  · rename_i heq
    rw [hnone] at heq
    cases heq
  · rfl

theorem isBlank_of_isShopChar {c : Char} (h : isShopChar c = true) : Text.isBlank c = false :=
  of_ascii (P := fun c => isShopChar c = true → Text.isBlank c = false) (by decide)
    (toNat_lt_of_isShopChar h) h

theorem isHostChar_of_isShopChar {c : Char} (h : isShopChar c = true) : isHostChar c = true :=
  of_ascii (P := fun c => isShopChar c = true → isHostChar c = true) (by decide)
    (toNat_lt_of_isShopChar h) h

theorem ne_slash_of_isShopChar {c : Char} (h : isShopChar c = true) : c ≠ '/' := by
  rintro rfl
  exact absurd h (by decide)

theorem isShopChar_of_isHostChar {c : Char} (h : isHostChar c = true) (hu : c.isUpper = false) :
    isShopChar c = true := by
  have hascii : c.toNat < 128 := by
    simp only [isHostChar, Bool.or_eq_true, Bool.and_eq_true, decide_eq_true_eq, beq_iff_eq] at h
    rcases h with (⟨-, h⟩ | rfl) | rfl
    · exact h
    · decide
    · decide
  exact of_ascii (P := fun c => isHostChar c = true → c.isUpper = false → isShopChar c = true)
    (by decide) hascii h hu

theorem lowerChars_of_isShopChar (before cs : List Char) (h : ∀ c ∈ cs, isShopChar c = true) :
    Text.lowerChars before cs = cs := by
  induction cs generalizing before with
  | nil => rfl
  | cons x rest ih =>
    have hx := h x (by simp)
    have hlt := toNat_lt_of_isShopChar hx
    have hsigma : x ≠ Text.capitalSigma := by
      rintro rfl
      exact absurd hlt (by decide)
    have hdot : x.toNat ≠ 0x130 := by omega
    simp only [Text.lowerChars, hsigma, hdot, ↓reduceIte, lowerSimple_of_isShopChar hx,
      List.singleton_append, ih _ (fun c hc => h c (by simp [hc]))]

theorem dropPrefixes_of_not_mem {p s : List Char} {c : Char} (hp : c ∈ p) (hs : c ∉ s)
    (fuel : Nat) : dropPrefixes p s fuel = s := by
  cases fuel with
  | zero => rfl
  | succ fuel =>
    have hnot : p.isPrefixOf s = false := by
      rw [Bool.eq_false_iff]
      intro hpre
      exact hs ((List.isPrefixOf_iff_prefix.1 hpre).subset hp)
    simp [dropPrefixes, hnot]

theorem dropWhile_of_none {p : Char → Bool} {cs : List Char} (h : ∀ c ∈ cs, p c = false) :
    cs.dropWhile p = cs := by
  cases cs with
  | nil => rfl
  | cons x rest => simp [h x (by simp)]

theorem trim_of_isShopChar {cs : List Char} (h : ∀ c ∈ cs, isShopChar c = true) :
    Text.trim (String.ofList cs) = String.ofList cs := by
  have hb : ∀ c ∈ cs, Text.isBlank c = false := fun c hc => isBlank_of_isShopChar (h c hc)
  have hbr : ∀ c ∈ cs.reverse, Text.isBlank c = false := fun c hc => hb c (List.mem_reverse.1 hc)
  simp only [Text.trim, String.toList_ofList, dropWhile_of_none hb, dropWhile_of_none hbr,
    List.reverse_reverse]

theorem shopSuffix_isShopChar : ∀ c ∈ shopSuffix.toList, isShopChar c = true := by
  have h : shopSuffix.toList = ['.', 'm', 'y', 's', 'h', 'o', 'p', 'i', 'f', 'y', '.', 'c', 'o', 'm'] := by
    simp [shopSuffix]
  rw [h]
  simp [isShopChar]

theorem shopDomain?_spec {s d : String} (h : shopDomain? s = some d) :
    (∀ c ∈ d.toList, isShopChar c = true) ∧ shopSuffix.toList <:+ d.toList := by
  simp only [shopDomain?] at h
  generalize hhost : Text.toLower _ = host at h
  have hnu : ∀ c ∈ host.toList, c.isUpper = false := by
    rw [← hhost]
    intro c hc
    exact Text.lowerChars_not_upper [] _ c (by simpa [Text.toLower] using hc)
  split at h
  · cases h
  · rename_i hok
    simp only [Bool.or_eq_true, String.isEmpty_iff, Bool.not_eq_true', List.all_eq_false,
      not_or, not_exists, not_and, not_not] at hok
    have hshop : ∀ c ∈ host.toList, isShopChar c = true :=
      fun c hc => isShopChar_of_isHostChar (hok.2 c hc) (hnu c hc)
    split at h
    · cases h
      exact ⟨hshop, List.isSuffixOf_iff_suffix.1 ‹_›⟩
    · split at h
      · cases h
        refine ⟨?_, ?_⟩
        · intro c hc
          simp only [String.toList_append, List.mem_append] at hc
          exact hc.elim (hshop c) (shopSuffix_isShopChar c)
        · simp
      · cases h

theorem shopDomain?_of_isShopChar {d : String} (hd : ∀ c ∈ d.toList, isShopChar c = true)
    (hs : shopSuffix.toList <:+ d.toList) : shopDomain? d = some d := by
  have hslash : '/' ∉ d.toList := fun h => ne_slash_of_isShopChar (hd _ h) rfl
  have htake : d.toList.takeWhile (· != '/') = d.toList :=
    List.takeWhile_eq_self_iff.2 fun c hc => by
      simpa using ne_slash_of_isShopChar (hd c hc)
  have hlower : Text.toLower d = d := by
    simp [Text.toLower, lowerChars_of_isShopChar [] d.toList hd]
  have hne : d.isEmpty = false := by
    rw [Bool.eq_false_iff]
    intro he
    have := hs.length_le
    simp only [String.isEmpty_iff] at he
    simp [he] at this
    exact absurd this (by decide)
  have hhost : d.toList.all isHostChar = true :=
    List.all_eq_true.2 fun c hc => isHostChar_of_isShopChar (hd c hc)
  have htrim := trim_of_isShopChar hd
  rw [String.ofList_toList] at htrim
  have hhttps := dropPrefixes_of_not_mem (p := "https://".toList) (c := '/') (by decide) hslash
  have hhttp := dropPrefixes_of_not_mem (p := "http://".toList) (c := '/') (by decide) hslash
  simp only [shopDomain?, htrim, hhttps, hhttp, htake,
    String.ofList_toList, hlower, hne, hhost, Bool.not_true, Bool.or_false, Bool.false_eq_true,
    ↓reduceIte, List.isSuffixOf_iff_suffix.2 hs]

/-- A shop name that normalizes does so to a host of lowercase ASCII letters, digits, `-` and
`.` ending in `.myshopify.com`, and that host normalizes to itself. -/
theorem shopDomain?_canonical {s d : String} (h : shopDomain? s = some d) :
    shopDomain? d = some d ∧ ∃ p : String, d = p ++ shopSuffix ∧ ∀ c ∈ p.toList, isShopChar c = true := by
  obtain ⟨hd, hs⟩ := shopDomain?_spec h
  refine ⟨shopDomain?_of_isShopChar hd hs, ?_⟩
  obtain ⟨p, hp⟩ := hs
  refine ⟨String.ofList p, ?_, ?_⟩
  · apply String.toList_injective
    simp [hp]
  · intro c hc
    exact hd c (by rw [← hp]; simp only [String.toList_ofList] at hc; simp [hc])

end Consent

end SellerSync
