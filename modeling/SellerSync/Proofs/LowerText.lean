import SellerSync.Proofs.ShopDomains
/-! Lowercasing a text is idempotent and keeps blank ends. -/
namespace SellerSync

namespace Text

/-! ## The simple lowercase table -/

/-- Whether the run `(first, last, delta, step)` moves the character with code `n`. -/
def runMoves (r : Nat × Nat × Int × Nat) (n : Nat) : Bool :=
  Nat.ble r.1 n && Nat.ble n r.2.1 && (n - r.1) % r.2.2.2 == 0

/-- Where the run `r` moves the code `n`. -/
def runImage (r : Nat × Nat × Int × Nat) (n : Nat) : Nat := ((n : Int) + r.2.2.1).toNat

/-- The codes that run `r` moves, counted from its first: `first + k * step`. -/
def runSteps (r : Nat × Nat × Int × Nat) : List Nat := List.range ((r.2.1 - r.1) / r.2.2.2 + 1)

/-- No code that run `r` moves lands on a code that run `q` moves: the ranges lie apart, or
every landing code is checked. -/
def runsApart (r q : Nat × Nat × Int × Nat) : Bool :=
  Nat.blt (runImage r r.2.1) q.1 || Nat.blt q.2.1 (runImage r r.1) ||
    (runSteps r).all fun k => !runMoves q (runImage r (r.1 + k * r.2.2.2))

/-- The codes that no character is lowercased onto: the blanks, and capital I with dot above and
capital sigma, which lowercasing writes by rules of their own. -/
def lowerAvoids : List Nat :=
  [9, 10, 11, 12, 13, 32, 0x85, 0xA0, 0x1680] ++ List.range' 0x2000 11 ++
    [0x2028, 0x2029, 0x202F, 0x205F, 0x3000, 0x130, 0x3A3]

/-- A run starts above code 0, and the range it moves codes onto holds no code of
`lowerAvoids`. -/
def runClear (r : Nat × Nat × Int × Nat) : Bool :=
  Nat.blt 0 r.1 &&
    lowerAvoids.all fun b => Nat.blt b (runImage r r.1) || Nat.blt (runImage r r.2.1) b

theorem lowercaseRuns_settled :
    (lowercaseRuns.toList.all fun r => runClear r && lowercaseRuns.toList.all (runsApart r)) =
      true := by
  decide +kernel

theorem lowercaseRuns_unmoved : ∀ n ∈ [0x69, 0x307, 0x3C2, 0x3C3], ∀ q ∈ lowercaseRuns.toList,
    runMoves q n = false := by
  decide +kernel

variable {r q : Nat × Nat × Int × Nat} {n : Nat}

theorem runMoves_step (h : runMoves r n = true) : ∃ k ∈ runSteps r, r.1 + k * r.2.2.2 = n := by
  simp only [runMoves, Bool.and_eq_true, Nat.ble_eq, beq_iff_eq] at h
  obtain ⟨⟨hlo, hhi⟩, hmod⟩ := h
  refine ⟨(n - r.1) / r.2.2.2, ?_, ?_⟩
  · simp only [runSteps, List.mem_range]
    exact Nat.lt_succ_of_le (Nat.div_le_div_right (by omega))
  · rw [Nat.div_mul_cancel (Nat.dvd_of_mod_eq_zero hmod)]
    omega

theorem runImage_mono {a b : Nat} (h : a ≤ b) : runImage r a ≤ runImage r b := by
  unfold runImage
  omega

theorem runMoves_bounds (h : runMoves r n = true) : r.1 ≤ n ∧ n ≤ r.2.1 := by
  simp only [runMoves, Bool.and_eq_true, Nat.ble_eq] at h
  exact h.1

theorem runMoves_runImage (hrq : runsApart r q = true) (hr : runMoves r n = true) :
    runMoves q (runImage r n) = false := by
  have hn := runMoves_bounds hr
  have hlo := runImage_mono (r := r) hn.1
  have hhi := runImage_mono (r := r) hn.2
  simp only [runsApart, Bool.or_eq_true, Nat.blt_eq, List.all_eq_true, Bool.not_eq_eq_eq_not,
    Bool.not_true] at hrq
  rcases hrq with (hbelow | habove) | hsteps
  · simp [runMoves]
    omega
  · simp [runMoves]
    omega
  · obtain ⟨k, hk, rfl⟩ := runMoves_step hr
    exact hsteps k hk

theorem lowerSimple_cases (c : Char) :
    lowerSimple c = c ∨
      ∃ r ∈ lowercaseRuns.toList, runMoves r c.toNat = true ∧
        lowerSimple c = Char.ofNat (runImage r c.toNat) := by
  dsimp only [lowerSimple]
  split
  next first last delta step hfind =>
    have hmem := Array.mem_toList_iff.2 (Array.mem_of_find?_eq_some hfind)
    have hin := Array.find?_some hfind
    simp only [decide_eq_true_eq] at hin
    split
    next hmod =>
      refine .inr ⟨_, hmem, ?_, rfl⟩
      simpa [runMoves, hmod] using hin
    next => exact .inl rfl
  next => exact .inl rfl

theorem lowerSimple_eq_self {c : Char} (h : ∀ q ∈ lowercaseRuns.toList, runMoves q c.toNat = false) :
    lowerSimple c = c := by
  rcases lowerSimple_cases c with hc | ⟨q, hq, hmove, -⟩
  · exact hc
  · simp [h q hq] at hmove

theorem lowerSimple_lowerSimple (c : Char) : lowerSimple (lowerSimple c) = lowerSimple c := by
  rcases lowerSimple_cases c with hc | ⟨r, hr, hmove, hc⟩
  · rw [hc, hc]
  · have hset := List.all_eq_true.1 lowercaseRuns_settled r hr
    simp only [Bool.and_eq_true, List.all_eq_true] at hset
    rw [hc]
    apply lowerSimple_eq_self
    intro q hq
    rcases toNat_ofNat (runImage r c.toNat) with hm | hm
    · rw [hm]
      exact runMoves_runImage (hset.2 q hq) hmove
    · -- an invalid code lands on code 0, which starts no run
      have hq0 := (List.all_eq_true.1 lowercaseRuns_settled q hq)
      simp only [runClear, Bool.and_eq_true, Nat.blt_eq] at hq0
      simp [hm, runMoves]
      omega

theorem isBlank_of_not_mem {c : Char} (h : c.toNat ∉ lowerAvoids) : isBlank c = false := by
  simp only [lowerAvoids, List.mem_append, List.mem_cons, List.mem_range'_1, List.not_mem_nil,
    or_false, not_or] at h
  simp only [isBlank, Bool.or_eq_false_iff, Bool.and_eq_false_iff, decide_eq_false_iff_not,
    beq_eq_false_iff_ne]
  omega

theorem lowerSimple_eq_or_clear (c : Char) :
    lowerSimple c = c ∨ (lowerSimple c).toNat ∉ lowerAvoids := by
  rcases lowerSimple_cases c with hc | ⟨r, hr, hmove, hc⟩
  · exact .inl hc
  · have hset := List.all_eq_true.1 lowercaseRuns_settled r hr
    simp only [Bool.and_eq_true, runClear, List.all_eq_true, Bool.or_eq_true, Nat.blt_eq] at hset
    have hn := runMoves_bounds hmove
    have hlo := runImage_mono (r := r) hn.1
    have hhi := runImage_mono (r := r) hn.2
    refine .inr ?_
    rw [hc]
    rcases toNat_ofNat (runImage r c.toNat) with hm | hm <;> rw [hm]
    · intro hmem
      have := hset.1.2 _ hmem
      omega
    · decide

theorem isBlank_lowerSimple {c : Char} (h : isBlank c = false) : isBlank (lowerSimple c) = false := by
  rcases lowerSimple_eq_or_clear c with hc | hc
  · rw [hc, h]
  · exact isBlank_of_not_mem hc

/-! ## Lowercasing a text -/

/-- A character that lowercasing writes as it is, wherever it stands: it is its own simple
lowercase, and neither capital sigma nor capital I with dot above. -/
def LowerFixed (x : Char) : Prop := x ≠ capitalSigma ∧ x.toNat ≠ 0x130 ∧ lowerSimple x = x

instance : DecidablePred LowerFixed := fun _ => inferInstanceAs (Decidable (_ ∧ _ ∧ _))

theorem lowerFixed_lowerSimple {c : Char} (hsigma : c ≠ capitalSigma) (hdot : c.toNat ≠ 0x130) :
    LowerFixed (lowerSimple c) := by
  have hidem := lowerSimple_lowerSimple c
  rcases lowerSimple_eq_or_clear c with hc | hc
  · rw [hc] at hidem ⊢
    exact ⟨hsigma, hdot, hidem⟩
  · refine ⟨fun h => hc ?_, fun h => hc ?_, hidem⟩
    · rw [h]
      decide
    · rw [h]
      decide

theorem lowerFixed_of_unmoved {x : Char} (h : x.toNat ∈ [0x69, 0x307, 0x3C2, 0x3C3]) :
    LowerFixed x ∧ isBlank x = false := by
  have hsigma : x ≠ capitalSigma := by
    rintro rfl
    revert h
    decide
  refine ⟨⟨hsigma, ?_, lowerSimple_eq_self (lowercaseRuns_unmoved _ h)⟩, ?_⟩
  · simp only [List.mem_cons, List.not_mem_nil, or_false] at h
    omega
  · simp only [List.mem_cons, List.not_mem_nil, or_false] at h
    simp only [isBlank, Bool.or_eq_false_iff, Bool.and_eq_false_iff, decide_eq_false_iff_not,
      beq_eq_false_iff_ne]
    omega

theorem lowerChars_cons (before rest : List Char) (c : Char) :
    ∃ out, lowerChars before (c :: rest) = out ++ lowerChars (c :: before) rest ∧ out ≠ [] ∧
      ∀ x ∈ out, LowerFixed x ∧ (isBlank c = false → isBlank x = false) := by
  have hrule : ∀ x : Char, x.toNat ∈ [0x69, 0x307, 0x3C2, 0x3C3] →
      LowerFixed x ∧ (isBlank c = false → isBlank x = false) :=
    fun x hx => ⟨(lowerFixed_of_unmoved hx).1, fun _ => (lowerFixed_of_unmoved hx).2⟩
  refine ⟨_, rfl, ?_, ?_⟩
  · split_ifs <;> simp
  · split_ifs with hsigma hfinal hdot
    · simp only [List.mem_singleton]
      rintro x rfl
      exact hrule _ (by decide)
    · simp only [List.mem_singleton]
      rintro x rfl
      exact hrule _ (by decide)
    · simp only [List.mem_cons, List.not_mem_nil, or_false]
      rintro x (rfl | rfl) <;> exact hrule _ (by decide)
    · intro x hx
      rw [List.mem_singleton.1 hx]
      exact ⟨lowerFixed_lowerSimple hsigma hdot, isBlank_lowerSimple⟩

theorem lowerChars_nil (before : List Char) : lowerChars before [] = [] := rfl

theorem lowerFixed_of_mem_lowerChars (before cs : List Char) : ∀ x ∈ lowerChars before cs, LowerFixed x := by
  induction cs generalizing before with
  | nil => simp [lowerChars_nil]
  | cons c rest ih =>
    obtain ⟨out, heq, -, hout⟩ := lowerChars_cons before rest c
    intro x hx
    rw [heq, List.mem_append] at hx
    rcases hx with hx | hx
    · exact (hout x hx).1
    · exact ih _ x hx

theorem lowerChars_of_lowerFixed (before : List Char) {cs : List Char} (h : ∀ x ∈ cs, LowerFixed x) :
    lowerChars before cs = cs := by
  induction cs generalizing before with
  | nil => rfl
  | cons c rest ih =>
    obtain ⟨hsigma, hdot, hsimple⟩ := h c (List.mem_cons_self ..)
    simp only [lowerChars, hsigma, hdot, if_false, hsimple, List.singleton_append]
    rw [ih _ fun x hx => h x (List.mem_cons_of_mem _ hx)]

/-- Lowercasing is idempotent. -/
theorem toLower_toLower (s : String) : toLower (toLower s) = toLower s := by
  simp only [toLower, String.toList_ofList]
  rw [lowerChars_of_lowerFixed [] (lowerFixed_of_mem_lowerChars [] s.toList)]

theorem lowerChars_eq_nil_iff {before cs : List Char} : lowerChars before cs = [] ↔ cs = [] := by
  cases cs with
  | nil => simp [lowerChars_nil]
  | cons c rest =>
    obtain ⟨out, heq, hne, -⟩ := lowerChars_cons before rest c
    simp [heq, hne]

theorem head?_lowerChars {before cs : List Char} (h : ∀ c ∈ cs.head?, isBlank c = false) :
    ∀ x ∈ (lowerChars before cs).head?, isBlank x = false := by
  cases cs with
  | nil => simp [lowerChars_nil]
  | cons c rest =>
    obtain ⟨out, heq, hne, hout⟩ := lowerChars_cons before rest c
    obtain ⟨y, ys, rfl⟩ := List.exists_cons_of_ne_nil hne
    intro x hx
    simp only [heq, List.cons_append, List.head?_cons, Option.mem_def, Option.some.injEq] at hx
    subst hx
    exact (hout y (List.mem_cons_self ..)).2 (h c rfl)

theorem getLast?_lowerChars {before cs : List Char} (h : ∀ c ∈ cs.getLast?, isBlank c = false) :
    ∀ x ∈ (lowerChars before cs).getLast?, isBlank x = false := by
  induction cs generalizing before with
  | nil => simp [lowerChars_nil]
  | cons c rest ih =>
    obtain ⟨out, heq, -, hout⟩ := lowerChars_cons before rest c
    intro x hx
    rw [heq, List.getLast?_append] at hx
    cases rest with
    | nil =>
      simp only [lowerChars_nil, List.getLast?_nil, Option.none_or] at hx
      exact (hout x (List.mem_of_getLast? hx)).2 (h c rfl)
    | cons d ds =>
      have hne : lowerChars (c :: before) (d :: ds) ≠ [] := by simp [lowerChars_eq_nil_iff]
      obtain ⟨y, hy⟩ := List.getLast?_isSome.2 hne |> Option.isSome_iff_exists.1
      rw [hy, Option.some_or] at hx
      exact ih (fun e he => h e (by simpa using he)) x (hx ▸ hy)

/-! ## Key texts -/

/-- A text that can serve as a key: it is not empty and has no blank at either end. -/
structure KeyText (s : String) : Prop where
  ne_empty : s ≠ ""
  head : ∀ c ∈ s.toList.head?, isBlank c = false
  last : ∀ c ∈ s.toList.getLast?, isBlank c = false

theorem keyText_trim {s : String} (h : trim s ≠ "") : KeyText (trim s) := by
  have htrim : (trim s).toList = ((s.toList.dropWhile isBlank).reverse.dropWhile isBlank).reverse := by
    simp [trim]
  refine ⟨h, fun c hc => ?_, fun c hc => ?_⟩
  · -- the first character kept is the first one of the text that is not blank
    rw [htrim, List.head?_reverse] at hc
    obtain ⟨pre, hpre⟩ := List.dropWhile_suffix isBlank (l := (s.toList.dropWhile isBlank).reverse)
    have hfirst : (s.toList.dropWhile isBlank).head? = some c := by
      rw [← List.getLast?_reverse, ← hpre, List.getLast?_append, Option.mem_def.1 hc, Option.some_or]
    have := List.head?_dropWhile_not isBlank s.toList
    rw [hfirst] at this
    exact this
  · rw [htrim, List.getLast?_reverse] at hc
    have := List.head?_dropWhile_not isBlank (s.toList.dropWhile isBlank).reverse
    rw [Option.mem_def.1 hc] at this
    exact this

theorem trim_blank_append {pad s pad' : String} (hpad : ∀ c ∈ pad.toList, isBlank c)
    (hpad' : ∀ c ∈ pad'.toList, isBlank c) : trim (pad ++ s ++ pad') = trim s := by
  have hfront : (pad.toList ++ (s.toList ++ pad'.toList)).dropWhile isBlank =
      (s.toList ++ pad'.toList).dropWhile isBlank := List.dropWhile_append_of_pos hpad
  simp only [trim, String.toList_append, List.append_assoc, hfront, List.dropWhile_append]
  split
  · -- the text is blank throughout, and so is what follows it
    rename_i hs
    have hpad'_nil : pad'.toList.dropWhile isBlank = [] := List.dropWhile_eq_nil_iff.2 hpad'
    simp [hpad'_nil, List.isEmpty_iff.1 hs]
  · have hback : (pad'.toList.reverse ++ (s.toList.dropWhile isBlank).reverse).dropWhile isBlank =
        (s.toList.dropWhile isBlank).reverse.dropWhile isBlank :=
      List.dropWhile_append_of_pos fun c hc => hpad' c (List.mem_reverse.1 hc)
    simp only [List.reverse_append, hback]

theorem KeyText.toLower {s : String} (h : KeyText s) : KeyText (toLower s) := by
  refine ⟨?_, ?_, ?_⟩
  · intro he
    have hnil : lowerChars [] s.toList = [] := by
      simpa [Text.toLower] using congrArg String.toList he
    exact h.ne_empty (String.toList_eq_nil_iff.1 (lowerChars_eq_nil_iff.1 hnil))
  · simpa [Text.toLower] using @head?_lowerChars [] _ h.head
  · simpa [Text.toLower] using @getLast?_lowerChars [] _ h.last

end Text

end SellerSync
