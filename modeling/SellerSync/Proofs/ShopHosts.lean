import Mathlib
import SellerSync.Proofs.ShopDomains
import SellerSync.Web.Url

/-! Shop hosts as URL hosts: an `https` URL written on a normalized shop name reaches that name, with
no port, unless one of its labels is Punycode that decodes to nothing valid. -/

namespace SellerSync

namespace Consent

theorem of_isShopChar {P : Char → Prop}
    (hP : ∀ n < 128, isShopChar (Char.ofNat n) = true → P (Char.ofNat n)) {c : Char} (h : isShopChar c = true) : P c :=
  of_ascii (P := fun c => isShopChar c = true → P c) hP (toNat_lt_of_isShopChar h) h

end Consent

namespace Percent

theorem byteArray_toList (bs : ByteArray) : bs.toList = bs.data.toList := by
  have hloop : ∀ i r, ByteArray.toList.loop bs i r = r.reverse ++ bs.data.toList.drop i := by
    intro i r
    fun_induction ByteArray.toList.loop bs i r with
    | case1 i r hi ih =>
      have hlen : i < bs.data.toList.length := by simpa using hi
      rw [ih, List.drop_eq_getElem_cons hlen]
      simp [ByteArray.get!, hi]
    | case2 i r hi =>
      rw [List.drop_eq_nil_of_le (by simpa using Nat.le_of_not_lt hi), List.append_nil]
  rw [ByteArray.toList, hloop 0 []]
  simp

theorem utf8_ofList_of_ascii {cs : List Char} (h : ∀ c ∈ cs, c.toNat < 128) :
    utf8 (String.ofList cs) = cs.map Char.toUInt8 := by
  have hbytes : utf8 (String.ofList cs) = cs.flatMap String.utf8EncodeChar := by
    simp only [utf8, String.toUTF8_eq_toByteArray, String.toByteArray_ofList, byteArray_toList,
      List.utf8Encode, List.toList_data_toByteArray]
  rw [hbytes]
  clear hbytes
  induction cs with
  | nil => rfl
  | cons c cs ih =>
    have hc : c.val ≤ 127 := by
      have := h c (by simp)
      simp only [Char.toNat] at this
      simp only [UInt32.le_iff_toNat_le]
      simpa using (by omega : c.val.toNat ≤ 127)
    simp [String.utf8EncodeChar_eq_singleton (Char.utf8Size_eq_one_iff.2 hc),
      ih fun x hx => h x (by simp [hx])]

theorem decodeBytes_of_not_mem {bs : List UInt8} (h : 37 ∉ bs) : decodeBytes bs = bs := by
  induction bs with
  | nil => rfl
  | cons b bs ih =>
    have hb : b ≠ 37 := fun hb => h (by simp [hb])
    rw [decodeBytes.eq_def]
    split
    · rename_i heq
      cases heq
    · rename_i heq
      cases heq
      exact absurd rfl hb
    · rename_i heq
      cases heq
      rw [ih fun hm => h (by simp [hm])]

theorem utf8Lossy_of_lt {bs : List UInt8} (h : ∀ b ∈ bs, b < 0x80) {fuel : Nat}
    (hfuel : bs.length < fuel) : utf8Lossy bs fuel = bs.map fun b => Char.ofNat b.toNat := by
  induction bs generalizing fuel with
  | nil => cases fuel <;> rfl
  | cons b bs ih =>
    obtain ⟨fuel, rfl⟩ : ∃ f, fuel = f + 1 := ⟨fuel - 1, by simp at hfuel; omega⟩
    have hb := h b (by simp)
    simp only [utf8Lossy, hb, ↓reduceIte, List.map_cons,
      ih (fun x hx => h x (by simp [hx])) (by simp at hfuel; omega)]

theorem toNat_toUInt8_of_ascii {c : Char} (hc : c.toNat < 128) : c.toUInt8.toNat = c.toNat := by
  simp only [Char.toUInt8, UInt32.toNat_toUInt8, Char.toNat] at hc ⊢
  omega

theorem decode_of_ascii {cs : List Char} (h : ∀ c ∈ cs, c.toNat < 128) (hp : '%' ∉ cs) :
    decode (String.ofList cs) = String.ofList cs := by
  have hbyte : ∀ c ∈ cs, c.toUInt8.toNat = c.toNat := fun c hc => toNat_toUInt8_of_ascii (h c hc)
  have hnp : (37 : UInt8) ∉ cs.map Char.toUInt8 := by
    simp only [List.mem_map, not_exists, not_and]
    intro c hc he
    have hnat : c.toNat = '%'.toNat := by rw [← hbyte c hc, he]; rfl
    exact hp (Char.toNat_inj.1 hnat ▸ hc)
  have hlt : ∀ b ∈ cs.map Char.toUInt8, b < 0x80 := by
    simp only [List.mem_map, forall_exists_index, and_imp, forall_apply_eq_imp_iff₂]
    intro c hc
    rw [UInt8.lt_iff_toNat_lt, hbyte c hc]
    exact h c hc
  rw [decode, utf8_ofList_of_ascii h, decodeBytes_of_not_mem hnp, decodeUtf8Lossy,
    utf8Lossy_of_lt hlt (by omega), List.map_map]
  congr 1
  conv_rhs => rw [← List.map_id cs]
  refine List.map_congr_left fun c hc => ?_
  simp only [Function.comp_apply, hbyte c hc, Char.ofNat_toNat, id]

end Percent

namespace Idna

open Consent Text

section Lists

variable {α : Type}

theorem mapM_eq_some_map {β : Type} {f : α → Option β} {g : α → β} {l : List α}
    (h : ∀ x ∈ l, f x = some (g x)) : l.mapM f = some (l.map g) := by
  induction l with
  | nil => rfl
  | cons x xs ih => simp [h x (by simp), ih fun y hy => h y (by simp [hy])]

theorem mapM_eq_none_of_mem {β : Type} {f : α → Option β} {l : List α}
    (h : ∃ x ∈ l, f x = none) : l.mapM f = none := by
  induction l with
  | nil => simp at h
  | cons x xs ih =>
    obtain ⟨y, hy, hfy⟩ := h
    rw [List.mapM_cons]
    rcases List.mem_cons.1 hy with rfl | hy
    · simp [hfy]
    · cases f x <;> simp [ih ⟨y, hy, hfy⟩]

theorem splitOnP_congr {p q : α → Bool} {xs : List α} (h : ∀ x ∈ xs, p x = q x) :
    xs.splitOnP p = xs.splitOnP q := by
  induction xs with
  | nil => rfl
  | cons x xs ih =>
    rw [List.splitOnP_cons_eq_if_modifyHead, List.splitOnP_cons_eq_if_modifyHead, h x (by simp),
      ih fun y hy => h y (by simp [hy])]

theorem subset_of_mem_splitOnP {p : α → Bool} {xs part : List α} (hp : part ∈ xs.splitOnP p) :
    part ⊆ xs := by
  induction xs generalizing part with
  | nil =>
    simp only [List.splitOnP_nil, List.mem_singleton] at hp
    simp [hp]
  | cons x xs ih =>
    rw [List.splitOnP_cons_eq_if_modifyHead] at hp
    split at hp
    · rcases List.mem_cons.1 hp with rfl | hp
      · exact List.nil_subset _
      · exact List.Subset.trans (ih hp) (List.subset_cons_self x xs)
    · obtain ⟨hd, tl, heq⟩ := List.exists_cons_of_ne_nil (List.splitOnP_ne_nil p xs)
      rw [heq, List.modifyHead_cons, List.mem_cons] at hp
      rcases hp with rfl | hp
      · exact List.cons_subset_cons x (ih (show hd ∈ xs.splitOnP p by simp [heq]))
      · exact List.Subset.trans (ih (show part ∈ xs.splitOnP p by simp [heq, hp]))
          (List.subset_cons_self x xs)

end Lists

variable {c : Char}

theorem isDenied_of_isShopChar (h : isShopChar c = true) : isDenied c = false :=
  of_isShopChar (P := fun c => isDenied c = false) (by decide) h

theorem isFullStop_of_isShopChar (h : isShopChar c = true) : isFullStop c = (c == '.') :=
  of_isShopChar (P := fun c => isFullStop c = (c == '.')) (by decide) h

theorem mapName_of_isShopChar {cs : List Char} (h : ∀ c ∈ cs, isShopChar c = true) :
    mapName cs = some cs := by
  have hmap : cs.mapM mapChar = some (cs.map fun c => [c]) := mapM_eq_some_map fun c hc =>
    mapChar_of_ascii (toNat_lt_of_isShopChar (h c hc)) (isUpper_of_isShopChar (h c hc))
  have hflat : (cs.map fun c => [c]).flatten = cs := by
    rw [← List.flatMap_def, List.flatMap_singleton']
  have hdenied : cs.any isDenied = false :=
    List.any_eq_false.2 fun c hc => by rw [isDenied_of_isShopChar (h c hc)]; decide
  simp only [mapName, hmap, hflat, Option.bind_eq_bind, Option.bind_some, hdenied]
  rfl

theorem unicodeLabel_of_not_ace {label : List Char} (h : ¬ acePrefix <+: label) :
    unicodeLabel label = some label := by
  have htake : label.take 4 ≠ acePrefix := fun he => h (List.prefix_iff_eq_take.2 he.symm)
  simp [unicodeLabel, htake]

theorem unicodeLabel_of_invalid {label u : List Char} (hace : acePrefix <+: label)
    (hdec : Punycode.decode (label.drop 4) = some u) (hc : ∃ c ∈ u, isValid c = false) :
    unicodeLabel label = none := by
  have htake : label.take 4 = acePrefix := (List.prefix_iff_eq_take.1 hace).symm
  have hall : u.all isValid = false := by
    obtain ⟨c, hcu, hcv⟩ := hc
    exact List.all_eq_false.2 ⟨c, hcu, by simp [hcv]⟩
  unfold unicodeLabel
  rw [if_pos htake]
  split
  · rfl
  · rw [hdec, Option.bind_eq_bind, Option.bind_some]
    split
    · rfl
    · simp [hall]

theorem asciiLabel_of_unicodeLabel {part label : List Char} (hp : ∀ c ∈ part, c.toNat < 128)
    (h : unicodeLabel part = some label) :
    asciiLabel part (part.all fun x => decide (x.toNat < 128)) label = some part := by
  have hall : (part.all fun x => decide (x.toNat < 128)) = true :=
    List.all_eq_true.2 (by simpa using hp)
  rw [hall]
  unfold unicodeLabel at h
  split at h
  · -- a Punycode label decodes to text that is not all ASCII, so its ASCII text is kept
    rename_i hace
    split at h
    · cases h
    obtain ⟨u, -, hu⟩ := Option.bind_eq_some_iff.1 h
    split at hu
    · cases hu
    rename_i hplain
    split at hu
    · cases hu
    cases hu
    have hnot : (label.all fun x => decide (x.toNat < 128)) = false := by
      simp only [not_or] at hplain
      simpa using hplain.2.1
    simp [asciiLabel, hnot, hace]
  · cases h
    simp [asciiLabel, hall]

theorem joinersAllowed_of_ascii (before : List Char) {l : List Char} (h : ∀ c ∈ l, c.toNat < 128) :
    joinersAllowed before l = true := by
  induction l generalizing before with
  | nil => rfl
  | cons c l ih =>
    have hc := h c (by simp)
    have hnj : c ≠ zeroWidthNonJoiner := by
      rintro rfl
      exact absurd hc (by decide)
    have hj : c ≠ zeroWidthJoiner := by
      rintro rfl
      exact absurd hc (by decide)
    simp [joinersAllowed, hnj, hj, ih _ fun x hx => h x (by simp [hx])]

theorem labelValid_of_isShopChar {l : List Char} (h : ∀ c ∈ l, isShopChar c = true) :
    labelValid l = true := by
  have hmark : (l.head?.map isMark).getD false = false := by
    cases l with
    | nil => rfl
    | cons c l => simp [isMark_of_ascii (toNat_lt_of_isShopChar (h c (by simp)))]
  have hvalid : l.all isValid = true := List.all_eq_true.2 fun c hc =>
    isValid_of_ascii (toNat_lt_of_isShopChar (h c hc)) (isUpper_of_isShopChar (h c hc))
  simp [labelValid, hmark, hvalid,
    joinersAllowed_of_ascii [] fun c hc => toNat_lt_of_isShopChar (h c hc)]

theorem not_rightToLeft_of_isShopChar {l : List Char} (h : ∀ c ∈ l, isShopChar c = true) :
    l.any (isRightToLeft ∘ bidiClass) = false :=
  List.any_eq_false.2 fun c hc => by
    simp [isRightToLeft_of_ascii (toNat_lt_of_isShopChar (h c hc))]

theorem mapM_asciiLabel (g : (List Char × List Char) × List Char → Option (List Char))
    (hg : ∀ part m l, g ((part, m), l) = asciiLabel m (part.all fun x => decide (x.toNat < 128)) l)
    {parts labels : List (List Char)} (hparts : ∀ part ∈ parts, ∀ c ∈ part, c.toNat < 128)
    (hl : parts.mapM unicodeLabel = some labels) :
    ((parts.zip parts).zip labels).mapM g = some parts := by
  induction parts generalizing labels with
  | nil =>
    cases hl
    rfl
  | cons part parts ih =>
    simp only [List.mapM_cons, Option.pure_def, Option.bind_eq_bind, Option.bind_eq_some_iff,
      Option.some.injEq] at hl
    obtain ⟨l, hl₁, ls, hls, rfl⟩ := hl
    have hpart := asciiLabel_of_unicodeLabel (hparts part (by simp)) hl₁
    simp [hg, hpart, ih (fun p hp => hparts p (by simp [hp])) hls]

theorem splitOnP_isFullStop_of_isShopChar {name : List Char} (h : ∀ c ∈ name, isShopChar c = true) :
    name.splitOnP isFullStop = name.splitOn '.' := by
  rw [splitOnP_congr fun c hc => isFullStop_of_isShopChar (h c hc), ← List.splitOn_eq_splitOnP]

theorem toAscii_of_isShopChar {name : List Char} (h : ∀ c ∈ name, isShopChar c = true) :
    toAscii name = ((name.splitOnP isFullStop).mapM unicodeLabel).bind fun labels =>
      if labels.all labelValid &&
          !(labels.any (·.any (isRightToLeft ∘ bidiClass)) && !labels.all bidiLabelValid) then
        some (String.ofList name)
      else none := by
  have hparts : ∀ part ∈ name.splitOnP isFullStop, ∀ c ∈ part, isShopChar c = true :=
    fun part hp c hc => h c (subset_of_mem_splitOnP hp hc)
  have hmapped : (name.splitOnP isFullStop).mapM (fun part => nfc <$> mapName part) =
      some ((name.splitOnP isFullStop).map id) := mapM_eq_some_map fun part hp => by
    simp [mapName_of_isShopChar (hparts part hp),
      nfc_of_ascii fun c hc => toNat_lt_of_isShopChar (hparts part hp c hc)]
  have hjoin : ['.'].intercalate (name.splitOnP isFullStop) = name := by
    rw [splitOnP_isFullStop_of_isShopChar h, List.intercalate_splitOn]
  unfold toAscii
  simp only [hmapped, List.map_id, Option.bind_eq_bind, Option.bind_some]
  rcases hl : (name.splitOnP isFullStop).mapM unicodeLabel with _ | labels
  · rfl
  · -- every label is written back as it came, so only the two checks decide
    have hout := mapM_asciiLabel
      (fun x => asciiLabel x.1.2 (x.1.1.all fun x => decide (x.toNat < 128)) x.2)
      (fun _ _ _ => rfl) (fun part hp c hc => toNat_lt_of_isShopChar (hparts part hp c hc)) hl
    simp only [Option.bind_some, hout, hjoin]
    by_cases hv : labels.all labelValid <;>
      by_cases hb : ((labels.any fun x => x.any (isRightToLeft ∘ bidiClass)) &&
        !labels.all bidiLabelValid) <;> simp [hv, hb]

theorem toAscii_self_or_none {name : List Char} (h : ∀ c ∈ name, isShopChar c = true) :
    toAscii name = some (String.ofList name) ∨ toAscii name = none := by
  rw [toAscii_of_isShopChar h]
  rcases (name.splitOnP isFullStop).mapM unicodeLabel with _ | labels
  · exact .inr rfl
  · simp only [Option.bind_some]
    split
    · exact .inl rfl
    · exact .inr rfl

theorem toAscii_of_plain {name : List Char} (h : ∀ c ∈ name, isShopChar c = true)
    (hace : ∀ part ∈ name.splitOn '.', ¬ acePrefix <+: part) :
    toAscii name = some (String.ofList name) := by
  have hsplit := splitOnP_isFullStop_of_isShopChar h
  have hparts : ∀ part ∈ name.splitOn '.', ∀ c ∈ part, isShopChar c = true :=
    fun part hp c hc =>
    h c (subset_of_mem_splitOnP (hsplit ▸ hp) hc)
  have hl : (name.splitOn '.').mapM unicodeLabel = some ((name.splitOn '.').map id) :=
    mapM_eq_some_map fun part hp => unicodeLabel_of_not_ace (hace part hp)
  have hvalid : (name.splitOn '.').all labelValid = true :=
    List.all_eq_true.2 fun part hp => labelValid_of_isShopChar (hparts part hp)
  have hrtl : ((name.splitOn '.').any fun x => x.any (isRightToLeft ∘ bidiClass)) = false :=
    List.any_eq_false.2 fun part hp => by simp [not_rightToLeft_of_isShopChar (hparts part hp)]
  rw [toAscii_of_isShopChar h, hsplit, hl, List.map_id, Option.bind_some, hvalid, hrtl]
  rfl

theorem toAscii_of_refused_label {name : List Char} (h : ∀ c ∈ name, isShopChar c = true)
    (hl : ∃ part ∈ name.splitOn '.', unicodeLabel part = none) : toAscii name = none := by
  rw [toAscii_of_isShopChar h, splitOnP_isFullStop_of_isShopChar h, mapM_eq_none_of_mem hl]
  rfl

end Idna

namespace Url

open Consent

theorem dropWhile_append_cons {α : Type} {p : α → Bool} {xs ys : List α} {y : α}
    (hy : p y = false) :
    (xs ++ y :: ys).dropWhile p = xs.dropWhile p ++ y :: ys := by
  induction xs with
  | nil => simp [hy]
  | cons x xs ih =>
    by_cases hx : p x = true
    · simp [hx, ih]
    · simp [hx]

theorem not_delimiter_of_isShopChar {c : Char} (h : isShopChar c = true) :
    c ≠ '/' ∧ c ≠ '?' ∧ c ≠ '#' ∧ c ≠ '\\' ∧ c ≠ ':' ∧ c ≠ '@' ∧ c ≠ '[' ∧ c ≠ ']' ∧ c ≠ '%' :=
  of_isShopChar (P := fun c =>
      c ≠ '/' ∧ c ≠ '?' ∧ c ≠ '#' ∧ c ≠ '\\' ∧ c ≠ ':' ∧ c ≠ '@' ∧ c ≠ '[' ∧ c ≠ ']' ∧ c ≠ '%')
    (by decide) h

theorem hostChars_of_isShopChar {d : List Char} (hd : ∀ c ∈ d, isShopChar c = true)
    (rest : List Char) :
    hostChars true false (d ++ '/' :: rest) = (d, '/' :: rest) := by
  induction d with
  | nil => simp [hostChars]
  | cons c d ih =>
    obtain ⟨h₁, h₂, h₃, h₄, h₅, -, h₇, h₈, -⟩ := not_delimiter_of_isShopChar (hd c (by simp))
    simp [hostChars, h₁, h₂, h₃, h₄, h₅, h₇, h₈, ih fun x hx => hd x (by simp [hx])]

theorem parse_https_eq {d : List Char} (hd : ∀ c ∈ d, isShopChar c = true) (hne : d ≠ [])
    (path : String) : ∃ rest, parse ("https://" ++ String.ofList d ++ "/" ++ path) =
      afterSlashes "https" true (d ++ '/' :: rest) := by
  have hscheme : "https://".toList = ['h', 't', 't', 'p', 's', ':', '/', '/'] := by simp
  have hslash : "/".toList = ['/'] := by simp
  let rest := ((path.toList.reverse.dropWhile isC0OrSpace).reverse).filter
    fun c => decide (c ≠ '\t' ∧ c ≠ '\n' ∧ c ≠ '\x0d')
  have hcs : (((("https://".toList ++ d ++ "/".toList ++ path.toList).dropWhile
      isC0OrSpace).reverse.dropWhile
      isC0OrSpace).reverse).filter (fun c => decide (c ≠ '\t' ∧ c ≠ '\n' ∧ c ≠ '\x0d')) =
      "https://".toList ++ d ++ '/' :: rest := by
    have hkeep : ∀ c ∈ "https://".toList ++ d,
        decide (c ≠ '\t' ∧ c ≠ '\n' ∧ c ≠ '\x0d') = true := by
      intro c hc
      rw [List.mem_append] at hc
      rcases hc with hc | hc
      · rw [hscheme] at hc
        simp only [List.mem_cons, List.not_mem_nil, or_false] at hc
        rcases hc with rfl | rfl | rfl | rfl | rfl | rfl | rfl | rfl <;> decide
      · exact of_isShopChar (P := fun c => decide (c ≠ '\t' ∧ c ≠ '\n' ∧ c ≠ '\x0d') = true)
          (by decide) (hd c hc)
    have hfront : ("https://".toList ++ d ++ "/".toList ++ path.toList).dropWhile isC0OrSpace =
        ("https://".toList ++ d) ++ '/' :: path.toList := by
      simp [hscheme, hslash, isC0OrSpace]
    rw [hfront, List.reverse_append, List.reverse_cons, List.append_assoc, List.singleton_append,
      dropWhile_append_cons (by decide), List.reverse_append, List.reverse_cons, List.reverse_reverse,
      List.append_assoc, List.singleton_append, List.filter_append, List.filter_cons,
      List.filter_eq_self.2 hkeep]
    simp [rest]
  refine ⟨rest, ?_⟩
  unfold parse
  simp only [String.toList_append, String.toList_ofList]
  rw [hcs]
  obtain ⟨c, d, rfl⟩ := List.exists_cons_of_ne_nil hne
  have hc : isSlash c = false :=
    of_isShopChar (P := fun c => isSlash c = false) (by decide) (hd c (by simp))
  have hs : isSlash '/' = true := by decide
  simp [hscheme, isSpecial, defaultPort, hs, hc]

section Host

variable {d : List Char} (hd : ∀ c ∈ d, isShopChar c = true)
include hd

theorem head_ne_bracket_of_isShopChar : d.head? ≠ some '[' := by
  intro hh
  exact (not_delimiter_of_isShopChar (hd _ (List.mem_of_mem_head? hh))).2.2.2.2.2.2.1 rfl

theorem decode_of_isShopChar : Percent.decode (String.ofList d) = String.ofList d :=
  Percent.decode_of_ascii (fun c hc => toNat_lt_of_isShopChar (hd c hc))
    fun hp => (not_delimiter_of_isShopChar (hd _ hp)).2.2.2.2.2.2.2.2 rfl

theorem parseSpecial_of_toAscii (hne : d ≠ []) (hnum : Host.endsInNumber (String.ofList d) = false)
    (hascii : Idna.toAscii d = some (String.ofList d)) :
    Host.parseSpecial d = .ok (.domain (String.ofList d)) := by
  have hbr := head_ne_bracket_of_isShopChar hd
  have hdec := decode_of_isShopChar hd
  have hempty : (String.ofList d).isEmpty = false := by simpa using hne
  simp [Host.parseSpecial, hbr, hdec, hascii, hempty, hnum, pure, Except.pure]

theorem parseSpecial_of_toAscii_none (hascii : Idna.toAscii d = none) :
    Host.parseSpecial d = .error .invalidDomain := by
  have hbr := head_ne_bracket_of_isShopChar hd
  have hdec := decode_of_isShopChar hd
  simp [Host.parseSpecial, hbr, hdec, hascii, throw, throwThe, MonadExceptOf.throw]

theorem afterSlashes_of_isShopChar (hne : d ≠ []) (rest : List Char) :
    (∀ host, Host.parseSpecial d = .ok host → host ≠ .domain "" →
      ∃ u, afterSlashes "https" true (d ++ '/' :: rest) = .ok u ∧ u.scheme = "https" ∧
        u.host = some host ∧ u.portNumber = none) ∧
    ∀ e, Host.parseSpecial d = .error e →
      afterSlashes "https" true (d ++ '/' :: rest) = .error e := by
  have hauth : (d ++ '/' :: rest).takeWhile
      (fun c => !(c = '/' || c = '?' || c = '#' || (true && c = '\\'))) = d := by
    have hpos : ∀ c ∈ d, (!(c = '/' || c = '?' || c = '#' || (true && c = '\\'))) = true := by
      intro c hc
      obtain ⟨h₁, h₂, h₃, h₄, -⟩ := not_delimiter_of_isShopChar (hd c hc)
      simp [h₁, h₂, h₃, h₄]
    rw [List.takeWhile_append_of_pos hpos]
    simp
  have hat : lastAt d = none := by
    have hno : '@' ∉ d := fun h => (not_delimiter_of_isShopChar (hd _ h)).2.2.2.2.2.1 rfl
    simp only [lastAt, List.getLast?_eq_none_iff, List.map_eq_nil_iff, List.filter_eq_nil_iff,
      decide_eq_true_eq]
    exact fun x hx he => hno (he ▸ List.fst_mem_of_mem_zipIdx hx)
  have hchars := hostChars_of_isShopChar hd rest
  have hempty : d.isEmpty = false := by simpa using hne
  refine ⟨fun host hhost hnon => ?_, fun e herr => ?_⟩
  · unfold afterSlashes
    simp only [hauth, hat]
    simp [hchars, hhost, hempty, hnon, bind, Except.bind, pure, Except.pure]
  · unfold afterSlashes
    simp only [hauth, hat]
    simp [hchars, herr, hempty, bind, Except.bind, pure, Except.pure]

theorem parse_https_of_toAscii_none (hne : d ≠ []) (hascii : Idna.toAscii d = none) (path : String) :
    parse ("https://" ++ String.ofList d ++ "/" ++ path) = .error .invalidDomain := by
  obtain ⟨rest, hparse⟩ := parse_https_eq hd hne path
  rw [hparse]
  exact (afterSlashes_of_isShopChar hd hne rest).2 _ (parseSpecial_of_toAscii_none hd hascii)

theorem parse_https_host (hne : d ≠ []) (hnum : Host.endsInNumber (String.ofList d) = false)
    (path : String) :
    (Idna.toAscii d = some (String.ofList d) ∧
      ∃ u, parse ("https://" ++ String.ofList d ++ "/" ++ path) = .ok u ∧ u.scheme = "https" ∧
        u.host = some (.domain (String.ofList d)) ∧ u.portNumber = none) ∨
    (Idna.toAscii d = none ∧
      parse ("https://" ++ String.ofList d ++ "/" ++ path) = .error .invalidDomain) := by
  rcases Idna.toAscii_self_or_none hd with hascii | hascii
  · obtain ⟨rest, hparse⟩ := parse_https_eq hd hne path
    rw [hparse]
    refine .inl ⟨hascii, (afterSlashes_of_isShopChar hd hne rest).1 _
      (parseSpecial_of_toAscii hd hne hnum hascii) ?_⟩
    intro he
    have hs : String.ofList d = "" := Host.domain.inj he
    exact hne (by simpa using congrArg String.toList hs)
  · exact .inr ⟨hascii, parse_https_of_toAscii_none hd hne hascii path⟩

end Host

end Url

namespace Consent

theorem endsInNumber_shop (p : String) : Host.endsInNumber (p ++ shopSuffix) = false := by
  have htext : (p ++ shopSuffix).toList =
      (p.toList ++ ".myshopify".toList) ++ '.' :: ['c', 'o', 'm'] := by
    simp [shopSuffix]
  have hlabels : Host.labelsOf (p ++ shopSuffix) =
      (p.toList ++ ".myshopify".toList).splitOn '.' ++ [['c', 'o', 'm']] := by
    have hsplit : (p ++ shopSuffix).toList.splitOn '.' =
        (p.toList ++ ".myshopify".toList).splitOn '.' ++ [['c', 'o', 'm']] := by
      rw [htext, List.splitOn_append_cons_self]
      rfl
    unfold Host.labelsOf
    rw [hsplit]
    simp
  simp [Host.endsInNumber, hlabels]
  decide

theorem shopDomain?_shop_name {p : String} (hp : ∀ c ∈ p.toList, isShopChar c = true) :
    shopDomain? (p ++ shopSuffix) = some (p ++ shopSuffix) := by
  refine shopDomain?_of_isShopChar (fun c hc => ?_) ?_
  · rw [String.toList_append, List.mem_append] at hc
    exact hc.elim (hp c) (shopSuffix_isShopChar c)
  · rw [String.toList_append]
    exact List.suffix_append _ _

/-- A shop name that normalizes comes out as a host of shop characters ending in the suffix,
which normalizes to itself; and an `https` URL on that host, as the shop's API base and consent
page are written, reaches exactly that host with no port, or else is refused as an invalid
domain, which only a host with a label starting with `xn--` can be. -/
theorem shopDomain?_url_host {s d : String} (h : shopDomain? s = some d) :
    shopDomain? d = some d ∧
    (∃ p : String, d = p ++ shopSuffix ∧ ∀ c ∈ p.toList, isShopChar c = true) ∧
    ∀ path : String,
      (∃ u, Url.parse ("https://" ++ d ++ "/" ++ path) = .ok u ∧ u.scheme = "https" ∧
          u.host = some (.domain d) ∧ u.portNumber = none) ∨
      (Url.parse ("https://" ++ d ++ "/" ++ path) = .error .invalidDomain ∧
          ∃ label ∈ d.toList.splitOn '.', Idna.acePrefix <+: label) := by
  obtain ⟨hfix, p, hp, hpc⟩ := shopDomain?_canonical h
  obtain ⟨hd, -⟩ := shopDomain?_spec h
  refine ⟨hfix, ⟨p, hp, hpc⟩, fun path => ?_⟩
  have hne : d.toList ≠ [] := by
    rw [hp]
    simp [shopSuffix]
  have hnum : Host.endsInNumber (String.ofList d.toList) = false := by
    rw [String.ofList_toList, hp]
    exact endsInNumber_shop p
  rcases Url.parse_https_host hd hne hnum path with ⟨-, hurl⟩ | ⟨hascii, hrefused⟩
  · rw [String.ofList_toList] at hurl
    exact .inl hurl
  · -- a name whose labels are all plain is its own ASCII form, so some label is Punycode
    rw [String.ofList_toList] at hrefused
    refine .inr ⟨hrefused, ?_⟩
    by_contra hplain
    simp only [not_exists, not_and] at hplain
    rw [Idna.toAscii_of_plain hd hplain] at hascii
    cases hascii

/-- A pasted admin URL names its lowercased host, which names itself and is the host of its
URLs. -/
theorem shopDomain?_url_host_admin :
    shopDomain? "https://Demo-Store.myshopify.com/admin" = some "demo-store.myshopify.com" ∧
    shopDomain? "demo-store.myshopify.com" = some "demo-store.myshopify.com" ∧
    (∃ p : String, "demo-store.myshopify.com" = p ++ shopSuffix ∧
      ∀ c ∈ p.toList, isShopChar c = true) ∧
    ∀ path : String,
      (∃ u, Url.parse ("https://" ++ "demo-store.myshopify.com" ++ "/" ++ path) = .ok u ∧
          u.scheme = "https" ∧ u.host = some (.domain "demo-store.myshopify.com") ∧
          u.portNumber = none) ∨
      (Url.parse ("https://" ++ "demo-store.myshopify.com" ++ "/" ++ path) = .error .invalidDomain ∧
          ∃ label ∈ "demo-store.myshopify.com".toList.splitOn '.', Idna.acePrefix <+: label) :=
  have h : shopDomain? "https://Demo-Store.myshopify.com/admin" = some "demo-store.myshopify.com" := by
    decide +kernel
  ⟨h, shopDomain?_url_host h⟩

/-- The part before the suffix is checked only for its characters: the bare suffix is a shop,
and so is a name whose label `xn--a` is no valid Punycode (it decodes to the control U+0080), a
host that the shop's URLs then fail to reach. -/
theorem shopDomain?_degenerate_hosts :
    shopDomain? ".myshopify.com" = some ".myshopify.com" ∧
    shopDomain? "xn--a.myshopify.com" = some "xn--a.myshopify.com" ∧
    Url.parse "https://xn--a.myshopify.com/admin/oauth/access_token" = .error .invalidDomain := by
  have hbare : shopDomain? ("" ++ shopSuffix) = some ("" ++ shopSuffix) :=
    shopDomain?_shop_name (by simp)
  have hace : shopDomain? ("xn--a" ++ shopSuffix) = some ("xn--a" ++ shopSuffix) :=
    shopDomain?_shop_name (by simp [isShopChar])
  refine ⟨by simpa [shopSuffix] using hbare, by simpa [shopSuffix] using hace, ?_⟩
  have hd : ∀ c ∈ "xn--a.myshopify.com".toList, isShopChar c = true := by
    simp [isShopChar]
  have hsplit : "xn--a.myshopify.com".toList.splitOn '.' =
      [['x', 'n', '-', '-', 'a'], "myshopify".toList, "com".toList] := by
    decide
  have hdecode : Punycode.decode ['a'] = some [Char.ofNat 0x80] := by
    simp [Punycode.decode, Punycode.splitBasic, Punycode.insertAll, Punycode.readNumber,
      Punycode.digitValue, Punycode.threshold, Punycode.isScalar, Punycode.maxU32]
  have hlabel : Idna.unicodeLabel ['x', 'n', '-', '-', 'a'] = none :=
    Idna.unicodeLabel_of_invalid (by decide) hdecode
      ⟨_, List.mem_singleton_self _, Idna.isValid_of_c1 (by decide) (by decide)⟩
  have hascii : Idna.toAscii "xn--a.myshopify.com".toList = none :=
    Idna.toAscii_of_refused_label hd ⟨_, by rw [hsplit]; simp, hlabel⟩
  have hurl : "https://xn--a.myshopify.com/admin/oauth/access_token" = "https://" ++
      String.ofList "xn--a.myshopify.com".toList ++ "/" ++ "admin/oauth/access_token" := by
    rw [String.ofList_toList]
    decide
  rw [hurl]
  exact Url.parse_https_of_toAscii_none hd (by simp) hascii _

end Consent

end SellerSync
