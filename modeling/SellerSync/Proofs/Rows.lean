import SellerSync.Store.Basic
/-! Tables kept as lists of rows. -/
namespace SellerSync.Rows

variable {α ι : Type} {p : α → Bool} {x y : α} {l : List α}

theorem put_cases (p : α → Bool) (x : α) (l : List α) :
    (put p x l=l++[x] ∧ ∀ y∈l, p y=false) ∨
      ∃ l₁ e l₂, l=l₁++e::l₂ ∧ p e=true ∧ put p x l=l₁++x::l₂ := by
  induction l with
  | nil => exact .inl ⟨rfl, by simp⟩
  | cons z zs ih =>
    by_cases hz : p z
    · exact .inr ⟨[], z, zs, rfl, hz, by simp [put, hz]⟩
    · have hz' : p z=false := by simpa using hz
      rcases ih with ⟨hput, hall⟩ | ⟨l₁, e, l₂, rfl, he, hput⟩
      · refine .inl ⟨by simp [put, hz', hput], ?_⟩
        intro y hy
        rcases List.mem_cons.1 hy with rfl | hy
        · exact hz'
        · exact hall y hy
      · exact .inr ⟨z::l₁, e, l₂, rfl, he, by simp [put, hz', hput]⟩

theorem mem_of_mem_put (h : y∈put p x l) : y=x ∨ y∈l := by
  rcases put_cases p x l with ⟨hput, -⟩ | ⟨l₁, e, l₂, rfl, -, hput⟩
  · rw [hput] at h
    simp only [List.mem_append, List.mem_singleton] at h
    exact h.symm
  · rw [hput] at h
    simp only [List.mem_append, List.mem_cons] at h ⊢
    rcases h with h | h | h <;> simp [h]

theorem mem_put_of_mem (h : y∈l) : y∈put p x l ∨ p y=true := by
  rcases put_cases p x l with ⟨hput, -⟩ | ⟨l₁, e, l₂, rfl, he, hput⟩
  · rw [hput]
    exact .inl (List.mem_append_left _ h)
  · rw [hput]
    simp only [List.mem_append, List.mem_cons] at h ⊢
    rcases h with h | rfl | h
    · exact .inl (.inl h)
    · exact .inr he
    · exact .inl (.inr (.inr h))

theorem exists_put {W : α → Prop} (h : ∃ y∈l, W y) (hx : ∀ y∈l, p y=true → W y → W x) :
    ∃ y∈put p x l, W y := by
  obtain ⟨y, hy, hw⟩ := h
  rcases mem_put_of_mem hy with hy' | hp
  · exact ⟨y, hy', hw⟩
  · exact ⟨x, mem_put p x l, hx y hy hp hw⟩

/-- Rows with pairwise different ids `f`, no two of which `R` relates. -/
def Keyed (f : α → ι) (R : α → α → Prop) (l : List α) : Prop :=
  (l.map f).Nodup ∧ l.Pairwise fun a b => ¬ R a b

variable {f : α → ι} {R : α → α → Prop}

theorem Keyed.nil : Keyed f R [] := ⟨List.nodup_nil, List.Pairwise.nil⟩

theorem Keyed.not_rel (hl : Keyed f R l) (hs : ∀ {a b}, R a b → R b a) {a b : α} (ha : a∈l)
    (hb : b∈l) (hab : f a≠f b) : ¬ R a b := by
  have hne : a≠b := fun h => hab (h ▸ rfl)
  induction l with
  | nil => simp at ha
  | cons z zs ih =>
    obtain ⟨hf, hp⟩ := hl
    simp only [List.pairwise_cons] at hp
    rcases List.mem_cons.1 ha with rfl | ha'
    · rcases List.mem_cons.1 hb with rfl | hb'
      · exact absurd rfl hne
      · exact hp.1 b hb'
    · rcases List.mem_cons.1 hb with rfl | hb'
      · exact fun h => hp.1 a ha' (hs h)
      · exact ih ⟨(List.nodup_cons.1 hf).2, hp.2⟩ ha' hb'

/-- A row that matches no row of another id may be put over the row with its own id. -/
theorem Keyed.put (hl : Keyed f R l) (hs : ∀ {a b}, R a b → R b a)
    (hp : ∀ y, p y=true ↔ f y=f x) (hx : ∀ y∈l, f y≠f x → ¬ R y x) :
    Keyed f R (Rows.put p x l) := by
  obtain ⟨hf, hr⟩ := hl
  rcases put_cases p x l with ⟨hput, hall⟩ | ⟨l₁, e, l₂, rfl, he, hput⟩
  · have hnew : ∀ y∈l, f y≠f x := fun y hy h => by simpa [hall y hy] using (hp y).2 h
    rw [hput]
    refine ⟨?_, ?_⟩
    · simp only [List.map_append, List.map_cons, List.map_nil, List.nodup_append, List.nodup_cons,
        List.not_mem_nil, not_false_eq_true, List.nodup_nil, and_self, List.mem_singleton,
        true_and, hf]
      intro a ha b hb
      obtain ⟨y, hy, rfl⟩ := List.mem_map.1 ha
      rw [hb]
      exact hnew y hy
    · rw [List.pairwise_append]
      refine ⟨hr, by simp, ?_⟩
      intro a ha b hb
      rw [List.mem_singleton] at hb
      subst hb
      exact hx a ha (hnew a ha)
  · have hfe : f e=f x := (hp e).1 he
    rw [hput]
    have hmap : (l₁++x::l₂).map f=(l₁++e::l₂).map f := by simp [hfe]
    refine ⟨hmap ▸ hf, ?_⟩
    have hrest : (l₁++l₂).Pairwise fun a b => ¬ R a b :=
      hr.sublist ((List.Sublist.refl l₁).append (List.sublist_cons_self e l₂))
    have hother : ∀ y∈l₁++l₂, f y≠f x := by
      intro y hy hyx
      rw [List.Nodup, List.map_append, List.map_cons, List.pairwise_middle Ne.symm,
        List.pairwise_cons, ← List.map_append] at hf
      exact hf.1 (f y) (List.mem_map.2 ⟨y, hy, rfl⟩) (hfe.trans hyx.symm)
    rw [List.pairwise_middle (fun h h' => h (hs h')), List.pairwise_cons]
    have hmem : ∀ y∈l₁++l₂, y∈l₁++e::l₂ := fun y hy => by
      simp only [List.mem_append, List.mem_cons] at hy ⊢
      rcases hy with hy | hy <;> simp [hy]
    exact ⟨fun y hy h => hx y (hmem y hy) (hother y hy) (hs h), hrest⟩

theorem Keyed.append (hl : Keyed f R l) (hid : ∀ y∈l, f y≠f x)
    (hx : ∀ y∈l, ¬ R y x) : Keyed f R (l++[x]) := by
  obtain ⟨hf, hp⟩ := hl
  refine ⟨?_, ?_⟩
  · rw [List.map_append, List.nodup_append]
    refine ⟨hf, by simp, ?_⟩
    intro a ha b hb
    obtain ⟨y, hy, rfl⟩ := List.mem_map.1 ha
    simp only [List.map_cons, List.map_nil, List.mem_singleton] at hb
    rw [hb]
    exact hid y hy
  · rw [List.pairwise_append]
    refine ⟨hp, by simp, ?_⟩
    intro a ha b hb
    rw [List.mem_singleton] at hb
    subst hb
    exact hx a ha

theorem Keyed.filter (hl : Keyed f R l) (q : α → Bool) : Keyed f R (l.filter q) :=
  ⟨List.Nodup.sublist (List.filter_sublist.map f) hl.1, hl.2.filter q⟩

theorem Keyed.map (hl : Keyed f R l) (g : α → α) (hf : ∀ y∈l, f (g y)=f y)
    (hR : ∀ a∈l, ∀ b∈l, R (g a) (g b) → R a b) : Keyed f R (l.map g) := by
  obtain ⟨hn, hp⟩ := hl
  refine ⟨?_, ?_⟩
  · rw [List.map_map]
    have : l.map (f ∘ g)=l.map f := List.map_congr_left fun y hy => hf y hy
    rw [this]
    exact hn
  · rw [List.pairwise_map]
    exact hp.imp_of_mem fun ha hb h h' => h (hR _ ha _ hb h')

theorem Keyed.not_rel_of_find? (hl : Keyed f R l) (hs : ∀ {a b}, R a b → R b a)
    (ht : ∀ {a b c}, R a b → R b c → R a c) {q : α → Bool} (hq : ∀ y, q y=true ↔ R y x) {e : α}
    (he : l.find? q=some e) : ∀ y∈l, f y≠f e → ¬ R y x := by
  have hex : R e x := (hq e).1 (List.find?_some he)
  intro y hy hye hyx
  exact hl.not_rel hs hy (List.mem_of_find?_eq_some he) hye (ht hyx (hs hex))

theorem Keyed.put_found (hl : Keyed f R l) (hs : ∀ {a b}, R a b → R b a)
    (ht : ∀ {a b c}, R a b → R b c → R a c) (hp : ∀ y, p y=true ↔ f y=f x) {q : α → Bool}
    (hq : ∀ y, q y=true ↔ R y x) {e : α} (he : l.find? q=some e) (hid : f x=f e) :
    Keyed f R (Rows.put p x l) :=
  hl.put hs hp fun y hy hne => hl.not_rel_of_find? hs ht hq he y hy (hid ▸ hne)

theorem Keyed.put_new (hl : Keyed f R l) (hs : ∀ {a b}, R a b → R b a)
    (hp : ∀ y, p y=true ↔ f y=f x) {q : α → Bool} (hq : ∀ y, q y=true ↔ R y x)
    (he : l.find? q=none) : Keyed f R (Rows.put p x l) :=
  hl.put hs hp fun y hy _ hr => by
    rw [List.find?_eq_none] at he
    exact he y hy ((hq y).2 hr)

theorem Keyed.append_new (hl : Keyed f R l) (hid : ∀ y∈l, f y≠f x) {q : α → Bool}
    (hq : ∀ y, q y=true ↔ R y x) (he : l.find? q=none) : Keyed f R (l++[x]) :=
  hl.append hid fun y hy hr => by
    rw [List.find?_eq_none] at he
    exact he y hy ((hq y).2 hr)

/-! Tables whose rows match when a key function agrees; a lookup asks for one key value `K`. -/

section Key

variable {κ : Type} {k : α → κ} {K : κ} {q : α → Bool} {e : α}

theorem Keyed.put_found_key (hl : Keyed f (fun a b => k a=k b) l) (hp : ∀ y, p y=true ↔ f y=f x)
    (hq : ∀ y, q y=true ↔ k y=K) (he : l.find? q=some e) (hid : f x=f e) (hk : k x=K) :
    Keyed f (fun a b => k a=k b) (Rows.put p x l) :=
  hl.put_found (fun h => h.symm) (fun h h' => h.trans h') hp (fun y => hk ▸ hq y) he hid

theorem Keyed.put_new_key (hl : Keyed f (fun a b => k a=k b) l) (hp : ∀ y, p y=true ↔ f y=f x)
    (hq : ∀ y, q y=true ↔ k y=K) (he : l.find? q=none) (hk : k x=K) :
    Keyed f (fun a b => k a=k b) (Rows.put p x l) :=
  hl.put_new (fun h => h.symm) hp (fun y => hk ▸ hq y) he

end Key

theorem eq_of_nodup_map (hl : (l.map f).Nodup) {a b : α} (ha : a∈l) (hb : b∈l) (h : f a=f b) :
    a=b := by
  induction l with
  | nil => simp at ha
  | cons z zs ih =>
    simp only [List.map_cons, List.nodup_cons, List.mem_map] at hl
    have hz : ∀ y∈zs, f y≠f z := fun y hy hyz => hl.1 ⟨y, hy, hyz⟩
    rcases List.mem_cons.1 ha with rfl | ha' <;> rcases List.mem_cons.1 hb with rfl | hb'
    · rfl
    · exact absurd h.symm (hz b hb')
    · exact absurd h (hz a ha')
    · exact ih hl.2 ha' hb'

theorem Keyed.eq_of_mem (hl : Keyed f R l) {a b : α} (ha : a∈l) (hb : b∈l) (h : f a=f b) : a=b :=
  eq_of_nodup_map hl.1 ha hb h

theorem Keyed.map_key {κ : Type} {k : α → κ} (hl : Keyed f (fun a b => k a=k b) l) (g : α → α)
    (hg : ∀ y∈l, f (g y)=f y ∧ k (g y)=k y) : Keyed f (fun a b => k a=k b) (l.map g) :=
  hl.map g (fun y hy => (hg y hy).1) fun a ha b hb h => by rwa [(hg a ha).2, (hg b hb).2] at h

/-! ### Properties of every row -/

section All

variable {P : α → Prop}

theorem all_put (hl : ∀ y∈l, P y) (hx : P x) : ∀ y∈put p x l, P y := fun y hy =>
  (mem_of_mem_put hy).elim (fun h => h ▸ hx) (hl y)

theorem all_append (hl : ∀ y∈l, P y) (hx : P x) : ∀ y∈l++[x], P y := by
  intro y hy
  rcases List.mem_append.1 hy with hy | hy
  · exact hl y hy
  · exact (List.mem_singleton.1 hy) ▸ hx

theorem all_filter (hl : ∀ y∈l, P y) (q : α → Bool) : ∀ y∈l.filter q, P y :=
  fun y hy => hl y (List.mem_filter.1 hy).1

theorem all_map (hl : ∀ y∈l, P y) {g : α → α} (hg : ∀ y, P y → P (g y)) : ∀ y∈l.map g, P y := by
  intro y hy
  obtain ⟨z, hz, rfl⟩ := List.mem_map.1 hy
  exact hg z (hl z hz)

end All

section Find

variable {q : α → Bool}

theorem find?_put (hx : q x=true) (hl : (l.find? q).all p=true) : (put p x l).find? q=some x := by
  induction l with
  | nil => simp [put, hx]
  | cons y ys ih =>
    by_cases hp : p y=true
    · simp [put, hp, hx]
    · have hq : q y=false := by
        cases hqy : q y
        · rfl
        · simp [hqy, hp] at hl
      have hys : (ys.find? q).all p=true := by simpa [List.find?_cons, hq] using hl
      simp [put, hp, hq, ih hys]

theorem earliest_eq_none {before : α → α → Bool} : earliest before l=none ↔ l=[] := by
  cases l <;> simp [earliest]

theorem mem_of_earliest {before : α → α → Bool} (h : earliest before l=some x) : x∈l := by
  cases l with
  | nil => simp [earliest] at h
  | cons y ys =>
    simp only [earliest, Option.some.injEq] at h
    subst h
    induction ys generalizing y with
    | nil => exact List.mem_singleton_self y
    | cons z zs ih =>
      simp only [List.foldl_cons]
      split
      · exact List.mem_cons_of_mem _ (ih z)
      · exact List.cons_subset_cons _ (List.subset_cons_self _ _) (ih y)

theorem earliest_map {β : Type} {before : β → β → Bool} {before' : α → α → Bool} (g : α → β)
    (hg : ∀ a b, before (g a) (g b)=before' a b) :
    earliest before (l.map g)=(earliest before' l).map g := by
  cases l with
  | nil => rfl
  | cons y ys =>
    simp only [earliest, List.map_cons, Option.map_some, List.foldl_map]
    congr 1
    induction ys generalizing y with
    | nil => rfl
    | cons z zs ih =>
      simp only [List.foldl_cons, hg]
      rw [← ih]
      split <;> rfl

end Find

section Latest

/-! The latest row by a key order `before` that is a strict weak order: irreflexive by
asymmetry, and every pair it orders has each third row after the first or before the second. -/

variable {before : α → α → Bool}

theorem latest_eq_none : latest before l=none ↔ l=[] := by
  cases l <;> simp [latest]

theorem latest_spec (hasymm : ∀ a b, before a b=true → before b a=false)
    (hco : ∀ a b c, before a c=true → before a b=true ∨ before b c=true)
    (h : latest before l=some x) : x∈l ∧ ∀ y∈l, before x y=false := by
  cases l with
  | nil => simp [latest] at h
  | cons b ys =>
    simp only [latest, Option.some.injEq] at h
    subst h
    induction ys generalizing b with
    | nil =>
      simp only [List.foldl_nil]
      refine ⟨List.mem_singleton_self b, fun y hy => ?_⟩
      rw [List.mem_singleton.1 hy]
      cases hb : before b b
      · rfl
      · simpa [hb] using hasymm b b hb
    | cons z zs ih =>
      simp only [List.foldl_cons]
      by_cases hzb : before z b=true
      · -- the best so far stays
        simp only [hzb, if_true] at ih ⊢
        obtain ⟨hmem, hlast⟩ := ih b
        refine ⟨List.cons_subset_cons _ (List.subset_cons_self _ _) hmem, fun y hy => ?_⟩
        rcases List.mem_cons.1 hy with rfl | hy
        · exact hlast y (List.mem_cons_self ..)
        rcases List.mem_cons.1 hy with rfl | hy
        · cases hxy : before (List.foldl _ b zs) y
          · rfl
          · rcases hco _ b y hxy with h | h
            · simp [hlast b (List.mem_cons_self ..)] at h
            · simp [hasymm y b hzb] at h
        · exact hlast y (List.mem_cons_of_mem _ hy)
      · -- the new row takes over
        simp only [hzb, if_false, Bool.false_eq_true] at ih ⊢
        obtain ⟨hmem, hlast⟩ := ih z
        refine ⟨List.mem_cons_of_mem _ hmem, fun y hy => ?_⟩
        rcases List.mem_cons.1 hy with rfl | hy
        · cases hxy : before (List.foldl _ z zs) y
          · rfl
          · rcases hco _ z y hxy with h | h
            · simp [hlast z (List.mem_cons_self ..)] at h
            · exact absurd h hzb
        · exact hlast y hy

end Latest

end SellerSync.Rows
