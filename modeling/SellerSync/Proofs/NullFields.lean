import Mathlib
import SellerSync.Proofs.Normalization
/-! An explicit `null` member of a marketplace document reads as the member left out. -/
namespace SellerSync

variable {α β : Type}

namespace Json

mutual
/-- The value with every member whose value is `null` left out, at every depth. -/
def dropNulls : Json → Json
  | .arr xs => .arr (dropNullsItems xs)
  | .obj fs => .obj (dropNullsMembers fs)
  | j => j

def dropNullsItems : List Json → List Json
  | [] => []
  | x :: xs => dropNulls x :: dropNullsItems xs

def dropNullsMembers : List (String × Json) → List (String × Json)
  | [] => []
  | (k, v) :: fs => if v.isNull then dropNullsMembers fs else (k, dropNulls v) :: dropNullsMembers fs
end

mutual
/-- Every object of the value names each key once. -/
def keysUnique : Json → Bool
  | .arr xs => itemsKeysUnique xs
  | .obj fs => decide (fs.map Prod.fst).Nodup && membersKeysUnique fs
  | _ => true

def itemsKeysUnique : List Json → Bool
  | [] => true
  | x :: xs => keysUnique x && itemsKeysUnique xs

def membersKeysUnique : List (String × Json) → Bool
  | [] => true
  | (_, v) :: fs => keysUnique v && membersKeysUnique fs
end

theorem dropNullsItems_eq_map (xs : List Json) : dropNullsItems xs = xs.map dropNulls := by
  induction xs with
  | nil => rfl
  | cons x xs ih => simp [dropNullsItems, ih]

theorem fst_mem_of_mem_dropNullsMembers :
    ∀ {fs : List (String × Json)} {kv : String × Json}, kv ∈ dropNullsMembers fs →
      kv.1 ∈ fs.map Prod.fst
  | [], _, h => by simp [dropNullsMembers] at h
  | (k, v) :: fs, kv, h => by
    unfold dropNullsMembers at h
    split at h
    · exact List.mem_cons_of_mem _ (fst_mem_of_mem_dropNullsMembers h)
    · rcases List.mem_cons.1 h with rfl | h
      · exact List.mem_cons_self ..
      · exact List.mem_cons_of_mem _ (fst_mem_of_mem_dropNullsMembers h)

theorem find?_dropNullsMembers (name : String) :
    ∀ {fs : List (String × Json)}, (fs.map Prod.fst).Nodup →
      (dropNullsMembers fs).find? (fun p => p.1 == name) =
        (fs.find? (fun p => p.1 == name)).bind fun kv =>
          if kv.2.isNull then none else some (kv.1, kv.2.dropNulls)
  | [], _ => rfl
  | (k, v) :: fs, hk => by
    rw [List.map_cons, List.nodup_cons] at hk
    by_cases hkn : k = name
    · subst hkn
      have hnone : (dropNullsMembers fs).find? (fun p => p.1 == k) = none :=
        List.find?_eq_none.2 fun kv hkv hc => by
          have hmem := fst_mem_of_mem_dropNullsMembers hkv
          rw [beq_iff_eq.1 hc] at hmem
          exact hk.1 hmem
      by_cases hv : v.isNull <;> simp [dropNullsMembers, hv, hnone]
    · have ih := find?_dropNullsMembers name hk.2
      by_cases hv : v.isNull <;> simp [dropNullsMembers, hv, hkn, ih]

theorem eq_null_of_isNull {j : Json} (h : j.isNull) : j = .null := by
  cases j <;> simp_all [isNull]

theorem keysUnique_of_mem_members :
    ∀ {fs : List (String × Json)} {k : String} {v : Json}, membersKeysUnique fs → (k, v) ∈ fs →
      v.keysUnique
  | (k', v') :: fs, k, v, h, hm => by
    simp only [membersKeysUnique, Bool.and_eq_true] at h
    rcases List.mem_cons.1 hm with he | hm
    · cases he; exact h.1
    · exact keysUnique_of_mem_members h.2 hm

theorem keysUnique_of_mem_items :
    ∀ {xs : List Json} {v : Json}, itemsKeysUnique xs → v ∈ xs → v.keysUnique
  | x :: xs, v, h, hm => by
    simp only [itemsKeysUnique, Bool.and_eq_true] at h
    rcases List.mem_cons.1 hm with rfl | hm
    · exact h.1
    · exact keysUnique_of_mem_items h.2 hm

theorem length_dropNullsItems (xs : List Json) : (dropNullsItems xs).length = xs.length := by
  simp [dropNullsItems_eq_map]

theorem getElem?_dropNullsItems (xs : List Json) (i : Nat) :
    (dropNullsItems xs)[i]? = xs[i]?.map dropNulls := by
  simp [dropNullsItems_eq_map]

theorem itemsKeysUnique_iff {xs : List Json} : itemsKeysUnique xs ↔ ∀ x ∈ xs, x.keysUnique := by
  induction xs with
  | nil => simp [itemsKeysUnique]
  | cons x xs ih => simp [itemsKeysUnique, ih]

theorem mapM_map_dropNulls {ε : Type} {f : Json → Except ε β}
    (hf : ∀ j : Json, j.keysUnique → f j.dropNulls = f j) :
    ∀ {xs : List Json}, (∀ x ∈ xs, x.keysUnique) → (xs.map dropNulls).mapM f = xs.mapM f
  | [], _ => rfl
  | x :: xs, h => by
    simp only [List.map_cons, List.mapM_cons, hf x (h x List.mem_cons_self),
      mapM_map_dropNulls hf fun y hy => h y (List.mem_cons_of_mem x hy)]

end Json

namespace RecordSource

/-- The source with null members left out, at every depth. -/
def dropNulls (src : RecordSource) : RecordSource :=
  { src with members := src.members.map Json.dropNullsMembers, items := Json.dropNullsItems src.items }

/-- Every object of the source names each key once. -/
def keysUnique (src : RecordSource) : Bool :=
  (match src.members with
   | some fs => decide (fs.map Prod.fst).Nodup && Json.membersKeysUnique fs
   | none => true) && Json.itemsKeysUnique src.items

end RecordSource

/-- A decoder that reads a value whose objects name each key once as it reads the value with its
null members left out. -/
class Decoder.NullBlind (d : Decoder α) : Prop where
  blind : ∀ j : Json, j.keysUnique → d j.dropNulls = d j

/-- A decoder that reads `null` as `v`. -/
class Decoder.ReadsNull (d : Decoder α) (v : outParam α) : Prop where
  null : d .null = .ok v

namespace Record

/-- A record reader that reads a source as it reads the source with its null members left out. -/
class NullBlind (b : RecordM α) : Prop where
  blind : ∀ src : RecordSource, src.keysUnique → b.run src.dropNulls = b.run src

theorem fieldOf_dropNulls [Inhabited α] (name : String) {d : Decoder α} {absent : Absent α}
    (g : α → α) (hd : ∀ j : Json, j.keysUnique → d j.dropNulls = (d j).map g)
    (hdefault : g default = default)
    (habs : ∃ a, d .null = .ok a ∧ g a = a ∧ (absent = .optional a ∨ absent = .fallback a))
    {src : RecordSource} (hsrc : src.keysUnique) (st : RecordState) :
    ((fieldOf [name] d absent).run src.dropNulls).run st =
      Prod.map g id (((fieldOf [name] d absent).run src).run st) := by
  obtain ⟨a, hda, hga, hab⟩ := habs
  rcases src with ⟨srcName, count, members, items⟩
  unfold Record.fieldOf
  simp only [RecordSource.dropNulls, read, readThe, MonadReaderOf.read, ReaderT.read, get,
    getThe, MonadStateOf.get, StateT.get, set, MonadStateOf.set, StateT.set, ReaderT.run,
    StateT.run, liftM, monadLift, MonadLift.monadLift, ReaderT.bind, StateT.bind, bind, pure,
    StateT.pure, List.contains_cons, List.contains_nil, Bool.or_false, fault,
    modify, modifyGet, MonadStateOf.modifyGet]
  cases members with
  | some fs =>
    simp only [RecordSource.keysUnique, Bool.and_eq_true, decide_eq_true_eq] at hsrc
    simp only [Option.map_some]
    rw [Json.find?_dropNullsMembers name hsrc.1.1]
    cases hf : List.find? (fun p => p.fst == name) fs with
    | none => rcases hab with rfl | rfl <;> simp [hga, ReaderT.pure, StateT.pure, pure]
    | some kv =>
      obtain ⟨k, v⟩ := kv
      have hv : v.keysUnique := Json.keysUnique_of_mem_members hsrc.1.2 (List.mem_of_find?_eq_some hf)
      by_cases hn : v.isNull
      · -- a `null` member reads as the field left out
        cases Json.eq_null_of_isNull hn
        rcases hab with rfl | rfl <;> simp [hda, hga, Json.isNull, ReaderT.pure, StateT.pure, pure]
      · simp only [Option.bind_some, hn, Bool.false_eq_true, if_false, hd v hv]
        cases d v <;> simp [Except.map, hdefault, ReaderT.pure, StateT.pure, pure, ReaderT.bind,
        StateT.bind, StateT.modifyGet, bind]
  | none =>
    simp only [RecordSource.keysUnique, Bool.and_eq_true] at hsrc
    simp only [Option.map_none, Json.getElem?_dropNullsItems]
    cases hi : items[st.index]? with
    | none =>
      rcases hab with rfl | rfl <;> simp [hga, hdefault, ReaderT.pure, StateT.pure, pure,
        ReaderT.bind, StateT.bind, StateT.modifyGet, bind]
    | some v =>
      have hv : v.keysUnique := Json.keysUnique_of_mem_items hsrc.2 (List.mem_of_getElem? hi)
      simp only [Option.map_some, hd v hv]
      cases d v <;> simp [Except.map, hdefault, ReaderT.pure, StateT.pure, pure, ReaderT.bind,
        StateT.bind, StateT.modifyGet, bind]

theorem fieldOf_nullBlind [Inhabited α] (name : String) {d : Decoder α} {absent : Absent α}
    [hd : Decoder.NullBlind d]
    (habs : ∃ a, d .null = .ok a ∧ (absent = .optional a ∨ absent = .fallback a)) :
    NullBlind (fieldOf [name] d absent) := by
  obtain ⟨a, hda, hab⟩ := habs
  refine ⟨fun src hsrc => funext fun st => ?_⟩
  have h := fieldOf_dropNulls name id (fun j hj => by rw [hd.blind j hj]; cases d j <;> rfl) rfl
    ⟨a, hda, rfl, hab⟩ hsrc st
  simpa [StateT.run] using h

instance NullBlind.pure (a : α) : NullBlind (pure a : RecordM α) := ⟨fun _ _ => rfl⟩

instance NullBlind.bind {x : RecordM α} {f : α → RecordM β} [hx : NullBlind x]
    [hf : ∀ a, NullBlind (f a)] : NullBlind (x >>= f) := by
  constructor
  intro src hsrc
  simp only [ReaderT.run_bind, hx.blind src hsrc, (hf _).blind src hsrc]

/-- Reading a source with its null members left out gives what reading the source gives, seen
through `g`. -/
def NullsVia (g : α → α) (b : RecordM α) : Prop :=
  ∀ src : RecordSource, src.keysUnique → ∀ st,
    (b.run src.dropNulls).run st = Prod.map g id ((b.run src).run st)

theorem NullBlind.nullsVia {b : RecordM α} (hb : NullBlind b) : NullsVia id b := by
  intro src hsrc st
  rw [hb.blind src hsrc]
  rfl

theorem NullsVia.bind_of_blind {x : RecordM α} {f : α → RecordM β} {g : β → β} [hx : NullBlind x]
    (hf : ∀ a, NullsVia g (f a)) : NullsVia g (x >>= f) := by
  intro src hsrc st
  simp only [ReaderT.run_bind, hx.blind src hsrc, StateT.run_bind]
  exact hf _ src hsrc _

theorem NullsVia.bind_pure {x : RecordM α} {k : α → β} {gx : α → α} {g : β → β}
    (hx : NullsVia gx x) (hk : ∀ a, g (k a) = k (gx a)) :
    NullsVia g (x >>= fun a => pure (k a)) := by
  intro src hsrc st
  simp only [ReaderT.run_bind, StateT.run_bind, hx src hsrc st]
  rcases (x.run src).run st with ⟨a, s⟩
  simp [hk, pure, ReaderT.pure, ReaderT.run, StateT.pure, StateT.run, bind]

theorem run_dropNulls {name : String} {n : Nat} {b : RecordM α} {g : α → α} (hb : NullsVia g b)
    {j : Json} (hj : j.keysUnique) : run name n b j.dropNulls = (run name n b j).map g := by
  cases j with
  | obj fs =>
    have h := hb ⟨name, n, some fs, []⟩
      (by simpa [RecordSource.keysUnique, Json.keysUnique, Json.itemsKeysUnique] using hj) {}
    simp only [RecordSource.dropNulls, Option.map_some, Json.dropNullsItems] at h
    simp only [Json.dropNulls, run, h]
    rcases (b.run ⟨name, n, some fs, []⟩).run {} with ⟨a, st⟩
    simp only [Prod.map, id]
    cases firstFault false st.faults <;> rfl
  | arr xs =>
    have h := hb ⟨name, n, none, xs⟩
      (by simpa [RecordSource.keysUnique, Json.keysUnique, Json.itemsKeysUnique] using hj) {}
    simp only [RecordSource.dropNulls, Option.map_none] at h
    simp only [Json.dropNulls, run, h, Json.length_dropNullsItems]
    rcases (b.run ⟨name, n, none, xs⟩).run {} with ⟨a, st⟩
    simp only [Prod.map, id]
    cases firstFault true st.faults with
    | some e => rfl
    | none => by_cases hl : xs.length > n <;> simp [hl, Except.map]
  | _ => rfl

end Record

namespace Decoder.NullBlind

variable {d : Decoder α}

instance string : Decoder.NullBlind Decode.string := ⟨fun j _ => by cases j <;> rfl⟩

instance looseMoney : Decoder.NullBlind Fields.looseMoney := ⟨fun j _ => by cases j <;> rfl⟩

instance looseId : Decoder.NullBlind Fields.looseId := ⟨fun j _ => by cases j <;> rfl⟩

instance option [hd : Decoder.NullBlind d] : Decoder.NullBlind (Decode.option d) := by
  constructor
  intro j hj
  have h := hd.blind j hj
  cases j <;> simp_all [Json.dropNulls, Decode.option]

instance nullableList [hd : Decoder.NullBlind d] : Decoder.NullBlind (Fields.nullableList d) := by
  constructor
  intro j hj
  cases j with
  | null => rfl
  | arr xs =>
    show (Json.dropNullsItems xs).mapM d = xs.mapM d
    rw [Json.dropNullsItems_eq_map]
    exact Json.mapM_map_dropNulls hd.blind (Json.itemsKeysUnique_iff.1 hj)
  | _ => rfl

instance run {name : String} {n : Nat} {b : RecordM α} [hb : Record.NullBlind b] :
    Decoder.NullBlind (Record.run name n b) := by
  refine ⟨fun j hj => ?_⟩
  have h := @Record.run_dropNulls _ name n b id (Record.NullBlind.nullsVia hb) j hj
  rw [h]
  cases Record.run name n b j <;> rfl

end Decoder.NullBlind

namespace Decoder.ReadsNull

instance option {d : Decoder α} : Decoder.ReadsNull (Decode.option d) none := ⟨rfl⟩
instance looseMoney : Decoder.ReadsNull Fields.looseMoney none := ⟨rfl⟩
instance looseId : Decoder.ReadsNull Fields.looseId none := ⟨rfl⟩
instance nullableList {d : Decoder α} : Decoder.ReadsNull (Fields.nullableList d) [] := ⟨rfl⟩

end Decoder.ReadsNull

namespace Record

variable {d : Decoder α}

instance NullBlind.opt (name : String) [Decoder.NullBlind d] : NullBlind (opt name d) :=
  fieldOf_nullBlind name ⟨none, rfl, .inl rfl⟩

instance NullBlind.dflt [Inhabited α] (name : String) {v : α} [Decoder.NullBlind d]
    [hv : Decoder.ReadsNull d v] : NullBlind (dflt name d v) :=
  fieldOf_nullBlind name ⟨v, hv.null, .inr rfl⟩

end Record

instance Shopify.AddressDoc.decode_nullBlind : Decoder.NullBlind AddressDoc.decode := by
  unfold AddressDoc.decode
  infer_instance

instance Shopify.CustomerDoc.decode_nullBlind : Decoder.NullBlind CustomerDoc.decode := by
  unfold CustomerDoc.decode
  infer_instance

instance Shopify.LineDoc.decode_nullBlind : Decoder.NullBlind LineDoc.decode := by
  unfold LineDoc.decode; infer_instance

instance Shopify.amountDoc_nullBlind (r f : String) : Decoder.NullBlind (amountDoc r f) := by
  unfold amountDoc; infer_instance

instance Shopify.OrderDoc.decode_nullBlind : Decoder.NullBlind OrderDoc.decode := by
  unfold OrderDoc.decode; infer_instance

instance Shopify.VariantDoc.decode_nullBlind : Decoder.NullBlind VariantDoc.decode := by
  unfold VariantDoc.decode; infer_instance

instance Shopify.LevelDoc.decode_nullBlind : Decoder.NullBlind LevelDoc.decode := by
  unfold LevelDoc.decode; infer_instance

instance Ebay.AmountDoc.decode_nullBlind : Decoder.NullBlind AmountDoc.decode := by
  unfold AmountDoc.decode; infer_instance

instance Ebay.AddressDoc.decodeDepth_nullBlind : ∀ depth, Decoder.NullBlind (AddressDoc.decodeDepth depth)
  | 0 => ⟨fun _ _ => rfl⟩
  | depth + 1 => by
    have := decodeDepth_nullBlind depth
    unfold AddressDoc.decodeDepth; infer_instance

instance Ebay.PricingDoc.decode_nullBlind : Decoder.NullBlind PricingDoc.decode := by
  unfold PricingDoc.decode; infer_instance

instance Ebay.BuyerDoc.decode_nullBlind : Decoder.NullBlind BuyerDoc.decode := by
  unfold BuyerDoc.decode AddressDoc.decode; infer_instance

instance Ebay.instructionDecode_nullBlind : Decoder.NullBlind instructionDecode := by
  unfold instructionDecode shippingStepDecode AddressDoc.decode; infer_instance

instance Ebay.LineDoc.decode_nullBlind : Decoder.NullBlind LineDoc.decode := by
  unfold LineDoc.decode; infer_instance

instance Ebay.ItemDoc.decode_nullBlind : Decoder.NullBlind ItemDoc.decode := by
  unfold ItemDoc.decode; infer_instance

instance Amazon.MoneyDoc.decode_nullBlind : Decoder.NullBlind MoneyDoc.decode := by
  unfold MoneyDoc.decode; infer_instance

instance Amazon.AddressDoc.decode_nullBlind : Decoder.NullBlind AddressDoc.decode := by
  unfold AddressDoc.decode; infer_instance

instance Amazon.BuyerDoc.decode_nullBlind : Decoder.NullBlind BuyerDoc.decode := by
  unfold BuyerDoc.decode; infer_instance

instance Amazon.OrderDoc.decode_nullBlind : Decoder.NullBlind OrderDoc.decode := by
  unfold OrderDoc.decode; infer_instance

instance Amazon.ItemDoc.decode_nullBlind : Decoder.NullBlind ItemDoc.decode := by
  unfold ItemDoc.decode; infer_instance

instance Ebay.OrderDoc.decode_nullBlind : Decoder.NullBlind OrderDoc.decode := by
  unfold OrderDoc.decode
  refine @Decoder.NullBlind.run _ _ _ _ ?_
  iterate 7 refine @Record.NullBlind.bind _ _ _ _ inferInstance fun _ => ?_
  refine @Record.NullBlind.bind _ _ _ _
    (@Record.NullBlind.dflt _ _ _ _ _ ⟨fun j hj => ?_⟩ ⟨rfl⟩) fun _ => inferInstance
  cases j <;> first | rfl | exact PricingDoc.decode_nullBlind.blind _ hj

theorem Decode.mapM_any (xs : List Json) : xs.mapM Decode.any = .ok xs := by
  induction xs with
  | nil => rfl
  | cons x xs ih => simp [List.mapM_cons, ih, Decode.any, bind, Except.bind, pure, Except.pure]

theorem Record.nullsVia_rawList (name : String) :
    NullsVia (List.map Json.dropNulls) (dflt name (Fields.nullableList Decode.any) []) := by
  intro src hsrc st
  refine fieldOf_dropNulls name _ (fun j _ => ?_) rfl ⟨[], rfl, rfl, .inr rfl⟩ hsrc st
  cases j with
  | arr xs =>
    simp only [Json.dropNulls, Fields.nullableList, Decode.list, Decode.mapM_any]
    simp [Except.map, Json.dropNullsItems_eq_map]
  | _ => rfl

theorem Shopify.ProductDoc.decode_dropNulls {j : Json} (hj : j.keysUnique) :
    ProductDoc.decode j.dropNulls =
      (ProductDoc.decode j).map fun p => { p with variants := p.variants.map Json.dropNulls } := by
  unfold ProductDoc.decode
  refine Record.run_dropNulls ?_ hj
  refine Record.NullsVia.bind_of_blind fun _ => ?_
  refine Record.NullsVia.bind_of_blind fun _ => ?_
  refine Record.NullsVia.bind_of_blind fun _ => ?_
  exact Record.NullsVia.bind_pure (Record.nullsVia_rawList "variants") fun _ => rfl

/-- The order without the payload it keeps, on the order and on its customer. -/
def IncomingOrder.dropRaw (o : IncomingOrder) : IncomingOrder :=
  { o with raw := .null, customer := o.customer.map fun c => { c with raw := .null } }

/-- The decoded document without the payload it keeps. -/
def RawOrder.dropRaw : RawOrder → RawOrder
  | .shopify d _ => .shopify d .null
  | .ebay d _ => .ebay d .null
  | .amazon b => .amazon { b with raw := .null }

theorem Shopify.OrderDoc.translate_dropRaw (o : OrderDoc) (raw : Json) :
    (o.translate raw).map IncomingOrder.dropRaw = (o.translate .null).map IncomingOrder.dropRaw := by
  unfold OrderDoc.translate
  cases o.id <;> cases Fields.sumKnown o.shippingLines <;>
    cases Fields.sumKnown o.discountApplications <;> rfl

theorem Ebay.OrderDoc.translate_dropRaw (o : OrderDoc) (raw : Json) :
    (o.translate raw).map IncomingOrder.dropRaw = (o.translate .null).map IncomingOrder.dropRaw := by
  unfold OrderDoc.translate
  cases o.orderId.or o.legacyOrderId <;> cases o.buyer <;> rfl

theorem Amazon.Bundle.translate_dropRaw (b : Bundle) :
    b.translate.map IncomingOrder.dropRaw = { b with raw := .null }.translate.map IncomingOrder.dropRaw := by
  unfold Bundle.translate
  dsimp only
  cases Fields.optNonEmpty b.order.amazonOrderId <;> rfl

theorem RawOrder.translate_dropRaw (r : RawOrder) :
    r.translate.map IncomingOrder.dropRaw = r.dropRaw.translate.map IncomingOrder.dropRaw := by
  cases r with
  | shopify d raw => exact Shopify.OrderDoc.translate_dropRaw d raw
  | ebay d raw => exact Ebay.OrderDoc.translate_dropRaw d raw
  | amazon b => exact Amazon.Bundle.translate_dropRaw b

namespace Record

/-- Every value the reader produces from a source with unique keys satisfies `P`. -/
def Yields (P : α → Prop) (b : RecordM α) : Prop :=
  ∀ src : RecordSource, src.keysUnique → ∀ st, P ((b.run src).run st).1

theorem Yields.bind {x : RecordM α} {f : α → RecordM β} {Q : β → Prop} (hf : ∀ a, Yields Q (f a)) :
    Yields Q (x >>= f) := by
  intro src hsrc st
  simp only [ReaderT.run_bind, StateT.run_bind]
  exact hf _ src hsrc _

theorem Yields.bind_pure {x : RecordM α} {k : α → β} {P : α → Prop} {Q : β → Prop}
    (hx : Yields P x) (hk : ∀ a, P a → Q (k a)) : Yields Q (x >>= fun a => pure (k a)) := by
  intro src hsrc st
  have h := hx src hsrc st
  simp only [ReaderT.run_bind, StateT.run_bind]
  rcases hrun : (x.run src).run st with ⟨a, s⟩
  rw [hrun] at h
  exact hk a h

theorem fieldOf_yields [Inhabited α] (name : String) {d : Decoder α} {absent : Absent α}
    (P : α → Prop) (hd : ∀ j : Json, j.keysUnique → ∀ a, d j = .ok a → P a) (hdefault : P default)
    (habs : ∀ a, (absent = .optional a ∨ absent = .fallback a) → P a) :
    Yields P (fieldOf [name] d absent) := by
  rintro ⟨srcName, count, members, items⟩ hsrc st
  unfold Record.fieldOf
  simp only [read, readThe, MonadReaderOf.read, ReaderT.read, get,
    getThe, MonadStateOf.get, StateT.get, set, MonadStateOf.set, StateT.set, ReaderT.run,
    StateT.run, liftM, monadLift, MonadLift.monadLift, ReaderT.bind, StateT.bind, bind, pure,
    StateT.pure, List.contains_cons, List.contains_nil, Bool.or_false, fault,
    modify, modifyGet, MonadStateOf.modifyGet]
  simp only [RecordSource.keysUnique, Bool.and_eq_true] at hsrc
  cases members with
  | some fs =>
    simp only [Bool.and_eq_true] at hsrc
    dsimp only
    cases hf : List.find? (fun p => p.fst == name) fs with
    | some kv =>
      obtain ⟨k, v⟩ := kv
      have hv := Json.keysUnique_of_mem_members hsrc.1.2 (List.mem_of_find?_eq_some hf)
      dsimp only
      cases hdv : d v with
      | ok a => exact hd v hv a hdv
      | error e => exact hdefault
    | none =>
      cases absent with
      | fallback a => exact habs a (.inr rfl)
      | optional a => exact habs a (.inl rfl)
      | required => exact hdefault
  | none =>
    dsimp only
    cases hi : items[st.index]? with
    | some v =>
      have hv := Json.keysUnique_of_mem_items hsrc.2 (List.mem_of_getElem? hi)
      simp only [Option.map_some]
      cases hdv : d v with
      | ok a => exact hd v hv a hdv
      | error e => exact hdefault
    | none =>
      cases absent with
      | fallback a => exact habs a (.inr rfl)
      | _ => exact hdefault

theorem Yields.of_run {P : α → Prop} {b : RecordM α} (hb : Yields P b) {name : String} {n : Nat}
    {j : Json} {a : α} (hj : j.keysUnique) (h : run name n b j = .ok a) : P a := by
  cases j with
  | obj fs =>
    have hp := hb ⟨name, n, some fs, []⟩
      (by simpa [RecordSource.keysUnique, Json.keysUnique, Json.itemsKeysUnique] using hj) {}
    rcases hrun : (b.run ⟨name, n, some fs, []⟩).run {} with ⟨a', st⟩
    simp only [Record.run, hrun] at h
    rw [hrun] at hp
    split at h
    · cases h
    · cases h; exact hp
  | arr xs =>
    have hp := hb ⟨name, n, none, xs⟩
      (by simpa [RecordSource.keysUnique, Json.keysUnique, Json.itemsKeysUnique] using hj) {}
    rcases hrun : (b.run ⟨name, n, none, xs⟩).run {} with ⟨a', st⟩
    simp only [Record.run, hrun] at h
    rw [hrun] at hp
    split at h
    · cases h
    · split at h
      · cases h
      · cases h; exact hp
  | _ => cases h

end Record

theorem Shopify.ProductDoc.variants_keysUnique {j : Json} (hj : j.keysUnique) {p : ProductDoc}
    (h : ProductDoc.decode j = .ok p) : ∀ v ∈ p.variants, v.keysUnique := by
  unfold ProductDoc.decode at h
  refine @Record.Yields.of_run _ (fun p : ProductDoc => ∀ v ∈ p.variants, v.keysUnique) _ ?_ _ _ _ _
    hj h
  refine Record.Yields.bind fun _ => ?_
  refine Record.Yields.bind fun _ => ?_
  refine Record.Yields.bind fun _ => ?_
  refine Record.Yields.bind_pure (Record.fieldOf_yields "variants" (fun vs => ∀ v ∈ vs, v.keysUnique)
    (fun j hj vs hvs => ?_) (fun _ hv => (List.not_mem_nil hv).elim) (by rintro _ (h | h) <;> cases h; simp)) fun _ h => h
  cases j with
  | null => cases hvs; simp
  | arr xs =>
    simp only [Fields.nullableList, Decode.list, Decode.mapM_any, Except.ok.injEq] at hvs
    subst hvs
    exact Json.itemsKeysUnique_iff.1 hj
  | _ => cases hvs

theorem Amazon.Bundle.read_dropNulls {order : Json} {items : List Json} (ho : order.keysUnique)
    (hi : ∀ i ∈ items, i.keysUnique) :
    Bundle.read order.dropNulls (items.map Json.dropNulls) =
      (Bundle.read order items).map fun b => { b with raw := order.dropNulls } := by
  unfold Bundle.read
  rw [OrderDoc.decode_nullBlind.blind order ho,
    Json.mapM_map_dropNulls (fun j hj => by rw [ItemDoc.decode_nullBlind.blind j hj]) hi]
  cases (OrderDoc.decode order).mapError decodeError with
  | error e => rfl
  | ok o => cases items.mapM fun i => (ItemDoc.decode i).mapError decodeError <;> rfl

namespace RawOrder

theorem readWith_dropNulls (m : Marketplace) {order : Json} {items : List Json}
    (ho : order.keysUnique) (hi : ∀ i ∈ items, i.keysUnique) :
    (readWith m order.dropNulls (items.map Json.dropNulls)).map dropRaw =
      (readWith m order items).map dropRaw := by
  cases m with
  | shopify =>
    simp only [readWith, read, Shopify.OrderDoc.read, Shopify.OrderDoc.decode_nullBlind.blind _ ho]
    cases Shopify.OrderDoc.decode order <;> rfl
  | ebay =>
    simp only [readWith, read, Ebay.OrderDoc.decode_nullBlind.blind _ ho]
    cases Ebay.OrderDoc.decode order <;> rfl
  | amazon =>
    simp only [readWith, readAmazon, Amazon.Bundle.read_dropNulls ho hi]
    cases Amazon.Bundle.read order items <;> rfl

theorem bind_translate_congr {x x' : Except SyncError RawOrder}
    (h : x.map dropRaw = x'.map dropRaw) :
    (x.bind translate).map IncomingOrder.dropRaw = (x'.bind translate).map IncomingOrder.dropRaw := by
  cases x with
  | error e =>
    cases x' with
    | error e' => cases h; rfl
    | ok r' => cases h
  | ok r =>
    cases x' with
    | error e' => cases h
    | ok r' =>
      simp only [Except.map, Except.ok.injEq] at h
      show r.translate.map _ = r'.translate.map _
      rw [translate_dropRaw r, translate_dropRaw r', h]

end RawOrder

theorem Shopify.translateVariant_dropNulls (title : String) {v : Json} (hv : v.keysUnique) :
    translateVariant title v.dropNulls = { translateVariant title v with raw := v.dropNulls } := by
  unfold translateVariant
  rw [VariantDoc.decode_nullBlind.blind v hv]

/-- The product without the payload each of its variants keeps. -/
def IncomingProduct.dropRaw (p : IncomingProduct) : IncomingProduct :=
  { p with variants := p.variants.map fun v => { v with raw := .null } }

theorem Shopify.translateProduct_dropNulls {j : Json} (hj : j.keysUnique) :
    (translateProduct j.dropNulls).map IncomingProduct.dropRaw =
      (translateProduct j).map IncomingProduct.dropRaw := by
  unfold translateProduct
  rw [ProductDoc.decode_dropNulls hj]
  cases hd : ProductDoc.decode j with
  | error e => rfl
  | ok p =>
    have hv := ProductDoc.variants_keysUnique hj hd
    cases hid : p.id with
    | none => simp [hid, Except.map, bind, Except.bind, Except.mapError, throw, throwThe, MonadExceptOf.throw]
    | some id =>
      simp only [hid, Except.mapError, bind, Except.bind, pure, Except.pure, Except.map,
        IncomingProduct.dropRaw, Except.ok.injEq, List.map_map]
      congr 1
      refine List.map_congr_left fun v hv' => ?_
      simp [translateVariant_dropNulls _ (hv v hv')]

/-- The stock observation without the payload it keeps. -/
def IncomingStock.dropRaw (s : IncomingStock) : IncomingStock := { s with raw := .null }

theorem Shopify.translateLevel_dropNulls {j : Json} (hj : j.keysUnique) :
    (translateLevel j.dropNulls).map IncomingStock.dropRaw =
      (translateLevel j).map IncomingStock.dropRaw := by
  unfold translateLevel
  rw [LevelDoc.decode_nullBlind.blind j hj]
  cases LevelDoc.decode j with
  | error e => rfl
  | ok l =>
    simp only [Except.mapError, bind, Except.bind]
    cases l.inventoryItemId <;> rfl

theorem Ebay.translateItem_dropNulls {j : Json} (hj : j.keysUnique) :
    (translateItem j.dropNulls).map IncomingStock.dropRaw =
      (translateItem j).map IncomingStock.dropRaw := by
  unfold translateItem
  rw [ItemDoc.decode_nullBlind.blind j hj]
  cases ItemDoc.decode j with
  | error e => rfl
  | ok i =>
    simp only [Except.mapError, bind, Except.bind]
    cases Fields.optNonEmpty i.sku <;> rfl

theorem RawOrder.readStock_dropNulls (m : Marketplace) {j : Json} (hj : j.keysUnique) :
    (readStock m j.dropNulls).map IncomingStock.dropRaw = (readStock m j).map IncomingStock.dropRaw := by
  cases m with
  | shopify => exact Shopify.translateLevel_dropNulls hj
  | ebay => exact Ebay.translateItem_dropNulls hj
  | amazon => rfl

/-- An explicit `null` member reads as the member left out, at any depth. Two documents that
differ only that way decode alike, normalize alike, and give the same product and stock, apart from
the payload each result keeps. -/
theorem null_member_reads_as_absent (m : Marketplace) {p p' : Json} {items items' : List Json}
    (hp : p.keysUnique) (hp' : p'.keysUnique) (hi : ∀ i ∈ items, i.keysUnique)
    (hi' : ∀ i ∈ items', i.keysUnique) (h : p.dropNulls = p'.dropNulls)
    (hitems : items.map Json.dropNulls = items'.map Json.dropNulls) :
    (RawOrder.readWith m p items).map RawOrder.dropRaw =
        (RawOrder.readWith m p' items').map RawOrder.dropRaw ∧
      ((RawOrder.readWith m p items).bind RawOrder.translate).map IncomingOrder.dropRaw =
        ((RawOrder.readWith m p' items').bind RawOrder.translate).map IncomingOrder.dropRaw ∧
      (Shopify.translateProduct p).map IncomingProduct.dropRaw =
        (Shopify.translateProduct p').map IncomingProduct.dropRaw ∧
      (RawOrder.readStock m p).map IncomingStock.dropRaw =
        (RawOrder.readStock m p').map IncomingStock.dropRaw := by
  have hread : (RawOrder.readWith m p items).map RawOrder.dropRaw =
      (RawOrder.readWith m p' items').map RawOrder.dropRaw := by
    rw [← RawOrder.readWith_dropNulls m hp hi, ← RawOrder.readWith_dropNulls m hp' hi', h, hitems]
  refine ⟨hread, RawOrder.bind_translate_congr hread, ?_, ?_⟩
  · rw [← Shopify.translateProduct_dropNulls hp, ← Shopify.translateProduct_dropNulls hp', h]
  · rw [← RawOrder.readStock_dropNulls m hp, ← RawOrder.readStock_dropNulls m hp', h]

/-- A storefront order whose customer is an explicit `null`. -/
def nullCustomerOrder : Json := .obj [("customer", .null), ("id", .str "7")]

/-- The same order with the customer left out. -/
def bareOrder : Json := .obj [("id", .str "7")]

theorem null_customer_reads_as_absent :
    nullCustomerOrder.keysUnique ∧ bareOrder.keysUnique ∧
      nullCustomerOrder.dropNulls = bareOrder.dropNulls ∧
      ((RawOrder.readWith .shopify nullCustomerOrder []).bind RawOrder.translate).map
          IncomingOrder.dropRaw =
        ((RawOrder.readWith .shopify bareOrder []).bind RawOrder.translate).map
          IncomingOrder.dropRaw :=
  ⟨by decide, by decide, rfl,
    (@null_member_reads_as_absent .shopify nullCustomerOrder bareOrder [] [] (by decide) (by decide)
      (by simp) (by simp) rfl rfl).2.1⟩

end SellerSync
