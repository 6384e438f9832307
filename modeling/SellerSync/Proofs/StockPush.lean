import SellerSync.Amazon.Outbound
/-! Publishing a batch of stock updates goes through the updates one by one, keeping a report and
skipping on to the next update where one cannot be published. -/
namespace SellerSync

namespace Amazon

/-- What publishing does with one update. -/
inductive StockEntry where
  /-- The update is skipped and reported under `name`. -/
  | skipped (name : String)
  /-- The stock of `sku` is set to `quantity` in `marketplaces`. -/
  | pushed (sku : String) (quantity : Int) (marketplaces : List String)

namespace StockEntry

def pushedSku? : StockEntry → Option String
  | pushed sku _ _ => some sku
  | skipped _ => none

def skippedName? : StockEntry → Option String
  | skipped name => some name
  | pushed .. => none

end StockEntry

/-- An update whose SKU is blank once trimmed is skipped under the SKU as given. One whose own
marketplace ids and the account's are both empty is skipped under the trimmed SKU. Any other
sets the stock of the trimmed SKU to the update's quantity held at zero from below, in the
update's marketplaces, or the account's when the update names none. -/
def stockEntry (account : ChannelAccount) (u : InventoryUpdate) : StockEntry :=
  let sku := Text.trim u.sku
  if sku.isEmpty then .skipped u.sku
  else
    let marketplaces := if u.marketplaceIds.isEmpty then account.marketplaceIds else u.marketplaceIds
    if marketplaces.isEmpty then .skipped sku else .pushed sku (max u.quantity 0) marketplaces

/-- The report of a batch: the pushed SKUs and the skipped names, each in order. -/
def stockReport (es : List StockEntry) : PushReport :=
  { pushed := es.filterMap StockEntry.pushedSku?, skipped := es.filterMap StockEntry.skippedName? }

/-- The Listings Items call that sets the stock of `sku` of seller `sellerId` to `quantity` in
`marketplaces`. -/
def listingPatch (sellerId sku : String) (quantity : Int) (marketplaces : List String) :
    ApiRequest :=
  { method := "PATCH",
    path := "/listings/2021-08-01/items/" ++ Percent.encodeComponent sellerId ++ "/" ++
      Percent.encodeComponent sku,
    query := [("marketplaceIds", ",".intercalate marketplaces)],
    body := some (availabilityPatch quantity) }

/-- The call a pushed entry makes; a skipped one makes none. -/
def StockEntry.publish (account : ChannelAccount) (sellerId : String) : StockEntry → SyncM Unit
  | .skipped _ => pure ()
  | .pushed sku quantity marketplaces => do
    let _ ← Executor.execute account (listingPatch sellerId sku quantity marketplaces)
    pure ()

end Amazon

/-- The report after one more entry. -/
def PushReport.record (r : PushReport) (e : Amazon.StockEntry) : PushReport :=
  { pushed := r.pushed ++ e.pushedSku?.toList, skipped := r.skipped ++ e.skippedName?.toList }

namespace Amazon

theorem stockReport_length (es : List StockEntry) :
    (stockReport es).pushed.length + (stockReport es).skipped.length = es.length := by
  induction es with
  | nil => rfl
  | cons e es ih =>
    cases e <;>
      simp only [stockReport, List.filterMap_cons, StockEntry.pushedSku?, StockEntry.skippedName?,
        List.length_cons] at ih ⊢ <;> omega

theorem availabilityPatch_max (q : Int) : availabilityPatch (max q 0) = availabilityPatch q := by
  have h : max (max q 0) 0 = max q 0 := by omega
  simp only [availabilityPatch, h]

theorem listingPatch_eq (sellerId sku : String) (q : Int) (marketplaces : List String) :
    listingPatch sellerId sku (max q 0) marketplaces =
      (ApiRequest.patch ("/listings/2021-08-01/items/" ++ Percent.encodeComponent sellerId ++ "/" ++
        Percent.encodeComponent sku) (availabilityPatch q)).withQuery "marketplaceIds"
          (",".intercalate marketplaces) := by
  simp only [listingPatch, availabilityPatch_max, ApiRequest.patch, ApiRequest.withQuery,
    List.nil_append]

theorem stockLoop_eq (account : ChannelAccount) (sellerId : String)
    (body : InventoryUpdate → PushReport → SyncM (ForInStep PushReport))
    (hbody : ∀ u r, body u r = do
      (stockEntry account u).publish account sellerId
      pure (.yield (r.record (stockEntry account u))))
    (us : List InventoryUpdate) (r : PushReport) :
    forIn us r body = (do
      (us.map (stockEntry account)).forM (StockEntry.publish account sellerId)
      pure { pushed := r.pushed ++ (stockReport (us.map (stockEntry account))).pushed,
             skipped := r.skipped ++ (stockReport (us.map (stockEntry account))).skipped }) := by
  induction us generalizing r with
  | nil => simp [stockReport]
  | cons u us ih =>
    simp only [List.forIn_cons, hbody, bind_assoc, pure_bind, ih, List.map_cons]
    cases stockEntry account u <;>
      simp [PushReport.record, stockReport, StockEntry.pushedSku?, StockEntry.skippedName?,
        List.filterMap_cons]

/-- Publishing stock, for every account and batch of updates. An account that sends no stock
skips every update under its SKU as given and does nothing else. Otherwise the account's seller
id is read first; then each update becomes one entry, each pushed entry makes one Listings
Items call in order, the first failing call ending the batch, and the report lists the pushed
SKUs and the skipped names in the order of the updates, one name per update. -/
theorem pushInventory_publishes (account : ChannelAccount) (updates : List InventoryUpdate) :
    pushInventory account updates =
      (if account.flags.inventoryOut then do
        let sellerId ← SyncM.expect (sellingPartnerId account)
        (updates.map (stockEntry account)).forM (StockEntry.publish account sellerId)
        pure (stockReport (updates.map (stockEntry account)))
      else pure { skipped := updates.map (·.sku) }) ∧
    (stockReport (updates.map (stockEntry account))).pushed.length +
      (stockReport (updates.map (stockEntry account))).skipped.length = updates.length := by
  refine ⟨?_, by rw [stockReport_length, List.length_map]⟩
  unfold pushInventory
  cases account.flags.inventoryOut with
  | false => rfl
  | true =>
    simp only [Bool.not_true, Bool.false_eq_true, ↓reduceIte]
    congr 1
    funext sellerId
    rw [stockLoop_eq account sellerId]
    · simp [stockReport]
    · -- one round of the loop makes the update's entry and records it
      intro u r
      unfold stockEntry
      by_cases hsku : (Text.trim u.sku).isEmpty = true
      · simp only [hsku, ↓reduceIte, StockEntry.publish, PushReport.record,
          StockEntry.pushedSku?, StockEntry.skippedName?, Option.toList, List.append_nil,
          pure_bind]
      · generalize (if u.marketplaceIds.isEmpty = true then account.marketplaceIds
          else u.marketplaceIds) = ms
        by_cases hms : ms.isEmpty = true
        · simp only [hsku, hms, Bool.false_eq_true, ↓reduceIte, StockEntry.publish,
            PushReport.record, StockEntry.pushedSku?, StockEntry.skippedName?, Option.toList,
            List.append_nil, pure_bind]
        · -- a pushed entry: its call is the listing patch the loop builds
          simp only [hsku, hms, Bool.false_eq_true, ↓reduceIte, StockEntry.publish,
            PushReport.record, StockEntry.pushedSku?, StockEntry.skippedName?, Option.toList,
            List.append_nil, bind_assoc, pure_bind, listingPatch_eq]

end Amazon

end SellerSync
