import Mathlib
import SellerSync.Proofs.Retries
/-! A listing is read one page at a time through the executor. -/

namespace SellerSync

open SyncM

namespace Pull

/-- How a listing reads a page: the records it carries and the request for the page after it. -/
structure Paging where
  records : Json → List Json
  next : Json → Option ApiRequest

/-- eBay pages carry their records under `field` and name the next page by a `next` link, read
relative to the API base. -/
def ebayPaging (apiBase field : String) : Paging where
  records page := arrayField page field
  next page := ApiRequest.get <$> nextLink apiBase page

/-- Amazon pages carry their records and continuation token in `payload`, or bare; the token
names the next page, asked for on `path` with the token as its only query pair. -/
def amazonPaging (path field : String) : Paging where
  records page := (pageParts page field).1
  next page := (fun token => (ApiRequest.get path).withQuery "NextToken" token) <$>
    (pageParts page field).2

theorem nextLink_eq_some (apiBase : String) (page : Json) (path : String) :
    nextLink apiBase page = some path ↔
      ∃ link, page.get? "next" = some (.str link) ∧ nextPath apiBase link = some path := by
  unfold nextLink
  split
  · rename_i link h
    simp [h]
  · rename_i h
    simp only [reduceCtorEq, false_iff, not_exists, not_and]
    exact fun link hl => absurd hl (h link)

theorem pageParts_records (page : Json) (field : String) :
    (pageParts page field).1 = arrayField ((page.get? "payload").getD page) field := rfl

theorem pageParts_token_eq_some (page : Json) (field token : String) :
    (pageParts page field).2 = some token ↔
      ((page.get? "payload").getD page).get? "NextToken" = some (.str token) ∧ token ≠ "" := by
  dsimp only [pageParts]
  split
  · rename_i t h
    simp only [h, Option.some.injEq, Json.str.injEq]
    by_cases ht : t = ""
    · subst ht
      simp
    · have hne : t.isEmpty = false := by simpa [String.isEmpty_iff] using ht
      simp only [hne, Bool.false_eq_true, ↓reduceIte, Option.some.injEq]
      constructor
      · rintro rfl
        exact ⟨rfl, ht⟩
      · exact fun h => h.1
  · rename_i h
    simp only [reduceCtorEq, false_iff, not_and]
    exact fun hl => absurd hl (h token)

/-- How following a listing ends when at most `n` more pages may be fetched, from the request
`req` and the service `σ`: the requests handed to `fetch`, in order, and the answer with the
service after. -/
inductive Follows (c : Context) (fetch : ApiRequest → SyncM ResponseBody) (p : Paging) :
    Nat → ApiRequest → Service → List ApiRequest → Except SyncError (List Json) × Service → Prop
  /-- The fetch fails, and its failure is the answer. -/
  | failed {n : Nat} {req : ApiRequest} {σ σ' : Service} {e : SyncError} :
      ((fetch req).run c).run.run σ = (.error e, σ') →
      Follows c fetch p (n + 1) req σ [req] (.error e, σ')
  /-- The page is the last allowed or names no page after it: its records are the answer. -/
  | last {n : Nat} {req : ApiRequest} {σ σ' : Service} {b : ResponseBody} :
      ((fetch req).run c).run.run σ = (.ok b, σ') → (n = 0 ∨ p.next b.toJson = none) →
      Follows c fetch p (n + 1) req σ [req] (.ok (p.records b.toJson), σ')
  /-- The page names the next one: its records come before those of the pages after it. -/
  | more {n : Nat} {req req' : ApiRequest} {σ σ' : Service} {b : ResponseBody}
      {calls : List ApiRequest} {r : Except SyncError (List Json) × Service} :
      ((fetch req).run c).run.run σ = (.ok b, σ') → p.next b.toJson = some req' →
      Follows c fetch p n req' σ' calls r →
      Follows c fetch p (n + 1) req σ (req :: calls) (r.1.map (p.records b.toJson ++ ·), r.2)

namespace Follows

variable {c : Context} {fetch : ApiRequest → SyncM ResponseBody} {p : Paging} {n : Nat}
  {req : ApiRequest} {σ : Service} {calls : List ApiRequest}
  {r : Except SyncError (List Json) × Service}

theorem length_le (h : Follows c fetch p n req σ calls r) : calls.length ≤ n := by
  induction h with
  | failed => simp
  | last => simp
  | more _ _ _ ih => simp only [List.length_cons]; omega

theorem head (h : Follows c fetch p n req σ calls r) : calls.head? = some req := by
  cases h <;> rfl

end Follows

theorem map_append_map (r : Except SyncError (List Json)) (xs ys : List Json) :
    (r.map (ys ++ ·)).map (xs ++ ·) = r.map ((xs ++ ys) ++ ·) := by
  cases r <;> simp [Except.map]

theorem follows_of_rounds (c : Context) (fetch : ApiRequest → SyncM ResponseBody) (p : Paging)
    (loop : Nat → ApiRequest → List Json → SyncM (List Json))
    (hzero : ∀ req acc σ, ((loop 0 req acc).run c).run.run σ = (.ok acc, σ))
    (hround : ∀ n req acc σ, ((loop (n + 1) req acc).run c).run.run σ =
      match ((fetch req).run c).run.run σ with
      | (.error e, σ') => (.error e, σ')
      | (.ok b, σ') =>
        match p.next b.toJson with
        | some req' => ((loop n req' (acc ++ p.records b.toJson)).run c).run.run σ'
        | none => (.ok (acc ++ p.records b.toJson), σ')) (n : Nat) :
    ∀ req acc σ, ∃ calls r, Follows c fetch p (n + 1) req σ calls r ∧
      ((loop (n + 1) req acc).run c).run.run σ = (r.1.map (acc ++ ·), r.2) := by
  induction n with
  | zero =>
    intro req acc σ
    rw [hround]
    rcases hf : ((fetch req).run c).run.run σ with ⟨_ | b, σ'⟩
    · exact ⟨[req], _, .failed hf, rfl⟩
    · refine ⟨[req], _, .last hf (.inl rfl), ?_⟩
      simp only [hzero]
      split <;> rfl
  | succ n ih =>
    intro req acc σ
    rw [hround]
    rcases hf : ((fetch req).run c).run.run σ with ⟨_ | b, σ'⟩
    · exact ⟨[req], _, .failed hf, rfl⟩
    · cases hn : p.next b.toJson with
      | none => exact ⟨[req], _, .last hf (.inr hn), by simp only [hn]; rfl⟩
      | some req' =>
        obtain ⟨calls, r, hfol, hrun⟩ := ih req' (acc ++ p.records b.toJson) σ'
        refine ⟨req :: calls, _, .more hf hn hfol, ?_⟩
        simp only [hn, hrun, map_append_map]

theorem follows_run_of_rounds (c : Context) (fetch : ApiRequest → SyncM ResponseBody)
    (p : Paging) (loop : Nat → ApiRequest → List Json → SyncM (List Json))
    (hzero : ∀ req acc σ, ((loop 0 req acc).run c).run.run σ = (.ok acc, σ))
    (hround : ∀ n req acc σ, ((loop (n + 1) req acc).run c).run.run σ =
      match ((fetch req).run c).run.run σ with
      | (.error e, σ') => (.error e, σ')
      | (.ok b, σ') =>
        match p.next b.toJson with
        | some req' => ((loop n req' (acc ++ p.records b.toJson)).run c).run.run σ'
        | none => (.ok (acc ++ p.records b.toJson), σ')) (n : Nat) (req : ApiRequest)
    (σ : Service) :
    ∃ calls, calls.length ≤ n + 1 ∧
      Follows c fetch p (n + 1) req σ calls (((loop (n + 1) req []).run c).run.run σ) := by
  obtain ⟨calls, r, hfol, hrun⟩ := follows_of_rounds c fetch p loop hzero hround n req [] σ
  have hnil : (r.1.map ([] ++ ·), r.2) = r := by
    rcases r with ⟨_ | _, _⟩ <;> rfl
  rw [hrun, hnil]
  exact ⟨calls, hfol.length_le, hfol⟩

variable (c : Context) (account : ChannelAccount)

theorem ebayPages_round (field : String) (n : Nat) (req : ApiRequest) (acc : List Json)
    (σ : Service) : ((ebayPages account field (n + 1) req acc).run c).run.run σ =
      match ((Executor.execute account req).run c).run.run σ with
      | (.error e, σ') => (.error e, σ')
      | (.ok b, σ') =>
        match (ebayPaging c.settings.ebay.apiBaseUrl field).next b.toJson with
        | some req' =>
          ((ebayPages account field n req' (acc ++ (ebayPaging c.settings.ebay.apiBaseUrl
            field).records b.toJson)).run c).run.run σ'
        | none =>
          (.ok (acc ++ (ebayPaging c.settings.ebay.apiBaseUrl field).records b.toJson), σ') := by
  rw [ebayPages, run_bind]
  rcases ((Executor.execute account req).run c).run.run σ with ⟨_ | b, σ'⟩
  · rfl
  · simp only [run_bind, settings_run, ebayPaging]
    cases nextLink c.settings.ebay.apiBaseUrl b.toJson <;> rfl

theorem amazonPages_round (path field : String) (n : Nat) (req : ApiRequest) (acc : List Json)
    (σ : Service) : ((amazonPages account path field (n + 1) req acc).run c).run.run σ =
      match ((Executor.execute account req).run c).run.run σ with
      | (.error e, σ') => (.error e, σ')
      | (.ok b, σ') =>
        match (amazonPaging path field).next b.toJson with
        | some req' =>
          ((amazonPages account path field n req' (acc ++ (amazonPaging path field).records
            b.toJson)).run c).run.run σ'
        | none => (.ok (acc ++ (amazonPaging path field).records b.toJson), σ') := by
  rw [amazonPages, run_bind]
  rcases ((Executor.execute account req).run c).run.run σ with ⟨_ | b, σ'⟩
  · rfl
  · simp only [amazonPaging]
    cases (pageParts b.toJson field).2 <;> rfl

/-- The eBay and Amazon listings follow their pages from the first request, for at most
`maxPages` pages: each makes at most `maxPages` executor calls, the first for the first request
and each later one for the page the one before names, and answers with the first failure or with
the records of all pages in order. -/
theorem listings_follow_pages (σ : Service) (field path : String) (first : ApiRequest) :
    (∃ calls, calls.length ≤ maxPages ∧
      Follows c (Executor.execute account) (ebayPaging c.settings.ebay.apiBaseUrl field) maxPages
        first σ calls (((ebayPages account field maxPages first []).run c).run.run σ)) ∧
    (∃ calls, calls.length ≤ maxPages ∧
      Follows c (Executor.execute account) (amazonPaging path field) maxPages first σ calls
        (((amazonPages account path field maxPages first []).run c).run.run σ)) :=
  ⟨follows_run_of_rounds c _ _ _ (fun _ _ _ => rfl) (ebayPages_round c account field) 99 first σ,
    follows_run_of_rounds c _ _ _ (fun _ _ _ => rfl) (amazonPages_round c account path field) 99
      first σ⟩

end Pull

end SellerSync
