import Mathlib
import SellerSync.Proofs.Polling
import SellerSync.Proofs.ShopHosts
/-! What `Subscriptions.register` does, for every account, address and network. It lists the shop's
subscriptions once; a listing that fails, unless for the credential, counts as an empty one. -/

namespace SellerSync

open SyncM Service

/-- The calls `send x`, for the arguments in order, one after another from `σ`: each answers as
listed, and the last leaves `σ'`. -/
def Answers (c : Context) {α β : Type} (send : α → SyncM β) :
    Service → List (α × Except SyncError β) → Service → Prop
  | σ, [], σ' => σ' = σ
  | σ, (x, a) :: rest, σ' => ∃ σ₁, ((send x).run c).run.run σ = (a, σ₁) ∧ Answers c send σ₁ rest σ'

theorem Answers.map {c : Context} {α γ β : Type} {send : γ → SyncM β} (f : α → γ) :
    ∀ {σ : Service} {calls : List (α × Except SyncError β)} {σ' : Service},
      Answers c (send ∘ f) σ calls σ' →
        Answers c send σ (calls.map fun p => (f p.1, p.2)) σ'
  | _, [], _, h => h
  | _, (_, _) :: _, _, ⟨σ₁, hx, hrest⟩ => ⟨σ₁, hx, Answers.map f hrest⟩

namespace Url

@[simp] theorem appendPairs_scheme (u : Url) (pairs : List (String × String)) :
    (u.appendPairs pairs).scheme = u.scheme := by
  unfold appendPairs
  split <;> rfl

@[simp] theorem appendPairs_host (u : Url) (pairs : List (String × String)) :
    (u.appendPairs pairs).host = u.host := by
  unfold appendPairs
  split <;> rfl

end Url

/-! ### A storefront call the shop answers -/

section Answered

variable {c : Context}

theorem Credential.acquire_run_current {σ : Service} {id : Uuid} {a : ChannelAccount} {token : String}
    (ha : σ.store.account? id = some a) (ht : a.accessToken = some token)
    (hn : needsRefresh a.accessTokenExpiresAt (readingOf c.origin (σ.readings + 1)) = false) :
    ((Credential.acquire id).run c).run.run σ = (.ok token, { σ with readings := σ.readings + 1 }) := by
  simp only [Credential.acquire, run_bind, store_run, Store.requireAccount, ha, expect_run, now_run, ht,
    hn, Bool.not_false, if_true, pure_run]

/-- A shop host the client reaches as it is written: a name of shop characters, not a number, none
of whose labels is punycode. -/
structure Url.PlainShopHost (d : List Char) : Prop where
  chars : ∀ ch ∈ d, Consent.isShopChar ch = true
  nonempty : d ≠ []
  notNumber : Host.endsInNumber (String.ofList d) = false
  plain : ∀ part ∈ d.splitOn '.', ¬ Idna.acePrefix <+: part

theorem Url.PlainShopHost.parse {d : List Char} (hd : Url.PlainShopHost d) (rest : String) :
    ∃ u, Url.parse ("https://" ++ String.ofList d ++ "/" ++ rest) = .ok u ∧ u.scheme = "https" ∧
      u.host = some (.domain (String.ofList d)) := by
  rcases Url.parse_https_host hd.chars hd.nonempty hd.notNumber rest with ⟨-, u, hu, hs, hh, -⟩ | ⟨hnone, -⟩
  · exact ⟨u, hu, hs, hh⟩
  · rw [Idna.toAscii_of_plain hd.chars hd.plain] at hnone
    cases hnone

theorem Client.refusal_eq_none {method : String} {url : Url} {headers : List (String × String)}
    {bytes : List UInt8} (hscheme : url.scheme = "https") (hhost : url.host.isSome = true)
    (hall : (headers.all fun (n, v) => Client.validName n && Client.validValue v) = true) :
    Client.refusal ⟨method, url, headers, bytes⟩ = none := by
  have hnone : url.host.isNone = false := by
    cases h : url.host with
    | none => simp [h] at hhost
    | some _ => rfl
  have hsch : (url.scheme != "http" && url.scheme != "https") = false := by
    rw [hscheme]
    decide
  simp only [Client.refusal, hnone, hall, hsch, Bool.not_true, Bool.false_eq_true, if_false]

theorem Executor.buildUrl_storefront (σ : Service) {account : ChannelAccount} {req : ApiRequest}
    {d : List Char} {rest : String} (hd : Url.PlainShopHost d)
    (hshop : account.marketplace = .shopify) (hext : account.externalId = some (String.ofList d))
    (hbase : c.settings.shopify.baseUrlOverride = none) (hpath : req.path = "/" ++ rest)
    (habs : (req.path.startsWith "http://" || req.path.startsWith "https://") = false) :
    ∃ url, ((Executor.buildUrl account req).run c).run.run σ = (.ok url, σ) ∧ url.scheme = "https" ∧
      url.host = some (.domain (String.ofList d)) := by
  obtain ⟨u, hu, hscheme, hhost⟩ := hd.parse rest
  refine ⟨u.appendPairs req.query, ?_, by simp [hscheme], by simp [hhost]⟩
  have hraw : "https://" ++ String.ofList d ++ req.path = "https://" ++ String.ofList d ++ "/" ++ rest := by
    rw [hpath]
    simp only [String.append_assoc]
  simp only [Executor.buildUrl, Executor.baseUrl, run_bind, settings_run, habs, hshop, hext,
    ShopifySettings.shopBase, hbase, Bool.false_eq_true, if_false, pure_run, hraw, hu]

theorem Executor.sendOnce_storefront (σ : Service) {account : ChannelAccount} {req : ApiRequest}
    {url : Url} (body : Option (List UInt8)) (token : String) {r : HttpResponse}
    (hshop : account.marketplace = .shopify) (hheaders : req.headers = [])
    (hscheme : url.scheme = "https") (hhost : url.host.isSome = true)
    (htoken : Client.validValue token = true) (hnet : ∀ past request, c.network past request = some r) :
    ∃ σ', ((Executor.sendOnce account req url body token).run c).run.run σ =
      (.ok ⟨r.status, Executor.retryAfter r.headers, ResponseBody.parse r.body⟩, σ') ∧
      σ'.store = σ.store := by
  let headers := [("accept", "application/json")] ++
    (if body.isSome then [("content-type", "application/json")] else []) ++
    [("x-shopify-access-token", token)]
  have hall : (headers.all fun (n, v) => Client.validName n && Client.validValue v) = true := by
    cases hb : body.isSome <;> simp [headers, hb, htoken] <;> decide +kernel
  have hvalid : ∀ method bytes, Client.refusal ⟨method, url, headers, bytes⟩ = none :=
    fun _ _ => Client.refusal_eq_none hscheme hhost hall
  refine ⟨σ.offer (.ok ⟨req.method, url, headers, body.getD []⟩), ?_, rfl⟩
  simp only [Executor.sendOnce, run_bind, settings_run, hshop, hheaders, List.nil_append, pure_run,
    transmit_run, Client.exchange, hvalid, hnet, headers]

/-- A storefront call below a plain shop host, whose account holds a token not due for a refresh,
with no headers of its own, on a network that answers every request with a success: one attempt,
which returns the answer's body, and the store as it was. -/
theorem Executor.execute_storefront_answered (σ : Service) {account stored : ChannelAccount}
    {req : ApiRequest} {d : List Char} {rest token : String} {r : HttpResponse}
    (hd : Url.PlainShopHost d) (hshop : account.marketplace = .shopify)
    (hext : account.externalId = some (String.ofList d))
    (hbase : c.settings.shopify.baseUrlOverride = none) (hpath : req.path = "/" ++ rest)
    (habs : (req.path.startsWith "http://" || req.path.startsWith "https://") = false)
    (hheaders : req.headers = []) (hstored : σ.store.account? account.id = some stored)
    (htok : stored.accessToken = some token) (hexp : stored.accessTokenExpiresAt = none)
    (htoken : Client.validValue token = true) (hnet : ∀ past request, c.network past request = some r)
    (hok : 200 ≤ r.status ∧ r.status < 300) :
    ∃ σ', ((Executor.execute account req).run c).run.run σ = (.ok (ResponseBody.parse r.body), σ') ∧
      σ'.store = σ.store := by
  have h1 := Credential.acquire_run_current (c := c) hstored htok (by rw [hexp]; rfl)
  obtain ⟨url, h2, hscheme, hhost⟩ :=
    Executor.buildUrl_storefront { σ with readings := σ.readings + 1 } hd hshop hext hbase hpath habs
  obtain ⟨σ₃, h3, hst⟩ := Executor.sendOnce_storefront { σ with readings := σ.readings + 1 }
    (req.body.map fun j => j.render.toUTF8.toList) token hshop hheaders hscheme (by simp [hhost])
    htoken hnet
  refine ⟨σ₃, ?_, hst⟩
  have hdone : Executor.retried (.ok ⟨r.status, Executor.retryAfter r.headers,
      ResponseBody.parse r.body⟩) = false := by
    simp [Executor.retried, hok.1, hok.2]
  simp only [Executor.execute, run_bind, h1, h2, read_run]
  rw [Executor.attemptFrom_stop c _ 1 _ _ (.inr (by rw [h3]; exact hdone)), h3]
  simp [Executor.verdict, hok.1, hok.2]

end Answered

namespace Subscriptions

/-- A create call refused because the subscription is already there. -/
def duplicate : Except SyncError ResponseBody → Bool
  | .error (.providerRejected status _) => status == 422
  | _ => false

/-- The (topic, address) pairs a listing answer shows: those of the listing when it answered,
none when it failed. -/
def knownOf : Except SyncError ResponseBody → List (String × String)
  | .ok body => listed body.toJson
  | .error _ => []

/-- The topics `ts` taken one after another from `σ`, where `shown t` says the listing shows `t`
at the address and `send t` creates it: the topics sent for creation with their answers, and how
the run ends. -/
def reconcile (c : Context) (shown : String → Bool) (send : String → SyncM ResponseBody) :
    List String → Service →
      List (String × Except SyncError ResponseBody) × (Except SyncError WebhookRegistration × Service)
  | [], σ => ([], .ok {}, σ)
  | t :: ts, σ =>
    if shown t then
      let r := reconcile c shown send ts σ
      (r.1, r.2.1.map fun reg => { reg with existing := t :: reg.existing }, r.2.2)
    else
      match ((send t).run c).run.run σ with
      | (.ok b, σ₁) =>
        let r := reconcile c shown send ts σ₁
        ((t, .ok b) :: r.1, r.2.1.map fun reg => { reg with created := t :: reg.created }, r.2.2)
      | (.error e, σ₁) =>
        if duplicate (.error e) then
          let r := reconcile c shown send ts σ₁
          ((t, .error e) :: r.1, r.2.1.map fun reg => { reg with existing := t :: reg.existing },
            r.2.2)
        else ([(t, .error e)], .error e, σ₁)

variable (c : Context)

theorem reconcileLoop_run (shown : String → Bool) (send : String → SyncM ResponseBody)
    (body : String → WebhookRegistration → SyncM (ForInStep WebhookRegistration))
    (hbody : ∀ t acc σ, ((body t acc).run c).run.run σ =
      if shown t then (.ok (.yield { acc with existing := acc.existing ++ [t] }), σ)
      else match ((send t).run c).run.run σ with
        | (.ok _, σ₁) => (.ok (.yield { acc with created := acc.created ++ [t] }), σ₁)
        | (.error e, σ₁) =>
          if duplicate (.error e) then (.ok (.yield { acc with existing := acc.existing ++ [t] }), σ₁)
          else (.error e, σ₁))
    (ts : List String) (acc : WebhookRegistration) (σ : Service) :
    ((forIn ts acc body).run c).run.run σ =
      ((reconcile c shown send ts σ).2.1.map fun reg =>
        { created := acc.created ++ reg.created, existing := acc.existing ++ reg.existing },
        (reconcile c shown send ts σ).2.2) := by
  induction ts generalizing acc σ with
  | nil =>
    show (Except.ok acc, σ) = _
    simp [reconcile, Except.map]
  | cons t ts ih =>
    rw [List.forIn_cons, run_bind, hbody]
    by_cases hs : shown t = true
    · simp only [hs, if_true, reconcile, ih, Except.map]
      split <;> simp
    · simp only [hs, Bool.false_eq_true, if_false, reconcile]
      rcases ((send t).run c).run.run σ with ⟨e | b, σ₁⟩
      · -- a failed create: a duplicate goes on, any other failure ends the run
        by_cases hd : duplicate (.error e) = true
        · simp only [hd, if_true, ih, Except.map]
          split <;> simp
        · simp only [hd, Bool.false_eq_true, if_false]
          rfl
      · simp only [ih, Except.map]
        split <;> simp
theorem createStep_run (m : SyncM ResponseBody) (acc : WebhookRegistration) (t : String)
    (σ : Service) :
    ((do
        match ← attempt m with
        | .ok _ => pure (ForInStep.yield { acc with created := acc.created ++ [t] })
        | .error (.providerRejected 422 _) =>
          pure (ForInStep.yield { acc with existing := acc.existing ++ [t] })
        | .error e => do
          fail e
          pure (ForInStep.yield acc) : SyncM (ForInStep WebhookRegistration)).run c).run.run σ =
      match (m.run c).run.run σ with
      | (.ok _, σ₁) => (.ok (.yield { acc with created := acc.created ++ [t] }), σ₁)
      | (.error e, σ₁) =>
        if duplicate (.error e) then (.ok (.yield { acc with existing := acc.existing ++ [t] }), σ₁)
        else (.error e, σ₁) := by
  simp only [run_bind, attempt_run]
  rcases (m.run c).run.run σ with ⟨e | b, σ₁⟩
  · dsimp only
    split
    · rename_i h
      cases h
    · rename_i h
      cases h
      rfl
    · -- any other failure: not a duplicate, so it ends the run
      rename_i e' hne h
      cases h
      have hdup : duplicate (.error e) = false := by
        cases e <;> try rfl
        rename_i status body
        simp only [duplicate, beq_eq_false_iff_ne, ne_eq]
        rintro rfl
        exact hne body rfl
      simp only [hdup, Bool.false_eq_true, if_false, run_bind, fail_run]
  · rfl

@[simp] theorem map_from_empty (r : Except SyncError WebhookRegistration) :
    r.map (fun reg =>
      { created := ({} : WebhookRegistration).created ++ reg.created,
        existing := ({} : WebhookRegistration).existing ++ reg.existing }) = r := by
  cases r <;> rfl

/-- A registration lists the subscriptions once. A listing refused for the credential ends it;
otherwise the topics are reconciled against what the listing shows, nothing when it failed. -/
theorem register_run (σ : Service) (account : ChannelAccount) (address : String) :
    ((register account address).run c).run.run σ =
      let path := "/admin/api/" ++ c.settings.shopify.apiVersion ++ "/" ++ "webhooks.json"
      let send := fun t => Executor.execute account (.post path (subscription t address))
      match ((Executor.execute account ((ApiRequest.get path).withQuery "limit" "250")).run c).run.run
          σ with
      | (.error e, σ₁) =>
        if e.isAuthFailure then (.error e, σ₁)
        else (reconcile c (fun t => (knownOf (.error e)).contains (t, address)) send topics σ₁).2
      | (.ok b, σ₁) =>
        (reconcile c (fun t => (knownOf (.ok b)).contains (t, address)) send topics σ₁).2 := by
  simp only [register, Pull.adminPath, run_bind, settings_run, pure_run, attempt_run]
  rcases ((Executor.execute account ((ApiRequest.get ("/admin/api/" ++
    c.settings.shopify.apiVersion ++ "/" ++ "webhooks.json")).withQuery "limit" "250")).run c).run.run
      σ with ⟨e | b, σ₁⟩
  · dsimp only
    split
    · -- a listing refused for the credential ends the run
      simp only [run_bind, fail_run]
    · -- any other failure of the listing counts as an empty one
      simp only [pure_bind, bind_pure]
      rw [reconcileLoop_run c (fun t => (knownOf (.error e)).contains (t, address)) _ _
        (fun t acc σ' => ?_), map_from_empty]
      simp only [knownOf, List.contains_nil, Bool.false_eq_true, if_false]
      exact createStep_run c _ acc t σ'
  · dsimp only
    simp only [pure_bind, bind_pure]
    rw [reconcileLoop_run c (fun t => (knownOf (.ok b)).contains (t, address)) _ _
      (fun t acc σ' => ?_), map_from_empty]
    simp only [knownOf]
    by_cases hs : (listed b.toJson).contains (t, address) = true
    · simp only [hs, if_true, pure_run]
    · simp only [hs, Bool.false_eq_true, if_false]
      exact createStep_run c _ acc t σ'

variable {c} {shown : String → Bool} {send : String → SyncM ResponseBody}

theorem reconcile_sent_sublist (ts : List String) (σ : Service) :
    ((reconcile c shown send ts σ).1.map (·.1)).Sublist ts := by
  induction ts generalizing σ with
  | nil => simp [reconcile]
  | cons t ts ih =>
    unfold reconcile
    split
    · exact (ih σ).cons t
    · split
      · exact (ih _).cons_cons t
      · split
        · exact (ih _).cons_cons t
        · simp

theorem reconcile_cons_ok {t : String} {ts : List String} {σ σ' : Service}
    {reg : WebhookRegistration} (h : (reconcile c shown send (t :: ts) σ).2 = (.ok reg, σ')) :
    ∃ reg',
      (shown t = true ∧ (reconcile c shown send ts σ).2 = (.ok reg', σ') ∧
        (reconcile c shown send (t :: ts) σ).1 = (reconcile c shown send ts σ).1 ∧
        reg = { reg' with existing := t :: reg'.existing }) ∨
      (∃ a σ₁, shown t = false ∧ ((send t).run c).run.run σ = (a, σ₁) ∧
        (reconcile c shown send ts σ₁).2 = (.ok reg', σ') ∧
        (reconcile c shown send (t :: ts) σ).1 = (t, a) :: (reconcile c shown send ts σ₁).1 ∧
        ((a.isOk = true ∧ reg = { reg' with created := t :: reg'.created }) ∨
          (duplicate a = true ∧ reg = { reg' with existing := t :: reg'.existing }))) := by
  by_cases hs : shown t = true
  · have hsent : (reconcile c shown send (t :: ts) σ).1 = (reconcile c shown send ts σ).1 := by
      simp only [reconcile, hs, if_true]
    simp only [reconcile, hs, if_true] at h
    rcases hr : (reconcile c shown send ts σ).2 with ⟨_ | reg', σ''⟩ <;>
      rw [hr] at h <;> simp only [Except.map, Prod.mk.injEq, reduceCtorEq, false_and] at h
    obtain ⟨h₁, rfl⟩ := h
    exact ⟨reg', .inl ⟨hs, rfl, hsent, (Except.ok.inj h₁).symm⟩⟩
  · rw [Bool.not_eq_true] at hs
    simp only [reconcile, hs, Bool.false_eq_true, if_false] at h
    rcases ha : ((send t).run c).run.run σ with ⟨e | b, σ₁⟩ <;> rw [ha] at h <;> dsimp only at h
    · -- a failure lets the run go on only as a duplicate
      by_cases hd : duplicate (.error e) = true
      · have hsent : (reconcile c shown send (t :: ts) σ).1 =
            (t, .error e) :: (reconcile c shown send ts σ₁).1 := by
          simp only [reconcile, hs, Bool.false_eq_true, if_false, ha, hd, if_true]
        simp only [hd, if_true] at h
        rcases hr : (reconcile c shown send ts σ₁).2 with ⟨_ | reg', σ''⟩ <;>
          rw [hr] at h <;> simp only [Except.map, Prod.mk.injEq, reduceCtorEq, false_and] at h
        obtain ⟨h₁, rfl⟩ := h
        exact ⟨reg', .inr ⟨_, σ₁, hs, rfl, hr, hsent, .inr ⟨hd, (Except.ok.inj h₁).symm⟩⟩⟩
      · simp only [hd, Bool.false_eq_true, if_false, Prod.mk.injEq, reduceCtorEq, false_and] at h
    · have hsent : (reconcile c shown send (t :: ts) σ).1 =
          (t, .ok b) :: (reconcile c shown send ts σ₁).1 := by
        simp only [reconcile, hs, Bool.false_eq_true, if_false, ha]
      rcases hr : (reconcile c shown send ts σ₁).2 with ⟨_ | reg', σ''⟩ <;>
        rw [hr] at h <;> simp only [Except.map, Prod.mk.injEq, reduceCtorEq, false_and] at h
      obtain ⟨h₁, rfl⟩ := h
      exact ⟨reg', .inr ⟨_, σ₁, hs, rfl, hr, hsent, .inl ⟨rfl, (Except.ok.inj h₁).symm⟩⟩⟩

theorem reconcile_any_fresh {t : String} {ts : List String} (ht : t ∉ ts) (σ : Service)
    (f : Except SyncError ResponseBody → Bool) :
    ((reconcile c shown send ts σ).1.any fun p => p.1 == t && f p.2) = false := by
  rw [List.any_eq_false]
  intro p hp
  have hmem : p.1 ∈ ts := (reconcile_sent_sublist ts σ).subset (List.mem_map_of_mem hp)
  have hne : p.1 ≠ t := fun h => ht (h ▸ hmem)
  simp [hne]

theorem any_cons_of_ne {t t' : String} (h : t ≠ t') (a : Except SyncError ResponseBody)
    (rest : List (String × Except SyncError ResponseBody)) (f : Except SyncError ResponseBody → Bool) :
    (((t, a) :: rest).any fun p => p.1 == t' && f p.2) = rest.any fun p => p.1 == t' && f p.2 := by
  simp [h]

theorem reconcile_ok {ts : List String} (hts : ts.Nodup) {σ σ' : Service}
    {reg : WebhookRegistration} (h : (reconcile c shown send ts σ).2 = (.ok reg, σ')) :
    Answers c send σ (reconcile c shown send ts σ).1 σ' ∧
      (reconcile c shown send ts σ).1.map (·.1) = ts.filter (fun t => !shown t) ∧
      reg.created = ts.filter (fun t =>
        (reconcile c shown send ts σ).1.any fun p => p.1 == t && p.2.isOk) ∧
      reg.existing = ts.filter (fun t => shown t ||
        (reconcile c shown send ts σ).1.any fun p => p.1 == t && duplicate p.2) ∧
      (reg.created ++ reg.existing).Perm ts := by
  induction ts generalizing σ reg with
  | nil =>
    simp only [reconcile, Prod.mk.injEq, Except.ok.injEq] at h
    obtain ⟨rfl, rfl⟩ := h
    exact ⟨rfl, rfl, rfl, rfl, .nil⟩
  | cons t ts ih =>
    obtain ⟨ht, hts⟩ := List.nodup_cons.1 hts
    have hrest : ∀ t' ∈ ts, t ≠ t' := fun t' h' he => ht (he ▸ h')
    obtain ⟨reg', hcase⟩ := reconcile_cons_ok h
    rcases hcase with ⟨hs, hrec, hsent, rfl⟩ | ⟨a, σ₁, hs, ha, hrec, hsent, hreg⟩
    · -- a shown topic is kept with no call
      obtain ⟨hans, hmap, hcr, hex, hperm⟩ := ih hts hrec
      rw [hsent]
      refine ⟨hans, ?_, ?_, ?_, List.perm_middle.trans (hperm.cons t)⟩
      · simp [hs, hmap]
      · simp [reconcile_any_fresh ht, hcr]
      · simp [hs, hex]
    · obtain ⟨hans, hmap, hcr, hex, hperm⟩ := ih hts hrec
      rw [hsent]
      have hcr' : ts.filter (fun t' => ((t, a) :: (reconcile c shown send ts σ₁).1).any
          fun p => p.1 == t' && p.2.isOk) = reg'.created := by
        rw [hcr]
        exact List.filter_congr fun t' h' => any_cons_of_ne (hrest t' h') a _ _
      have hex' : ts.filter (fun t' => shown t' || ((t, a) :: (reconcile c shown send ts σ₁).1).any
          fun p => p.1 == t' && duplicate p.2) = reg'.existing := by
        rw [hex]
        exact List.filter_congr fun t' h' => by rw [any_cons_of_ne (hrest t' h') a _ _]
      refine ⟨⟨σ₁, ha, hans⟩, by simp [hs, hmap], ?_⟩
      rcases hreg with ⟨hok, rfl⟩ | ⟨hdup, rfl⟩
      · -- created: a successful answer is not a duplicate
        have hnd : duplicate a = false := by
          cases a with
          | ok b => rfl
          | error e => cases hok
        refine ⟨?_, ?_, hperm.cons t⟩
        · rw [List.filter_cons, hcr']
          simp [hok]
        · rw [List.filter_cons, hex']
          simp [hs, hnd, reconcile_any_fresh ht]
      · -- refused as a duplicate: kept, and not created
        have hnok : a.isOk = false := by
          cases a with
          | ok b => cases hdup
          | error e => rfl
        refine ⟨?_, ?_, List.perm_middle.trans (hperm.cons t)⟩
        · rw [List.filter_cons, hcr']
          simp [hnok, reconcile_any_fresh ht]
        · rw [List.filter_cons, hex']
          simp [hdup]

theorem reconcile_all_created {s : Store} (hshown : ∀ t, shown t = false)
    (hsend : ∀ t σ, σ.store = s → ∃ b σ', ((send t).run c).run.run σ = (.ok b, σ') ∧ σ'.store = s) :
    ∀ (ts : List String) (σ : Service), σ.store = s →
      ∃ σ', (reconcile c shown send ts σ).2 = (.ok { created := ts }, σ')
  | [], σ, _ => ⟨σ, rfl⟩
  | t :: ts, σ, hs => by
    obtain ⟨b, σ₁, ha, hs₁⟩ := hsend t σ hs
    obtain ⟨σ', hr⟩ := reconcile_all_created hshown hsend ts σ₁ hs₁
    refine ⟨σ', ?_⟩
    simp [reconcile, hshown, ha, hr, Except.map]

/-- A registration that succeeds called the executor for the listing and then for the creation of
exactly the topics the listing does not show at the address, one after another and for nothing
else; a listing that failed, unless for the credential, counted as an empty one. It created the
topics whose creation succeeded and kept the others, those listed at the address and those refused
as duplicates, each list in the order of the topics; every topic is in one of them, once. -/
theorem register_reconciles (σ : Service) (account : ChannelAccount) (address : String)
    {reg : WebhookRegistration} {σ' : Service}
    (hrun : ((register account address).run c).run.run σ = (.ok reg, σ')) :
    let path := "/admin/api/" ++ c.settings.shopify.apiVersion ++ "/" ++ "webhooks.json"
    ∃ (listing : Except SyncError ResponseBody) (sent : List (String × Except SyncError ResponseBody)),
      Answers c (Executor.execute account) σ
        (((ApiRequest.get path).withQuery "limit" "250", listing) ::
          sent.map fun p => (ApiRequest.post path (subscription p.1 address), p.2)) σ' ∧
      (∀ e, listing = .error e → e.isAuthFailure = false) ∧
      sent.map (·.1) = topics.filter (fun t => !(knownOf listing).contains (t, address)) ∧
      reg.created = topics.filter (fun t => sent.any fun p => p.1 == t && p.2.isOk) ∧
      reg.existing = topics.filter (fun t => (knownOf listing).contains (t, address) ||
        sent.any fun p => p.1 == t && duplicate p.2) ∧
      (reg.created ++ reg.existing).Perm topics := by
  intro path
  rw [register_run] at hrun
  rcases hl : ((Executor.execute account ((ApiRequest.get path).withQuery "limit" "250")).run
    c).run.run σ with ⟨listing, σ₁⟩
  have hgo : (∀ e, listing = .error e → e.isAuthFailure = false) ∧
      (reconcile c (fun t => (knownOf listing).contains (t, address))
        (fun t => Executor.execute account (.post path (subscription t address))) topics σ₁).2 =
        (.ok reg, σ') := by
    dsimp only at hrun
    rw [hl] at hrun
    cases listing with
    | error e =>
      by_cases ha : e.isAuthFailure = true
      · -- refused for the credential: the run fails
        simp only [ha, if_true] at hrun
        exact absurd (congrArg Prod.fst hrun) (by simp)
      · rw [Bool.not_eq_true] at ha
        simp only [ha, Bool.false_eq_true, if_false] at hrun
        exact ⟨fun e' he => (by cases he; exact ha), hrun⟩
    | ok b => exact ⟨fun e he => (by cases he), hrun⟩
  obtain ⟨hauth, hrec⟩ := hgo
  obtain ⟨hans, hmap, hcr, hex, hperm⟩ := reconcile_ok (by decide) hrec
  exact ⟨listing, _, ⟨σ₁, hl, hans.map fun t => ApiRequest.post path (subscription t address)⟩, hauth, hmap,
    hcr, hex, hperm⟩

/-- A shop that lists no subscription and answers every call with an empty success gets every
topic created, in order. -/
theorem register_reconciles_on_answering_shop :
    let c : Context := ⟨default, RetryPolicy.immediate 3, Span.ofSeconds 60, ⟨0, 0⟩,
      fun _ _ => some ⟨200, [], ""⟩⟩
    let a : ChannelAccount :=
      { ChannelAccount.new (idOf 1) ⟨7⟩ .shopify (some "a.myshopify.com") ⟨0, 0⟩ with
        accessToken := some "t" }
    let σ₀ := (Operation.registerAccount a).apply c {}
    ∃ reg σ', ((register a "https://app.example.com/webhooks/shopify").run c).run.run σ₀ =
      (.ok reg, σ') ∧ reg.created = topics ∧ reg.existing = [] ∧
      (reg.created ++ reg.existing).Perm topics := by
  intro c a σ₀
  let d := "a.myshopify.com".toList
  have hd : Url.PlainShopHost d :=
    ⟨List.all_eq_true.1 (by decide +kernel), by decide +kernel, by decide +kernel, by decide +kernel⟩
  have hext : a.externalId = some (String.ofList d) := by simp [a, d, ChannelAccount.new]
  have hacct : (σ₀.store.account? a.id).map (fun st => (st.accessToken, st.accessTokenExpiresAt.isNone)) =
      some (some "t", true) := by decide +kernel
  obtain ⟨stored, hstored, hpair⟩ := Option.map_eq_some_iff.1 hacct
  simp only [Prod.mk.injEq, Option.isNone_iff_eq_none] at hpair
  have hversion : c.settings.shopify.apiVersion = "" := rfl
  have hpath : "/admin/api/" ++ c.settings.shopify.apiVersion ++ "/" ++ "webhooks.json" =
      "/" ++ "admin/api//webhooks.json" := by
    rw [hversion]
    decide +kernel
  have habs : (("/admin/api/" ++ c.settings.shopify.apiVersion ++ "/" ++ "webhooks.json").startsWith
      "http://" || ("/admin/api/" ++ c.settings.shopify.apiVersion ++ "/" ++
        "webhooks.json").startsWith "https://") = false := by
    rw [hpath]
    decide +kernel
  have hanswered : ∀ σ (req : ApiRequest), σ.store = σ₀.store →
      req.path = "/admin/api/" ++ c.settings.shopify.apiVersion ++ "/" ++ "webhooks.json" →
      req.headers = [] →
      ∃ σ', ((Executor.execute a req).run c).run.run σ = (.ok (ResponseBody.parse ""), σ') ∧
        σ'.store = σ₀.store := fun σ req hs hreq hh => by
    obtain ⟨σ', hrun, hs'⟩ := Executor.execute_storefront_answered (c := c) σ (r := ⟨200, [], ""⟩) hd rfl hext
      rfl (hreq.trans hpath) (hreq ▸ habs) hh (hs ▸ hstored) hpair.1 hpair.2 (by decide +kernel)
      (fun _ _ => rfl) (by decide)
    exact ⟨σ', hrun, hs'.trans hs⟩
  obtain ⟨σ₁, hl, hs₁⟩ := hanswered σ₀ ((ApiRequest.get ("/admin/api/" ++
    c.settings.shopify.apiVersion ++ "/" ++ "webhooks.json")).withQuery "limit" "250") rfl rfl rfl
  have hnone : knownOf (.ok (ResponseBody.parse "")) = [] := by decide +kernel
  obtain ⟨σ', hr⟩ := @reconcile_all_created c
    (fun t => (knownOf (.ok (ResponseBody.parse ""))).contains (t,
      "https://app.example.com/webhooks/shopify")) _ σ₀.store
    (fun t => by simp [hnone])
    (fun t σ hs => by
      obtain ⟨σ', hrun, hs'⟩ := hanswered σ (ApiRequest.post ("/admin/api/" ++
        c.settings.shopify.apiVersion ++ "/" ++ "webhooks.json")
        (subscription t "https://app.example.com/webhooks/shopify")) hs rfl rfl
      exact ⟨_, σ', hrun, hs'⟩) topics σ₁ hs₁
  have hrun : ((register a "https://app.example.com/webhooks/shopify").run c).run.run σ₀ =
      (.ok { created := topics }, σ') := by
    rw [register_run]
    dsimp only
    rw [hl]
    exact hr
  obtain ⟨-, -, -, -, -, -, -, hperm⟩ := register_reconciles σ₀ a _ hrun
  exact ⟨_, σ', hrun, rfl, rfl, hperm⟩

end Subscriptions

end SellerSync
