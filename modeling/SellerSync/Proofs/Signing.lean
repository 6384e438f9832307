import Mathlib
import SellerSync.Amazon.Signature
/-! A Signature Version 4 signature reads headers and query pairs only up to order and canonical
spelling. -/

namespace SellerSync

namespace Signature

theorem mergeSort_eq_of_perm {α : Type} {le : α → α → Bool}
    (trans : ∀ a b c, le a b → le b c → le a c) (total : ∀ a b, le a b || le b a)
    (antisymm : ∀ a b, le a b → le b a → a = b) {l₁ l₂ : List α} (h : l₁.Perm l₂) :
    l₁.mergeSort le = l₂.mergeSort le :=
  List.Perm.eq_of_pairwise (fun a b _ _ => antisymm a b) (List.pairwise_mergeSort trans total l₁)
    (List.pairwise_mergeSort trans total l₂)
    ((List.mergeSort_perm l₁ le).trans (h.trans (List.mergeSort_perm l₂ le).symm))

theorem pairLe_iff (a b : String × String) : pairLe a b = true ↔ toLex a ≤ toLex b := by
  simp [pairLe, Prod.Lex.toLex_le_toLex]

theorem pairLe_trans (a b c : String × String) (hab : pairLe a b) (hbc : pairLe b c) :
    pairLe a c := by
  rw [pairLe_iff] at *
  exact le_trans hab hbc

theorem pairLe_total (a b : String × String) : pairLe a b || pairLe b a := by
  simpa [pairLe_iff] using le_total (toLex a) (toLex b)

theorem pairLe_antisymm (a b : String × String) (hab : pairLe a b) (hba : pairLe b a) :
    a = b := by
  rw [pairLe_iff] at *
  exact toLex.injective (le_antisymm hab hba)

theorem fst_le_of_pairLe {a b : String × String} (h : pairLe a b) : a.1 ≤ b.1 := by
  rw [pairLe_iff, Prod.Lex.toLex_le_toLex] at h
  rcases h with h | ⟨h, -⟩
  · exact h.le
  · exact h.le

theorem canonicalHeaders_congr {headers headers' : List (String × String)}
    (h : (headers.map canonicalHeader).Perm (headers'.map canonicalHeader))
    (extra : List (String × String)) (host : String) :
    canonicalHeaders (headers ++ extra) host = canonicalHeaders (headers' ++ extra) host := by
  unfold canonicalHeaders
  apply mergeSort_eq_of_perm pairLe_trans pairLe_total pairLe_antisymm
  simp only [List.map_append]
  exact ((h.append_right _).filter _).append_right _

theorem canonicalQuery_congr {u u' : Url} (h : u.queryPairs.Perm u'.queryPairs) :
    canonicalQuery u = canonicalQuery u' := by
  dsimp only [canonicalQuery]
  rw [mergeSort_eq_of_perm pairLe_trans pairLe_total pairLe_antisymm (h.map _)]

theorem hostHeader_congr {u u' : Url} (hs : u.host.isSome) (hh : u'.host = u.host)
    (hp : u'.portNumber = u.portNumber) : hostHeader u = hostHeader u' := by
  obtain ⟨x, hx⟩ := Option.isSome_iff_exists.1 hs
  simp [hostHeader, Url.hostText?, hx, hh, hp]

/-- The names a request is signed over: those of the given headers, lowercased, less `host` and
`authorization`, with `host`, `x-amz-date` and, under a session token, `x-amz-security-token`,
sorted. -/
def signedNames (creds : AwsCredentials) (headers : List (String × String)) : List String :=
  ((headers.map fun h => Text.toLower h.1).filter (fun n => n != "host" && n != "authorization") ++
    "host" :: "x-amz-date" ::
      (creds.sessionToken.map fun _ => "x-amz-security-token").toList).mergeSort
    fun a b => decide (a ≤ b)

theorem map_fst_filter_canonical (headers : List (String × String)) :
    ((headers.map canonicalHeader).filter (fun h => h.1 != "host" && h.1 != "authorization")).map
      (·.1) = (headers.map fun h => Text.toLower h.1).filter
        (fun n => n != "host" && n != "authorization") := by
  induction headers with
  | nil => rfl
  | cons h hs ih =>
    simp only [List.map_cons, List.filter_cons, canonicalHeader]
    split <;> simp [ih]

theorem addedHeaders_names (creds : AwsCredentials) (time : Instant) :
    ((addedHeaders creds time).map fun h => Text.toLower h.1).filter
      (fun n => n != "host" && n != "authorization") =
      "x-amz-date" :: (creds.sessionToken.map fun _ => "x-amz-security-token").toList := by
  have hdate : Text.toLower "x-amz-date" = "x-amz-date" := by decide +kernel
  have htoken : Text.toLower "x-amz-security-token" = "x-amz-security-token" := by decide +kernel
  rcases creds with ⟨_, _, _ | t⟩ <;> simp [addedHeaders, hdate, htoken]

theorem map_fst_canonicalHeaders (creds : AwsCredentials) (time : Instant)
    (headers : List (String × String)) (host : String) :
    (canonicalHeaders (headers ++ addedHeaders creds time) host).map (·.1) =
      signedNames creds headers := by
  unfold canonicalHeaders signedNames
  have hsorted := (List.pairwise_mergeSort pairLe_trans pairLe_total
    (((headers ++ addedHeaders creds time).map canonicalHeader).filter
      (fun h => h.1 != "host" && h.1 != "authorization") ++ [("host", host)])).map (·.1)
      (fun _ _ h => fst_le_of_pairLe h)
  have hnames := @List.pairwise_mergeSort _ (fun a b : String => decide (a ≤ b))
    (fun _ _ _ hab hbc => by simp only [decide_eq_true_eq] at *; exact le_trans hab hbc)
    (fun a b => by simpa using le_total a b)
    ((headers.map fun h => Text.toLower h.1).filter
        (fun n => n != "host" && n != "authorization") ++
      "host" :: "x-amz-date" :: (creds.sessionToken.map fun _ => "x-amz-security-token").toList)
  refine List.Perm.eq_of_pairwise (fun a b _ _ hab hba => le_antisymm hab hba) hsorted
    (hnames.imp fun h => by simpa using h) ?_
  refine ((List.mergeSort_perm _ _).map _).trans (List.Perm.trans ?_ (List.mergeSort_perm _ _).symm)
  simp only [List.map_append, List.filter_append, map_fst_filter_canonical, addedHeaders_names,
    List.map_cons, List.map_nil, List.append_assoc]
  exact List.Perm.append_left _ (List.perm_append_singleton _ _)

theorem sign_congr_headers (creds : AwsCredentials) (region service : String) (time : Instant)
    (method : String) (url : Url) {headers headers' : List (String × String)}
    (h : (headers.map canonicalHeader).Perm (headers'.map canonicalHeader)) (body : List UInt8) :
    sign creds region service time method url headers body =
      sign creds region service time method url headers' body := by
  simp only [sign, canonicalHeaders_congr h]

theorem sign_congr_url (creds : AwsCredentials) (region service : String) (time : Instant)
    (method : String) {u u' : Url} (hs : u.host.isSome) (hh : u'.host = u.host)
    (hp : u'.portNumber = u.portNumber) (hpath : u'.path = u.path)
    (hq : u.queryPairs.Perm u'.queryPairs) (headers : List (String × String)) (body : List UInt8) :
    sign creds region service time method u headers body =
      sign creds region service time method u' headers body := by
  have huri : canonicalUri u = canonicalUri u' := by simp only [canonicalUri, hpath]
  simp only [sign, hostHeader_congr hs hh hp, huri, canonicalQuery_congr hq]

theorem sign_eq (creds : AwsCredentials) (region service : String) (time : Instant)
    (method : String) (url : Url) (headers : List (String × String)) (body : List UInt8) :
    match hostHeader url with
    | .error e => sign creds region service time method url headers body = .error e
    | .ok _ => ∃ signature, sign creds region service time method url headers body =
      .ok (addedHeaders creds time ++ [("authorization", algorithm ++ " Credential=" ++
        creds.accessKeyId ++ "/" ++ (dateStamp time ++ "/" ++ region ++ "/" ++ service ++
        "/aws4_request") ++ ", SignedHeaders=" ++ ";".intercalate (signedNames creds headers) ++
        ", Signature=" ++ signature)]) := by
  cases h : hostHeader url with
  | error e => simp only [sign, h]; rfl
  | ok host =>
    simp only [sign, h, map_fst_canonicalHeaders]
    exact ⟨_, rfl⟩

/-- A signature reads the headers only through the multiset of their canonical forms, reads a
URL with a host only through its host, port, path and the multiset of its query pairs, and, when
it is made, signs the sorted lowercased names of the given headers less `host` and
`authorization`, with `host`, `x-amz-date` and, under a session token, `x-amz-security-token`. -/
theorem sign_canonical_forms (creds : AwsCredentials) (region service : String) (time : Instant)
    (method : String) (body : List UInt8) :
    (∀ (url : Url) (headers headers' : List (String × String)),
      (headers.map canonicalHeader).Perm (headers'.map canonicalHeader) →
      sign creds region service time method url headers body =
        sign creds region service time method url headers' body) ∧
    (∀ (u u' : Url) (headers : List (String × String)), u.host.isSome → u'.host = u.host →
      u'.portNumber = u.portNumber → u'.path = u.path → u.queryPairs.Perm u'.queryPairs →
      sign creds region service time method u headers body =
        sign creds region service time method u' headers body) ∧
    (∀ (url : Url) (headers : List (String × String)),
      match hostHeader url with
      | .error e => sign creds region service time method url headers body = .error e
      | .ok _ => ∃ signature, sign creds region service time method url headers body =
        .ok (addedHeaders creds time ++ [("authorization", algorithm ++ " Credential=" ++
          creds.accessKeyId ++ "/" ++ (dateStamp time ++ "/" ++ region ++ "/" ++ service ++
          "/aws4_request") ++ ", SignedHeaders=" ++ ";".intercalate (signedNames creds headers) ++
          ", Signature=" ++ signature)])) :=
  ⟨fun url _ _ h => sign_congr_headers creds region service time method url h body,
    fun _ _ headers hs hh hp hpath hq =>
      sign_congr_url creds region service time method hs hh hp hpath hq headers body,
    fun url headers => sign_eq creds region service time method url headers body⟩

/-- Three headers in another order, under other spellings of their names and other blanks in
their values, are signed alike; and so is a URL whose three query pairs come in another order,
under another fragment. -/
theorem sign_reordered_headers_and_query :
    let creds : AwsCredentials := ⟨"AKIDEXAMPLE", "secret", none⟩
    let time : Instant := ⟨1440938160, 0⟩
    let u : Url :=
      { scheme := "https", authority := true, host := some (.domain "h"), path := "/orders",
        query := some "b=2&a=1&c=3" }
    let u' : Url := { u with query := some "c=3&b=2&a=1", fragment := some "top" }
    let headers := [("X-Amz-Access-Token", "Atza|t  1"), ("Accept", " application/json "),
      ("User-Agent", "seller  sync")]
    let headers' := [("user-agent", "seller sync"), ("x-amz-access-token", "Atza|t 1"),
      ("ACCEPT", "application/json")]
    ((headers.map canonicalHeader).Perm (headers'.map canonicalHeader) ∧
      sign creds "us-east-1" "execute-api" time "GET" u headers [] =
        sign creds "us-east-1" "execute-api" time "GET" u headers' []) ∧
    (u.host.isSome ∧ u'.host = u.host ∧ u'.portNumber = u.portNumber ∧ u'.path = u.path ∧
      u.queryPairs.Perm u'.queryPairs ∧
      sign creds "us-east-1" "execute-api" time "GET" u headers [] =
        sign creds "us-east-1" "execute-api" time "GET" u' headers []) := by
  intro creds time u u' headers headers'
  have hh : (headers.map canonicalHeader).Perm (headers'.map canonicalHeader) := by decide +kernel
  have hq : u.queryPairs.Perm u'.queryPairs := by
    simp only [u, u', Url.queryPairs, Percent.formParse, String.splitToList_of_valid]
    exact ((List.Perm.map _ (by decide +kernel)).filterMap _)
  exact ⟨⟨hh, (sign_canonical_forms creds _ _ time _ []).1 u headers headers' hh⟩,
    ⟨rfl, rfl, rfl, rfl, hq,
      (sign_canonical_forms creds _ _ time _ []).2.1 u u' headers rfl rfl rfl rfl hq⟩⟩

/-- Two URLs without a host, whose queries list the same pairs in opposite orders, are refused
with different errors: each error quotes its own URL. -/
theorem sign_hostless_query_order :
    let creds : AwsCredentials := ⟨"AKIDEXAMPLE", "secret", none⟩
    let time : Instant := ⟨1440938160, 0⟩
    let u : Url := { scheme := "mailto", path := "x", query := some "b=1&a=2" }
    let u' : Url := { u with query := some "a=2&b=1" }
    Url.parse "mailto:x?b=1&a=2" = .ok u ∧ Url.parse "mailto:x?a=2&b=1" = .ok u' ∧
      u.query = some ("&".intercalate ["b=1", "a=2"]) ∧
      u'.query = some ("&".intercalate ["a=2", "b=1"]) ∧
      sign creds "us-east-1" "execute-api" time "GET" u [] [] ≠
        sign creds "us-east-1" "execute-api" time "GET" u' [] [] := by
  intro creds time u u'
  have hu : sign creds "us-east-1" "execute-api" time "GET" u [] [] =
      .error (.configuration "url has no host: mailto:x?b=1&a=2") := by
    simp only [sign]
    rfl
  have hu' : sign creds "us-east-1" "execute-api" time "GET" u' [] [] =
      .error (.configuration "url has no host: mailto:x?a=2&b=1") := by
    simp only [sign]
    rfl
  refine ⟨by decide +kernel, by decide +kernel, rfl, rfl, ?_⟩
  rw [hu, hu']
  intro h
  injection h with h
  injection h with h
  exact absurd h (by decide)

end Signature

end SellerSync
