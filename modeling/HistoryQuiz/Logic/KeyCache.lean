import HistoryQuiz.Logic.TokenErrors

/-!
# What the cache of the keys holds

The identity provider publishes a key set at every moment, and a login may fetch it and keep it
for `CACHE_TTL_MILLISECONDS`. Whatever logins there were, an entry of `jwksCache` is what was
published when it was fetched (`Caches.Recent`, kept by both functions that use the module's
caches), so the keys that are looked up are at most that old (`getJwksKeys_recent`).
-/

namespace HistoryQuiz

namespace Client

open Js Throw

/-- The key sets that a URL publishes over time. -/
abbrev Publications := String → ℤ → List Json

/-- What is cached was published when it was fetched, and expires a lifetime later. -/
def Caches.Recent (published : Publications) (now : ℤ) (caches : Caches) : Prop :=
  ∀ url cached, caches.jwksCache url = some cached →
    ∃ t ≤ now, cached = ⟨t + CACHE_TTL_MILLISECONDS, published url t⟩

theorem Caches.Recent.wait {published : Publications} {now now' : ℤ} {caches : Caches}
    (h : caches.Recent published now) (hle : now ≤ now') : caches.Recent published now' := by
  intro url cached hcached
  obtain ⟨t, ht, hentry⟩ := h url cached hcached
  exact ⟨t, ht.trans hle, hentry⟩

variable {Key : Type} {platform : Platform Key}

/-- The key sets that the platform fetches are the published ones. -/
def Platform.Serves (platform : Platform Key) (published : Publications) : Prop :=
  ∀ url response parsed keys, platform.fetch (.get url) = some response → response.ok = true →
    response.json = some parsed → parsed.prop "keys" = some (.json (.arr keys)) →
    keys = published url platform.jwksNow

/-- A key set can be fetched. -/
def Platform.Retrieves (platform : Platform Key) (jwksUri : String) : Prop :=
  ∃ response parsed keys, platform.fetch (.get jwksUri) = some response ∧ response.ok = true ∧
    response.json = some parsed ∧ parsed.prop "keys" = some (.json (.arr keys)) ∧ keys ≠ []

/-! ## What the functions keep -/

section Keeps

variable {I : Caches → Prop} {α β : Type}

theorem keeps_orThrow_bind {o : Option α} {f : α → Oidc β}
    (hf : ∀ a, o = some a → Keeps I (f a)) : Keeps I (orThrow o >>= f) := by
  cases o with
  | none => exact fun s hs => hs
  | some a => exact hf a rfl

theorem keeps_orThrow (o : Option α) : Keeps I (orThrow o : Oidc α) := by
  cases o with
  | none => exact keeps_throw _
  | some a => exact keeps_pure a

theorem keeps_parseJson_bind {response : FetchResponse} {f : Json → Oidc β}
    (hf : ∀ parsed, response.json = some parsed → Keeps I (f parsed)) :
    Keeps I (parseJson response >>= f) := by
  unfold parseJson
  cases hjson : response.json with
  | none => exact fun s hs => hs
  | some parsed => exact hf parsed hjson

theorem keeps_decodeBase64UrlJson (platform : Platform Key) (segment : String) :
    Keeps I (decodeBase64UrlJson platform segment) := by
  unfold decodeBase64UrlJson decodeBase64UrlBytes
  refine keeps_orThrow_bind fun bytes _ => ?_
  dsimp only
  split
  · exact keeps_pure _
  · exact keeps_throw _

theorem keeps_resolveJwtAlgorithm (platform : Platform Key) (alg : Value) :
    Keeps I (resolveJwtAlgorithm platform alg) := by
  unfold resolveJwtAlgorithm
  split_ifs
  · exact keeps_pure _
  · exact keeps_pure _
  · exact keeps_pure _
  · exact keeps_orThrow_bind fun text _ => keeps_throw _

theorem keeps_findKid (kid : Value) (keys : List Json) : Keeps I (findKid kid keys) := by
  induction keys with
  | nil => exact keeps_pure _
  | cons candidate rest ih =>
      rw [findKid]
      refine keeps_orThrow_bind fun value _ => ?_
      split_ifs
      · exact keeps_pure _
      · exact ih

theorem keeps_validateIdTokenClaims (platform : Platform Key) (claims : Json)
    (clientId expectedIssuer expectedNonce : String) :
    Keeps I (validateIdTokenClaims platform claims clientId expectedIssuer expectedNonce) := by
  unfold validateIdTokenClaims
  refine keeps_orThrow_bind fun sub _ => ?_
  split_ifs
  · exact keeps_throw _
  refine keeps_orThrow_bind fun subject _ => ?_
  split_ifs
  · exact keeps_throw _
  refine keeps_orThrow_bind fun iss _ => ?_
  split_ifs
  · exact keeps_throw _
  refine keeps_orThrow_bind fun aud _ => ?_
  split_ifs
  · exact keeps_throw _
  refine keeps_orThrow_bind fun exp _ => ?_
  dsimp only
  split_ifs
  · exact keeps_throw _
  refine keeps_orThrow_bind fun nonce _ => ?_
  split_ifs
  · exact keeps_throw _
  · exact keeps_pure _

theorem keeps_readRequiredEnv (platform : Platform Key) (name : String) :
    Keeps I (readRequiredEnv platform name) := by
  unfold readRequiredEnv
  split
  · split_ifs
    · exact keeps_pure _
    · exact keeps_throw _
  · exact keeps_throw _

theorem keeps_resolveOidcConfig (platform : Platform Key) (request : Request) :
    Keeps I (resolveOidcConfig platform request) := by
  unfold resolveOidcConfig
  refine keeps_bind (keeps_readRequiredEnv platform _) fun issuerUrl => ?_
  refine keeps_bind (keeps_readRequiredEnv platform _) fun clientId => ?_
  exact keeps_bind (keeps_readRequiredEnv platform _) fun clientSecret => keeps_pure _

theorem keeps_exchangeAuthorizationCode (platform : Platform Key) (code codeVerifier : String)
    (config : OidcResolvedConfig) (tokenEndpoint : String) :
    Keeps I (exchangeAuthorizationCode platform code codeVerifier config tokenEndpoint) := by
  unfold exchangeAuthorizationCode
  refine keeps_orThrow_bind fun response _ => ?_
  refine keeps_parseJson_bind fun parsed _ => ?_
  split_ifs
  · exact keeps_throw _
  refine keeps_orThrow_bind fun error _ => ?_
  split_ifs
  · exact keeps_throw _
  refine keeps_orThrow_bind fun access _ => ?_
  refine keeps_orThrow_bind fun idToken _ => ?_
  refine keeps_orThrow_bind fun type _ => ?_
  split
  · exact keeps_pure _
  · exact keeps_throw _

/-- Fetching the document keeps what putting it into the cache keeps. -/
theorem keeps_fetchOidcDiscovery {issuerUrl : String}
    (hkept : ∀ response parsed document,
      platform.fetch (.get (issuerUrl ++ "/.well-known/openid-configuration")) = some response →
      response.ok = true → response.json = some parsed →
      parsed.prop "issuer" = some (.json (.str document.issuer)) →
      parsed.prop "authorization_endpoint" =
        some (.json (.str document.authorization_endpoint)) →
      parsed.prop "token_endpoint" = some (.json (.str document.token_endpoint)) →
      parsed.prop "jwks_uri" = some (.json (.str document.jwks_uri)) →
      ∀ caches, I caches → I { caches with
        discoveryCache := Function.update caches.discoveryCache issuerUrl
          (some ⟨platform.discoveryNow + CACHE_TTL_MILLISECONDS, document⟩) }) :
    Keeps I (fetchOidcDiscovery platform issuerUrl) := by
  unfold fetchOidcDiscovery
  refine keeps_orThrow_bind fun response hresponse => ?_
  split_ifs with hok
  · exact keeps_throw _
  refine keeps_parseJson_bind fun parsed hparsed => ?_
  refine keeps_orThrow_bind fun issuer hissuer => ?_
  refine keeps_orThrow_bind fun authorization hauthorization => ?_
  refine keeps_orThrow_bind fun token htoken => ?_
  refine keeps_orThrow_bind fun jwks hjwks => ?_
  split
  next issuer' authorization' token' jwks' hissuer' hauthorization' htoken' hjwks' =>
    rw [string?_eq_some] at hissuer' hauthorization' htoken' hjwks'
    subst hissuer' hauthorization' htoken' hjwks'
    exact keeps_bind (keeps_modify (hkept response parsed ⟨issuer', authorization', token', jwks'⟩
      hresponse (Bool.eq_true_of_not_eq_false hok) hparsed hissuer hauthorization htoken hjwks))
      fun _ => keeps_pure _
  next => exact keeps_throw _

theorem keeps_getOidcDiscovery {issuerUrl : String}
    (hfetch : Keeps I (fetchOidcDiscovery platform issuerUrl)) :
    Keeps I (getOidcDiscovery platform issuerUrl) := by
  unfold getOidcDiscovery
  refine keeps_get_bind fun caches _ => ?_
  split
  · split_ifs
    · exact keeps_pure _
    · exact hfetch
  · exact hfetch

/-- Fetching a key set keeps what putting it into the cache keeps. -/
theorem keeps_fetchJwksKeys {jwksUri : String}
    (hkept : ∀ response parsed keys, platform.fetch (.get jwksUri) = some response →
      response.ok = true → response.json = some parsed →
      parsed.prop "keys" = some (.json (.arr keys)) →
      ∀ caches, I caches → I { caches with
        jwksCache := Function.update caches.jwksCache jwksUri
          (some ⟨platform.jwksNow + CACHE_TTL_MILLISECONDS, keys⟩) }) :
    Keeps I (fetchJwksKeys platform jwksUri) := by
  unfold fetchJwksKeys
  refine keeps_orThrow_bind fun response hresponse => ?_
  split_ifs with hok
  · exact keeps_throw _
  refine keeps_parseJson_bind fun parsed hparsed => ?_
  refine keeps_orThrow_bind fun value hvalue => ?_
  split
  next keys =>
    split_ifs
    · exact keeps_throw _
    · exact keeps_bind (keeps_modify (hkept response parsed keys hresponse
        (Bool.eq_true_of_not_eq_false hok) hparsed hvalue)) fun _ => keeps_pure _
  next => exact keeps_throw _

theorem keeps_getJwksKeys {jwksUri : String} (hfetch : Keeps I (fetchJwksKeys platform jwksUri)) :
    Keeps I (getJwksKeys platform jwksUri) := by
  unfold getJwksKeys
  refine keeps_get_bind fun caches _ => ?_
  split
  · split_ifs
    · exact keeps_pure _
    · exact hfetch
  · exact hfetch

theorem keeps_findJwkByKid {jwksUri : String} (hkeys : Keeps I (getJwksKeys platform jwksUri))
    (kid : Value) : Keeps I (findJwkByKid platform jwksUri kid) := by
  unfold findJwkByKid
  refine keeps_bind hkeys fun keys => ?_
  refine keeps_bind ?_ fun found => ?_
  · split_ifs
    · exact keeps_findKid kid keys
    · exact keeps_pure _
  · split
    · split_ifs
      · exact keeps_pure _
      · exact keeps_throw _
    · exact keeps_throw _

theorem keeps_verifyAndDecodeIdToken {jwksUri : String}
    (hkeys : Keeps I (getJwksKeys platform jwksUri))
    (clientId expectedIssuer expectedNonce idToken : String) :
    Keeps I (verifyAndDecodeIdToken platform clientId expectedIssuer expectedNonce idToken
      jwksUri) := by
  have hsignature : ∀ encodedHeader encodedPayload encodedSignature header,
      Keeps I (verifyIdTokenSignature platform encodedHeader encodedPayload encodedSignature
        header jwksUri) := by
    intro encodedHeader encodedPayload encodedSignature header
    unfold verifyIdTokenSignature
    refine keeps_orThrow_bind fun alg _ => ?_
    refine keeps_bind (keeps_resolveJwtAlgorithm platform alg) fun algorithm => ?_
    refine keeps_orThrow_bind fun kid _ => ?_
    refine keeps_bind (keeps_findJwkByKid hkeys kid) fun jwk => ?_
    refine keeps_orThrow_bind fun key _ => ?_
    refine keeps_bind (keeps_orThrow _) fun signature => ?_
    refine keeps_orThrow_bind fun verified _ => ?_
    split_ifs
    · exact keeps_throw _
    · exact keeps_pure _
  unfold verifyAndDecodeIdToken
  split
  · refine keeps_bind (keeps_decodeBase64UrlJson platform _) fun header => ?_
    refine keeps_bind (keeps_decodeBase64UrlJson platform _) fun claims => ?_
    refine keeps_bind (hsignature _ _ _ header) fun _ => ?_
    exact keeps_bind (keeps_validateIdTokenClaims platform claims _ _ _) fun _ => keeps_pure _
  · exact keeps_throw _

/-- A login that completes, or fails to. -/
theorem keeps_completeOidcAuthorization
    (hdiscovery : ∀ issuerUrl, Keeps I (getOidcDiscovery platform issuerUrl))
    (hkeys : ∀ jwksUri, Keeps I (getJwksKeys platform jwksUri)) (code : String)
    (pendingAuth : PendingOidcAuth) (request : Request) :
    Keeps I (completeOidcAuthorization platform code pendingAuth request) := by
  unfold completeOidcAuthorization
  refine keeps_bind (keeps_resolveOidcConfig platform request) fun config => ?_
  refine keeps_bind (hdiscovery _) fun discovery => ?_
  refine keeps_bind (keeps_exchangeAuthorizationCode platform _ _ _ _) fun tokens => ?_
  refine keeps_bind (keeps_verifyAndDecodeIdToken (hkeys _) _ _ _ _) fun claims => ?_
  exact keeps_orThrow _

/-- A login that begins. -/
theorem keeps_beginOidcAuthorization
    (hdiscovery : ∀ issuerUrl, Keeps I (getOidcDiscovery platform issuerUrl))
    (setSearchParams : String → List (String × String) → Option String) (random : LoginRandom)
    (redirectTo : String) (request : Request) :
    Keeps I (beginOidcAuthorization platform setSearchParams random redirectTo request) := by
  unfold beginOidcAuthorization
  refine keeps_bind (keeps_resolveOidcConfig platform request) fun config => ?_
  refine keeps_bind (hdiscovery _) fun discovery => ?_
  exact keeps_orThrow_bind fun url _ => keeps_pure _

end Keeps

variable {published : Publications}

/-- The document is kept in the other cache. -/
theorem keeps_getOidcDiscovery_recent (platform : Platform Key) (now : ℤ) (issuerUrl : String) :
    Keeps (Caches.Recent published now) (getOidcDiscovery platform issuerUrl) :=
  keeps_getOidcDiscovery (keeps_fetchOidcDiscovery fun _ _ _ _ _ _ _ _ _ _ _ hcaches => hcaches)

/-- A fetched key set is kept with the time of its fetch. -/
theorem keeps_getJwksKeys_recent (hserves : platform.Serves published) (jwksUri : String) :
    Keeps (Caches.Recent published platform.jwksNow) (getJwksKeys platform jwksUri) := by
  refine keeps_getJwksKeys (keeps_fetchJwksKeys ?_)
  intro response parsed keys hresponse hok hparsed hvalue caches hcaches url cached hcached
  have hkeys := hserves jwksUri response parsed keys hresponse hok hparsed hvalue
  dsimp only at hcached
  by_cases hurl : url = jwksUri
  · subst hurl
    rw [Function.update_self, Option.some.injEq] at hcached
    exact ⟨platform.jwksNow, le_refl _, by rw [← hcached, hkeys]⟩
  · rw [Function.update_of_ne hurl] at hcached
    exact hcaches url cached hcached

/-! ## Histories -/

/-- The caches after logins at times that do not go back, with the time of the last one. The
module starts with empty caches. -/
inductive Logins (Key : Type) (published : Publications) : ℤ → Caches → Prop
  | start (now : ℤ) : Logins Key published now ⟨fun _ => none, fun _ => none⟩
  | wait {now now' : ℤ} {caches : Caches} (h : Logins Key published now caches)
      (hle : now ≤ now') : Logins Key published now' caches
  | begin {caches : Caches} (platform : Platform Key)
      (h : Logins Key published platform.jwksNow caches)
      (setSearchParams : String → List (String × String) → Option String) (random : LoginRandom)
      (redirectTo : String) (request : Request) :
      Logins Key published platform.jwksNow (attempt (beginOidcAuthorization platform
        setSearchParams random redirectTo request) caches).2
  | complete {caches : Caches} (platform : Platform Key)
      (h : Logins Key published platform.jwksNow caches) (hserves : platform.Serves published)
      (code : String) (pendingAuth : PendingOidcAuth) (request : Request) :
      Logins Key published platform.jwksNow
        (attempt (completeOidcAuthorization platform code pendingAuth request) caches).2

theorem Logins.recent {now : ℤ} {caches : Caches} (h : Logins Key published now caches) :
    caches.Recent published now := by
  induction h with
  | start now => exact fun url cached hcached => by cases hcached
  | wait h hle ih => exact ih.wait hle
  | begin platform h setSearchParams random redirectTo request ih =>
      exact (keeps_beginOidcAuthorization (keeps_getOidcDiscovery_recent platform _) setSearchParams
        random redirectTo request).attempt ih
  | complete platform h hserves code pendingAuth request ih =>
      exact (keeps_completeOidcAuthorization (keeps_getOidcDiscovery_recent platform _)
        (keeps_getJwksKeys_recent hserves) code pendingAuth request).attempt ih

/-! ## What is looked up -/

/-- A fetch gives the keys that are published at the time. -/
theorem fetchJwksKeys_now (hserves : platform.Serves published) {jwksUri : String}
    (hretrieves : platform.Retrieves jwksUri) (s : Caches) :
    ∃ t, fetchJwksKeys platform jwksUri s = .ok (published jwksUri platform.jwksNow) t := by
  obtain ⟨response, parsed, keys, hresponse, hok, hparsed, hvalue, hne⟩ := hretrieves
  have hkeys := hserves jwksUri response parsed keys hresponse hok hparsed hvalue
  unfold fetchJwksKeys
  rw [bind_of_ok (orThrow_eq_ok.mpr ⟨hresponse, rfl⟩), if_neg (by simp [hok]),
    bind_of_ok (parseJson_eq_ok.mpr ⟨hparsed, rfl⟩), bind_of_ok (orThrow_eq_ok.mpr ⟨hvalue, rfl⟩)]
  dsimp only
  rw [if_neg (fun hlen => hne (List.length_eq_zero_iff.mp hlen)), ← hkeys]
  exact ⟨_, rfl⟩

/-- The keys that are used were published less than a lifetime ago; without an entry that has
not expired, they are those published now. -/
theorem getJwksKeys_recent (hserves : platform.Serves published) {jwksUri : String}
    (hretrieves : platform.Retrieves jwksUri) {s : Caches}
    (hs : s.Recent published platform.jwksNow) :
    ∃ t u, platform.jwksNow - CACHE_TTL_MILLISECONDS < t ∧ t ≤ platform.jwksNow ∧
      ((∀ cached, s.jwksCache jwksUri = some cached → cached.expiresAt ≤ platform.jwksNow) →
        t = platform.jwksNow) ∧
      getJwksKeys platform jwksUri s = .ok (published jwksUri t) u := by
  have hnow : platform.jwksNow - CACHE_TTL_MILLISECONDS < platform.jwksNow := by
    unfold CACHE_TTL_MILLISECONDS
    omega
  obtain ⟨u, hfetch⟩ := fetchJwksKeys_now hserves hretrieves s
  unfold getJwksKeys
  rw [bind_of_ok (get_eq_ok.mpr ⟨rfl, rfl⟩)]
  cases hcached : s.jwksCache jwksUri with
  | none => exact ⟨platform.jwksNow, u, hnow, le_refl _, fun _ => rfl, hfetch⟩
  | some cached =>
      by_cases hfresh : platform.jwksNow < cached.expiresAt
      · obtain ⟨t, ht, rfl⟩ := hs jwksUri cached hcached
        refine ⟨t, s, by dsimp only at hfresh; omega, ht, ?_, ?_⟩
        · intro hexpired
          have hle := hexpired _ rfl
          omega
        · dsimp only
          rw [if_pos hfresh]
          rfl
      · refine ⟨platform.jwksNow, u, hnow, le_refl _, fun _ => rfl, ?_⟩
        dsimp only
        rw [if_neg hfresh]
        exact hfetch

end Client

end HistoryQuiz
