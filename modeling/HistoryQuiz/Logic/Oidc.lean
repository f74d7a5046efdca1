import HistoryQuiz.Client.Oidc

/-!
# What is checked before a login completes

One lemma for each function of `oidc.server.ts`: what is known when it has returned.
-/

namespace HistoryQuiz

namespace Client

open Js Throw

variable {Key : Type} {platform : Platform Key} {s t : Caches}

/-! ## Steps -/

theorem orThrow_eq_ok {α : Type} {o : Option α} {a : α} :
    (orThrow o : Oidc α) s = .ok a t ↔ o = some a ∧ s = t := by
  cases o with
  | some b => exact pure_eq_ok.trans (by simp)
  | none => exact throw_eq_ok.trans (by simp)

theorem oidcFlowError_eq_ok {α : Type} {message : String} {status : ℕ} {a : α} :
    (oidcFlowError message status : Oidc α) s = .ok a t ↔ False :=
  throw_eq_ok

theorem parseJson_eq_ok {response : FetchResponse} {j : Json} :
    parseJson response s = .ok j t ↔ response.json = some j ∧ s = t := by
  unfold parseJson
  cases response.json with
  | some parsed => exact pure_eq_ok.trans (by simp)
  | none => exact throw_eq_ok.trans (by simp)

/-! ## Where things come from -/

/-- The discovery document of an issuer: kept and not expired, or fetched. -/
def Platform.Discovers (platform : Platform Key) (caches : Caches) (issuerUrl : String)
    (discovery : OidcDiscoveryDocument) : Prop :=
  (∃ cached, caches.discoveryCache issuerUrl = some cached ∧
    platform.discoveryNow < cached.expiresAt ∧ cached.value = discovery) ∨
  ∃ response parsed,
    platform.fetch (.get (issuerUrl ++ "/.well-known/openid-configuration")) = some response ∧
    response.ok = true ∧ response.json = some parsed ∧
    parsed.prop "issuer" = some (.json (.str discovery.issuer)) ∧
    parsed.prop "token_endpoint" = some (.json (.str discovery.token_endpoint)) ∧
    parsed.prop "jwks_uri" = some (.json (.str discovery.jwks_uri))

/-- The keys at a URL: kept and not expired, or fetched. -/
def Platform.PublishesKeys (platform : Platform Key) (caches : Caches) (jwksUri : String)
    (keys : List Json) : Prop :=
  (∃ cached, caches.jwksCache jwksUri = some cached ∧ platform.jwksNow < cached.expiresAt ∧
    cached.value = keys) ∨
  ∃ response parsed, platform.fetch (.get jwksUri) = some response ∧ response.ok = true ∧
    response.json = some parsed ∧ parsed.prop "keys" = some (.json (.arr keys)) ∧ keys ≠ []

theorem string?_eq_some {v : Value} {text : String} :
    v.string? = some text ↔ v = .json (.str text) := by
  unfold Value.string?
  rcases v with _ | _ | (_ | _ | _ | _ | _ | _) <;> simp

theorem number?_eq_some {v : Value} {n : Number} : v.number? = some n ↔ v = .json (.num n) := by
  unfold Value.number?
  rcases v with _ | _ | (_ | _ | _ | _ | _ | _) <;> simp

theorem fetchOidcDiscovery_ok {issuerUrl : String} {discovery : OidcDiscoveryDocument}
    (h : fetchOidcDiscovery platform issuerUrl s = .ok discovery t) :
    platform.Discovers s issuerUrl discovery ∧ t.jwksCache = s.jwksCache := by
  unfold fetchOidcDiscovery at h
  simp only [bind_eq_ok, orThrow_eq_ok] at h
  obtain ⟨response, _, ⟨hresponse, rfl⟩, h⟩ := h
  split_ifs at h with hok
  · exact (oidcFlowError_eq_ok.mp h).elim
  simp only [bind_eq_ok, orThrow_eq_ok, parseJson_eq_ok] at h
  obtain ⟨parsed, _, ⟨hparsed, rfl⟩, issuer, _, ⟨hissuer, rfl⟩, authorization, _, ⟨-, rfl⟩,
    token, _, ⟨htoken, rfl⟩, jwks, _, ⟨hjwks, rfl⟩, h⟩ := h
  revert h
  cases hissuer' : issuer.string? <;> cases authorization.string? <;>
    cases htoken' : token.string? <;> cases hjwks' : jwks.string? <;> intro h
  case some.some.some.some =>
    simp only [bind_eq_ok, modify_eq_ok, pure_eq_ok] at h
    obtain ⟨_, _, rfl, rfl, rfl⟩ := h
    rw [string?_eq_some] at hissuer' htoken' hjwks'
    refine ⟨.inr ⟨response, parsed, hresponse, Bool.eq_true_of_not_eq_false hok, hparsed, ?_, ?_,
      ?_⟩, rfl⟩
    · rw [hissuer, hissuer']
    · rw [htoken, htoken']
    · rw [hjwks, hjwks']
  all_goals exact (oidcFlowError_eq_ok.mp h).elim

/-- The discovery document. The cached keys stay. -/
theorem getOidcDiscovery_ok {issuerUrl : String} {discovery : OidcDiscoveryDocument}
    (h : getOidcDiscovery platform issuerUrl s = .ok discovery t) :
    platform.Discovers s issuerUrl discovery ∧ t.jwksCache = s.jwksCache := by
  unfold getOidcDiscovery at h
  simp only [bind_eq_ok, get_eq_ok] at h
  obtain ⟨_, _, ⟨rfl, rfl⟩, h⟩ := h
  cases hcached : s.discoveryCache issuerUrl with
  | none =>
      rw [hcached] at h
      exact fetchOidcDiscovery_ok h
  | some cached =>
      rw [hcached] at h
      dsimp only at h
      split_ifs at h with hfresh
      · obtain ⟨rfl, rfl⟩ := pure_eq_ok.mp h
        exact ⟨.inl ⟨cached, hcached, hfresh, rfl⟩, rfl⟩
      · exact fetchOidcDiscovery_ok h

/-- The token endpoint has answered with success, and with an ID token. -/
theorem exchangeAuthorizationCode_ok {code codeVerifier : String} {config : OidcResolvedConfig}
    {tokenEndpoint : String} {tokens : OidcTokenResponse}
    (h : exchangeAuthorizationCode platform code codeVerifier config tokenEndpoint s =
      .ok tokens t) :
    s = t ∧ ∃ body response parsed, platform.fetch (.post tokenEndpoint body) = some response ∧
      ("code", code) ∈ body ∧ response.ok = true ∧ response.json = some parsed ∧
      parsed.prop "id_token" = some (.json (.str tokens.id_token)) := by
  unfold exchangeAuthorizationCode at h
  simp only [bind_eq_ok, orThrow_eq_ok, parseJson_eq_ok] at h
  obtain ⟨response, _, ⟨hresponse, rfl⟩, parsed, _, ⟨hparsed, rfl⟩, h⟩ := h
  split_ifs at h with hok
  · exact (oidcFlowError_eq_ok.mp h).elim
  simp only [bind_eq_ok, orThrow_eq_ok] at h
  obtain ⟨error, _, ⟨-, rfl⟩, h⟩ := h
  split_ifs at h
  · exact (oidcFlowError_eq_ok.mp h).elim
  simp only [bind_eq_ok, orThrow_eq_ok] at h
  obtain ⟨access, _, ⟨-, rfl⟩, idToken, _, ⟨hidToken, rfl⟩, type, _, ⟨-, rfl⟩, h⟩ := h
  revert h
  cases access.string? <;> cases hidToken' : idToken.string? <;> cases type.string? <;> intro h
  case some.some.some =>
    obtain ⟨rfl, rfl⟩ := pure_eq_ok.mp h
    refine ⟨rfl, _, response, parsed, hresponse, by simp, Bool.eq_true_of_not_eq_false hok,
      hparsed, ?_⟩
    rw [hidToken, string?_eq_some.mp hidToken']
  all_goals exact (oidcFlowError_eq_ok.mp h).elim

/-! ## The signature -/

/-- The algorithms that are accepted, with the names the header has for them. -/
def jwtAlgorithms : List (String × RsaHashedImportParams) :=
  [("RS256", ⟨"SHA-256", "RSASSA-PKCS1-v1_5"⟩), ("RS384", ⟨"SHA-384", "RSASSA-PKCS1-v1_5"⟩),
    ("RS512", ⟨"SHA-512", "RSASSA-PKCS1-v1_5"⟩)]

theorem resolveJwtAlgorithm_ok {alg : Value} {algorithm : RsaHashedImportParams}
    (h : resolveJwtAlgorithm platform alg s = .ok algorithm t) :
    s = t ∧ ∃ name, alg = .json (.str name) ∧ (name, algorithm) ∈ jwtAlgorithms := by
  unfold resolveJwtAlgorithm at h
  split_ifs at h with h256 h384 h512
  · obtain ⟨rfl, rfl⟩ := pure_eq_ok.mp h
    exact ⟨rfl, _, string?_eq_some.mp h256, by simp [jwtAlgorithms]⟩
  · obtain ⟨rfl, rfl⟩ := pure_eq_ok.mp h
    exact ⟨rfl, _, string?_eq_some.mp h384, by simp [jwtAlgorithms]⟩
  · obtain ⟨rfl, rfl⟩ := pure_eq_ok.mp h
    exact ⟨rfl, _, string?_eq_some.mp h512, by simp [jwtAlgorithms]⟩
  · simp only [bind_eq_ok, oidcFlowError_eq_ok] at h
    obtain ⟨_, _, _, h⟩ := h
    exact h.elim

theorem fetchJwksKeys_ok {jwksUri : String} {keys : List Json}
    (h : fetchJwksKeys platform jwksUri s = .ok keys t) :
    platform.PublishesKeys s jwksUri keys := by
  unfold fetchJwksKeys at h
  simp only [bind_eq_ok, orThrow_eq_ok] at h
  obtain ⟨response, _, ⟨hresponse, rfl⟩, h⟩ := h
  split_ifs at h with hok
  · exact (oidcFlowError_eq_ok.mp h).elim
  simp only [bind_eq_ok, orThrow_eq_ok, parseJson_eq_ok] at h
  obtain ⟨parsed, _, ⟨hparsed, rfl⟩, value, _, ⟨hvalue, rfl⟩, h⟩ := h
  split at h
  next items =>
    split_ifs at h with hempty
    · exact (oidcFlowError_eq_ok.mp h).elim
    · simp only [bind_eq_ok, pure_eq_ok] at h
      obtain ⟨_, _, _, rfl, rfl⟩ := h
      exact .inr ⟨response, parsed, hresponse, Bool.eq_true_of_not_eq_false hok, hparsed, hvalue,
        fun hnil => hempty (congrArg List.length hnil)⟩
  next => exact (oidcFlowError_eq_ok.mp h).elim

theorem getJwksKeys_ok {jwksUri : String} {keys : List Json}
    (h : getJwksKeys platform jwksUri s = .ok keys t) :
    platform.PublishesKeys s jwksUri keys := by
  unfold getJwksKeys at h
  simp only [bind_eq_ok, get_eq_ok] at h
  obtain ⟨_, _, ⟨rfl, rfl⟩, h⟩ := h
  cases hcached : s.jwksCache jwksUri with
  | none =>
      rw [hcached] at h
      exact fetchJwksKeys_ok h
  | some cached =>
      rw [hcached] at h
      dsimp only at h
      split_ifs at h with hfresh
      · obtain ⟨rfl, rfl⟩ := pure_eq_ok.mp h
        exact .inl ⟨cached, hcached, hfresh, rfl⟩
      · exact fetchJwksKeys_ok h

/-- The key that is found is one of the list, and its `kid` is the one that is searched. -/
theorem findKid_ok {kid : Value} {keys : List Json} {key : Json}
    (h : findKid kid keys s = .ok (some key) t) :
    key ∈ keys ∧ ∃ value, key.prop "kid" = some value ∧ value.strictEquals kid = true := by
  induction keys with
  | nil =>
      obtain ⟨hnone, -⟩ := pure_eq_ok.mp h
      cases hnone
  | cons candidate rest ih =>
      unfold findKid at h
      simp only [bind_eq_ok, orThrow_eq_ok] at h
      obtain ⟨value, _, ⟨hvalue, rfl⟩, h⟩ := h
      split_ifs at h with hequal
      · obtain ⟨hkey, -⟩ := pure_eq_ok.mp h
        cases hkey
        exact ⟨List.mem_cons_self, value, hvalue, hequal⟩
      · obtain ⟨hmem, hkid⟩ := ih h
        exact ⟨List.mem_cons_of_mem _ hmem, hkid⟩

/-- The key for a `kid`: one with that `kid`, or the first one when the `kid` counts as
false, as it does when it is absent or empty. -/
def KeyFor (keys : List Json) (kid : Value) (jwk : Json) : Prop :=
  (kid.truthy = true ∧ jwk ∈ keys ∧
    ∃ value, jwk.prop "kid" = some value ∧ value.strictEquals kid = true) ∨
  kid.truthy = false ∧ keys.head? = some jwk

theorem findJwkByKid_ok {jwksUri : String} {kid : Value} {jwk : Json}
    (h : findJwkByKid platform jwksUri kid s = .ok jwk t) :
    ∃ keys, platform.PublishesKeys s jwksUri keys ∧ KeyFor keys kid jwk := by
  unfold findJwkByKid at h
  simp only [bind_eq_ok] at h
  obtain ⟨keys, s', hkeys, found, u, hfound, h⟩ := h
  refine ⟨keys, getJwksKeys_ok hkeys, ?_⟩
  cases found with
  | none => exact (oidcFlowError_eq_ok.mp h).elim
  | some key =>
      dsimp only at h
      split_ifs at h
      · obtain ⟨rfl, rfl⟩ := pure_eq_ok.mp h
        split_ifs at hfound with hkid
        · exact .inl ⟨hkid, findKid_ok hfound⟩
        · exact .inr ⟨Bool.eq_false_of_not_eq_true hkid, (pure_eq_ok.mp hfound).1⟩
      · exact (oidcFlowError_eq_ok.mp h).elim

/-- What a segment of a token decodes to. -/
def Platform.Decodes (platform : Platform Key) (segment : String) (j : Json) : Prop :=
  ∃ bytes, platform.readers.atob (base64OfBase64Url segment) = some bytes ∧
    platform.readers.parseJson (platform.readers.decodeUtf8 bytes) = some j

theorem decodeBase64UrlJson_ok {segment : String} {j : Json}
    (h : decodeBase64UrlJson platform segment s = .ok j t) :
    s = t ∧ platform.Decodes segment j := by
  unfold decodeBase64UrlJson decodeBase64UrlBytes at h
  simp only [bind_eq_ok, orThrow_eq_ok] at h
  obtain ⟨bytes, _, ⟨hbytes, rfl⟩, h⟩ := h
  cases hparsed : platform.readers.parseJson (platform.readers.decodeUtf8 bytes) with
  | none =>
      rw [hparsed] at h
      exact (oidcFlowError_eq_ok.mp h).elim
  | some parsed =>
      rw [hparsed] at h
      obtain ⟨rfl, rfl⟩ := pure_eq_ok.mp h
      exact ⟨rfl, bytes, hbytes, hparsed⟩

/-- The signature of a token is accepted over its first two segments, under a key that is
published at `jwksUri` and that its header names. -/
def Platform.Signed (platform : Platform Key) (caches : Caches) (jwksUri : String)
    (encodedHeader encodedPayload encodedSignature : String) (header : Json) : Prop :=
  ∃ (name : String) (algorithm : RsaHashedImportParams) (kid : Value) (keys : List Json)
    (jwk : Json) (key : Key) (signature : List (BitVec 8)),
    header.prop "alg" = some (.json (.str name)) ∧ (name, algorithm) ∈ jwtAlgorithms ∧
    header.prop "kid" = some kid ∧ platform.PublishesKeys caches jwksUri keys ∧
    KeyFor keys kid jwk ∧ platform.importKey jwk algorithm = some key ∧
    platform.readers.atob (base64OfBase64Url encodedSignature) = some signature ∧
    platform.verify algorithm key signature
      (QuizUsecase.utf8Bytes (encodedHeader ++ "." ++ encodedPayload)) = some true

theorem verifyIdTokenSignature_ok {encodedHeader encodedPayload encodedSignature : String}
    {header : Json} {jwksUri : String} {u : Unit}
    (h : verifyIdTokenSignature platform encodedHeader encodedPayload encodedSignature header
      jwksUri s = .ok u t) :
    platform.Signed s jwksUri encodedHeader encodedPayload encodedSignature header := by
  unfold verifyIdTokenSignature decodeBase64UrlBytes at h
  simp only [bind_eq_ok, orThrow_eq_ok] at h
  obtain ⟨alg, _, ⟨halg, rfl⟩, algorithm, _, halgorithm, kid, _, ⟨hkid, rfl⟩, jwk, _, hjwk, key, _,
    ⟨hkey, rfl⟩, signature, _, ⟨hsignature, rfl⟩, verified, _, ⟨hverified, rfl⟩, h⟩ := h
  obtain ⟨rfl, name, rfl, hname⟩ := resolveJwtAlgorithm_ok halgorithm
  obtain ⟨keys, hkeys, hfor⟩ := findJwkByKid_ok hjwk
  split_ifs at h with hfalse
  · exact (oidcFlowError_eq_ok.mp h).elim
  · refine ⟨name, algorithm, kid, keys, jwk, key, signature, halg, hname, hkid, hkeys, hfor, hkey,
      hsignature, ?_⟩
    rw [hverified, Bool.eq_true_of_not_eq_false hfalse]

/-! ## The claims -/

theorem isAudienceMatched_eq_true {aud : Value} {clientId : String} :
    isAudienceMatched aud clientId = true ↔ aud = .json (.str clientId) ∨
      ∃ items, aud = .json (.arr items) ∧ .str clientId ∈ items := by
  unfold isAudienceMatched
  rcases aud with _ | _ | (_ | _ | _ | aud | items | _)
  case json.arr =>
    rw [List.any_eq_true]
    constructor
    · rintro ⟨item, hitem, hequal⟩
      rw [Value.strictEquals_string, string?_eq_some] at hequal
      cases hequal
      exact .inr ⟨items, rfl, hitem⟩
    · rintro (h | ⟨_, ⟨⟩, hitem⟩)
      · cases h
      · exact ⟨_, hitem, Value.strictEquals_string.mpr rfl⟩
  all_goals simp

/-- The claims of a token: issuer, audience, expiry, nonce, and a subject that is not
blank. -/
structure Platform.ClaimsHold (platform : Platform Key) (claims : Json)
    (clientId expectedIssuer expectedNonce subject : String) : Prop where
  iss : claims.prop "iss" = some (.json (.str expectedIssuer))
  aud : claims.prop "aud" = some (.json (.str clientId)) ∨
    ∃ items, claims.prop "aud" = some (.json (.arr items)) ∧ .str clientId ∈ items
  exp : ∃ exp : Number, claims.prop "exp" = some (.json (.num exp)) ∧
    (((platform.claimsNow / 1000 - 30 : ℤ) : ℚ) : WithTop ℚ) < exp
  nonce : claims.prop "nonce" = some (.json (.str expectedNonce))
  sub : claims.prop "sub" = some (.json (.str subject))
  sub_ne : trim subject ≠ ""

theorem validateIdTokenClaims_ok {claims : Json} {clientId expectedIssuer expectedNonce : String}
    {u : Unit}
    (h : validateIdTokenClaims platform claims clientId expectedIssuer expectedNonce s =
      .ok u t) :
    ∃ subject, platform.ClaimsHold claims clientId expectedIssuer expectedNonce subject := by
  unfold validateIdTokenClaims at h
  simp only [bind_eq_ok, orThrow_eq_ok] at h
  obtain ⟨sub, _, ⟨hsub, rfl⟩, h⟩ := h
  split_ifs at h
  · exact (oidcFlowError_eq_ok.mp h).elim
  simp only [bind_eq_ok, orThrow_eq_ok] at h
  obtain ⟨subject, _, ⟨hsubject, rfl⟩, h⟩ := h
  split_ifs at h with hblank
  · exact (oidcFlowError_eq_ok.mp h).elim
  simp only [bind_eq_ok, orThrow_eq_ok] at h
  obtain ⟨iss, _, ⟨hiss, rfl⟩, h⟩ := h
  split_ifs at h with hissuer
  · exact (oidcFlowError_eq_ok.mp h).elim
  simp only [bind_eq_ok, orThrow_eq_ok] at h
  obtain ⟨aud, _, ⟨haud, rfl⟩, h⟩ := h
  split_ifs at h with haudience
  · exact (oidcFlowError_eq_ok.mp h).elim
  simp only [bind_eq_ok, orThrow_eq_ok] at h
  obtain ⟨exp, _, ⟨hexp, rfl⟩, h⟩ := h
  split_ifs at h with hexpired
  · exact (oidcFlowError_eq_ok.mp h).elim
  simp only [bind_eq_ok, orThrow_eq_ok] at h
  obtain ⟨nonce, _, ⟨hnonce, rfl⟩, h⟩ := h
  split_ifs at h with hnonces
  · exact (oidcFlowError_eq_ok.mp h).elim
  rw [Bool.not_eq_false, Value.strictEquals_string, string?_eq_some] at hissuer hnonces
  rw [Bool.not_eq_false, isAudienceMatched_eq_true] at haudience
  refine ⟨subject, ?_, ?_, ?_, ?_, ?_, hblank⟩
  · rw [hiss, hissuer]
  · rcases haudience with rfl | ⟨items, rfl, hmem⟩
    · exact .inl haud
    · exact .inr ⟨items, haud, hmem⟩
  · cases hnumber : exp.number? with
    | none => simp [hnumber] at hexpired
    | some number =>
        refine ⟨number, ?_, ?_⟩
        · rw [hexp, number?_eq_some.mp hnumber]
        · simpa [hnumber] using hexpired
  · rw [hnonce, hnonces]
  · rw [hsub, string?_eq_some.mp hsubject]

/-! ## The whole -/

/-- An ID token that was accepted, with its subject. -/
def Platform.Accepts (platform : Platform Key) (caches : Caches)
    (clientId expectedIssuer expectedNonce idToken jwksUri subject : String) : Prop :=
  ∃ (encodedHeader encodedPayload encodedSignature : String) (header claims : Json),
    split idToken '.' = [encodedHeader, encodedPayload, encodedSignature] ∧
    platform.Decodes encodedHeader header ∧ platform.Decodes encodedPayload claims ∧
    platform.Signed caches jwksUri encodedHeader encodedPayload encodedSignature header ∧
    platform.ClaimsHold claims clientId expectedIssuer expectedNonce subject

theorem verifyAndDecodeIdToken_ok
    {clientId expectedIssuer expectedNonce idToken jwksUri : String} {claims : Json}
    (h : verifyAndDecodeIdToken platform clientId expectedIssuer expectedNonce idToken jwksUri s =
      .ok claims t) :
    ∃ subject, claims.prop "sub" = some (.json (.str subject)) ∧
      platform.Accepts s clientId expectedIssuer expectedNonce idToken jwksUri subject := by
  unfold verifyAndDecodeIdToken at h
  rcases hsegments : split idToken '.' with
    _ | ⟨encodedHeader, _ | ⟨encodedPayload, _ | ⟨encodedSignature, _ | ⟨other, rest⟩⟩⟩⟩ <;>
    rw [hsegments] at h
  case cons.cons.cons.nil =>
    simp only [bind_eq_ok, pure_eq_ok] at h
    obtain ⟨header, _, hheader, claims', _, hclaims, _, _, hsignature, _, _, hvalid, rfl, rfl⟩ := h
    obtain ⟨rfl, hdecodes⟩ := decodeBase64UrlJson_ok hheader
    obtain ⟨rfl, hdecodes'⟩ := decodeBase64UrlJson_ok hclaims
    obtain ⟨subject, hholds⟩ := validateIdTokenClaims_ok hvalid
    exact ⟨subject, hholds.sub, _, _, _, header, claims', hsegments, hdecodes, hdecodes',
      verifyIdTokenSignature_ok hsignature, hholds⟩
  all_goals exact (oidcFlowError_eq_ok.mp h).elim

theorem readRequiredEnv_ok {name value : String}
    (h : readRequiredEnv platform name s = .ok value t) :
    s = t ∧ (platform.env name).map trim = some value := by
  unfold readRequiredEnv at h
  cases henv : (platform.env name).map trim with
  | none =>
      rw [henv] at h
      exact (oidcFlowError_eq_ok.mp h).elim
  | some configured =>
      rw [henv] at h
      dsimp only at h
      split_ifs at h
      · obtain ⟨rfl, rfl⟩ := pure_eq_ok.mp h
        exact ⟨rfl, rfl⟩
      · exact (oidcFlowError_eq_ok.mp h).elim

theorem resolveOidcConfig_ok {request : Request} {config : OidcResolvedConfig}
    (h : resolveOidcConfig platform request s = .ok config t) :
    s = t ∧ (platform.env "OIDC_CLIENT_ID").map trim = some config.clientId ∧
      ((platform.env "OIDC_ISSUER_URL").map trim).map normalizeIssuerUrl =
        some config.issuerUrl := by
  unfold resolveOidcConfig at h
  simp only [bind_eq_ok, pure_eq_ok] at h
  obtain ⟨issuerUrl, _, hissuer, clientId, _, hclient, clientSecret, _, hsecret, rfl, rfl⟩ := h
  obtain ⟨rfl, hissuer'⟩ := readRequiredEnv_ok hissuer
  obtain ⟨rfl, hclient'⟩ := readRequiredEnv_ok hclient
  obtain ⟨rfl, -⟩ := readRequiredEnv_ok hsecret
  refine ⟨rfl, hclient', ?_⟩
  rw [hissuer']
  rfl

/-- Only the cached keys count for a token. -/
theorem Platform.Accepts.congr {clientId expectedIssuer expectedNonce idToken jwksUri : String}
    {subject : String} (hcache : t.jwksCache = s.jwksCache)
    (h : platform.Accepts t clientId expectedIssuer expectedNonce idToken jwksUri subject) :
    platform.Accepts s clientId expectedIssuer expectedNonce idToken jwksUri subject := by
  unfold Accepts Signed PublishesKeys at *
  rw [hcache] at h
  exact h

/-- What is known when an authorization has completed: who the provider is, that its token
endpoint has exchanged the code, and that the token it gave is accepted. -/
def Platform.Completes (platform : Platform Key) (caches : Caches) (code nonce : String)
    (subject : String) : Prop :=
  ∃ (clientId issuerUrl : String) (discovery : OidcDiscoveryDocument)
    (body : List (String × String)) (response : FetchResponse) (parsed : Json) (idToken : String),
    (platform.env "OIDC_CLIENT_ID").map trim = some clientId ∧
    ((platform.env "OIDC_ISSUER_URL").map trim).map normalizeIssuerUrl = some issuerUrl ∧
    platform.Discovers caches issuerUrl discovery ∧
    platform.fetch (.post discovery.token_endpoint body) = some response ∧ ("code", code) ∈ body ∧
    response.ok = true ∧ response.json = some parsed ∧
    parsed.prop "id_token" = some (.json (.str idToken)) ∧
    platform.Accepts caches clientId discovery.issuer nonce idToken discovery.jwks_uri subject

theorem completeOidcAuthorization_ok {code : String} {pendingAuth : PendingOidcAuth}
    {request : Request} {subject : String}
    (h : completeOidcAuthorization platform code pendingAuth request s = .ok subject t) :
    platform.Completes s code pendingAuth.nonce subject := by
  unfold completeOidcAuthorization at h
  simp only [bind_eq_ok, orThrow_eq_ok] at h
  obtain ⟨config, _, hconfig, discovery, s', hdiscovery, tokens, _, htokens, claims, _, hclaims,
    hsub, -⟩ := h
  obtain ⟨rfl, hclient, hissuer⟩ := resolveOidcConfig_ok hconfig
  obtain ⟨hdiscovers, hcache⟩ := getOidcDiscovery_ok hdiscovery
  obtain ⟨rfl, body, response, parsed, hfetch, hcode, hok, hjson, hidToken⟩ :=
    exchangeAuthorizationCode_ok htokens
  obtain ⟨verified, hverified, haccepts⟩ := verifyAndDecodeIdToken_ok hclaims
  have hsubject : verified = subject := by
    rw [hverified] at hsub
    exact Option.some.inj hsub
  subst hsubject
  exact ⟨_, _, discovery, body, response, parsed, _, hclient, hissuer, hdiscovers, hfetch, hcode,
    hok, hjson, hidToken, haccepts.congr hcache⟩

end Client

end HistoryQuiz
