import HistoryQuiz.Logic.Provider

/-!
# A provider that plays its part

What a login needs of the provider to succeed: that it can be reached
(`IdentityProvider.Answers`), that its token endpoint exchanges a code for the client that has asked
for it (`IdentityProvider.Exchanges`), and that the ID token is good (`IdentityProvider.Issues`).
-/

namespace HistoryQuiz

namespace Client

open Js Throw QuizUsecase

namespace IdentityProvider

variable {Key : Type} (provider : IdentityProvider) (platform : Platform Key)

/-- The site is configured for the provider and reaches it. -/
structure Answers : Prop where
  speaks : provider.Speaks platform
  issuerUrl : (platform.env "OIDC_ISSUER_URL").map trim ≠ some ""
  clientId : provider.clientId ≠ ""
  clientSecret : (platform.env "OIDC_CLIENT_SECRET").map trim = some provider.clientSecret
  clientSecret_ne : provider.clientSecret ≠ ""
  document : ∃ response parsed, platform.fetch (.get provider.discoveryUrl) = some response ∧
    response.ok = true ∧ response.json = some parsed
  keys : platform.Retrieves provider.document.jwks_uri

/-- The token endpoint exchanges a code that was granted for an authorization request with these
parameters: to the client of the request, for its redirect URI, and to who knows the verifier of
its challenge. -/
def Exchanges (params : List (String × String)) (code idToken : String) : Prop :=
  ∀ body verifier, body.lookup "client_id" = params.lookup "client_id" →
    body.lookup "client_secret" = some provider.clientSecret →
    body.lookup "grant_type" = some "authorization_code" → body.lookup "code" = some code →
    body.lookup "redirect_uri" = params.lookup "redirect_uri" →
    body.lookup "code_verifier" = some verifier →
    params.lookup "code_challenge_method" = some "S256" →
    params.lookup "code_challenge" =
      some (encodeBase64Url (Sha256.sum256 (utf8Bytes verifier))) →
    ∃ response parsed accessToken tokenType,
      platform.fetch (.post provider.document.token_endpoint body) = some response ∧
      response.ok = true ∧ response.json = some parsed ∧
      parsed.prop "error" = some .undefined ∧
      parsed.prop "access_token" = some (.json (.str accessToken)) ∧
      parsed.prop "id_token" = some (.json (.str idToken)) ∧
      parsed.prop "token_type" = some (.json (.str tokenType))

/-- An ID token for a nonce and a subject: it is signed under a key that its header names in every
key set that the provider publishes, and its claims hold. -/
inductive Issues (idToken nonce subject : String) : Prop
  | intro (encodedHeader encodedPayload encodedSignature : String) (header claims : Json)
      (hsegments : split idToken '.' = [encodedHeader, encodedPayload, encodedSignature])
      (hheader : platform.Decodes encodedHeader header)
      (hpayload : platform.Decodes encodedPayload claims)
      (hsigned : ∀ keys, provider.Publishes keys →
        platform.SignedUnder keys encodedHeader encodedPayload encodedSignature header)
      (hclaims : platform.ClaimsHold claims provider.clientId provider.document.issuer nonce
        subject)

/-- The configuration of the site for a request. -/
def config (request : Request) : OidcResolvedConfig :=
  let configured (name default : String) : String :=
    (((platform.env name).map trim).filter (· ≠ "")).getD default
  { clientId := provider.clientId
    clientSecret := provider.clientSecret
    issuerUrl := provider.issuerUrl
    redirectUri := configured "OIDC_REDIRECT_URI" (request.origin ++ "/auth/callback")
    scopes := configured "OIDC_SCOPES" "openid profile email" }

end IdentityProvider

/-- The parameters of an authorization request. -/
def authorizationParams (config : OidcResolvedConfig) (random : LoginRandom) :
    List (String × String) :=
  [("client_id", config.clientId),
    ("code_challenge", createPkceCodeChallenge (encodeBase64Url (List.ofFn random.codeVerifier))),
    ("code_challenge_method", "S256"), ("nonce", encodeBase64Url (List.ofFn random.nonce)),
    ("redirect_uri", config.redirectUri), ("response_type", "code"), ("scope", config.scopes),
    ("state", encodeBase64Url (List.ofFn random.state))]

/-- The login that is under way with these random values. -/
def pendingLogin (random : LoginRandom) (redirectTo : String) : PendingOidcAuth where
  codeVerifier := encodeBase64Url (List.ofFn random.codeVerifier)
  nonce := encodeBase64Url (List.ofFn random.nonce)
  redirectTo := redirectTo
  state := encodeBase64Url (List.ofFn random.state)

section Honest

variable {Key : Type} {platform : Platform Key} {provider : IdentityProvider} {caches : Caches}

/-- The subject of a token is not blank. -/
theorem IdentityProvider.Issues.trim_subject {idToken nonce subject : String}
    (h : provider.Issues platform idToken nonce subject) : trim subject ≠ "" := by
  obtain ⟨_, _, _, _, _, -, -, -, -, hclaims⟩ := h
  exact hclaims.sub_ne

/-! ## Each step -/

theorem readRequiredEnv_of {name value : String} (h : (platform.env name).map trim = some value)
    (hne : value ≠ "") : readRequiredEnv platform name caches = .ok value caches := by
  unfold readRequiredEnv
  rw [h]
  dsimp only
  rw [if_pos hne]
  rfl

theorem resolveOidcConfig_answers (h : provider.Answers platform) (request : Request) :
    resolveOidcConfig platform request caches = .ok (provider.config platform request) caches := by
  obtain ⟨issuerUrl, hissuerUrl, hnormalized⟩ := Option.map_eq_some_iff.mp h.speaks.issuerUrl
  have hne : issuerUrl ≠ "" := by
    rintro rfl
    exact h.issuerUrl hissuerUrl
  unfold resolveOidcConfig
  rw [bind_of_ok (readRequiredEnv_of hissuerUrl hne),
    bind_of_ok (readRequiredEnv_of h.speaks.clientId h.clientId),
    bind_of_ok (readRequiredEnv_of h.clientSecret h.clientSecret_ne), hnormalized]
  rfl

theorem getOidcDiscovery_answers (h : provider.Answers platform)
    (hpublished : provider.Published caches) : ∃ t,
      getOidcDiscovery platform provider.issuerUrl caches = .ok provider.document t ∧
      provider.Published t := by
  have hfetch : ∃ t, fetchOidcDiscovery platform provider.issuerUrl caches =
      .ok provider.document t := by
    obtain ⟨response, parsed, hresponse, hok, hparsed⟩ := h.document
    obtain ⟨hissuer, hauthorization, htoken, hjwks⟩ :=
      h.speaks.document response parsed hresponse hok hparsed
    unfold IdentityProvider.discoveryUrl at hresponse
    unfold fetchOidcDiscovery
    rw [bind_of_ok (orThrow_eq_ok.mpr ⟨hresponse, rfl⟩), if_neg (by simp [hok]),
      bind_of_ok (parseJson_eq_ok.mpr ⟨hparsed, rfl⟩),
      bind_of_ok (orThrow_eq_ok.mpr ⟨hissuer, rfl⟩),
      bind_of_ok (orThrow_eq_ok.mpr ⟨hauthorization, rfl⟩),
      bind_of_ok (orThrow_eq_ok.mpr ⟨htoken, rfl⟩), bind_of_ok (orThrow_eq_ok.mpr ⟨hjwks, rfl⟩)]
    exact ⟨_, rfl⟩
  have hget : ∃ t, getOidcDiscovery platform provider.issuerUrl caches =
      .ok provider.document t := by
    unfold getOidcDiscovery
    rw [bind_of_ok (get_eq_ok.mpr ⟨rfl, rfl⟩)]
    cases hcached : caches.discoveryCache provider.issuerUrl with
    | none => exact hfetch
    | some cached =>
        dsimp only
        split_ifs
        · rw [hpublished.document cached hcached]
          exact ⟨_, rfl⟩
        · exact hfetch
  obtain ⟨t, ht⟩ := hget
  exact ⟨t, ht, (keeps_getOidcDiscovery_published h.speaks _).of_ok hpublished ht⟩

theorem getJwksKeys_answers (h : provider.Answers platform)
    (hpublished : provider.Published caches) : ∃ keys t,
      getJwksKeys platform provider.document.jwks_uri caches = .ok keys t ∧
      provider.Publishes keys := by
  have hfetch : ∃ keys t, fetchJwksKeys platform provider.document.jwks_uri caches = .ok keys t ∧
      provider.Publishes keys := by
    obtain ⟨response, parsed, keys, hresponse, hok, hparsed, hvalue, hne⟩ := h.keys
    unfold fetchJwksKeys
    rw [bind_of_ok (orThrow_eq_ok.mpr ⟨hresponse, rfl⟩), if_neg (by simp [hok]),
      bind_of_ok (parseJson_eq_ok.mpr ⟨hparsed, rfl⟩),
      bind_of_ok (orThrow_eq_ok.mpr ⟨hvalue, rfl⟩)]
    dsimp only
    rw [if_neg fun hlength => hne (List.length_eq_zero_iff.mp hlength)]
    exact ⟨keys, _, rfl, h.speaks.keys response parsed keys hresponse hok hparsed hvalue⟩
  unfold getJwksKeys
  rw [bind_of_ok (get_eq_ok.mpr ⟨rfl, rfl⟩)]
  cases hcached : caches.jwksCache provider.document.jwks_uri with
  | none => exact hfetch
  | some cached =>
      dsimp only
      split_ifs
      · exact ⟨cached.value, caches, rfl, hpublished.keys cached hcached⟩
      · exact hfetch

/-- Claims that hold are accepted. -/
theorem validateIdTokenClaims_of_holds {claims : Json}
    {clientId expectedIssuer expectedNonce subject : String}
    (h : platform.ClaimsHold claims clientId expectedIssuer expectedNonce subject) :
    validateIdTokenClaims platform claims clientId expectedIssuer expectedNonce caches =
      .ok () caches := by
  have hsubject : subject ≠ "" := by
    rintro rfl
    exact h.sub_ne (by decide)
  obtain ⟨exp, hexp, hlater⟩ := h.exp
  obtain ⟨aud, haud, hmatched⟩ : ∃ aud, claims.prop "aud" = some aud ∧
      isAudienceMatched aud clientId = true := by
    rcases h.aud with haud | ⟨items, haud, hmem⟩
    · exact ⟨_, haud, isAudienceMatched_eq_true.mpr (.inl rfl)⟩
    · exact ⟨_, haud, isAudienceMatched_eq_true.mpr (.inr ⟨items, rfl, hmem⟩)⟩
  have hstring : (Value.json (.str subject)).string? = some subject := rfl
  have hequal : ∀ s : String, (Value.json (.str s)).strictEquals (.json (.str s)) = true :=
    fun s => Value.strictEquals_string.mpr rfl
  unfold validateIdTokenClaims
  rw [bind_of_ok (orThrow_eq_ok.mpr ⟨h.sub, rfl⟩), if_neg (by simp [Value.truthy, hsubject]),
    bind_of_ok (orThrow_eq_ok.mpr ⟨hstring, rfl⟩), if_neg h.sub_ne,
    bind_of_ok (orThrow_eq_ok.mpr ⟨h.iss, rfl⟩), if_neg (by simp [hequal]),
    bind_of_ok (orThrow_eq_ok.mpr ⟨haud, rfl⟩), if_neg (by simp [hmatched]),
    bind_of_ok (orThrow_eq_ok.mpr ⟨hexp, rfl⟩)]
  split_ifs with hexpired
  · exact absurd hlater (by simpa [Value.number?] using hexpired)
  · rw [bind_of_ok (orThrow_eq_ok.mpr ⟨h.nonce, rfl⟩), if_neg (by simp [hequal])]
    rfl

/-- An ID token that the provider issues is accepted. -/
theorem verifyAndDecodeIdToken_issues (h : provider.Answers platform)
    (hpublished : provider.Published caches) {idToken nonce subject : String}
    (hissues : provider.Issues platform idToken nonce subject) : ∃ claims t,
      verifyAndDecodeIdToken platform provider.clientId provider.document.issuer nonce idToken
        provider.document.jwks_uri caches = .ok claims t ∧
      claims.prop "sub" = some (.json (.str subject)) := by
  obtain ⟨encodedHeader, encodedPayload, encodedSignature, header, claims, hsegments, hheader,
    hpayload, hsigned, hclaims⟩ := hissues
  obtain ⟨keys, t, hkeys, hpublishes⟩ := getJwksKeys_answers h hpublished
  have hsignature : verifyIdTokenSignature platform encodedHeader encodedPayload encodedSignature
      header provider.document.jwks_uri caches = .ok () t :=
    (verifyIdTokenSignature_eq_ok hkeys).mpr ⟨rfl, hsigned keys hpublishes⟩
  refine ⟨claims, t, ?_, hclaims.sub⟩
  unfold verifyAndDecodeIdToken
  rw [hsegments]
  dsimp only
  rw [bind_of_ok (decodeBase64UrlJson_eq_ok.mpr ⟨rfl, hheader⟩),
    bind_of_ok (decodeBase64UrlJson_eq_ok.mpr ⟨rfl, hpayload⟩), bind_of_ok hsignature,
    bind_of_ok (validateIdTokenClaims_of_holds hclaims)]
  rfl

/-! ## Both ends of a login -/

/-- The login page goes to the authorization endpoint, with the parameters of the request. -/
theorem beginOidcAuthorization_answers (h : provider.Answers platform)
    (hpublished : provider.Published caches)
    (setSearchParams : String → List (String × String) → Option String)
    (hurl : ∀ params, (setSearchParams provider.document.authorization_endpoint params).isSome)
    (random : LoginRandom) (redirectTo : String) (request : Request) : ∃ url t,
      setSearchParams provider.document.authorization_endpoint
        (authorizationParams (provider.config platform request) random) = some url ∧
      beginOidcAuthorization platform setSearchParams random redirectTo request caches =
        .ok (url, pendingLogin random redirectTo) t ∧ provider.Published t := by
  obtain ⟨url, hset⟩ := Option.isSome_iff_exists.mp
    (hurl (authorizationParams (provider.config platform request) random))
  obtain ⟨t, hdiscovery, hkept⟩ := getOidcDiscovery_answers h hpublished
  exact ⟨url, t, hset, bind_eq_ok.mpr ⟨_, _, resolveOidcConfig_answers h request,
    bind_eq_ok.mpr ⟨_, t, hdiscovery, bind_eq_ok.mpr ⟨url, t, orThrow_eq_ok.mpr ⟨hset, rfl⟩,
      rfl⟩⟩⟩, hkept⟩

variable (caches) in
/-- The code is exchanged: the client, the redirect URI and the verifier are those of the
authorization request. -/
theorem exchangeAuthorizationCode_exchanges {begun config : OidcResolvedConfig}
    {random : LoginRandom} {code idToken : String}
    (hexchanges : provider.Exchanges platform (authorizationParams begun random) code idToken)
    (hclient : begun.clientId = config.clientId) (hsecret : config.clientSecret =
      provider.clientSecret) (hredirect : begun.redirectUri = config.redirectUri) :
    ∃ tokens, exchangeAuthorizationCode platform code
      (encodeBase64Url (List.ofFn random.codeVerifier)) config provider.document.token_endpoint
        caches = .ok tokens caches ∧ tokens.id_token = idToken := by
  let codeVerifier := encodeBase64Url (List.ofFn random.codeVerifier)
  let body := [("client_id", config.clientId), ("client_secret", config.clientSecret),
    ("code", code), ("code_verifier", codeVerifier), ("grant_type", "authorization_code"),
    ("redirect_uri", config.redirectUri)]
  obtain ⟨response, parsed, accessToken, tokenType, hresponse, hok, hparsed, herror, haccess,
    hidToken, htype⟩ := hexchanges body codeVerifier
      (congrArg some hclient.symm) (congrArg some hsecret) rfl rfl
      (congrArg some hredirect.symm) rfl rfl rfl
  refine ⟨⟨accessToken, idToken, tokenType⟩, ?_, rfl⟩
  unfold exchangeAuthorizationCode
  rw [bind_of_ok (orThrow_eq_ok.mpr ⟨hresponse, rfl⟩),
    bind_of_ok (parseJson_eq_ok.mpr ⟨hparsed, rfl⟩), if_neg (by simp [hok]),
    bind_of_ok (orThrow_eq_ok.mpr ⟨herror, rfl⟩), if_neg (by simp [Value.string?]),
    bind_of_ok (orThrow_eq_ok.mpr ⟨haccess, rfl⟩), bind_of_ok (orThrow_eq_ok.mpr ⟨hidToken, rfl⟩),
    bind_of_ok (orThrow_eq_ok.mpr ⟨htype, rfl⟩)]
  rfl

/-- The login that the provider has granted completes. -/
theorem completeOidcAuthorization_granted (h : provider.Answers platform)
    (hpublished : provider.Published caches) (begun : OidcResolvedConfig) {random : LoginRandom}
    (redirectTo : String) {code idToken subject : String} (request : Request)
    (hclient : begun.clientId = provider.clientId)
    (hredirect : begun.redirectUri = (provider.config platform request).redirectUri)
    (hexchanges : provider.Exchanges platform (authorizationParams begun random) code idToken)
    (hissues : provider.Issues platform idToken (encodeBase64Url (List.ofFn random.nonce))
      subject) :
    ∃ t, completeOidcAuthorization platform code (pendingLogin random redirectTo) request caches =
      .ok subject t := by
  obtain ⟨t, hdiscovery, hkept⟩ := getOidcDiscovery_answers h hpublished
  obtain ⟨tokens, htokens, rfl⟩ :=
    exchangeAuthorizationCode_exchanges t hexchanges hclient rfl hredirect
  obtain ⟨claims, u, hclaims, hsub⟩ := verifyAndDecodeIdToken_issues h hkept hissues
  have hsubject : (claims.prop "sub").bind Value.string? = some subject := by
    rw [hsub]
    rfl
  exact ⟨u, bind_eq_ok.mpr ⟨_, _, resolveOidcConfig_answers h request,
    bind_eq_ok.mpr ⟨_, t, hdiscovery, bind_eq_ok.mpr ⟨tokens, t, htokens,
      bind_eq_ok.mpr ⟨claims, u, hclaims, orThrow_eq_ok.mpr ⟨hsubject, rfl⟩⟩⟩⟩⟩⟩

end Honest

end Client

end HistoryQuiz
