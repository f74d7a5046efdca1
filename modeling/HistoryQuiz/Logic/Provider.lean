import HistoryQuiz.Logic.KeyCache
import HistoryQuiz.Logic.Posts

/-!
# The identity provider

The other party of a login. It is not part of the site: what the site relies on is that it is
configured for the provider (`IdentityProvider.Speaks`), that the caches hold what the provider has
published (`IdentityProvider.Published`, which every login keeps), and that nobody else signs with
its keys (`IdentityProvider.Unforgeable`). Then a login that completes rests on an ID token of the
provider (`exists_token`).
-/

namespace HistoryQuiz

namespace Client

open Js Throw QuizUsecase

/-- An identity provider, with the client that is registered for the site, its discovery document
and the key sets that it publishes over time. -/
structure IdentityProvider where
  issuerUrl : String
  clientId : String
  clientSecret : String
  document : OidcDiscoveryDocument
  Publishes : List Json → Prop

/-- An ID token that a provider has signed: the two segments that are signed, and the claims that
it has written to the second. -/
structure IdToken where
  encodedHeader : String
  encodedPayload : String
  claims : Json
  header_plain : '.' ∉ encodedHeader.toList
  payload_plain : '.' ∉ encodedPayload.toList

namespace IdentityProvider

variable {Key : Type} (provider : IdentityProvider) (platform : Platform Key)

def discoveryUrl : String := provider.issuerUrl ++ "/.well-known/openid-configuration"

/-- The site is configured for the provider, and what it fetches at the addresses of the provider
comes from there. -/
structure Speaks : Prop where
  issuerUrl : ((platform.env "OIDC_ISSUER_URL").map trim).map normalizeIssuerUrl =
    some provider.issuerUrl
  clientId : (platform.env "OIDC_CLIENT_ID").map trim = some provider.clientId
  document : ∀ response parsed, platform.fetch (.get provider.discoveryUrl) = some response →
    response.ok = true → response.json = some parsed →
    parsed.prop "issuer" = some (.json (.str provider.document.issuer)) ∧
      parsed.prop "authorization_endpoint" =
        some (.json (.str provider.document.authorization_endpoint)) ∧
      parsed.prop "token_endpoint" = some (.json (.str provider.document.token_endpoint)) ∧
      parsed.prop "jwks_uri" = some (.json (.str provider.document.jwks_uri))
  keys : ∀ response parsed keys,
    platform.fetch (.get provider.document.jwks_uri) = some response → response.ok = true →
    response.json = some parsed → parsed.prop "keys" = some (.json (.arr keys)) →
    provider.Publishes keys

/-- What the caches hold of the provider, it has published. -/
structure Published (caches : Caches) : Prop where
  document : ∀ cached, caches.discoveryCache provider.issuerUrl = some cached →
    cached.value = provider.document
  keys : ∀ cached, caches.jwksCache provider.document.jwks_uri = some cached →
    provider.Publishes cached.value

/-- What verifies under a published key is one of the tokens that the provider has signed so far,
and their payloads are read as they were written. -/
structure Unforgeable (signed : List IdToken) : Prop where
  verify : ∀ keys jwk algorithm key signature text, provider.Publishes keys → jwk ∈ keys →
    platform.importKey jwk algorithm = some key →
    platform.verify algorithm key signature (utf8Bytes text) = some true →
    ∃ token ∈ signed, text = token.encodedHeader ++ "." ++ token.encodedPayload
  decodes : ∀ token ∈ signed, ∀ claims, platform.Decodes token.encodedPayload claims →
    claims = token.claims

end IdentityProvider

/-- A token of the provider for the site: it names the subject that has authenticated, and the
nonce of the authorization request. -/
structure IdToken.Names (token : IdToken) (provider : IdentityProvider) (nonce subject : String) :
    Prop where
  iss : token.claims.prop "iss" = some (.json (.str provider.document.issuer))
  aud : token.claims.prop "aud" = some (.json (.str provider.clientId)) ∨
    ∃ items, token.claims.prop "aud" = some (.json (.arr items)) ∧ .str provider.clientId ∈ items
  nonce : token.claims.prop "nonce" = some (.json (.str nonce))
  sub : token.claims.prop "sub" = some (.json (.str subject))

/-! ## What the caches hold -/

section Published

variable {Key : Type} {platform : Platform Key} {provider : IdentityProvider}

theorem eq_of_text {value : Option Value} {s t : String} (h : value = some (.json (.str s)))
    (h' : value = some (.json (.str t))) : s = t := by
  simpa using h.symm.trans h'

/-- A fetched document is that of the provider. -/
theorem keeps_getOidcDiscovery_published (hspeaks : provider.Speaks platform)
    (issuerUrl : String) : Keeps provider.Published (getOidcDiscovery platform issuerUrl) := by
  refine keeps_getOidcDiscovery (keeps_fetchOidcDiscovery ?_)
  intro response parsed document hresponse hok hparsed hissuer hauthorization htoken hjwks caches
    hcaches
  refine ⟨fun cached hcached => ?_, hcaches.keys⟩
  dsimp only at hcached
  by_cases hurl : provider.issuerUrl = issuerUrl
  · subst hurl
    rw [Function.update_self, Option.some.injEq] at hcached
    obtain ⟨h₁, h₂, h₃, h₄⟩ := hspeaks.document response parsed hresponse hok hparsed
    rw [← hcached]
    obtain ⟨issuer, authorization, token, jwks⟩ := document
    cases eq_of_text hissuer h₁
    cases eq_of_text hauthorization h₂
    cases eq_of_text htoken h₃
    cases eq_of_text hjwks h₄
    rfl
  · rw [Function.update_of_ne hurl] at hcached
    exact hcaches.document cached hcached

/-- A fetched key set is one that the provider publishes. -/
theorem keeps_getJwksKeys_published (hspeaks : provider.Speaks platform) (jwksUri : String) :
    Keeps provider.Published (getJwksKeys platform jwksUri) := by
  refine keeps_getJwksKeys (keeps_fetchJwksKeys ?_)
  intro response parsed keys hresponse hok hparsed hvalue caches hcaches
  refine ⟨hcaches.document, fun cached hcached => ?_⟩
  dsimp only at hcached
  by_cases hurl : provider.document.jwks_uri = jwksUri
  · subst hurl
    rw [Function.update_self, Option.some.injEq] at hcached
    rw [← hcached]
    exact hspeaks.keys response parsed keys hresponse hok hparsed hvalue
  · rw [Function.update_of_ne hurl] at hcached
    exact hcaches.keys cached hcached

/-- The start of a login leaves in the caches what the provider has published. -/
theorem keeps_beginOidcAuthorization_published (hspeaks : provider.Speaks platform)
    (setSearchParams : String → List (String × String) → Option String) (random : LoginRandom)
    (redirectTo : String) (request : Request) : Keeps provider.Published
      (beginOidcAuthorization platform setSearchParams random redirectTo request) :=
  keeps_beginOidcAuthorization (keeps_getOidcDiscovery_published hspeaks) setSearchParams random
    redirectTo request

/-- So does its end, whether it succeeds or not. -/
theorem keeps_completeOidcAuthorization_published (hspeaks : provider.Speaks platform)
    (code : String) (pendingAuth : PendingOidcAuth) (request : Request) :
    Keeps provider.Published (completeOidcAuthorization platform code pendingAuth request) :=
  keeps_completeOidcAuthorization (keeps_getOidcDiscovery_published hspeaks)
    (keeps_getJwksKeys_published hspeaks) code pendingAuth request

/-! ## What a login rests on -/

variable {caches : Caches}

theorem IdentityProvider.Speaks.discovers (hspeaks : provider.Speaks platform)
    (hpublished : provider.Published caches) {discovery : OidcDiscoveryDocument}
    (h : platform.Discovers caches provider.issuerUrl discovery) :
    discovery.issuer = provider.document.issuer ∧
      discovery.token_endpoint = provider.document.token_endpoint ∧
      discovery.jwks_uri = provider.document.jwks_uri := by
  rcases h with ⟨cached, hcached, -, rfl⟩ |
    ⟨response, parsed, hfetch, hok, hjson, hissuer, htoken, hjwks⟩
  · rw [hpublished.document cached hcached]
    exact ⟨rfl, rfl, rfl⟩
  · obtain ⟨h₁, -, h₃, h₄⟩ := hspeaks.document response parsed hfetch hok hjson
    exact ⟨eq_of_text hissuer h₁, eq_of_text htoken h₃, eq_of_text hjwks h₄⟩

theorem IdentityProvider.Speaks.publishes (hspeaks : provider.Speaks platform)
    (hpublished : provider.Published caches) {keys : List Json}
    (h : platform.PublishesKeys caches provider.document.jwks_uri keys) :
    provider.Publishes keys := by
  rcases h with ⟨cached, hcached, -, rfl⟩ | ⟨response, parsed, hfetch, hok, hjson, hkeys, -⟩
  · exact hpublished.keys cached hcached
  · exact hspeaks.keys response parsed keys hfetch hok hjson hkeys

/-- Two texts with a dot, of which the first and the last part have none, have the same parts. -/
theorem segments_eq {idToken h p s : String} {token : IdToken}
    (hsegments : split idToken '.' = [h, p, s])
    (htext : h ++ "." ++ p = token.encodedHeader ++ "." ++ token.encodedPayload) :
    p = token.encodedPayload := by
  have hjoin : idToken = token.encodedHeader ++ String.singleton '.' ++
      (token.encodedPayload ++ String.singleton '.' ++ s) := by
    have hparts : h ++ "." ++ p ++ "." ++ s = idToken := by
      rw [← join_split idToken '.', hsegments]
      rfl
    rw [← hparts, htext]
    simp only [String.append_assoc]
    rfl
  rw [hjoin, split_append_of_not_mem token.header_plain,
    split_append_of_not_mem token.payload_plain] at hsegments
  injection hsegments with _ hrest
  injection hrest with hpayload
  exact hpayload.symm

/-- A login that completes rests on a token that the provider has signed, for the site, and with
the nonce of the login. -/
theorem exists_token (hspeaks : provider.Speaks platform) (hpublished : provider.Published caches)
    {signed : List IdToken} (hunforgeable : provider.Unforgeable platform signed)
    {code nonce subject : String} (h : platform.Completes caches code nonce subject) :
    ∃ token ∈ signed, token.Names provider nonce subject := by
  obtain ⟨clientId, issuerUrl, discovery, body, response, parsed, idToken, hclient, hissuerUrl,
    hdiscovers, -, -, -, -, -, haccepts⟩ := h
  cases hclient.symm.trans hspeaks.clientId
  cases hissuerUrl.symm.trans hspeaks.issuerUrl
  obtain ⟨hissuer, -, hjwksUri⟩ := hspeaks.discovers hpublished hdiscovers
  obtain ⟨encodedHeader, encodedPayload, encodedSignature, header, claims, hsegments, -, hdecodes,
    hsigned, hclaims⟩ := haccepts
  rw [hjwksUri] at hsigned
  obtain ⟨name, algorithm, kid, keys, jwk, key, signature, -, -, -, hkeys, hfor, hkey, -,
    hverify⟩ := hsigned
  have hmem : jwk ∈ keys := by
    rcases hfor with ⟨-, hmem, -⟩ | ⟨-, hhead⟩
    · exact hmem
    · exact List.mem_of_mem_head? hhead
  obtain ⟨token, htoken, htext⟩ := hunforgeable.verify keys jwk algorithm key signature _
    (hspeaks.publishes hpublished hkeys) hmem hkey hverify
  rw [segments_eq hsegments htext] at hdecodes
  rw [hunforgeable.decodes token htoken claims hdecodes, hissuer] at hclaims
  exact ⟨token, htoken, hclaims.iss, hclaims.aud, hclaims.nonce, hclaims.sub⟩

end Published

end Client

end HistoryQuiz
