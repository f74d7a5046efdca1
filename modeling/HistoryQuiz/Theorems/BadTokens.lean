import HistoryQuiz.Logic.TokenErrors
import HistoryQuiz.Theorems.Login

/-!
# Malformed ID tokens

`verifyAndDecodeIdToken` turns a text that is not JSON, an unknown algorithm and a wrong signature
into an `OidcFlowError` of status 401, and leaves the other defects of a token to the platform:
Base64 that `atob` does not decode, `null` in place of an object, a subject that is not a string.
`badToken_iff` says exactly which tokens are answered cleanly; the callback answers the others
with status 500 (`badToken_callback`).
-/

namespace HistoryQuiz

namespace Client

open Js Throw

variable {Key : Type} {platform : Platform Key}

/-- What a token of three segments makes the platform throw. -/
inductive Platform.Trips (platform : Platform Key) (keys : List Json)
    (encodedHeader encodedPayload encodedSignature : String) : Prop
  /-- The header is not Base64URL. -/
  | header (h : platform.Unreadable encodedHeader)
  /-- The payload is not Base64URL. -/
  | payload (header : Json) (hheader : platform.Decodes encodedHeader header)
      (h : platform.Unreadable encodedPayload)
  /-- The header or the signature. -/
  | signature (header claims : Json) (hheader : platform.Decodes encodedHeader header)
      (hclaims : platform.Decodes encodedPayload claims)
      (h : platform.SignatureTrips keys encodedHeader encodedPayload encodedSignature header)
  /-- The claims of a token that is signed. -/
  | claims (header claims : Json) (hheader : platform.Decodes encodedHeader header)
      (hclaims : platform.Decodes encodedPayload claims)
      (hsigned : platform.SignedUnder keys encodedHeader encodedPayload encodedSignature header)
      (h : ClaimsTrip claims)

theorem fails_verifyAndDecodeIdToken {jwksUri : String} {keys : List Json} {s t : Caches}
    (hkeys : getJwksKeys platform jwksUri s = .ok keys t)
    (clientId expectedIssuer expectedNonce idToken : String) :
    Fails Thrown.Unexpected (verifyAndDecodeIdToken platform clientId expectedIssuer expectedNonce
      idToken jwksUri s) ↔
      ∃ encodedHeader encodedPayload encodedSignature,
        split idToken '.' = [encodedHeader, encodedPayload, encodedSignature] ∧
        platform.Trips keys encodedHeader encodedPayload encodedSignature := by
  unfold verifyAndDecodeIdToken
  rcases hsegments : split idToken '.' with
    _ | ⟨encodedHeader, _ | ⟨encodedPayload, _ | ⟨encodedSignature, _ | ⟨other, rest⟩⟩⟩⟩
  case cons.cons.cons.nil =>
    dsimp only
    constructor
    · intro h
      refine ⟨encodedHeader, encodedPayload, encodedSignature, rfl, ?_⟩
      rw [fails_bind] at h
      obtain h | ⟨header, _, hread, h⟩ := h
      · exact .header (fails_decodeBase64UrlJson.mp h)
      obtain ⟨rfl, hheader⟩ := decodeBase64UrlJson_eq_ok.mp hread
      rw [fails_bind] at h
      obtain h | ⟨claims, _, hreadClaims, h⟩ := h
      · exact .payload header hheader (fails_decodeBase64UrlJson.mp h)
      obtain ⟨rfl, hclaims⟩ := decodeBase64UrlJson_eq_ok.mp hreadClaims
      rw [fails_bind] at h
      obtain h | ⟨_, _, hverify, h⟩ := h
      · exact .signature header claims hheader hclaims
          ((fails_verifyIdTokenSignature hkeys).mp h)
      obtain ⟨rfl, hsigned⟩ := (verifyIdTokenSignature_eq_ok hkeys).mp hverify
      rw [fails_bind] at h
      obtain h | ⟨_, _, -, h⟩ := h
      · exact .claims header claims hheader hclaims hsigned (fails_validateIdTokenClaims.mp h)
      · exact h.elim
    · rintro ⟨_, _, _, heq, htrips⟩
      cases heq
      cases htrips with
      | header h => exact fails_bind.mpr (.inl (fails_decodeBase64UrlJson.mpr h))
      | payload header hheader h =>
          rw [bind_of_ok (decodeBase64UrlJson_eq_ok.mpr ⟨rfl, hheader⟩)]
          exact fails_bind.mpr (.inl (fails_decodeBase64UrlJson.mpr h))
      | signature header claims hheader hclaims h =>
          rw [bind_of_ok (decodeBase64UrlJson_eq_ok.mpr ⟨rfl, hheader⟩),
            bind_of_ok (decodeBase64UrlJson_eq_ok.mpr ⟨rfl, hclaims⟩)]
          exact fails_bind.mpr (.inl ((fails_verifyIdTokenSignature hkeys).mpr h))
      | claims header claims hheader hclaims hsigned h =>
          rw [bind_of_ok (decodeBase64UrlJson_eq_ok.mpr ⟨rfl, hheader⟩),
            bind_of_ok (decodeBase64UrlJson_eq_ok.mpr ⟨rfl, hclaims⟩),
            bind_of_ok ((verifyIdTokenSignature_eq_ok hkeys).mpr ⟨rfl, hsigned⟩)]
          exact fails_bind.mpr (.inl (fails_validateIdTokenClaims.mpr h))
  all_goals
    -- another number of segments is refused
    refine iff_of_false (fun h => fails_refusal.mp h) ?_
    rintro ⟨_, _, _, ⟨⟩, -⟩

theorem not_unexpected {e : Thrown} :
    ¬ e.Unexpected ↔ ∃ message, e = .oidcFlowError message 401 := by
  constructor
  · intro h
    cases e with
    | oidcFlowError message status =>
        obtain rfl : status = 401 := not_not.mp h
        exact ⟨message, rfl⟩
    | _ => exact absurd trivial h
  · rintro ⟨message, rfl⟩ h
    exact h rfl

/-- For every platform, all caches from which the keys can be had, and every text: the token is
verified or refused with status 401 exactly when it is not one of three segments that make the
platform throw. -/
theorem badToken_iff {jwksUri : String} {keys : List Json} {caches caches' : Caches}
    (hkeys : getJwksKeys platform jwksUri caches = .ok keys caches')
    (clientId expectedIssuer expectedNonce idToken : String) :
    ((∃ claims t, verifyAndDecodeIdToken platform clientId expectedIssuer expectedNonce idToken
        jwksUri caches = .ok claims t) ∨
      ∃ message t, verifyAndDecodeIdToken platform clientId expectedIssuer expectedNonce idToken
        jwksUri caches = .error (.oidcFlowError message 401) t) ↔
      ∀ encodedHeader encodedPayload encodedSignature,
        split idToken '.' = [encodedHeader, encodedPayload, encodedSignature] →
          ¬ platform.Trips keys encodedHeader encodedPayload encodedSignature := by
  have hclean :=
    (fails_verifyAndDecodeIdToken hkeys clientId expectedIssuer expectedNonce idToken).not
  rw [not_fails] at hclean
  push Not at hclean
  rw [← hclean]
  refine or_congr_right ?_
  constructor
  · rintro ⟨message, t, h⟩
    exact ⟨_, t, h, not_unexpected.mpr ⟨message, rfl⟩⟩
  · rintro ⟨e, t, h, he⟩
    obtain ⟨message, rfl⟩ := not_unexpected.mp he
    exact ⟨message, t, h⟩

/-! ### A token that is not Base64 -/

/-- The first segment cannot be decoded, and the others are `{}` and empty. -/
def badToken : String := "!.e30."

/-- The identity provider hands out that token. -/
def badTokenPlatform : Platform Unit :=
  { samplePlatform with
    fetch := fun request => match request with
      | .post _ _ => some ⟨true, some (.obj [("access_token", .str "access"),
          ("id_token", .str badToken), ("token_type", .str "Bearer")])⟩
      | .get url => samplePlatform.fetch (.get url) }

/-- The keys can be had, and the token ends in an error of the platform, which the callback
reports as an unexpected one. -/
theorem badToken_callback :
    (∃ caches, getJwksKeys badTokenPlatform "https://id.example/k" noCaches =
      .ok [sampleKey] caches) ∧
    verifyAndDecodeIdToken badTokenPlatform "quiz" "https://id.example" "nonce" badToken
      "https://id.example/k" noCaches = .error .platform noCaches ∧
    (AuthCallback.loader (completeOidcAuthorization badTokenPlatform) sampleCallback
      noCaches).1.status = 500 := by
  refine ⟨⟨_, rfl⟩, ?_, by decide +kernel⟩
  have hsegments : split badToken '.' = ["!", "e30", ""] := by decide +kernel
  have hunreadable : badTokenPlatform.readers.atob (base64OfBase64Url "!") = none := by
    decide +kernel
  unfold verifyAndDecodeIdToken
  rw [hsegments]
  dsimp only
  unfold decodeBase64UrlJson decodeBase64UrlBytes
  rw [hunreadable]
  rfl

/-- The token of a login that completes. -/
def sampleToken : String := headerSegment ++ "." ++ payloadSegment ++ ".c2lnbmVk"

theorem badToken_iff_sample :
    ∃ caches', getJwksKeys samplePlatform "https://id.example/k" noCaches =
        .ok [sampleKey] caches' ∧
      (((∃ claims t, verifyAndDecodeIdToken samplePlatform "quiz" "https://id.example" "nonce"
          sampleToken "https://id.example/k" noCaches = .ok claims t) ∨
        ∃ message t, verifyAndDecodeIdToken samplePlatform "quiz" "https://id.example" "nonce"
          sampleToken "https://id.example/k" noCaches = .error (.oidcFlowError message 401) t) ↔
        ∀ encodedHeader encodedPayload encodedSignature,
          split sampleToken '.' = [encodedHeader, encodedPayload, encodedSignature] →
            ¬ samplePlatform.Trips [sampleKey] encodedHeader encodedPayload encodedSignature) :=
  ⟨_, rfl, badToken_iff rfl ..⟩

end Client

end HistoryQuiz
