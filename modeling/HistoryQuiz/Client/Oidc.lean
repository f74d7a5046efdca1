import HistoryQuiz.Base.Base64
import HistoryQuiz.Base.Throw
import HistoryQuiz.Client.Auth

/-!
# OpenID Connect

`oidc.server.ts`: the authorization code is exchanged for tokens, and the ID token is
verified. The caches of the module are the state. What comes from outside is a
parameter (`Platform`): the environment variables, the clock, the answers of the
identity provider, and the cryptography of the platform.
-/

namespace HistoryQuiz

namespace Client

open Js QuizUsecase

/-! ## Outside -/

/-- `RsaHashedImportParams`. -/
structure RsaHashedImportParams where
  hash : String
  name : String
deriving DecidableEq, Repr

inductive FetchRequest where
  | get (url : String)
  | post (url : String) (body : List (String × String))
deriving DecidableEq, Repr

/-- An answer: whether its status is one of success, and its JSON, if it is JSON. -/
structure FetchResponse where
  ok : Bool
  json : Option Json

/-- What the functions take from outside. `Date.now()` is read in three places. -/
structure Platform (Key : Type) where
  env : String → Option String
  discoveryNow : ℤ
  jwksNow : ℤ
  claimsNow : ℤ
  /-- `fetch`; nothing when it throws. -/
  fetch : FetchRequest → Option FetchResponse
  readers : Readers
  /-- `crypto.subtle.importKey`; nothing when it throws. -/
  importKey : Json → RsaHashedImportParams → Option Key
  /-- `crypto.subtle.verify(algorithm, key, signature, data)`; nothing when it throws. -/
  verify : RsaHashedImportParams → Key → List (BitVec 8) → List (BitVec 8) → Option Bool

/-! ## Data -/

structure OidcDiscoveryDocument where
  issuer : String
  authorization_endpoint : String
  token_endpoint : String
  jwks_uri : String
deriving DecidableEq, Repr

structure OidcTokenResponse where
  access_token : String
  id_token : String
  token_type : String
deriving DecidableEq, Repr

structure OidcResolvedConfig where
  clientId : String
  clientSecret : String
  issuerUrl : String
  redirectUri : String
  scopes : String
deriving DecidableEq, Repr

structure CachedEntry (α : Type) where
  expiresAt : ℤ
  value : α

def CACHE_TTL_MILLISECONDS : ℤ := 60 * 1000

/-- The caches of the module. -/
structure Caches where
  discoveryCache : String → Option (CachedEntry OidcDiscoveryDocument)
  jwksCache : String → Option (CachedEntry (List Json))

/-- A function of the module. -/
abbrev Oidc (α : Type) := EStateM Thrown Caches α

variable {Key : Type} (platform : Platform Key)

/-- What the platform gives; it throws when it gives nothing. -/
def orThrow {α : Type} : Option α → Oidc α
  | some a => pure a
  | none => throw .platform

def oidcFlowError {α : Type} (message : String) (status : ℕ) : Oidc α :=
  throw (.oidcFlowError message status)

/-- `parseJson`. -/
def parseJson (response : FetchResponse) : Oidc Json :=
  match response.json with
  | some parsed => pure parsed
  | none => oidcFlowError "認証サーバーのレスポンスが JSON ではありません。" 502

/-! ## Configuration -/

/-- `readRequiredEnv`. -/
def readRequiredEnv (name : String) : Oidc String :=
  match (platform.env name).map trim with
  | some value =>
      if value ≠ "" then pure value
      else oidcFlowError
        ("OIDC 設定が不足しています。環境変数 " ++ name ++ " を設定してください。") 500
  | none =>
      oidcFlowError ("OIDC 設定が不足しています。環境変数 " ++ name ++ " を設定してください。") 500

/-- `normalizeIssuerUrl`: without slashes at the end. -/
def normalizeIssuerUrl (input : String) : String :=
  String.ofList (input.toList.rdropWhile (· == '/'))

/-- `resolveOidcConfig`. -/
def resolveOidcConfig (request : Request) : Oidc OidcResolvedConfig := do
  let issuerUrl ← readRequiredEnv platform "OIDC_ISSUER_URL"
  let clientId ← readRequiredEnv platform "OIDC_CLIENT_ID"
  let clientSecret ← readRequiredEnv platform "OIDC_CLIENT_SECRET"
  let configured (name default : String) : String :=
    (((platform.env name).map trim).filter (· ≠ "")).getD default
  return {
    clientId := clientId
    clientSecret := clientSecret
    issuerUrl := normalizeIssuerUrl issuerUrl
    redirectUri := configured "OIDC_REDIRECT_URI" (request.origin ++ "/auth/callback")
    scopes := configured "OIDC_SCOPES" "openid profile email" }

/-! ## Discovery and token exchange -/

/-- The part of `getOidcDiscovery` that fetches the document. -/
def fetchOidcDiscovery (issuerUrl : String) : Oidc OidcDiscoveryDocument := do
  let response ← orThrow (platform.fetch (.get (issuerUrl ++ "/.well-known/openid-configuration")))
  if response.ok = false then
    oidcFlowError
      "OIDC Discovery の取得に失敗しました。Authentik の接続設定を確認してください。" 502
  else
    let parsed ← parseJson response
    let issuer ← orThrow (parsed.prop "issuer")
    let authorization_endpoint ← orThrow (parsed.prop "authorization_endpoint")
    let token_endpoint ← orThrow (parsed.prop "token_endpoint")
    let jwks_uri ← orThrow (parsed.prop "jwks_uri")
    match issuer.string?, authorization_endpoint.string?, token_endpoint.string?,
      jwks_uri.string? with
    | some issuer, some authorization_endpoint, some token_endpoint, some jwks_uri =>
        let value : OidcDiscoveryDocument :=
          { issuer, authorization_endpoint, token_endpoint, jwks_uri }
        modify fun caches => { caches with
          discoveryCache := Function.update caches.discoveryCache issuerUrl
            (some ⟨platform.discoveryNow + CACHE_TTL_MILLISECONDS, value⟩) }
        return value
    | _, _, _, _ => oidcFlowError "OIDC Discovery のレスポンス形式が不正です。" 502

/-- `getOidcDiscovery`. -/
def getOidcDiscovery (issuerUrl : String) : Oidc OidcDiscoveryDocument := do
  match (← get).discoveryCache issuerUrl with
  | some cached =>
      if platform.discoveryNow < cached.expiresAt then return cached.value
      else fetchOidcDiscovery platform issuerUrl
  | none => fetchOidcDiscovery platform issuerUrl

/-- `exchangeAuthorizationCode`. -/
def exchangeAuthorizationCode (code codeVerifier : String) (config : OidcResolvedConfig)
    (tokenEndpoint : String) : Oidc OidcTokenResponse := do
  let body := [("client_id", config.clientId), ("client_secret", config.clientSecret),
    ("code", code), ("code_verifier", codeVerifier), ("grant_type", "authorization_code"),
    ("redirect_uri", config.redirectUri)]
  let response ← orThrow (platform.fetch (.post tokenEndpoint body))
  let parsed ← parseJson response
  if response.ok = false then
    oidcFlowError
      "認証サーバーでトークン交換に失敗しました。時間をおいて再度お試しください。" 502
  else
    let error ← orThrow (parsed.prop "error")
    if error.string?.isSome then
      oidcFlowError "認証サーバーからエラーが返されました。再度ログインしてください。" 401
    else
      let access_token ← orThrow (parsed.prop "access_token")
      let id_token ← orThrow (parsed.prop "id_token")
      let token_type ← orThrow (parsed.prop "token_type")
      match access_token.string?, id_token.string?, token_type.string? with
      | some access_token, some id_token, some token_type =>
          return { access_token, id_token, token_type }
      | _, _, _ => oidcFlowError "トークンレスポンスが不正です。" 502

/-! ## The ID token -/

/-- `resolveJwtAlgorithm`. -/
def resolveJwtAlgorithm (alg : Value) : Oidc RsaHashedImportParams :=
  if alg.string? = some "RS256" then pure { hash := "SHA-256", name := "RSASSA-PKCS1-v1_5" }
  else if alg.string? = some "RS384" then pure { hash := "SHA-384", name := "RSASSA-PKCS1-v1_5" }
  else if alg.string? = some "RS512" then pure { hash := "SHA-512", name := "RSASSA-PKCS1-v1_5" }
  else do
    let text ← orThrow (alg.text platform.readers)
    oidcFlowError ("サポートしていない署名アルゴリズムです: " ++ text) 401

/-- The part of `getJwksKeys` that fetches the keys. -/
def fetchJwksKeys (jwksUri : String) : Oidc (List Json) := do
  let response ← orThrow (platform.fetch (.get jwksUri))
  if response.ok = false then
    oidcFlowError "公開鍵セット（JWKS）の取得に失敗しました。" 502
  else
    let parsed ← parseJson response
    match ← orThrow (parsed.prop "keys") with
    | .json (.arr keys) =>
        if keys.length = 0 then oidcFlowError "公開鍵セット（JWKS）が空です。" 502
        else
          modify fun caches => { caches with
            jwksCache := Function.update caches.jwksCache jwksUri
              (some ⟨platform.jwksNow + CACHE_TTL_MILLISECONDS, keys⟩) }
          return keys
    | _ => oidcFlowError "公開鍵セット（JWKS）が空です。" 502

/-- `getJwksKeys`. -/
def getJwksKeys (jwksUri : String) : Oidc (List Json) := do
  match (← get).jwksCache jwksUri with
  | some cached =>
      if platform.jwksNow < cached.expiresAt then return cached.value
      else fetchJwksKeys platform jwksUri
  | none => fetchJwksKeys platform jwksUri

/-- `keys.find((candidate) => candidate.kid === kid)`. -/
def findKid (kid : Value) : List Json → Oidc (Option Json)
  | [] => pure none
  | candidate :: rest => do
      let candidateKid ← orThrow (candidate.prop "kid")
      if candidateKid.strictEquals kid then return some candidate else findKid kid rest

/-- `findJwkByKid`. -/
def findJwkByKid (jwksUri : String) (kid : Value) : Oidc Json := do
  let keys ← getJwksKeys platform jwksUri
  let find : Oidc (Option Json) := if kid.truthy then findKid kid keys else pure keys.head?
  match ← find with
  | some key =>
      if (Value.json key).truthy then return key
      else oidcFlowError "ID Token 検証に必要な公開鍵が見つかりません。" 401
  | none => oidcFlowError "ID Token 検証に必要な公開鍵が見つかりません。" 401

/-- The Base64 text of a Base64URL text, with its padding. -/
def base64OfBase64Url (input : String) : String :=
  let normalized := input.toList.map fun c => if c = '-' then '+' else if c = '_' then '/' else c
  let units := length (String.ofList normalized)
  let padding := if units % 4 = 0 then [] else List.replicate (4 - units % 4) '='
  String.ofList (normalized ++ padding)

/-- `decodeBase64UrlBytes`. -/
def decodeBase64UrlBytes (input : String) : Oidc (List (BitVec 8)) :=
  orThrow (platform.readers.atob (base64OfBase64Url input))

/-- `decodeBase64UrlJson`. -/
def decodeBase64UrlJson (input : String) : Oidc Json := do
  let text := platform.readers.decodeUtf8 (← decodeBase64UrlBytes platform input)
  match platform.readers.parseJson text with
  | some parsed => return parsed
  | none => oidcFlowError "ID Token の JSON デコードに失敗しました。" 401

/-- `verifyIdTokenSignature`. -/
def verifyIdTokenSignature (encodedHeader encodedPayload encodedSignature : String)
    (header : Json) (jwksUri : String) : Oidc Unit := do
  let algorithm ← resolveJwtAlgorithm platform (← orThrow (header.prop "alg"))
  let jwk ← findJwkByKid platform jwksUri (← orThrow (header.prop "kid"))
  let key ← orThrow (platform.importKey jwk algorithm)
  let signedBytes := utf8Bytes (encodedHeader ++ "." ++ encodedPayload)
  let signatureBytes ← decodeBase64UrlBytes platform encodedSignature
  let verified ← orThrow (platform.verify algorithm key signatureBytes signedBytes)
  if verified = false then oidcFlowError "ID Token 署名の検証に失敗しました。" 401
  else return ()

/-- `isAudienceMatched`. -/
def isAudienceMatched (aud : Value) (clientId : String) : Bool :=
  match aud with
  | .json (.str aud) => aud == clientId
  | .json (.arr items) => items.any fun item => (Value.json item).strictEquals (.json (.str clientId))
  | _ => false

/-- `validateIdTokenClaims`. -/
def validateIdTokenClaims (claims : Json) (clientId expectedIssuer expectedNonce : String) :
    Oidc Unit := do
  let nowInSeconds := platform.claimsNow / 1000
  let sub ← orThrow (claims.prop "sub")
  if sub.truthy = false then oidcFlowError "ID Token の sub が不正です。" 401
  else
    -- of the values that count as true, only strings have a method `trim`
    let sub ← orThrow sub.string?
    if trim sub = "" then oidcFlowError "ID Token の sub が不正です。" 401
    else
      let iss ← orThrow (claims.prop "iss")
      if iss.strictEquals (.json (.str expectedIssuer)) = false then
        oidcFlowError "ID Token の issuer が一致しません。" 401
      else
        let aud ← orThrow (claims.prop "aud")
        if isAudienceMatched aud clientId = false then
          oidcFlowError "ID Token の audience が一致しません。" 401
        else
          let exp ← orThrow (claims.prop "exp")
          let expired : Bool := match exp.number? with
            | some exp => exp ≤ (((nowInSeconds - 30 : ℤ) : ℚ) : WithTop ℚ)
            | none => true
          if expired then oidcFlowError "ID Token の有効期限が切れています。" 401
          else
            let nonce ← orThrow (claims.prop "nonce")
            if nonce.strictEquals (.json (.str expectedNonce)) = false then
              oidcFlowError "nonce の検証に失敗しました。再度ログインしてください。" 401
            else return ()

/-- `verifyAndDecodeIdToken`. -/
def verifyAndDecodeIdToken (clientId expectedIssuer expectedNonce idToken jwksUri : String) :
    Oidc Json := do
  match split idToken '.' with
  | [encodedHeader, encodedPayload, encodedSignature] =>
      let header ← decodeBase64UrlJson platform encodedHeader
      let claims ← decodeBase64UrlJson platform encodedPayload
      verifyIdTokenSignature platform encodedHeader encodedPayload encodedSignature header jwksUri
      validateIdTokenClaims platform claims clientId expectedIssuer expectedNonce
      return claims
  | _ => oidcFlowError "ID Token の形式が不正です。" 401

/-! ## The authorization request -/

/-- `encodeBase64Url`; `btoa` is `Base64.encode`. -/
def encodeBase64Url (bytes : List (BitVec 8)) : String :=
  let base64 := Base64.encode bytes
  let replaced := (base64.map fun c => if c = '+' then '-' else c).map fun c =>
    if c = '/' then '_' else c
  String.ofList (replaced.rdropWhile (· == '='))

/-- `createPkceCodeChallenge`. -/
def createPkceCodeChallenge (codeVerifier : String) : String :=
  encodeBase64Url (Sha256.sum256 (utf8Bytes codeVerifier))

/-- The random bytes of a login. -/
structure LoginRandom where
  state : Fin 32 → BitVec 8
  nonce : Fin 32 → BitVec 8
  codeVerifier : Fin 48 → BitVec 8

/-- `beginOidcAuthorization`. `setSearchParams endpoint params` is the URL of the endpoint with
these parameters; nothing when `new URL` throws. -/
def beginOidcAuthorization (setSearchParams : String → List (String × String) → Option String)
    (random : LoginRandom) (redirectTo : String) (request : Request) :
    Oidc (String × PendingOidcAuth) := do
  let config ← resolveOidcConfig platform request
  let discovery ← getOidcDiscovery platform config.issuerUrl
  let state := encodeBase64Url (List.ofFn random.state)
  let nonce := encodeBase64Url (List.ofFn random.nonce)
  let codeVerifier := encodeBase64Url (List.ofFn random.codeVerifier)
  let authorizationUrl ← orThrow (setSearchParams discovery.authorization_endpoint
    [("client_id", config.clientId), ("code_challenge", createPkceCodeChallenge codeVerifier),
      ("code_challenge_method", "S256"), ("nonce", nonce), ("redirect_uri", config.redirectUri),
      ("response_type", "code"), ("scope", config.scopes), ("state", state)])
  return (authorizationUrl, { codeVerifier, nonce, redirectTo, state })

/-- `completeOidcAuthorization`: the subject. -/
def completeOidcAuthorization (code : String) (pendingAuth : PendingOidcAuth)
    (request : Request) : Oidc String := do
  let config ← resolveOidcConfig platform request
  let discovery ← getOidcDiscovery platform config.issuerUrl
  let tokenResponse ← exchangeAuthorizationCode platform code pendingAuth.codeVerifier config
    discovery.token_endpoint
  let claims ← verifyAndDecodeIdToken platform config.clientId discovery.issuer pendingAuth.nonce
    tokenResponse.id_token discovery.jwks_uri
  -- a string, as `validateIdTokenClaims` has found
  orThrow ((claims.prop "sub").bind Value.string?)

end Client

end HistoryQuiz
