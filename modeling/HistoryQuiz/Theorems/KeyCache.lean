import HistoryQuiz.Logic.KeyCache
import HistoryQuiz.Theorems.Login

/-!
# Key rotation

A key set is kept for a minute and not fetched again for a `kid` that it does not have, so a key
that was published in that minute is not found (`rotated_key_missing`). What is looked up is the
key set of some moment of the last minute (`findJwkByKid_recent`).
-/

namespace HistoryQuiz

namespace Client

open Js Throw

variable {Key : Type} {published : Publications} {platform : Platform Key}

/-- For every history of published key sets and of logins: the lookup is one in the set that was
published at some moment of the last minute, the present one when nothing is cached that has not
expired; and a key that all the sets of that minute have for the `kid` is found. -/
theorem findJwkByKid_recent {now : ℤ} {caches : Caches} (h : Logins Key published now caches)
    (hnow : now ≤ platform.jwksNow) (hserves : platform.Serves published) {jwksUri : String}
    (hretrieves : platform.Retrieves jwksUri) (kid : Value) :
    ∃ t caches', platform.jwksNow - CACHE_TTL_MILLISECONDS < t ∧ t ≤ platform.jwksNow ∧
      ((∀ cached, caches.jwksCache jwksUri = some cached → cached.expiresAt ≤ platform.jwksNow) →
        t = platform.jwksNow) ∧
      (∀ jwk u, findJwkByKid platform jwksUri kid caches = .ok jwk u ↔
        caches' = u ∧ LooksUp (published jwksUri t) kid jwk) ∧
      ∀ jwk, (∀ t, platform.jwksNow - CACHE_TTL_MILLISECONDS < t → t ≤ platform.jwksNow →
        LooksUp (published jwksUri t) kid jwk) →
          findJwkByKid platform jwksUri kid caches = .ok jwk caches' := by
  obtain ⟨t, caches', hrecent, hle, hcurrent, hkeys⟩ :=
    getJwksKeys_recent hserves hretrieves (h.recent.wait hnow)
  have hfinds : ∀ jwk u, findJwkByKid platform jwksUri kid caches = .ok jwk u ↔
      caches' = u ∧ LooksUp (published jwksUri t) kid jwk :=
    fun jwk u => findJwkByKid_eq_ok hkeys
  refine ⟨t, caches', hrecent, hle, hcurrent, hfinds, ?_⟩
  intro jwk hall
  exact (hfinds jwk caches').mpr ⟨rfl, hall t hrecent hle⟩

/-! ### A key that is published after a login -/

/-- The key that takes the place of `sampleKey`. -/
def rotatedKey : Json := .obj [("kty", .str "RSA"), ("kid", .str "next")]

/-- The sample key, and the next one from one millisecond later on. -/
def rotation : Publications := fun _ t => if t ≤ 1000500 then [sampleKey] else [rotatedKey]

/-- The texts of a token whose header names the algorithm alone, and that has no claims. -/
def bareReaders : Readers :=
  { sampleReaders with
    atob := fun s => [("eyJhbGciOiJSUzI1NiJ9", asciiBytes "\x7b\"alg\":\"RS256\"\x7d"),
      ("e30=", asciiBytes "\x7b\x7d"), ("", [])].lookup s
    parseJson := fun s => [("\x7b\"alg\":\"RS256\"\x7d", .obj [("alg", .str "RS256")]),
      ("\x7b\x7d", .obj [])].lookup s }

/-- The identity provider hands out that token. -/
def barePlatform : Platform Unit :=
  { samplePlatform with
    readers := bareReaders
    fetch := fun request => match request with
      | .post _ _ => some ⟨true, some (.obj [("access_token", .str "access"),
          ("id_token", .str "eyJhbGciOiJSUzI1NiJ9.e30."), ("token_type", .str "Bearer")])⟩
      | .get url => samplePlatform.fetch (.get url) }

/-- The platform after the rotation. -/
def rotatedPlatform : Platform Unit :=
  { barePlatform with
    jwksNow := 1000501
    fetch := fun request => match request with
      | .get "https://id.example/k" => some ⟨true, some (.obj [("keys", .arr [rotatedKey])])⟩
      | _ => none }

/-- The caches after a login in which the token is refused for its claims. -/
def rotatedCaches : Caches :=
  (attempt (completeOidcAuthorization barePlatform "code" ⟨"verifier", "nonce", "/me", "state"⟩
    sampleCallback) ⟨fun _ => none, fun _ => none⟩).2

theorem serves_barePlatform : barePlatform.Serves rotation := by
  intro url response parsed keys hresponse hok hparsed hkeys
  have hlookup := hresponse
  simp only [barePlatform, samplePlatform, List.lookup_cons, List.lookup_nil] at hlookup
  split at hlookup
  · -- the discovery document has no keys
    cases hlookup
    cases hparsed
    cases hkeys
  · split at hlookup
    · cases hlookup
      cases hparsed
      cases hkeys
      rfl
    · cases hlookup

theorem serves_rotatedPlatform : rotatedPlatform.Serves rotation := by
  intro url response parsed keys hresponse hok hparsed hkeys
  simp only [rotatedPlatform] at hresponse
  split at hresponse
  · cases hresponse
    cases hparsed
    cases hkeys
    rfl
  · cases hresponse

theorem retrieves_rotatedPlatform : rotatedPlatform.Retrieves "https://id.example/k" :=
  ⟨_, _, [rotatedKey], rfl, rfl, rfl, rfl, List.cons_ne_nil _ _⟩

theorem logins_rotatedCaches : Logins Unit rotation 1000500 rotatedCaches :=
  .complete barePlatform (.start _) serves_barePlatform "code" _ sampleCallback

/-- The entry of the login has not expired. -/
theorem getJwksKeys_rotatedCaches :
    getJwksKeys rotatedPlatform "https://id.example/k" rotatedCaches =
      .ok [sampleKey] rotatedCaches := by
  have hexpires : (rotatedCaches.jwksCache "https://id.example/k").map CachedEntry.expiresAt =
      some 1060500 := by decide +kernel
  obtain ⟨cached, hcached, hexpiresAt⟩ := Option.map_eq_some_iff.mp hexpires
  obtain ⟨t, ht, hentry⟩ := logins_rotatedCaches.recent _ cached hcached
  have hvalue : cached.value = [sampleKey] := by
    rw [hentry]
    exact if_pos ht
  unfold getJwksKeys
  rw [bind_of_ok (get_eq_ok.mpr ⟨rfl, rfl⟩), hcached]
  dsimp only
  rw [if_pos (by rw [hexpiresAt]; decide), hvalue]
  rfl

/-- One millisecond after a login the provider publishes another key: the lookup in the published
set finds it, and `findJwkByKid` refuses the token. -/
theorem rotated_key_missing :
    Logins Unit rotation 1000500 rotatedCaches ∧ rotatedPlatform.Serves rotation ∧
      rotatedPlatform.Retrieves "https://id.example/k" ∧
      LooksUp (rotation "https://id.example/k" rotatedPlatform.jwksNow) (.json (.str "next"))
        rotatedKey ∧
      findJwkByKid rotatedPlatform "https://id.example/k" (.json (.str "next")) rotatedCaches =
        .error (.oidcFlowError "ID Token 検証に必要な公開鍵が見つかりません。" 401)
          rotatedCaches := by
  refine ⟨logins_rotatedCaches, serves_rotatedPlatform, retrieves_rotatedPlatform, ?_, ?_⟩
  · exact .inl ⟨rfl, ⟨[], [], rfl, fun k hk => absurd hk List.not_mem_nil⟩, _, rfl, rfl⟩
  · unfold findJwkByKid
    rw [bind_of_ok getJwksKeys_rotatedCaches]
    rfl

/-- The lookup after the rotation is one of the last minute. -/
theorem findJwkByKid_recent_rotated :
    ∃ t caches', 1000501 - CACHE_TTL_MILLISECONDS < t ∧ t ≤ 1000501 ∧
      ∀ jwk u, findJwkByKid rotatedPlatform "https://id.example/k" (.json (.str "key"))
        rotatedCaches = .ok jwk u ↔
          caches' = u ∧ LooksUp (rotation "https://id.example/k" t) (.json (.str "key")) jwk := by
  obtain ⟨t, caches', hrecent, hle, -, hfinds, -⟩ := findJwkByKid_recent logins_rotatedCaches
    (show (1000500 : ℤ) ≤ rotatedPlatform.jwksNow by decide) serves_rotatedPlatform
    retrieves_rotatedPlatform (.json (.str "key"))
  exact ⟨t, caches', hrecent, hle, hfinds⟩

end Client

end HistoryQuiz
