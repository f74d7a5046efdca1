import HistoryQuiz.Theorems.Return
import Mathlib.Data.Rat.Floor

/-!
# Random texts of a login

`base64Url_roundTrip`: the text of some bytes is made of letters, digits, `-` and `_`, and the
bytes are read back from it. So different random bytes give different texts.
-/

namespace HistoryQuiz

namespace Client

open Js Throw

/-- For all bytes, every platform that decodes as browsers do and all caches; and for any two
logins, whatever the platforms, the requests and the caches are. -/
theorem base64Url_roundTrip :
    (∀ bytes : List (BitVec 8),
      (∀ c ∈ (encodeBase64Url bytes).toList, c.isAlphanum = true ∨ c = '-' ∨ c = '_') ∧
      (length (encodeBase64Url bytes) : ℤ) = ⌈(4 * bytes.length / 3 : ℚ)⌉ ∧
      ∀ {Key : Type} (platform : Platform Key), platform.StandardAtob → ∀ s : Caches,
        decodeBase64UrlBytes platform (encodeBase64Url bytes) s = .ok bytes s) ∧
    Function.Injective encodeBase64Url ∧
    ∀ {Key Key' : Type} (platform : Platform Key) (platform' : Platform Key')
      (setSearchParams setSearchParams' : String → List (String × String) → Option String)
      (random random' : LoginRandom) (redirectTo redirectTo' url url' : String)
      (request request' : Request) (pendingAuth pendingAuth' : PendingOidcAuth)
      (s s' t t' : Caches),
      beginOidcAuthorization platform setSearchParams random redirectTo request s =
        .ok (url, pendingAuth) t →
      beginOidcAuthorization platform' setSearchParams' random' redirectTo' request' s' =
        .ok (url', pendingAuth') t' →
      (pendingAuth.state = pendingAuth'.state ↔ random.state = random'.state) ∧
      (pendingAuth.nonce = pendingAuth'.nonce ↔ random.nonce = random'.nonce) ∧
      (pendingAuth.codeVerifier = pendingAuth'.codeVerifier ↔
        random.codeVerifier = random'.codeVerifier) := by
  refine ⟨?_, encodeBase64Url_injective, ?_⟩
  · intro bytes
    refine ⟨?_, ?_, ?_⟩
    · intro c hc
      rw [toList_encodeBase64Url] at hc
      obtain ⟨n, hn, rfl⟩ := List.mem_map.mp hc
      exact (urlDigit_spec n (Base64.sextets_lt hn)).1
    · have hceil := Rat.ceil_intCast_div_natCast (4 * bytes.length) 3
      push_cast at hceil
      rw [hceil, length_encodeBase64Url]
      omega
    · intro Key platform hatob s
      exact decodeBase64UrlBytes_encodeBase64Url hatob bytes s
  · intro Key Key' platform platform' setSearchParams setSearchParams' random random' redirectTo
      redirectTo' url url' request request' pendingAuth pendingAuth' s s' t t' h h'
    obtain ⟨hstate, hnonce, hcodeVerifier, -⟩ := beginOidcAuthorization_pending h
    obtain ⟨hstate', hnonce', hcodeVerifier', -⟩ := beginOidcAuthorization_pending h'
    have hsame : ∀ {n : ℕ} (bytes bytes' : Fin n → BitVec 8),
        encodeBase64Url (List.ofFn bytes) = encodeBase64Url (List.ofFn bytes') ↔ bytes = bytes' :=
      fun _ _ => encodeBase64Url_injective.eq_iff.trans List.ofFn_injective.eq_iff
    rw [hstate, hstate', hnonce, hnonce', hcodeVerifier, hcodeVerifier']
    exact ⟨hsame _ _, hsame _ _, hsame _ _⟩

/-- The platform of the sample login, with the decoder of browsers. -/
def decodingPlatform : Platform Unit :=
  { samplePlatform with
    readers := { sampleReaders with atob := fun text => Base64.forgivingDecode text.toList } }

/-- Another `state` than that of `zeroRandom`. -/
def otherRandom : LoginRandom := { zeroRandom with state := fun _ => 1 }

/-- Two bytes with both replaced digits, and two logins with the same nonce. -/
theorem base64Url_roundTrip_sample :
    encodeBase64Url [0xfb, 0xff] = "-_8" ∧
    decodeBase64UrlBytes decodingPlatform "-_8" noCaches = .ok [0xfb, 0xff] noCaches ∧
    ∃ (login login' : String × PendingOidcAuth) (t t' : Caches),
      beginOidcAuthorization decodingPlatform (fun url _ => some url) zeroRandom "/me" editRequest
        noCaches = .ok login t ∧
      beginOidcAuthorization decodingPlatform (fun url _ => some url) otherRandom "/" editRequest
        noCaches = .ok login' t' ∧
      login.2.state ≠ login'.2.state ∧ login.2.nonce = login'.2.nonce := by
  have hbegins : ∀ (random : LoginRandom) (redirectTo : String),
      (attempt (beginOidcAuthorization decodingPlatform (fun url _ => some url) random redirectTo
        editRequest) noCaches).1.toOption.isSome = true →
      ∃ login t, beginOidcAuthorization decodingPlatform (fun url _ => some url) random redirectTo
        editRequest noCaches = .ok login t := by
    intro random redirectTo h
    obtain ⟨login, hlogin⟩ := Option.isSome_iff_exists.mp h
    exact ⟨login, _, eq_ok_of_toOption hlogin⟩
  obtain ⟨login, t, hlogin⟩ := hbegins zeroRandom "/me" (by decide +kernel)
  obtain ⟨login', t', hlogin'⟩ := hbegins otherRandom "/" (by decide +kernel)
  have hencoded : encodeBase64Url [0xfb, 0xff] = "-_8" := by decide +kernel
  have hdecoded := (base64Url_roundTrip.1 [0xfb, 0xff]).2.2 decodingPlatform (fun _ => rfl) noCaches
  have hlogins := base64Url_roundTrip.2.2 _ _ _ _ _ _ _ _ _ _ _ _ _ _ _ _ _ _ hlogin hlogin'
  rw [hencoded] at hdecoded
  refine ⟨hencoded, hdecoded, login, login', t, t', hlogin, hlogin', ?_, hlogins.2.1.mpr rfl⟩
  intro hstate
  exact absurd (congrFun (hlogins.1.mp hstate) 0) (by decide)

end Client

end HistoryQuiz
