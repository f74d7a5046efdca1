import HistoryQuiz.Client.Oidc

/-!
# Base64 in URLs

What the replacements of `encodeBase64Url` leave of the digits, and what `decodeBase64UrlBytes`
makes of them: the text that the platform decodes is the text that it has encoded.
-/

namespace HistoryQuiz

namespace Client

open Js Throw

variable {Key : Type}

/-- A digit after the two replacements. -/
def urlDigit (n : ℕ) : Char :=
  let c := if Base64.digit n = '+' then '-' else Base64.digit n
  if c = '/' then '_' else c

/-- The digits of URLs; those of Base64 come back when the replacements are undone. -/
theorem urlDigit_spec : ∀ n < 64,
    ((urlDigit n).isAlphanum = true ∨ urlDigit n = '-' ∨ urlDigit n = '_') ∧
    isWhiteSpace (urlDigit n) = false ∧ urlDigit n ≠ '=' ∧ (urlDigit n).toNat < 0x10000 ∧
    (if urlDigit n = '-' then '+' else if urlDigit n = '_' then '/' else urlDigit n) =
      Base64.digit n := by decide +kernel

/-- The padding is removed, and nothing else. -/
theorem toList_encodeBase64Url (bytes : List (BitVec 8)) :
    (encodeBase64Url bytes).toList = (Base64.sextets bytes).map urlDigit := by
  have hkept : '=' ∉ (Base64.sextets bytes).map urlDigit := by
    intro hmem
    obtain ⟨n, hn, hdigit⟩ := List.mem_map.mp hmem
    exact (urlDigit_spec n (Base64.sextets_lt hn)).2.2.1 hdigit
  have hreplaced : ((Base64.encode bytes).map fun c => if c = '+' then '-' else c).map
      (fun c => if c = '/' then '_' else c) =
        (Base64.sextets bytes).map urlDigit ++ Base64.padding (Base64.sextets bytes).length := by
    unfold Base64.encode Base64.padding
    simp only [List.map_append, List.map_map, List.map_replicate]
    rfl
  unfold encodeBase64Url
  rw [String.toList_ofList, hreplaced, Base64.rdropWhile_append_padding hkept]

/-- Characters of one code unit. -/
theorem length_eq_length {s : String} (h : ∀ c ∈ s.toList, c.toNat < 0x10000) :
    length s = s.toList.length := by
  have hunits : s.toList.map (fun c => if c.toNat < 0x10000 then 1 else 2) =
      s.toList.map fun _ => 1 := List.map_congr_left fun c hc => if_pos (h c hc)
  unfold length
  rw [hunits]
  simp

/-- Trimming leaves it. -/
theorem trim_encodeBase64Url_self (bytes : List (BitVec 8)) :
    trim (encodeBase64Url bytes) = encodeBase64Url bytes := by
  apply trim_eq_self
  intro c hc
  rw [toList_encodeBase64Url] at hc
  obtain ⟨n, hn, rfl⟩ := List.mem_map.mp hc
  exact (urlDigit_spec n (Base64.sextets_lt hn)).2.1

theorem length_encodeBase64Url (bytes : List (BitVec 8)) :
    length (encodeBase64Url bytes) = (4 * bytes.length + 2) / 3 := by
  rw [length_eq_length, toList_encodeBase64Url, List.length_map, Base64.length_sextets]
  intro c hc
  rw [toList_encodeBase64Url] at hc
  obtain ⟨n, hn, rfl⟩ := List.mem_map.mp hc
  exact (urlDigit_spec n (Base64.sextets_lt hn)).2.2.2.1

/-- The replacements are undone, and the length tells how much padding there was. -/
theorem base64OfBase64Url_encodeBase64Url (bytes : List (BitVec 8)) :
    base64OfBase64Url (encodeBase64Url bytes) = String.ofList (Base64.encode bytes) := by
  have hback : ((encodeBase64Url bytes).toList.map fun c =>
      if c = '-' then '+' else if c = '_' then '/' else c) =
        (Base64.sextets bytes).map Base64.digit := by
    rw [toList_encodeBase64Url, List.map_map]
    refine List.map_congr_left ?_
    intro n hn
    exact (urlDigit_spec n (Base64.sextets_lt hn)).2.2.2.2
  have hunits : length (String.ofList ((Base64.sextets bytes).map Base64.digit)) =
      (Base64.sextets bytes).length := by
    rw [length_eq_length, String.toList_ofList, List.length_map]
    intro c hc
    rw [String.toList_ofList] at hc
    obtain ⟨n, hn, rfl⟩ := List.mem_map.mp hc
    exact (Base64.digit_spec n (Base64.sextets_lt hn)).2.2.2.trans (by decide)
  have hpadding : ∀ n, (if n % 4 = 0 then [] else List.replicate (4 - n % 4) '=') =
      Base64.padding n := by
    intro n
    unfold Base64.padding
    split_ifs with hn
    · rw [hn]
      rfl
    · have hlt : (4 - n % 4) % 4 = 4 - n % 4 := Nat.mod_eq_of_lt (by omega)
      rw [hlt]
  unfold base64OfBase64Url
  dsimp only
  rw [hback, hunits, hpadding]
  rfl

/-- The platform decodes as browsers do. -/
def Platform.StandardAtob (platform : Platform Key) : Prop :=
  ∀ text, platform.readers.atob text = Base64.forgivingDecode text.toList

theorem decodeBase64UrlBytes_encodeBase64Url {platform : Platform Key}
    (hatob : platform.StandardAtob) (bytes : List (BitVec 8)) (s : Caches) :
    decodeBase64UrlBytes platform (encodeBase64Url bytes) s = .ok bytes s := by
  unfold decodeBase64UrlBytes
  rw [base64OfBase64Url_encodeBase64Url, hatob, String.toList_ofList,
    Base64.forgivingDecode_encode]
  rfl

theorem encodeBase64Url_injective : Function.Injective encodeBase64Url := by
  intro bytes bytes' h
  have hencoded : Base64.encode bytes = Base64.encode bytes' := by
    rw [← String.ofList_inj, ← base64OfBase64Url_encodeBase64Url, h,
      base64OfBase64Url_encodeBase64Url]
  have hdecoded := Base64.forgivingDecode_encode bytes
  rw [hencoded, Base64.forgivingDecode_encode] at hdecoded
  exact (Option.some.inj hdecoded).symm

/-- The login that `beginOidcAuthorization` starts. -/
theorem beginOidcAuthorization_pending {platform : Platform Key}
    {setSearchParams : String → List (String × String) → Option String} {random : LoginRandom}
    {redirectTo url : String} {request : Request} {pendingAuth : PendingOidcAuth} {s t : Caches}
    (h : beginOidcAuthorization platform setSearchParams random redirectTo request s =
      .ok (url, pendingAuth) t) :
    pendingAuth.state = encodeBase64Url (List.ofFn random.state) ∧
      pendingAuth.nonce = encodeBase64Url (List.ofFn random.nonce) ∧
      pendingAuth.codeVerifier = encodeBase64Url (List.ofFn random.codeVerifier) ∧
      pendingAuth.redirectTo = redirectTo := by
  unfold beginOidcAuthorization at h
  obtain ⟨config, s₁, -, h⟩ := bind_eq_ok.mp h
  obtain ⟨discovery, s₂, -, h⟩ := bind_eq_ok.mp h
  obtain ⟨authorizationUrl, s₃, -, h⟩ := bind_eq_ok.mp h
  obtain ⟨hreturn, -⟩ := pure_eq_ok.mp h
  cases hreturn
  exact ⟨rfl, rfl, rfl, rfl⟩

end Client

end HistoryQuiz
