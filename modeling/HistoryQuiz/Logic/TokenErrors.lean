import HistoryQuiz.Logic.Oidc

/-!
# What a token can make the platform throw

`verifyAndDecodeIdToken` refuses a token with an `OidcFlowError` of status 401. What it does not
check itself is left to the platform, which throws errors of its own: `Platform.Trips` lists
them, in the order in which the steps are made.
-/

namespace HistoryQuiz

namespace Client

open Js Throw QuizUsecase

variable {Key : Type} {platform : Platform Key} {s t u : Caches}

/-! ## Steps -/

/-- Everything but the refusal of a token. -/
def Thrown.Unexpected : Thrown → Prop
  | .oidcFlowError _ status => status ≠ 401
  | _ => True

theorem fails_orThrow {α : Type} {o : Option α} :
    Fails Thrown.Unexpected ((orThrow o : Oidc α) s) ↔ o = none := by
  cases o with
  | some a => exact ⟨fun h => h.elim, fun h => by cases h⟩
  | none => exact ⟨fun _ => rfl, fun _ => trivial⟩

theorem fails_refusal {α : Type} {message : String} :
    Fails Thrown.Unexpected ((oidcFlowError message 401 : Oidc α) s) ↔ False :=
  ⟨fun h => h rfl, False.elim⟩

/-- Reading a property throws for `null`. -/
theorem prop_eq_none {j : Json} {name : String} : j.prop name = none ↔ j = .null := by
  cases j <;> simp [Json.prop]

/-- A segment that `atob` does not decode. -/
def Platform.Unreadable (platform : Platform Key) (segment : String) : Prop :=
  platform.readers.atob (base64OfBase64Url segment) = none

theorem decodeBase64UrlBytes_eq_ok {segment : String} {bytes : List (BitVec 8)} :
    decodeBase64UrlBytes platform segment s = .ok bytes t ↔
      platform.readers.atob (base64OfBase64Url segment) = some bytes ∧ s = t :=
  orThrow_eq_ok

theorem fails_decodeBase64UrlBytes {segment : String} :
    Fails Thrown.Unexpected (decodeBase64UrlBytes platform segment s) ↔
      platform.Unreadable segment :=
  fails_orThrow

theorem fails_decodeBase64UrlJson {segment : String} :
    Fails Thrown.Unexpected (decodeBase64UrlJson platform segment s) ↔
      platform.Unreadable segment := by
  unfold decodeBase64UrlJson
  rw [fails_bind, fails_decodeBase64UrlBytes]
  constructor
  · rintro (hunreadable | ⟨bytes, t, -, h⟩)
    · exact hunreadable
    · cases hparsed : platform.readers.parseJson (platform.readers.decodeUtf8 bytes) with
      | some parsed =>
          rw [hparsed] at h
          exact h.elim
      | none =>
          rw [hparsed] at h
          exact (fails_refusal.mp h).elim
  · exact .inl

theorem decodeBase64UrlJson_eq_ok {segment : String} {j : Json} :
    decodeBase64UrlJson platform segment s = .ok j t ↔ s = t ∧ platform.Decodes segment j := by
  constructor
  · exact decodeBase64UrlJson_ok
  · rintro ⟨rfl, bytes, hbytes, hparsed⟩
    unfold decodeBase64UrlJson
    rw [bind_of_ok (decodeBase64UrlBytes_eq_ok.mpr ⟨hbytes, rfl⟩), hparsed]
    rfl

/-! ## The algorithm and the key -/

theorem fails_resolveJwtAlgorithm {alg : Value} :
    Fails Thrown.Unexpected (resolveJwtAlgorithm platform alg s) ↔
      alg.text platform.readers = none := by
  have hstring : ∀ name, alg.string? = some name → alg.text platform.readers ≠ none := by
    intro name hname
    rw [string?_eq_some.mp hname, Value.text, Json.text]
    exact Option.some_ne_none name
  unfold resolveJwtAlgorithm
  split_ifs with h256 h384 h512
  · exact iff_of_false id (hstring _ h256)
  · exact iff_of_false id (hstring _ h384)
  · exact iff_of_false id (hstring _ h512)
  · rw [fails_bind, fails_orThrow]
    constructor
    · rintro (h | ⟨text, t, -, h⟩)
      · exact h
      · exact (fails_refusal.mp h).elim
    · exact .inl

theorem resolveJwtAlgorithm_eq_ok {alg : Value} {algorithm : RsaHashedImportParams} :
    resolveJwtAlgorithm platform alg s = .ok algorithm t ↔
      s = t ∧ ∃ name, alg = .json (.str name) ∧ (name, algorithm) ∈ jwtAlgorithms := by
  constructor
  · exact resolveJwtAlgorithm_ok
  · rintro ⟨rfl, name, rfl, hname⟩
    simp only [jwtAlgorithms, List.mem_cons, Prod.mk.injEq, List.not_mem_nil, or_false] at hname
    rcases hname with ⟨rfl, rfl⟩ | ⟨rfl, rfl⟩ | ⟨rfl, rfl⟩ <;> rfl

/-- A key set entry has the `kid` that is searched. -/
def HasKid (kid : Value) (candidate : Json) : Prop :=
  ∃ value, candidate.prop "kid" = some value ∧ value.strictEquals kid = true

/-- A key set entry has another `kid`, or none. -/
def HasOtherKid (kid : Value) (candidate : Json) : Prop :=
  ∃ value, candidate.prop "kid" = some value ∧ value.strictEquals kid = false

/-- The search for the `kid` comes to this entry. -/
def Reaches (kid : Value) (keys : List Json) (jwk : Json) : Prop :=
  ∃ before after, keys = before ++ jwk :: after ∧ ∀ k ∈ before, HasOtherKid kid k

/-- The key that is looked up: the first one with the `kid`, or the first of all when the `kid`
counts as false. -/
def LooksUp (keys : List Json) (kid : Value) (jwk : Json) : Prop :=
  (kid.truthy = true ∧ Reaches kid keys jwk ∧ HasKid kid jwk) ∨
  (kid.truthy = false ∧ keys.head? = some jwk ∧ (Value.json jwk).truthy = true)

theorem reaches_cons {kid : Value} {candidate jwk : Json} {rest : List Json} :
    Reaches kid (candidate :: rest) jwk ↔
      candidate = jwk ∨ HasOtherKid kid candidate ∧ Reaches kid rest jwk := by
  constructor
  · rintro ⟨_ | ⟨first, before⟩, after, hkeys, hbefore⟩
    · exact .inl (List.cons.inj hkeys).1
    · obtain ⟨rfl, hrest⟩ := List.cons.inj hkeys
      rw [List.forall_mem_cons] at hbefore
      exact .inr ⟨hbefore.1, before, after, hrest, hbefore.2⟩
  · rintro (rfl | ⟨hother, before, after, rfl, hbefore⟩)
    · exact ⟨[], rest, rfl, fun k hk => absurd hk List.not_mem_nil⟩
    · exact ⟨candidate :: before, after, rfl, List.forall_mem_cons.mpr ⟨hother, hbefore⟩⟩

theorem not_reaches_nil {kid : Value} {jwk : Json} : ¬ Reaches kid [] jwk := by
  rintro ⟨before, after, hkeys, -⟩
  exact absurd hkeys (by simp)

theorem fails_findKid {kid : Value} {keys : List Json} :
    Fails Thrown.Unexpected (findKid kid keys s) ↔ Reaches kid keys .null := by
  induction keys with
  | nil => exact iff_of_false id not_reaches_nil
  | cons candidate rest ih =>
      rw [findKid, fails_bind, fails_orThrow, prop_eq_none, reaches_cons, ← ih]
      refine or_congr_right ?_
      constructor
      · rintro ⟨value, t, hvalue, h⟩
        obtain ⟨hprop, rfl⟩ := orThrow_eq_ok.mp hvalue
        split_ifs at h with hequal
        · exact h.elim
        · exact ⟨⟨value, hprop, Bool.eq_false_of_not_eq_true hequal⟩, h⟩
      · rintro ⟨⟨value, hprop, hequal⟩, h⟩
        refine ⟨value, s, orThrow_eq_ok.mpr ⟨hprop, rfl⟩, ?_⟩
        rwa [if_neg (Bool.eq_false_iff.mp hequal)]

theorem findKid_eq_ok {kid : Value} {keys : List Json} {jwk : Json} :
    findKid kid keys s = .ok (some jwk) t ↔
      s = t ∧ Reaches kid keys jwk ∧ HasKid kid jwk := by
  induction keys with
  | nil =>
      refine iff_of_false ?_ fun h => not_reaches_nil h.2.1
      intro h
      cases (pure_eq_ok.mp h).1
  | cons candidate rest ih =>
      rw [findKid, bind_eq_ok, reaches_cons]
      constructor
      · rintro ⟨value, t', hvalue, h⟩
        obtain ⟨hprop, rfl⟩ := orThrow_eq_ok.mp hvalue
        split_ifs at h with hequal
        · obtain ⟨hkey, rfl⟩ := pure_eq_ok.mp h
          cases hkey
          exact ⟨rfl, .inl rfl, value, hprop, hequal⟩
        · obtain ⟨rfl, hreaches, hkid⟩ := ih.mp h
          exact ⟨rfl, .inr ⟨⟨value, hprop, Bool.eq_false_of_not_eq_true hequal⟩, hreaches⟩, hkid⟩
      · rintro ⟨rfl, (rfl | ⟨⟨value, hprop, hequal⟩, hreaches⟩), hkid⟩
        · obtain ⟨value, hprop, hequal⟩ := hkid
          refine ⟨value, s, orThrow_eq_ok.mpr ⟨hprop, rfl⟩, ?_⟩
          rw [if_pos hequal]
          rfl
        · refine ⟨value, s, orThrow_eq_ok.mpr ⟨hprop, rfl⟩, ?_⟩
          rw [if_neg (Bool.eq_false_iff.mp hequal)]
          exact ih.mpr ⟨rfl, hreaches, hkid⟩

/-- A key with a `kid` that counts as true counts as true. -/
theorem truthy_of_hasKid {kid : Value} {jwk : Json} (hkid : kid.truthy = true)
    (h : HasKid kid jwk) : (Value.json jwk).truthy = true := by
  obtain ⟨value, hprop, hequal⟩ := h
  have hundefined : Value.undefined.strictEquals kid = false := by
    cases kid with
    | undefined => cases hkid
    | method => rfl
    | json j => rfl
  cases jwk with
  | null => cases hprop
  | obj fields => rfl
  | arr items => rfl
  | bool b =>
      cases hprop
      rw [hundefined] at hequal
      cases hequal
  | num n =>
      cases hprop
      rw [hundefined] at hequal
      cases hequal
  | str text =>
      cases hprop
      rw [if_neg (by decide), hundefined] at hequal
      cases hequal

section Keys

variable {jwksUri : String} {keys : List Json}

/-- With the keys at hand, the lookup fails when it meets a `null`. -/
theorem fails_findJwkByKid (hkeys : getJwksKeys platform jwksUri s = .ok keys t) {kid : Value} :
    Fails Thrown.Unexpected (findJwkByKid platform jwksUri kid s) ↔
      kid.truthy = true ∧ Reaches kid keys .null := by
  unfold findJwkByKid
  rw [fails_bind, hkeys]
  constructor
  · rintro (h | ⟨_, _, ⟨⟩, h⟩)
    · exact h.elim
    · rcases fails_bind.mp h with h | ⟨found, u, -, h⟩
      · split_ifs at h with hkid
        · exact ⟨hkid, fails_findKid.mp h⟩
        · exact h.elim
      · -- a key that is not found is a refusal
        cases found with
        | none => exact (fails_refusal.mp h).elim
        | some key =>
            dsimp only at h
            split_ifs at h
            · exact h.elim
            · exact (fails_refusal.mp h).elim
  · rintro ⟨hkid, hnull⟩
    refine .inr ⟨keys, t, rfl, fails_bind.mpr (.inl ?_)⟩
    rw [if_pos hkid]
    exact fails_findKid.mpr hnull

theorem findJwkByKid_eq_ok (hkeys : getJwksKeys platform jwksUri s = .ok keys t) {kid : Value}
    {jwk : Json} :
    findJwkByKid platform jwksUri kid s = .ok jwk u ↔ t = u ∧ LooksUp keys kid jwk := by
  unfold findJwkByKid
  rw [bind_eq_ok, hkeys]
  constructor
  · rintro ⟨_, _, ⟨⟩, h⟩
    obtain ⟨found, t', hfound, h⟩ := bind_eq_ok.mp h
    cases found with
    | none => exact (oidcFlowError_eq_ok.mp h).elim
    | some key =>
        dsimp only at h
        split_ifs at h with htruthy
        · obtain ⟨rfl, rfl⟩ := pure_eq_ok.mp h
          split_ifs at hfound with hkid
          · obtain ⟨rfl, hreaches, hhas⟩ := findKid_eq_ok.mp hfound
            exact ⟨rfl, .inl ⟨hkid, hreaches, hhas⟩⟩
          · obtain ⟨hhead, rfl⟩ := pure_eq_ok.mp hfound
            exact ⟨rfl, .inr ⟨Bool.eq_false_of_not_eq_true hkid, hhead, htruthy⟩⟩
        · exact (oidcFlowError_eq_ok.mp h).elim
  · rintro ⟨rfl, hlooks⟩
    refine ⟨keys, t, rfl, bind_eq_ok.mpr ⟨some jwk, t, ?_, ?_⟩⟩
    · rcases hlooks with ⟨hkid, hreaches, hhas⟩ | ⟨hkid, hhead, -⟩
      · rw [if_pos hkid]
        exact findKid_eq_ok.mpr ⟨rfl, hreaches, hhas⟩
      · rw [if_neg (Bool.eq_false_iff.mp hkid), hhead]
        rfl
    · have htruthy : (Value.json jwk).truthy = true := by
        rcases hlooks with ⟨hkid, -, hhas⟩ | ⟨-, -, htruthy⟩
        · exact truthy_of_hasKid hkid hhas
        · exact htruthy
      dsimp only
      rw [if_pos htruthy]
      rfl

end Keys

/-! ## The signature and the claims -/

/-- The header names a supported algorithm, and a key among `keys`. -/
def Picks (keys : List Json) (header : Json) (algorithm : RsaHashedImportParams) (jwk : Json) :
    Prop :=
  ∃ name kid, header.prop "alg" = some (.json (.str name)) ∧ (name, algorithm) ∈ jwtAlgorithms ∧
    header.prop "kid" = some kid ∧ LooksUp keys kid jwk

/-- What the signature of a token is over. -/
def signedBytes (encodedHeader encodedPayload : String) : List (BitVec 8) :=
  utf8Bytes (encodedHeader ++ "." ++ encodedPayload)

/-- The signature of the token is the one of a key among `keys` that the header names. -/
def Platform.SignedUnder (platform : Platform Key) (keys : List Json)
    (encodedHeader encodedPayload encodedSignature : String) (header : Json) : Prop :=
  ∃ algorithm jwk key signature, Picks keys header algorithm jwk ∧
    platform.importKey jwk algorithm = some key ∧
    platform.readers.atob (base64OfBase64Url encodedSignature) = some signature ∧
    platform.verify algorithm key signature (signedBytes encodedHeader encodedPayload) = some true

/-- What verifying a signature makes the platform throw. -/
inductive Platform.SignatureTrips (platform : Platform Key) (keys : List Json)
    (encodedHeader encodedPayload encodedSignature : String) (header : Json) : Prop
  /-- The header is `null`. -/
  | header (h : header = .null)
  /-- The algorithm cannot be made a text of, for the message of the refusal. -/
  | algorithm (alg : Value) (halg : header.prop "alg" = some alg)
      (htext : alg.text platform.readers = none)
  /-- The search for the key meets a `null`. -/
  | candidate (name : String) (algorithm : RsaHashedImportParams) (kid : Value)
      (halg : header.prop "alg" = some (.json (.str name)))
      (hname : (name, algorithm) ∈ jwtAlgorithms) (hkid : header.prop "kid" = some kid)
      (htruthy : kid.truthy = true) (hnull : Reaches kid keys .null)
  /-- The key cannot be imported for the algorithm. -/
  | importKey (algorithm : RsaHashedImportParams) (jwk : Json)
      (hpicks : Picks keys header algorithm jwk) (himport : platform.importKey jwk algorithm = none)
  /-- The signature is not Base64URL. -/
  | signature (algorithm : RsaHashedImportParams) (jwk : Json) (key : Key)
      (hpicks : Picks keys header algorithm jwk)
      (himport : platform.importKey jwk algorithm = some key)
      (hsignature : platform.Unreadable encodedSignature)
  /-- The verification throws. -/
  | verify (algorithm : RsaHashedImportParams) (jwk : Json) (key : Key)
      (signature : List (BitVec 8)) (hpicks : Picks keys header algorithm jwk)
      (himport : platform.importKey jwk algorithm = some key)
      (hsignature : platform.readers.atob (base64OfBase64Url encodedSignature) = some signature)
      (hverify : platform.verify algorithm key signature
        (signedBytes encodedHeader encodedPayload) = none)

/-- What the claims make the platform throw: they are `null`, or the subject is something that
counts as true and has no method `trim`. -/
inductive ClaimsTrip (claims : Json) : Prop
  | claims (h : claims = .null)
  | subject (sub : Value) (hsub : claims.prop "sub" = some sub) (htruthy : sub.truthy = true)
      (hstring : sub.string? = none)

section Signature

variable {jwksUri : String} {keys : List Json}
  {encodedHeader encodedPayload encodedSignature : String} {header : Json}

/-- What is left to do with the key that the header picks. -/
theorem verifyIdTokenSignature_picked (hkeys : getJwksKeys platform jwksUri s = .ok keys t)
    {algorithm : RsaHashedImportParams} {jwk : Json} (hpicks : Picks keys header algorithm jwk) :
    verifyIdTokenSignature platform encodedHeader encodedPayload encodedSignature header jwksUri s =
      (do
        let key ← orThrow (platform.importKey jwk algorithm)
        let signatureBytes ← decodeBase64UrlBytes platform encodedSignature
        let verified ← orThrow (platform.verify algorithm key signatureBytes
          (signedBytes encodedHeader encodedPayload))
        if verified = false then oidcFlowError "ID Token 署名の検証に失敗しました。" 401
        else return () : Oidc Unit) t := by
  obtain ⟨name, kid, halg, hname, hkid, hlooks⟩ := hpicks
  unfold verifyIdTokenSignature
  rw [bind_of_ok (orThrow_eq_ok.mpr ⟨halg, rfl⟩),
    bind_of_ok (resolveJwtAlgorithm_eq_ok.mpr ⟨rfl, name, rfl, hname⟩),
    bind_of_ok (orThrow_eq_ok.mpr ⟨hkid, rfl⟩),
    bind_of_ok ((findJwkByKid_eq_ok hkeys).mpr ⟨rfl, hlooks⟩)]
  rfl

theorem verifyIdTokenSignature_eq_ok (hkeys : getJwksKeys platform jwksUri s = .ok keys t) :
    verifyIdTokenSignature platform encodedHeader encodedPayload encodedSignature header jwksUri s =
      .ok () u ↔
      t = u ∧ platform.SignedUnder keys encodedHeader encodedPayload encodedSignature header := by
  constructor
  · intro h
    unfold verifyIdTokenSignature at h
    simp only [bind_eq_ok, orThrow_eq_ok, resolveJwtAlgorithm_eq_ok,
      decodeBase64UrlBytes_eq_ok] at h
    obtain ⟨_, _, ⟨halg, rfl⟩, algorithm, _, ⟨rfl, name, rfl, hname⟩, kid, _, ⟨hkid, rfl⟩, jwk, _,
      hjwk, key, _, ⟨himport, rfl⟩, signature, _, ⟨hsignature, rfl⟩, verified, _, ⟨hverify, rfl⟩,
      h⟩ := h
    obtain ⟨rfl, hlooks⟩ := (findJwkByKid_eq_ok hkeys).mp hjwk
    split_ifs at h with hfalse
    · exact (oidcFlowError_eq_ok.mp h).elim
    · obtain ⟨-, rfl⟩ := pure_eq_ok.mp h
      refine ⟨rfl, algorithm, jwk, key, signature, ⟨name, kid, halg, hname, hkid, hlooks⟩, himport,
        hsignature, ?_⟩
      rw [Bool.eq_true_of_not_eq_false hfalse] at hverify
      exact hverify
  · rintro ⟨rfl, algorithm, jwk, key, signature, hpicks, himport, hsignature, hverify⟩
    rw [verifyIdTokenSignature_picked hkeys hpicks,
      bind_of_ok (orThrow_eq_ok.mpr ⟨himport, rfl⟩),
      bind_of_ok (decodeBase64UrlBytes_eq_ok.mpr ⟨hsignature, rfl⟩),
      bind_of_ok (orThrow_eq_ok.mpr ⟨hverify, rfl⟩)]
    rfl

theorem fails_verifyIdTokenSignature (hkeys : getJwksKeys platform jwksUri s = .ok keys t) :
    Fails Thrown.Unexpected (verifyIdTokenSignature platform encodedHeader encodedPayload
      encodedSignature header jwksUri s) ↔
      platform.SignatureTrips keys encodedHeader encodedPayload encodedSignature header := by
  constructor
  · intro h
    unfold verifyIdTokenSignature at h
    rw [fails_bind] at h
    obtain h | ⟨alg, _, hread, h⟩ := h
    · exact .header (prop_eq_none.mp (fails_orThrow.mp h))
    obtain ⟨halg, rfl⟩ := orThrow_eq_ok.mp hread
    rw [fails_bind] at h
    obtain h | ⟨algorithm, _, hresolve, h⟩ := h
    · exact .algorithm alg halg (fails_resolveJwtAlgorithm.mp h)
    obtain ⟨rfl, name, rfl, hname⟩ := resolveJwtAlgorithm_eq_ok.mp hresolve
    rw [fails_bind] at h
    obtain h | ⟨kid, _, hreadKid, h⟩ := h
    · exact .header (prop_eq_none.mp (fails_orThrow.mp h))
    obtain ⟨hkid, rfl⟩ := orThrow_eq_ok.mp hreadKid
    rw [fails_bind] at h
    obtain h | ⟨jwk, _, hjwk, h⟩ := h
    · obtain ⟨htruthy, hnull⟩ := (fails_findJwkByKid hkeys).mp h
      exact .candidate name algorithm kid halg hname hkid htruthy hnull
    obtain ⟨rfl, hlooks⟩ := (findJwkByKid_eq_ok hkeys).mp hjwk
    have hpicks : Picks keys header algorithm jwk := ⟨name, kid, halg, hname, hkid, hlooks⟩
    rw [fails_bind] at h
    obtain h | ⟨key, _, hkey, h⟩ := h
    · exact .importKey algorithm jwk hpicks (fails_orThrow.mp h)
    obtain ⟨himport, rfl⟩ := orThrow_eq_ok.mp hkey
    rw [fails_bind] at h
    obtain h | ⟨signature, _, hbytes, h⟩ := h
    · exact .signature algorithm jwk key hpicks himport (fails_decodeBase64UrlBytes.mp h)
    obtain ⟨hsignature, rfl⟩ := decodeBase64UrlBytes_eq_ok.mp hbytes
    rw [fails_bind] at h
    obtain h | ⟨verified, _, -, h⟩ := h
    · exact .verify algorithm jwk key signature hpicks himport hsignature (fails_orThrow.mp h)
    split_ifs at h
    · exact (fails_refusal.mp h).elim
    · exact h.elim
  · intro h
    cases h with
    | header hnull =>
        unfold verifyIdTokenSignature
        exact fails_bind.mpr (.inl (fails_orThrow.mpr (prop_eq_none.mpr hnull)))
    | algorithm alg halg htext =>
        unfold verifyIdTokenSignature
        rw [bind_of_ok (orThrow_eq_ok.mpr ⟨halg, rfl⟩)]
        exact fails_bind.mpr (.inl (fails_resolveJwtAlgorithm.mpr htext))
    | candidate name algorithm kid halg hname hkid htruthy hnull =>
        unfold verifyIdTokenSignature
        rw [bind_of_ok (orThrow_eq_ok.mpr ⟨halg, rfl⟩),
          bind_of_ok (resolveJwtAlgorithm_eq_ok.mpr ⟨rfl, name, rfl, hname⟩),
          bind_of_ok (orThrow_eq_ok.mpr ⟨hkid, rfl⟩)]
        exact fails_bind.mpr (.inl ((fails_findJwkByKid hkeys).mpr ⟨htruthy, hnull⟩))
    | importKey algorithm jwk hpicks himport =>
        rw [verifyIdTokenSignature_picked hkeys hpicks]
        exact fails_bind.mpr (.inl (fails_orThrow.mpr himport))
    | signature algorithm jwk key hpicks himport hsignature =>
        rw [verifyIdTokenSignature_picked hkeys hpicks,
          bind_of_ok (orThrow_eq_ok.mpr ⟨himport, rfl⟩)]
        exact fails_bind.mpr (.inl (fails_decodeBase64UrlBytes.mpr hsignature))
    | verify algorithm jwk key signature hpicks himport hsignature hverify =>
        rw [verifyIdTokenSignature_picked hkeys hpicks,
          bind_of_ok (orThrow_eq_ok.mpr ⟨himport, rfl⟩),
          bind_of_ok (decodeBase64UrlBytes_eq_ok.mpr ⟨hsignature, rfl⟩)]
        exact fails_bind.mpr (.inl (fails_orThrow.mpr hverify))

end Signature

/-- A property of something other than `null` can be read. -/
theorem exists_prop {j : Json} (h : j ≠ .null) (name : String) :
    ∃ value, j.prop name = some value :=
  Option.ne_none_iff_exists'.mp fun hnone => h (prop_eq_none.mp hnone)

theorem fails_validateIdTokenClaims {claims : Json}
    {clientId expectedIssuer expectedNonce : String} :
    Fails Thrown.Unexpected (validateIdTokenClaims platform claims clientId expectedIssuer
      expectedNonce s) ↔ ClaimsTrip claims := by
  unfold validateIdTokenClaims
  by_cases hnull : claims = .null
  · exact iff_of_true (fails_bind.mpr (.inl (fails_orThrow.mpr (prop_eq_none.mpr hnull))))
      (.claims hnull)
  obtain ⟨sub, hsub⟩ := exists_prop hnull "sub"
  obtain ⟨iss, hiss⟩ := exists_prop hnull "iss"
  obtain ⟨aud, haud⟩ := exists_prop hnull "aud"
  obtain ⟨exp, hexp⟩ := exists_prop hnull "exp"
  obtain ⟨nonce, hnonce⟩ := exists_prop hnull "nonce"
  have htrips : ClaimsTrip claims ↔ sub.truthy = true ∧ sub.string? = none := by
    constructor
    · intro h
      cases h with
      | claims h => exact absurd h hnull
      | subject sub' hsub' htruthy hstring =>
          rw [hsub, Option.some.injEq] at hsub'
          subst hsub'
          exact ⟨htruthy, hstring⟩
    · rintro ⟨htruthy, hstring⟩
      exact .subject sub hsub htruthy hstring
  rw [htrips, bind_of_ok (orThrow_eq_ok.mpr ⟨hsub, rfl⟩)]
  split_ifs with hfalsy
  · exact iff_of_false (fun h => fails_refusal.mp h) (by simp [hfalsy])
  have htruthy : sub.truthy = true := Bool.eq_true_of_not_eq_false hfalsy
  cases hstring : sub.string? with
  | none => exact iff_of_true (fails_bind.mpr (.inl (fails_orThrow.mpr rfl))) ⟨htruthy, rfl⟩
  | some subject =>
      -- what is left are checks that refuse with 401
      refine iff_of_false ?_ fun h => Option.some_ne_none _ h.2
      intro h
      rw [bind_of_ok (orThrow_eq_ok.mpr ⟨rfl, rfl⟩)] at h
      split_ifs at h
      · exact fails_refusal.mp h
      rw [bind_of_ok (orThrow_eq_ok.mpr ⟨hiss, rfl⟩)] at h
      split_ifs at h
      · exact fails_refusal.mp h
      rw [bind_of_ok (orThrow_eq_ok.mpr ⟨haud, rfl⟩)] at h
      split_ifs at h
      · exact fails_refusal.mp h
      rw [bind_of_ok (orThrow_eq_ok.mpr ⟨hexp, rfl⟩)] at h
      split_ifs at h
      · exact fails_refusal.mp h
      rw [bind_of_ok (orThrow_eq_ok.mpr ⟨hnonce, rfl⟩)] at h
      split_ifs at h
      · exact fails_refusal.mp h
      · exact h

end Client

end HistoryQuiz
