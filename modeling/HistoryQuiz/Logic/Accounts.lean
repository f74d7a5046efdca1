import HistoryQuiz.Client.Grpc
import HistoryQuiz.Logic.Oidc
import HistoryQuiz.Logic.Requests

/-!
# From the subject to the caller

The subject of an ID token becomes the caller of the backend on its way through the
cookie, the session of a later request, the metadata of a call, and the context of the
server. Each of them keeps the string but for white space at its ends, so the caller is
the trimmed subject (`actsAs_iff`).
-/

namespace HistoryQuiz

namespace Client

open Js Throw Effect

/-- A subject that `validateIdTokenClaims` accepts. -/
def Accepted (subject : String) : Prop :=
  ∃ (Key : Type) (platform : Platform Key) (claims : Json)
    (clientId expectedIssuer expectedNonce : String) (s t : Caches),
    validateIdTokenClaims platform claims clientId expectedIssuer expectedNonce s = .ok () t ∧
    claims.prop "sub" = some (.json (.str subject))

/-- The backend works with `userID` in a call that is made while `subject` is logged in:
the login sets the cookie, a later request carries the session, and the interceptor hands
the context on. -/
inductive ActsAs (wire : GrpcWire) (subject userID : String) : Prop
  | intro (login later : Request) (session : Session) (user : SessionUser)
      (requestId : Option String) (fresh : String) (metadata : Metadata) (context : Context)
      (hlogin : createUserSessionCookie login subject = .ok (.commitSession session))
      (hlater : later.session .userId = session .userId)
      (huser : getUser later = some user)
      (hmetadata : createMetadataObject wire
        (normalizeCallContext fresh ⟨requestId, some user.userId⟩).requestId
        (normalizeCallContext fresh ⟨requestId, some user.userId⟩).userId = .ok metadata)
      (hcontext : unaryContextInterceptor false metadata Context.background Prog.ret =
        (Prog.ret context : GrpcProg Context))
      (huserID : context.userID = (userID, true))

/-! ## The ID token -/

/-- Claims that hold of `subject`, when the issuer, the client and the nonce are empty. -/
def claimsOf (subject : String) : Json :=
  .obj [("iss", .str ""), ("aud", .str ""), ("exp", .num ((0 : ℚ) : WithTop ℚ)),
    ("nonce", .str ""), ("sub", .str subject)]

/-- A platform at the beginning of time. -/
def plainPlatform : Platform Unit where
  env _ := none
  discoveryNow := 0
  jwksNow := 0
  claimsNow := 0
  fetch _ := none
  readers := ⟨fun _ => none, fun _ => none, fun _ => "", fun _ => "", id⟩
  importKey _ _ := none
  verify _ _ _ _ := none

/-- Every subject that is not blank is accepted. -/
theorem accepted_iff {subject : String} : Accepted subject ↔ trim subject ≠ "" := by
  constructor
  · rintro ⟨Key, platform, claims, clientId, expectedIssuer, expectedNonce, s, t, hvalid, hsub⟩
    obtain ⟨subject', hholds⟩ := validateIdTokenClaims_ok hvalid
    have hsame : subject = subject' := by
      have h := hsub.symm.trans hholds.sub
      injection h with h
      injection h with h
      injection h
    rw [hsame]
    exact hholds.sub_ne
  · intro hblank
    have hne : subject ≠ "" := by
      rintro rfl
      exact hblank rfl
    refine ⟨Unit, plainPlatform, claimsOf subject, "", "", "", ⟨fun _ => none, fun _ => none⟩,
      ⟨fun _ => none, fun _ => none⟩, ?_, rfl⟩
    have hsub : (claimsOf subject).prop "sub" = some (.json (.str subject)) := rfl
    have htruthy : (Value.json (.str subject)).truthy = true := by simp [Value.truthy, hne]
    unfold validateIdTokenClaims
    rw [hsub]
    simp only [bind_eq_ok, orThrow_eq_ok]
    refine ⟨_, _, ⟨rfl, rfl⟩, ?_⟩
    rw [if_neg (by simp [htruthy])]
    simp only [bind_eq_ok, orThrow_eq_ok]
    refine ⟨subject, _, ⟨rfl, rfl⟩, ?_⟩
    rw [if_neg hblank]
    rfl

/-! ## The metadata -/

/-- Trimming the user of a session changes nothing. -/
theorem trim_getUser {request : Request} {user : SessionUser} (h : getUser request = some user) :
    trim user.userId = user.userId ∧ user.userId ≠ "" := by
  obtain ⟨v, -, htrim, hne⟩ := toSessionNonEmptyString_eq_some.mp (getUser_eq_some.mp h)
  refine ⟨?_, hne⟩
  rw [← htrim, trim_trim]

theorem metadataSet_eq_ok {wire : GrpcWire} {key value : String} {metadata metadata' : Metadata} :
    metadataSet wire key value metadata = .ok metadata' ↔
      ∃ w, wire.deliver value = some w ∧ metadata' = Function.update metadata key [w] := by
  unfold metadataSet
  cases wire.deliver value <;> simp [eq_comm]

/-- The metadata of a user has one entry for it, the user as it was. -/
theorem createMetadataObject_entry {wire : GrpcWire} {requestId userId : String}
    {metadata : Metadata} (htrim : trim userId = userId) (hne : userId ≠ "")
    (h : createMetadataObject wire requestId userId = .ok metadata) :
    metadata metadataKeyUserID = [userId] ∧ wire.deliver userId = some userId := by
  have hkeys : metadataKeyUserID ≠ metadataKeyRequestID := by decide
  unfold createMetadataObject at h
  rw [if_pos hne] at h
  obtain ⟨withUser, huser, hrequest⟩ := Throw.except_bind_eq_ok.mp h
  obtain ⟨w, hw, rfl⟩ := metadataSet_eq_ok.mp huser
  obtain ⟨w', -, rfl⟩ := metadataSet_eq_ok.mp hrequest
  obtain rfl := wire.deliver_trimmed hne htrim hw
  rw [Function.update_of_ne hkeys, Function.update_self]
  exact ⟨rfl, hw⟩

/-- What the server finds in the metadata: the user as it was, or no entry for an
anonymous call. -/
theorem createMetadataObject_user {wire : GrpcWire} {requestId userId : String}
    {metadata : Metadata} (htrim : trim userId = userId)
    (h : createMetadataObject wire requestId userId = .ok metadata) :
    first (metadata metadataKeyUserID) = userId ∧
      (userId ≠ "" → wire.deliver userId = some userId) := by
  by_cases hempty : userId = ""
  · have hkeys : metadataKeyUserID ≠ metadataKeyRequestID := by decide
    unfold createMetadataObject at h
    rw [if_neg (by simp [hempty])] at h
    obtain ⟨w, -, rfl⟩ := metadataSet_eq_ok.mp h
    rw [Function.update_of_ne hkeys, hempty]
    exact ⟨rfl, fun hne => absurd rfl hne⟩
  · obtain ⟨hentry, hdelivers⟩ := createMetadataObject_entry htrim hempty h
    rw [hentry]
    exact ⟨rfl, fun _ => hdelivers⟩

/-- With ids that the wire accepts there is a metadata object. -/
theorem createMetadataObject_ok {wire : GrpcWire} {requestId userId : String}
    (hrequest : (wire.deliver requestId).isSome) (huser : (wire.deliver userId).isSome) :
    ∃ metadata, createMetadataObject wire requestId userId = .ok metadata := by
  obtain ⟨w, hw⟩ := Option.isSome_iff_exists.mp huser
  obtain ⟨w', hw'⟩ := Option.isSome_iff_exists.mp hrequest
  unfold createMetadataObject metadataSet
  rw [hw, hw']
  split_ifs <;> exact ⟨_, rfl⟩

/-! ## The caller -/

/-- The caller is the trimmed subject, when the wire accepts it as a metadata value. -/
theorem actsAs_iff {wire : GrpcWire} {subject userID : String} :
    ActsAs wire subject userID ↔
      trim subject ≠ "" ∧ userID = trim subject ∧ wire.deliver (trim subject) = some userID := by
  constructor
  · rintro ⟨login, later, session, user, requestId, fresh, metadata, context, hlogin, hlater, huser,
      hmetadata, hcontext, huserID⟩
    obtain ⟨hblank, hcookie⟩ := createUserSessionCookie_eq_ok.mp hlogin
    injection hcookie with hsession
    subst hsession
    have huserId : user.userId = trim subject := by
      have h := getUser_eq_some.mp huser
      rw [hlater, Session.set_apply, if_pos rfl,
        toSessionNonEmptyString_str (by rwa [trim_trim]), trim_trim] at h
      exact (Option.some.inj h).symm
    have hnormal : (normalizeCallContext fresh ⟨requestId, some user.userId⟩).userId =
        trim subject := by
      rw [huserId]
      exact trim_trim subject
    rw [hnormal] at hmetadata
    obtain ⟨hfirst, hdelivers⟩ := createMetadataObject_user (trim_trim subject) hmetadata
    rw [unaryContextInterceptor_eq] at hcontext
    obtain rfl : incoming metadata = context := by injection hcontext
    have hid : userID = trim subject := by
      rw [← hfirst, ← incoming_userID, huserID]
    refine ⟨hblank, hid, ?_⟩
    rw [hid]
    exact hdelivers hblank
  · rintro ⟨hblank, rfl, hdelivers⟩
    have hrequest : wire.deliver "request" = some "request" :=
      wire.deliver_ascii (by decide) (by decide) (by decide)
    have hstored : toSessionNonEmptyString (some (.str (trim subject))) = some (trim subject) := by
      rw [toSessionNonEmptyString_str (by rwa [trim_trim]), trim_trim]
    have hnormal : (normalizeCallContext "" ⟨some "request", some (trim subject)⟩).userId =
        trim subject := trim_trim subject
    obtain ⟨metadata, hmetadata⟩ :
        ∃ metadata, createMetadataObject wire "request" (trim subject) = .ok metadata :=
      createMetadataObject_ok (by rw [hrequest]; rfl) (by rw [hdelivers]; rfl)
    have hfirst := (createMetadataObject_user (trim_trim subject) hmetadata).1
    refine ⟨⟨"", "", "", [], none, none, .empty, none⟩,
      ⟨"", "", "", [], none, none, Session.empty.set .userId (trim subject), none⟩,
      (clearPendingOidcAuthOnSession .empty).set .userId (trim subject), ⟨trim subject⟩,
      some "request", "", metadata, incoming metadata,
      createUserSessionCookie_eq_ok.mpr ⟨hblank, rfl⟩, by simp, ?_, by rw [hnormal]; exact hmetadata,
      unaryContextInterceptor_eq _ _, ?_⟩
    · exact getUser_eq_some.mpr (by simpa using hstored)
    · rw [Context.userID, incoming, hfirst, if_pos hblank]
      simp [hblank]

end Client

end HistoryQuiz
