import HistoryQuiz.Logic.Accounts
import HistoryQuiz.Theorems.Isolation

/-!
# Accounts

* `accounts_apart_iff`: two subjects get accounts that have nothing to do with each other
  exactly when they still differ after trimming, or when no call of theirs can be sent. The
  subject `" alice"` gets the account of `"alice"` (`accounts_shared`).
* `system_kept`: the questions of `system`, the author of the seeded questions, stay as
  they are as long as nobody logs in with this subject. No name is reserved, so who does
  can edit them (`system_taken_over`).
-/

namespace HistoryQuiz

namespace Client

open Js Throw Relational Effect

variable {io : UuidReaders} {wire : GrpcWire}

/-! ## Distinct subjects -/

/-- Nothing that `u` does changes what `v` sees, and the own reads of `u` show no row of
`v`. -/
structure Apart (io : UuidReaders) (u v : String) : Prop where
  ne : u ≠ v
  edits : ∀ md, first (md metadataKeyUserID) = u → ∀ req (τ : ℕ → OpTick) db,
    SameView v db ((serve io md req).run (DbOp.exec io) τ db).2
  questions : ∀ pageSize τ qs token db db',
    (Call.listMyQuestions u pageSize).perform io τ db = (.ok (.questions qs token), db') →
      ∀ s ∈ qs, ∃ r ∈ db.questions, r.authorUserId ≠ v ∧ s = ⟨r.id.text, r.prompt, r.updatedAt⟩
  question : ∀ questionID τ detail db db',
    (Call.getMyQuestion u questionID).perform io τ db = (.ok (.detail detail), db') →
      ∃ r ∈ db.questions, io.cast questionID = some r.id ∧ r.authorUserId ≠ v ∧
        r.Detailed db detail
  attempts : ∀ pageSize τ attempts token db db',
    (Call.listMyAttempts u pageSize).perform io τ db = (.ok (.attempts attempts token), db') →
      ∀ a ∈ attempts, ∃ row ∈ db.attempts, ∃ r ∈ db.questions, row.userId ≠ v ∧
        r.id = row.questionId ∧ a = toAttempt (row, r)
  stats : ∀ (τ : ℕ → OpTick) db db',
    (db'.attempts.filter fun a => a.userId != v) = (db.attempts.filter fun a => a.userId != v) →
      ((Call.getMyStats u).perform io τ db').1 = ((Call.getMyStats u).perform io τ db).1

/-- Two different users are apart. -/
theorem Apart.of_ne {u v : String} (h : u ≠ v) : Apart io u v where
  ne := h
  edits md hmd req τ db := serve_sameView (hmd.symm ▸ h) req τ db
  questions pageSize τ qs token db db' hperform s hs := by
    obtain ⟨r, hr, hauthor, -, hshown⟩ := perform_listMyQuestions_ok hperform s hs
    exact ⟨r, hr, hauthor.symm ▸ h, hshown⟩
  question questionID τ detail db db' hperform := by
    obtain ⟨-, r, hr, hid, hauthor, -, hdetail⟩ := perform_getMyQuestion_ok hperform
    exact ⟨r, hr, hid, hauthor.symm ▸ h, hdetail⟩
  attempts pageSize τ attempts token db db' hperform a ha := by
    obtain ⟨row, hrow, r, hr, huser, hid, hshown⟩ := perform_listMyAttempts_own hperform a ha
    exact ⟨row, hrow, r, hr, huser.symm ▸ h, hid, hshown⟩
  stats τ db db' hothers := by
    have hown : (db'.attempts.filter fun a => a.userId == u) =
        db.attempts.filter fun a => a.userId == u := by
      have hfilter := congrArg (List.filter fun a : AttemptRow => a.userId == u) hothers
      have hkeep : ∀ a : AttemptRow, (a.userId == u && a.userId != v) = (a.userId == u) := by
        intro a
        by_cases ha : a.userId = u <;> simp [ha, h]
      simpa only [List.filter_filter, hkeep] using hfilter
    exact (agrees_getMyStats hown).map _ τ

/-- For every two subjects that `validateIdTokenClaims` accepts: whatever callers the
backend works with for them, these are different and apart from each other, if and only if
the subjects differ after trimming, or the first of them cannot be sent. -/
theorem accounts_apart_iff (io : UuidReaders) (wire : GrpcWire) {subject subject' : String}
    (h : Accepted subject) (h' : Accepted subject') :
    (∀ u v, ActsAs wire subject u → ActsAs wire subject' v → Apart io u v ∧ Apart io v u) ↔
      trim subject ≠ trim subject' ∨ wire.deliver (trim subject) = none := by
  have hblank := accepted_iff.mp h
  have hblank' := accepted_iff.mp h'
  constructor
  · intro hapart
    by_contra hshared
    rw [not_or, not_not, Option.eq_none_iff_forall_ne_some] at hshared
    obtain ⟨hsame, hsent⟩ := hshared
    obtain ⟨w, hw⟩ := not_forall_not.mp hsent
    -- the wire delivers the trimmed subject, which is the caller for both
    obtain rfl := wire.deliver_trimmed hblank (trim_trim subject) hw
    have hacts : ActsAs wire subject (trim subject) := actsAs_iff.mpr ⟨hblank, rfl, hw⟩
    have hacts' : ActsAs wire subject' (trim subject) :=
      actsAs_iff.mpr ⟨hblank', hsame, by rw [← hsame]; exact hw⟩
    exact (hapart _ _ hacts hacts').1.ne rfl
  · intro hcondition u v hu hv
    obtain ⟨-, rfl, hsent⟩ := actsAs_iff.mp hu
    obtain ⟨-, rfl, -⟩ := actsAs_iff.mp hv
    rcases hcondition with hne | hunsent
    · exact ⟨.of_ne hne, .of_ne hne.symm⟩
    · cases hunsent.symm.trans hsent

/-- Alice and Bob have accounts of their own. -/
theorem accounts_apart_alice_bob :
    ActsAs grpcJs "alice" "alice" ∧ ActsAs grpcJs "bob" "bob" ∧
      Apart documentedReaders "alice" "bob" ∧ Apart documentedReaders "bob" "alice" := by
  have halice : ActsAs grpcJs "alice" "alice" := actsAs_iff.mpr ⟨by decide, by decide, by decide⟩
  have hbob : ActsAs grpcJs "bob" "bob" := actsAs_iff.mpr ⟨by decide, by decide, by decide⟩
  exact ⟨halice, hbob, (accounts_apart_iff documentedReaders grpcJs (accepted_iff.mpr (by decide))
    (accepted_iff.mpr (by decide))).mpr (.inl (by decide)) _ _ halice hbob⟩

/-- The subject `alice` and the same with a space before it share one account. -/
theorem accounts_shared :
    Accepted "alice" ∧ Accepted " alice" ∧ "alice" ≠ " alice" ∧
      ActsAs grpcJs "alice" "alice" ∧ ActsAs grpcJs " alice" "alice" :=
  ⟨accepted_iff.mpr (by decide), accepted_iff.mpr (by decide), by decide,
    actsAs_iff.mpr ⟨by decide, by decide, by decide⟩,
    actsAs_iff.mpr ⟨by decide, by decide, by decide⟩⟩

/-! ## The seeded author -/

/-- The users that logins have put into sessions, and the database. -/
structure World where
  userIds : List String
  db : Db

/-- A login of a subject that `Subject` admits, or a call that the server receives: with the
metadata that the client makes for a user whom a login has put into the session of the request, or
for nobody. -/
inductive World.Step (wire : GrpcWire) (io : UuidReaders) (Subject : String → Prop) :
    World → World → Prop
  | login (w : World) (request : Request) (subject : String) (session : Session) (userId : String)
      (hsubject : Subject subject)
      (hcookie : createUserSessionCookie request subject = .ok (.commitSession session))
      (huser : session .userId = some (.str userId)) :
      Step wire io Subject w { w with userIds := userId :: w.userIds }
  | rpc (w : World) (request : Request) (callContext : GrpcCallContext) (fresh : String)
      (metadata : Metadata) (τ : ℕ → OpTick) (message : HistoryQuiz.Request)
      (hsession : ∀ value, request.session .userId = some value → ∃ u ∈ w.userIds, value = .str u)
      (huser : callContext.userId = (getUser request).map SessionUser.userId)
      (hmetadata : createMetadataObject wire (normalizeCallContext fresh callContext).requestId
        (normalizeCallContext fresh callContext).userId = .ok metadata) :
      Step wire io Subject w { w with db := (grpcServer io τ metadata message w.db).2 }

/-- A sequence of logins and calls. -/
abbrev World.Steps (wire : GrpcWire) (io : UuidReaders) (Subject : String → Prop) :
    World → World → Prop :=
  Relation.ReflTransGen (World.Step wire io Subject)

/-- The users of a world come from subjects other than `u`, and the view of `u` is that of
`db`. -/
structure World.Spares (u : String) (db : Db) (w : World) : Prop where
  users : ∀ userId ∈ w.userIds, trim userId ≠ u
  view : SameView u db w.db

/-- A step spares `u` when no login is one of `u`. -/
theorem World.Spares.step {Subject : String → Prop} {u : String} (hu : u ≠ "")
    (hsubject : ∀ subject, Subject subject → trim subject ≠ u) {db : Db} {w w' : World}
    (h : w.Spares u db) (hstep : Step wire io Subject w w') : w'.Spares u db := by
  cases hstep with
  | login request subject session userId hadmitted hcookie huser =>
      refine ⟨?_, h.view⟩
      obtain ⟨-, hsession⟩ := createUserSessionCookie_eq_ok.mp hcookie
      injection hsession with hsession
      rw [hsession, Session.set_apply, if_pos rfl] at huser
      injection huser with huser
      injection huser with huser
      rintro userId' (_ | ⟨_, hmem⟩)
      · rw [← huser, trim_trim]
        exact hsubject subject hadmitted
      · exact h.users userId' hmem
  | rpc request callContext fresh metadata τ message hsession huser hmetadata =>
      refine ⟨h.users, ?_⟩
      have hcaller : trim (normalizeCallContext fresh callContext).userId =
            (normalizeCallContext fresh callContext).userId ∧
          (normalizeCallContext fresh callContext).userId ≠ u := by
        unfold normalizeCallContext
        rw [huser]
        cases hget : getUser request with
        | none => exact ⟨rfl, hu.symm⟩
        | some user =>
            obtain ⟨v, hv, htrim, -⟩ := toSessionNonEmptyString_eq_some.mp (getUser_eq_some.mp hget)
            obtain ⟨userId, hmem, hvalue⟩ := hsession _ hv
            injection hvalue with hvalue
            refine ⟨trim_trim _, ?_⟩
            change trim user.userId ≠ u
            rw [(trim_getUser hget).1, ← htrim, hvalue]
            exact h.users userId hmem
      have hfirst := (createMetadataObject_user hcaller.1 hmetadata).1
      exact h.view.trans (serve_sameView (hfirst.symm ▸ hcaller.2) message τ w.db)

theorem World.Spares.steps {Subject : String → Prop} {u : String} (hu : u ≠ "")
    (hsubject : ∀ subject, Subject subject → trim subject ≠ u) {db : Db} {w w' : World}
    (h : w.Spares u db) (hsteps : Steps wire io Subject w w') : w'.Spares u db := by
  induction hsteps with
  | refl => exact h
  | tail _ hstep ih => exact ih.step hu hsubject hstep

/-- For every sequence of logins with accepted subjects other than `system`, and of calls
by the users whom these put into sessions: the questions of `system` are the same rows in
the same order, so none is created, and their choices and keys are the same. -/
theorem system_kept (wire : GrpcWire) (io : UuidReaders) (db : Db) {w : World}
    (hsteps : World.Steps wire io (fun subject => Accepted subject ∧ trim subject ≠ "system")
      ⟨[], db⟩ w) :
    (w.db.questions.filter fun q => q.authorUserId == "system") =
      (db.questions.filter fun q => q.authorUserId == "system") ∧
    (∀ r ∈ w.db.questions, r.authorUserId = "system" → r ∈ db.questions) ∧
    ∀ r ∈ db.questions, r.authorUserId = "system" →
      r ∈ w.db.questions ∧ w.db.choicesOf r.id = db.choicesOf r.id ∧
        (w.db.answerKeys.filter fun k => k.questionId = r.id) =
          db.answerKeys.filter fun k => k.questionId = r.id := by
  have hspares : w.Spares "system" db :=
    World.Spares.steps (by decide) (fun _ h => h.2)
      ⟨fun _ hmem => absurd hmem List.not_mem_nil, .refl "system" db⟩ hsteps
  have hview := hspares.view
  refine ⟨hview.questions, ?_, ?_⟩
  · intro r hr hauthor
    exact (hview.mem_questions hauthor).mp hr
  · intro r hr hauthor
    exact ⟨(hview.mem_questions hauthor).mpr hr, hview.choices r hr hauthor,
      hview.answerKeys r hr hauthor⟩

/-- A request whose session holds `userId`. -/
def requestOf (userId : String) : Request where
  origin := "https://quiz.example"
  pathname := "/questions"
  search := ""
  searchParams := []
  contentLength := none
  xRequestId := none
  session := Session.empty.set .userId userId
  formData := none

/-- The metadata of a call by `userId`. -/
def metadataOf (userId : String) : Metadata :=
  Function.update (Function.update (fun _ => []) metadataKeyUserID [userId]) metadataKeyRequestID
    ["call"]

/-- The seeded database after a login of `userId` and a call of theirs. -/
def worldAfter (userId : String) (message : HistoryQuiz.Request) : World where
  userIds := [userId]
  db := (grpcServer documentedReaders (calm 1 0) (metadataOf userId) message (seeded 0)).2

theorem steps_worldAfter {Subject : String → Prop} {userId : String} (hsubject : Subject userId)
    (htrim : trim userId = userId) (hne : userId ≠ "")
    (hascii : userId.toList.all isPrintableAscii = true) (message : HistoryQuiz.Request) :
    World.Steps grpcJs documentedReaders Subject ⟨[], seeded 0⟩ (worldAfter userId message) := by
  have hlogin : World.Step grpcJs documentedReaders Subject ⟨[], seeded 0⟩
      ⟨[userId], seeded 0⟩ := by
    refine .login ⟨[], seeded 0⟩ (requestOf "") userId _ userId hsubject
      (createUserSessionCookie_eq_ok.mpr ⟨by rwa [htrim], rfl⟩) ?_
    rw [Session.set_apply, if_pos rfl, htrim]
  have huser : getUser (requestOf userId) = some ⟨userId⟩ := by
    rw [getUser_eq_some, show (requestOf userId).session .userId = some (.str userId) from rfl,
      toSessionNonEmptyString_str (by rwa [htrim]), htrim]
  have hmetadata : createMetadataObject grpcJs "call" userId = .ok (metadataOf userId) := by
    have hset : metadataSet grpcJs metadataKeyUserID userId (fun _ => []) =
        .ok (Function.update (fun _ => []) metadataKeyUserID [userId]) :=
      metadataSet_eq_ok.mpr ⟨userId, grpcJs.deliver_ascii hne htrim hascii, rfl⟩
    unfold createMetadataObject
    rw [if_pos hne, hset]
    rfl
  have hrpc : World.Step grpcJs documentedReaders Subject ⟨[userId], seeded 0⟩
      (worldAfter userId message) := by
    refine .rpc ⟨[userId], seeded 0⟩ (requestOf userId) ⟨none, some userId⟩ "call"
      (metadataOf userId) (calm 1 0) message ?_ (by rw [huser]; rfl) ?_
    · intro value hvalue
      exact ⟨userId, List.mem_singleton.mpr rfl, (Option.some.inj hvalue).symm⟩
    · change createMetadataObject grpcJs "call" (trim userId) = _
      rw [htrim]
      exact hmetadata
  exact .tail (.single hlogin) hrpc

/-- The update that replaces the first seeded question. -/
def takeover : HistoryQuiz.Request := .updateQuestion none (0x1 : Uuid).text (some sampleDraft)

/-- Who logs in with the subject `system` can edit the seeded questions. -/
theorem system_taken_over :
    World.Steps grpcJs documentedReaders Accepted ⟨[], seeded 0⟩ (worldAfter "system" takeover) ∧
    ∃ r ∈ (seeded 0).questions, r.authorUserId = "system" ∧
      r ∉ (worldAfter "system" takeover).db.questions := by
  refine ⟨steps_worldAfter (accepted_iff.mpr (by decide)) (by decide) (by decide) (by decide)
    takeover, ?_⟩
  decide +kernel

/-- Alice cannot. -/
theorem system_kept_alice :
    ((worldAfter "alice" takeover).db.questions.filter fun q => q.authorUserId == "system") =
      (seeded 0).questions.filter fun q => q.authorUserId == "system" :=
  (system_kept grpcJs documentedReaders (seeded 0) (steps_worldAfter
    ⟨accepted_iff.mpr (by decide), by decide⟩ (by decide) (by decide) (by decide) takeover)).1

end Client

end HistoryQuiz
