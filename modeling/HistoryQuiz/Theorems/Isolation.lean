import HistoryQuiz.Logic.Requests
import HistoryQuiz.Logic.Views
import HistoryQuiz.Theorems.History
import HistoryQuiz.Theorems.Update

/-!
# Isolation of users

* `user_isolation`: no request of another caller changes what a user reads, and a user
  reads own rows only. The history of a user shows prompts of other users' questions;
  they cannot change, since an answered question can no longer be edited.
* `anonymous_readOnly`: a request without a caller changes nothing, and reaches no use
  case unless its method is open to anonymous callers.
-/

namespace HistoryQuiz

open Relational Effect

variable {io : UuidReaders}

/-- A request of another caller leaves the view of `u` as it is. -/
theorem serve_sameView {u : String} {md : Metadata} (hmd : first (md metadataKeyUserID) ≠ u)
    (req : Request) (τ : ℕ → OpTick) (db : Db) :
    SameView u db ((serve io md req).run (DbOp.exec io) τ db).2 := by
  rcases req.call_userID (incoming md) with hcaller | hcaller
  · have hother : (req.call (incoming md)).userID ≠ u := by
      rw [hcaller, incoming_userID]
      exact hmd
    exact serve_invariant (I := SameView u db)
      (fun _ _ _ hview h => hview.trans (.change hother h)) τ (.refl u db)
  · have hreads : (serve io md req).Uses ReadOp :=
      serve_uses (((req.call (incoming md)).prog_uses io).mono fun _ _ hop => hop.reads hcaller)
    rw [run_of_reads hreads]
    exact .refl u db

/-- For every state, every user `u` and every request of another caller or of none,
whether it succeeds or fails: the own reads of `u` return the same before and after it.
And they show own rows only. -/
theorem user_isolation (io : UuidReaders) (db : Db) (u : String) {md : Metadata}
    (hmd : first (md metadataKeyUserID) ≠ u) (req : Request) (τ : ℕ → OpTick) :
    (∀ c, OwnRead u c → ∀ τ' : ℕ → OpTick,
      (c.perform io τ' ((serve io md req).run (DbOp.exec io) τ db).2).1 =
        (c.perform io τ' db).1) ∧
    (∀ pageSize τ' qs token db',
      (Call.listMyQuestions u pageSize).perform io τ' db = (.ok (.questions qs token), db') →
        ∀ s ∈ qs, ∃ r ∈ db.questions, r.authorUserId = u ∧ r.deletedAt = none ∧
          s = ⟨r.id.text, r.prompt, r.updatedAt⟩) ∧
    (∀ questionID τ' detail db',
      (Call.getMyQuestion u questionID).perform io τ' db = (.ok (.detail detail), db') →
        ∃ r ∈ db.questions, io.cast questionID = some r.id ∧ r.authorUserId = u ∧
          r.deletedAt = none ∧ r.Detailed db detail) ∧
    (∀ pageSize τ' attempts token db',
      (Call.listMyAttempts u pageSize).perform io τ' db = (.ok (.attempts attempts token), db') →
        ∀ a ∈ attempts, ∃ row ∈ db.attempts, ∃ r ∈ db.questions, row.userId = u ∧
          r.id = row.questionId ∧ a = toAttempt (row, r)) ∧
    ∀ τ' s db', (Call.getMyStats u).perform io τ' db = (.ok (.stats s), db') →
      s.totalAttempts = (db.answersOf u).length ∧
        s.correctAttempts = ((db.answersOf u).filter Prod.snd).length := by
  refine ⟨?_, ?_, ?_, ?_, ?_⟩
  · intro c hc τ'
    exact (serve_sameView hmd req τ db).agrees hc τ'
  · intro pageSize τ' qs token db' h
    exact perform_listMyQuestions_ok h
  · intro questionID τ' detail db' h
    exact (perform_getMyQuestion_ok h).2
  · intro pageSize τ' attempts token db' h
    exact perform_listMyAttempts_own h
  · intro τ' s db' h
    obtain ⟨htotal, hcorrect, -⟩ := perform_getMyStats_ok h
    exact ⟨htotal, hcorrect⟩

/-- The metadata of a caller. -/
def callerMetadata (u : String) : Metadata := fun key => if key = metadataKeyUserID then [u] else []

/-- Bob's answer to Alice's question changes nothing that she reads of it. -/
theorem user_isolation_alice :
    ((Call.getMyQuestion "alice" sampleQuestion.text).perform documentedReaders (calm 3 16)
      ((serve documentedReaders (callerMetadata "bob")
        (.submitAnswer none sampleQuestion.text (countedUuid 1).value.text)).run
        (DbOp.exec documentedReaders) (calm 2 8) createdStore).2).1 =
    ((Call.getMyQuestion "alice" sampleQuestion.text).perform documentedReaders (calm 3 16)
      createdStore).1 :=
  (user_isolation documentedReaders createdStore "alice"
    (show first (callerMetadata "bob" metadataKeyUserID) ≠ "alice" by decide)
    (.submitAnswer none sampleQuestion.text (countedUuid 1).value.text) (calm 2 8)).1 _
    (.getMyQuestion _) _

/-! ## Anonymous callers -/

/-- For every request without a caller, or with an empty one: a method other than the two
open ones is refused, whatever its handler, before anything runs; and no request changes
the database, not even one of its statements while others work on it. -/
theorem anonymous_readOnly (io : UuidReaders) {md : Metadata}
    (hmd : md metadataKeyUserID = [] ∨ (md metadataKeyUserID).head? = some "") :
    (∀ {α : Type} (fullMethod : String) (handler : Context → GrpcProg α),
      fullMethod ≠ "/historyquiz.quiz.v1.QuizService/GetQuestion" →
      fullMethod ≠ "/historyquiz.quiz.v1.QuizService/SubmitAnswer" →
      (unaryContextInterceptor false md Context.background fun ctx =>
        unaryRequireAuthByMethodInterceptor allowAnonymous fullMethod ctx handler) =
          .fail ⟨.unauthenticated, "認証が必要です"⟩) ∧
    (∀ req : Request, req.fullMethod ≠ "/historyquiz.quiz.v1.QuizService/GetQuestion" →
      req.fullMethod ≠ "/historyquiz.quiz.v1.QuizService/SubmitAnswer" →
      serve io md req = .fail ⟨.unauthenticated, "認証が必要です"⟩) ∧
    (∀ req (τ : ℕ → OpTick) db, ((serve io md req).run (DbOp.exec io) τ db).2 = db) ∧
    ∀ req (τ : ℕ → (Db → Db) × OpTick) db,
      ∀ x ∈ (serve io md req).ownSteps (DbOp.exec io) τ db, x.2 = x.1 := by
  have hfirst : first (md metadataKeyUserID) = "" := by
    unfold first
    rcases hmd with h | h
    · rw [h]
      rfl
    · rw [List.headD_eq_head?_getD, h]
      rfl
  have hrefused : ∀ {α : Type} (fullMethod : String) (handler : Context → GrpcProg α),
      fullMethod ≠ "/historyquiz.quiz.v1.QuizService/GetQuestion" →
      fullMethod ≠ "/historyquiz.quiz.v1.QuizService/SubmitAnswer" →
      (unaryContextInterceptor false md Context.background fun ctx =>
        unaryRequireAuthByMethodInterceptor allowAnonymous fullMethod ctx handler) =
          .fail ⟨.unauthenticated, "認証が必要です"⟩ := by
    intro α fullMethod handler hget hsubmit
    have hclosed : fullMethod ∉ allowAnonymous := by simp [allowAnonymous, hget, hsubmit]
    rw [unaryContextInterceptor_eq, unaryRequireAuthByMethodInterceptor_eq,
      if_neg (by simp [hclosed, hfirst])]
  refine ⟨hrefused, fun req hget hsubmit => hrefused _ _ hget hsubmit, ?_, ?_⟩
  · intro req τ db
    exact run_of_reads (serve_uses_reads hfirst req) τ db
  · intro req τ db
    refine Prog.ownSteps_of_uses (R := fun before after => after = before) ?_
      (serve_uses_reads hfirst req) τ db
    rintro β op t s ⟨stmt, hs⟩
    exact PoolStmt.exec_reads hs t.first s

/-- An answer without a caller is judged and leaves the seeded database as it is. -/
theorem anonymous_readOnly_submit :
    ((serve documentedReaders (fun _ => [])
      (.submitAnswer none (0x1 : Uuid).text (0x1001 : Uuid).text)).run (DbOp.exec documentedReaders)
      (calm 1 0) (seeded 0)).2 = seeded 0 :=
  (anonymous_readOnly documentedReaders (.inl rfl)).2.2.1 _ _ _

end HistoryQuiz
