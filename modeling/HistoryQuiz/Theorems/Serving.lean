import HistoryQuiz.Logic.Quiz
import HistoryQuiz.Theorems.Update

/-!
# Which question is served

* `getQuestion_stored_iff`: `GetQuestion` serves a stored question exactly when one
  is by the system user or is not the previous one. The second round of candidates
  is chosen by a list that the previous question was excluded from, so the only
  question of another user is not offered again: the default set is served
  (`getQuestion_default`).
-/

namespace HistoryQuiz

open Relational Effect QuestionRepository QuizUsecase

variable {io : UuidReaders}

/-- A previous id that is no id, or that PostgreSQL cannot take as a text, is refused. The error
depends on nothing but whether the first query fails. -/
theorem run_getQuestion_refused (io : UuidReaders) {previous : String}
    (h : (previous ≠ "" ∧ (io.parse previous).isNone) ∨ storable previous = false)
    (requestID : String) : ∃ e : Bool → GoError, ∀ τ db,
      ((getQuestion io requestID previous).run (DbOp.exec io) τ db).1 =
        .error (e (τ 0).first.fault) := by
  unfold getQuestion
  by_cases hinvalid : previous ≠ "" ∧ (io.parse previous).isNone
  · rw [if_pos hinvalid]
    exact ⟨fun _ => _, fun τ db => rfl⟩
  · have hprevious := h.resolve_left hinvalid
    rw [if_neg hinvalid]
    refine ⟨fun fault => internal "出題候補の取得に失敗しました"
      (.wrap "select candidates" (.driver (if fault then .unavailable else .invalidText))), ?_⟩
    intro τ db
    have hexec : PoolStmt.exec io (.selectCandidates .nonSystem previous) (τ 0).first db =
        ((τ 0).first.answer (.error .invalidText), db) := by
      have hselect : selectCandidates db .nonSystem previous (τ 0).first = .error .invalidText := by
        unfold selectCandidates
        rw [hprevious]
        rfl
      rw [PoolStmt.exec, hselect]
      exact Tick.guard_read ..
    unfold listQuizCandidateNonSystemQuestionIDs listQuizCandidates
    simp only [Prog.bind_eq, Prog.bind_assoc]
    rw [run_query_bind, hexec]
    unfold Tick.answer
    cases (τ 0).first.fault <;> rfl

/-- A previous id that PostgreSQL cannot take as a text is reported as a failure. -/
theorem post_getQuestion_unstorable {db : Db} {previous : String}
    (hprevious : storable previous = false) (requestID : String) :
    (getQuestion io requestID previous).Post (DbOp.exec io) OpTick.QuietStmt db
      fun x _ => ∀ q, x ≠ .ok q := by
  obtain ⟨e, he⟩ := run_getQuestion_refused io (.inr hprevious) requestID
  intro τ _ q hq
  rw [he] at hq
  cases hq

theorem perform_getQuestion (requestID previous : String) (τ : ℕ → OpTick) (db : Db) :
    (Call.getQuestion requestID previous).perform io τ db =
      (((getQuestion io requestID previous).run (DbOp.exec io) τ db).1.map Reply.question,
        ((getQuestion io requestID previous).run (DbOp.exec io) τ db).2) :=
  Prog.run_bind_ret ..

/-- The id of the question that a call has returned. -/
def servedID : Except GoError Reply → Option String
  | .ok (.question q) => some q.id
  | _ => none

theorem servedID_eq_some {x : Except GoError Reply} {id : String} :
    servedID x = some id ↔ ∃ q, x = .ok (.question q) ∧ q.id = id := by
  constructor
  · intro h
    cases x with
    | error e => cases h
    | ok reply =>
        cases reply with
        | question q => exact ⟨q, rfl, Option.some.inj h⟩
        | _ => cases h
  · rintro ⟨q, rfl, rfl⟩
    rfl

/-- For every state, request id and valid previous id, with nothing failing and
nothing changing: the served question is a stored one that is not deleted exactly
when one is on offer. -/
theorem getQuestion_stored_iff (db : Db) (requestID : String) {previous : String}
    (hvalid : previous = "" ∨ (io.parse previous).isSome) {τ : ℕ → OpTick}
    (hquiet : QuietStmts τ) :
    (∃ r ∈ db.questions, r.deletedAt = none ∧
      (Call.getQuestion requestID previous).perform io τ db =
        (.ok (.question (r.served db)), db)) ↔
      storable previous = true ∧ ∃ r ∈ db.questions, r.deletedAt = none ∧
        (r.authorUserId = "system" ∨ r.id.text ≠ previous) := by
  rw [perform_getQuestion]
  cases hprevious : storable previous with
  | false =>
      have hfails : ∀ q, ((getQuestion io requestID previous).run (DbOp.exec io) τ db).1 ≠ .ok q :=
        post_getQuestion_unstorable hprevious requestID τ hquiet
      constructor
      · rintro ⟨r, -, -, h⟩
        cases hrun : ((getQuestion io requestID previous).run (DbOp.exec io) τ db).1 with
        | error e =>
            rw [hrun] at h
            cases h
        | ok q => exact absurd hrun (hfails q)
      · rintro ⟨h, -⟩
        cases h
  | true =>
      obtain ⟨hstate, hoffers | ⟨hnot, hdefault⟩⟩ :=
        post_getQuestion_quiet io db hprevious hvalid requestID τ hquiet
      · obtain ⟨hoffers, r, hr, hactive, hserved⟩ := hoffers
        refine ⟨fun _ => ⟨rfl, hoffers⟩, fun _ => ⟨r, hr, hactive, ?_⟩⟩
        rw [hstate, hserved]
        rfl
      · constructor
        · rintro ⟨r, hr, hactive, h⟩
          -- the question of the default set is not the previous one, so it is not `r`
          obtain ⟨q, -, hq, hne⟩ := selectDefaultQuestion_mem requestID previous
          rw [hdefault, hq, Prod.mk.injEq] at h
          have hserved : q = r.served db := Reply.question.inj (Except.ok.inj h.1)
          refine ⟨rfl, r, hr, hactive, .inr ?_⟩
          rw [hserved] at hne
          exact hne
        · rintro ⟨-, h⟩
          exact absurd h hnot

/-- Alice's question is the only one that is not deleted. -/
def alicesStore : Db :=
  createdStore.setDeletedAt 2 (fun r => r.authorUserId == "system") fun _ => some 2

theorem reachable_alicesStore : Reachable documentedReaders alicesStore :=
  ⟨0, .tail (.single (.call _ _ trivial)) (.setDeletedAt _ _ _)⟩

/-- After Alice's question, the only stored one, a question of the default set is
served, and it is not stored. -/
theorem getQuestion_default :
    Reachable documentedReaders alicesStore ∧
      (∃ r ∈ alicesStore.questions, r.deletedAt = none) ∧
      (documentedReaders.parse sampleQuestion.text).isSome ∧ QuietStmts (calm 3 16) ∧
      ∃ q ∈ defaultQuestions,
        (Call.getQuestion "request" sampleQuestion.text).perform documentedReaders (calm 3 16)
          alicesStore = (.ok (.question q), alicesStore) ∧
        ∀ r ∈ alicesStore.questions, r.deletedAt = none → q.id ≠ r.id.text := by
  have hactive : ∀ r ∈ alicesStore.questions, r.deletedAt = none →
      r.authorUserId ≠ "system" ∧ r.id = sampleQuestion := by decide +kernel
  have hvalid : (documentedReaders.parse sampleQuestion.text).isSome := by
    rw [documentedReaders.parse_text]
    rfl
  refine ⟨reachable_alicesStore, by decide +kernel, hvalid, fun _ => rfl, ?_⟩
  have hnot : ¬alicesStore.Offers sampleQuestion.text := by
    rintro ⟨r, hr, hnone, hauthor | hid⟩
    · exact (hactive r hr hnone).1 hauthor
    · exact hid (congrArg Uuid.text (hactive r hr hnone).2)
  obtain ⟨hstate, hoffers | ⟨-, hdefault⟩⟩ :=
    post_getQuestion_quiet documentedReaders alicesStore (by decide +kernel)
      (.inr hvalid) "request" (calm 3 16) fun _ => rfl
  · exact absurd hoffers.1 hnot
  · obtain ⟨q, hq, hok, hne⟩ := selectDefaultQuestion_mem "request" sampleQuestion.text
    refine ⟨q, hq, ?_, ?_⟩
    · rw [perform_getQuestion, hstate, hdefault, hok]
      rfl
    · intro r hr hnone
      rw [(hactive r hr hnone).2]
      exact hne

/-- The migrated database has a question on offer. -/
theorem getQuestion_stored_iff_seeded :
    ∃ r ∈ (seeded 0).questions, r.deletedAt = none ∧
      (Call.getQuestion "request" "").perform documentedReaders (calm 1 0) (seeded 0) =
        (.ok (.question (r.served (seeded 0))), seeded 0) :=
  (getQuestion_stored_iff (seeded 0) "request" (.inl rfl) fun _ => rfl).mpr
    ⟨by decide, by decide +kernel⟩

end HistoryQuiz
