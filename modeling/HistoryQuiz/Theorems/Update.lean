import HistoryQuiz.Logic.Content

/-!
# Updates of a question

* `updateQuestion_iff_unanswered`: an update of an own question with a valid
  draft takes effect exactly when nobody has answered the question. The foreign
  key of `attempts` restricts the deletion of the old choices, so after the first
  recorded answer no update succeeds (`updateQuestion_answered`).
-/

namespace HistoryQuiz

open Relational Effect

variable {io : UuidReaders}

/-- The update of an own question that is not deleted comes down to its
transaction. -/
theorem run_updateQuestion (io : UuidReaders) {db : Db} {r : QuestionRow} (hr : r ∈ db.questions)
    (hactive : r.deletedAt = none) (hauthor : r.authorUserId ≠ "")
    (hstorable : storable r.authorUserId = true) {draft : QuestionDraft}
    (hdraft : QuestionUsecase.validateDraft draft = none) {τ : ℕ → OpTick} (hquiet : QuietStmts τ) :
    (QuestionUsecase.updateQuestion io r.authorUserId r.id.text draft).run (DbOp.exec io) τ db =
      withTx io (QuestionRepository.updateQuestionTx r.authorUserId r.id.text draft) (τ 2) db := by
  have huser : r.authorUserId ∈ db.users.map UserRow.id := by
    obtain ⟨user, huser, hid⟩ := db.constraints.questionsAuthor r hr
    exact List.mem_map.mpr ⟨user, huser, hid⟩
  unfold QuestionUsecase.updateQuestion
  rw [if_neg hauthor, if_neg (Uuid.text_ne_empty _), if_neg (by simp), hdraft]
  dsimp only
  rw [Prog.bind_eq, QuestionRepository.getQuestionAuthor, Prog.bind_eq, Prog.bind_assoc,
    run_query_bind, exec_selectQuestionAuthor (hquiet 0) hr (io.cast_text _)]
  simp only [hactive, Option.isSome_none, Prog.pure_eq, Prog.ret_bind, Bool.false_eq_true, if_false,
    ne_eq, not_true_eq_false]
  rw [Prog.bind_eq, UserRepository.ensureUserExists, if_neg hauthor, Prog.bind_eq, Prog.bind_assoc,
    run_query_bind, exec_insertUser_mem (hquiet.later 1 0) hstorable huser]
  exact run_inTx io _ _ db

/-! ## When an update takes effect -/

/-- The update succeeds, the author reads the draft back, and every recorded
attempt is still there. -/
def UpdateTakesEffect (io : UuidReaders) (u questionID : String) (draft : QuestionDraft)
    (τ τ' : ℕ → OpTick) (db : Db) : Prop :=
  ∃ detail db', (Call.updateQuestion u questionID draft).perform io τ db =
      (.ok (.detail detail), db') ∧
    (∃ stored, (Call.getMyQuestion u questionID).perform io τ' db' = (.ok (.detail stored), db') ∧
      stored.Shows draft) ∧
    db'.attempts = db.attempts

/-- For every reachable state, every question that is not deleted and every valid
draft: the update of its author takes effect exactly when no attempt refers to
the question. -/
theorem updateQuestion_iff_unanswered {db : Db} (hdb : Reachable io db) {r : QuestionRow}
    (hr : r ∈ db.questions) (hactive : r.deletedAt = none) {draft : QuestionDraft}
    (hdraft : QuestionUsecase.validateDraft draft = none) (htext : draft.Storable)
    {τ τ' : ℕ → OpTick} (hquiet : ∀ n, (τ n).Quiet) (hquiet' : ∀ n, (τ' n).Quiet)
    (hfresh : ∀ n, (τ n).Fresh db) :
    UpdateTakesEffect io r.authorUserId r.id.text draft τ τ' db ↔
      ∀ a ∈ db.attempts, a.questionId ≠ r.id := by
  obtain ⟨hauthor, hstorable⟩ := hdb.wellFormed.authors r hr
  have hstmts : QuietStmts τ := fun n => (hquiet n).first
  have hrun := run_updateQuestion io hr hactive hauthor hstorable hdraft hstmts
  constructor
  · rintro ⟨detail, db', hperform, -⟩
    obtain ⟨stored, db₁, hupdate, -⟩ := Prog.run_bind_eq_ok.mp hperform
    rw [hrun] at hupdate
    obtain ⟨q, hq⟩ := updateQuestionTx_ok hupdate
    have hcast := hq.cast
    rw [io.cast_text, Option.some.injEq] at hcast
    rw [hcast]
    exact hq.unanswered
  · intro hfree
    have hvalid := validateDraft_eq_none.mp hdraft
    obtain ⟨detail, db', htx⟩ := updateQuestionTx_total (io.cast_text r.id) (hquiet 2) hstorable
      htext ⟨r, hr, rfl, rfl, hactive⟩ hfree hvalid.four hvalid.correctOrdinal
      ((hfresh 2).unique_id hvalid.four)
    obtain ⟨q, hq⟩ := updateQuestionTx_ok htx
    have hcast := hq.cast
    rw [io.cast_text, Option.some.injEq] at hcast
    subst hcast
    obtain ⟨stored, hread, -, hshows⟩ := hq.stores.perform_getMyQuestion hq.own_after hauthor
      hstorable (Uuid.text_ne_empty _) (by simp) (io.cast_text _)
      (fun n => (hquiet' n).first : QuietStmts τ')
    refine ⟨detail, db', ?_, ⟨stored, hread, hshows⟩, ?_⟩
    · exact (Prog.run_bind_ok (hrun.trans htx) _)
    · obtain ⟨c, -, -, -, htables⟩ := hq.committed
      rw [htables]
      rfl

/-! ### An answered question -/

def sampleDraft : QuestionDraft where
  prompt := "鎌倉幕府を開いたのは？"
  choices := ["源頼朝", "足利尊氏", "徳川家康", "平清盛"]
  correctOrdinal := 0
  explanation := ""

/-- The same question with another right choice. -/
def otherKeyDraft : QuestionDraft := { sampleDraft with correctOrdinal := 2 }

/-- The id of the question that Alice creates. -/
def sampleQuestion : Uuid := (countedUuid 0).value

/-- Alice has created a question. -/
def createdStore : Db :=
  ((Call.createQuestion "alice" sampleDraft).perform documentedReaders (calm 1 0) (seeded 0)).2

/-- Bob has answered it. -/
def answeredStore : Db :=
  ((Call.submitAnswer "bob" sampleQuestion.text (countedUuid 1).value.text).perform
    documentedReaders (calm 2 8) createdStore).2

theorem reachable_createdStore : Reachable documentedReaders createdStore :=
  ⟨0, .single (.call _ _ trivial)⟩

theorem reachable_answeredStore : Reachable documentedReaders answeredStore :=
  ⟨0, .tail (.single (.call _ _ trivial)) (.call _ _ trivial)⟩

/-- The row of Alice's question, as she created it. -/
def sampleRow : QuestionRow where
  id := sampleQuestion
  authorUserId := "alice"
  prompt := "鎌倉幕府を開いたのは？"
  explanation := none
  createdAt := 1
  updatedAt := 1
  deletedAt := none

theorem quiet_calm (now : Timestamp) (uuid n : ℕ) : (calm now uuid n).Quiet :=
  ⟨rfl, fun _ => rfl, rfl⟩

theorem storable_sampleDraft : sampleDraft.Storable :=
  ⟨by decide +kernel, by decide +kernel, by decide +kernel⟩

/-- Alice's valid update of her answered question fails. -/
theorem updateQuestion_answered :
    Reachable documentedReaders answeredStore ∧ sampleRow ∈ answeredStore.questions ∧
      sampleRow.deletedAt = none ∧ QuestionUsecase.validateDraft sampleDraft = none ∧
      sampleDraft.Storable ∧ (∀ n, (calm 3 16 n).Quiet) ∧ (∀ n, (calm 3 16 n).Fresh answeredStore) ∧
      ∀ detail, ((Call.updateQuestion "alice" sampleQuestion.text sampleDraft).perform
        documentedReaders (calm 3 16) answeredStore).1 ≠ .ok (.detail detail) := by
  refine ⟨reachable_answeredStore, by decide +kernel, rfl, by decide +kernel, storable_sampleDraft,
    quiet_calm 3 16,
    fun _ => (⟨by decide +kernel, by decide +kernel⟩ : (calm 3 16 0).Fresh answeredStore), ?_⟩
  intro detail hok
  have hfails : ((Call.updateQuestion "alice" sampleQuestion.text sampleDraft).perform
      documentedReaders (calm 3 16) answeredStore).1.isOk = false := by decide +kernel
  rw [hok] at hfails
  exact Bool.noConfusion hfails

/-- The same update before Bob's answer takes effect. -/
theorem updateQuestion_iff_unanswered_created :
    UpdateTakesEffect documentedReaders "alice" sampleQuestion.text sampleDraft (calm 3 16)
      (calm 4 24) createdStore :=
  (updateQuestion_iff_unanswered (r := sampleRow) reachable_createdStore (by decide +kernel) rfl
    (by decide +kernel) storable_sampleDraft (quiet_calm 3 16) (quiet_calm 4 24)
    (fun _ => (⟨by decide +kernel, by decide +kernel⟩ : (calm 3 16 0).Fresh createdStore))).mpr
    (by decide +kernel)

end HistoryQuiz
