import HistoryQuiz.Logic.Quiz

/-!
# How an answer is judged

`SubmitAnswer` compares ids three times: PostgreSQL compares the values that it casts,
the default set is a map from texts, and the verdict compares texts.
`run_submitAnswer` follows the program through its statements, whatever fails, and
shows which of its steps depend on the spelling of an id: two spellings of one id have
the same casts, so only the lookup in the default set and the verdict can differ.
-/

namespace HistoryQuiz

open Relational Effect QuestionRepository QuizUsecase

variable {io : UuidReaders}

/-! ## Spellings -/

/-- The checks of the use case accept the text, and PostgreSQL reads the id `u`. -/
structure Spells (io : UuidReaders) (s : String) (u : Uuid) : Prop where
  nonempty : s ≠ ""
  parse : (io.parse s).isSome
  cast : io.cast s = some u

theorem Spells.accepted {s : String} {u : Uuid} (h : Spells io s u) :
    s ≠ "" ∧ (io.parse s).isSome := ⟨h.nonempty, h.parse⟩

theorem spells_text (io : UuidReaders) (u : Uuid) : Spells io u.text u :=
  ⟨u.text_ne_empty, by rw [io.parse_text]; rfl, io.cast_text u⟩

/-- Only the canonical text of an id is the canonical text of any id. -/
theorem Spells.eq_text {s : String} {u w : Uuid} (h : Spells io s u) (hs : s = w.text) : u = w := by
  have hcast := h.cast
  rw [hs, io.cast_text] at hcast
  exact (Option.some.inj hcast).symm

/-! ## Codes -/

/-- The code of the first application error of a chain. -/
def GoError.code (e : GoError) : Option Code := e.asAppError.map Prod.fst

/-! ## The statements -/

/-- `SubmitAnswer` on ids that pass its checks: the key, the relation of the choice to the
question, and the verdict. -/
theorem run_submitAnswer {q c : String} (hq : q ≠ "" ∧ (io.parse q).isSome)
    (hc : c ≠ "" ∧ (io.parse c).isSome) (user : String) (τ : ℕ → OpTick) (db : Db) :
    (submitAnswer io user q c).run (DbOp.exec io) τ db =
      match (τ 0).first.answer (selectCorrectChoiceID io db q) with
      | .error _ => (.error (invalidArgument "question_id が不正です" []), db)
      | .ok none =>
          match defaultCorrectChoiceIDByQuestionID.lookup q with
          | some correct => (.ok ⟨c == correct, correct, ""⟩, db)
          | none => (.error (notFound "正解情報が見つかりません"), db)
      | .ok (some correct) =>
          match (τ 1).first.answer (existsChoice io db q c) with
          | .error _ =>
              (.error (invalidArgument "question_id または selected_choice_id が不正です" []), db)
          | .ok false =>
              (.error (invalidArgument "selected_choice_id が question_id に紐づいていません" []), db)
          | .ok true => (recordAnswer user q c (c == correct) correct).run (DbOp.exec io)
              (later τ 2) db := by
  have hqparse : (io.parse q).isNone = false := by
    rw [Option.isNone_eq_false_iff]
    exact hq.2
  have hcparse : (io.parse c).isNone = false := by
    rw [Option.isNone_eq_false_iff]
    exact hc.2
  unfold submitAnswer
  rw [if_neg hq.1, if_neg hc.1, if_neg (by simp [hqparse]), if_neg (by simp [hcparse])]
  -- the answers of the two reads, whatever the ticks do
  have hkey : PoolStmt.exec io (.selectCorrectChoiceID q) (τ 0).first db =
      ((τ 0).first.answer (selectCorrectChoiceID io db q), db) := Tick.guard_read ..
  have hexists : PoolStmt.exec io (.existsChoice q c) (τ 1).first db =
      ((τ 1).first.answer (existsChoice io db q c), db) := Tick.guard_read ..
  simp only [getCorrectChoiceID, query, Prog.bind_eq, Prog.call_bind, Prog.ret_bind, Prog.attempt,
    Prog.run_call, DbOp.exec, hkey]
  rcases (τ 0).first.answer (selectCorrectChoiceID io db q) with e | _ | correct
  · rfl
  · cases defaultCorrectChoiceIDByQuestionID.lookup q <;> rfl
  · simp only [Prog.pure_eq, Prog.attempt, Prog.ret_bind, choiceBelongsToQuestion, query,
      Prog.bind_eq, Prog.call_bind, Prog.run_call, DbOp.exec, later, hexists]
    rcases (τ 1).first.answer (existsChoice io db q c) with e | _ | _ <;> rfl

/-- Texts that the use case does not read as ids are refused before any statement. -/
theorem run_submitAnswer_malformed {q c : String}
    (h : (io.parse q).isNone = true ∨ (io.parse c).isNone = true) (user : String) (τ : ℕ → OpTick)
    (db : Db) : ∃ e : GoError, e.code = some .invalidArgument ∧
      (submitAnswer io user q c).run (DbOp.exec io) τ db = (.error e, db) := by
  unfold submitAnswer
  by_cases hq : q = ""
  · rw [if_pos hq]
    exact ⟨_, rfl, rfl⟩
  rw [if_neg hq]
  by_cases hc : c = ""
  · rw [if_pos hc]
    exact ⟨_, rfl, rfl⟩
  rw [if_neg hc]
  by_cases hqparse : (io.parse q).isNone = true
  · rw [if_pos hqparse]
    exact ⟨_, rfl, rfl⟩
  rw [if_neg hqparse, if_pos (h.resolve_left hqparse)]
  exact ⟨_, rfl, rfl⟩

/-- A question id that PostgreSQL does not read. -/
theorem run_submitAnswer_unread {q c : String} (hq : q ≠ "" ∧ (io.parse q).isSome)
    (hc : c ≠ "" ∧ (io.parse c).isSome) (hcast : io.cast q = none) (user : String)
    (τ : ℕ → OpTick) (db : Db) :
    (submitAnswer io user q c).run (DbOp.exec io) τ db =
      (.error (invalidArgument "question_id が不正です" []), db) := by
  have hkey : selectCorrectChoiceID io db q = .error .invalidUuid := by
    unfold selectCorrectChoiceID withUuid
    rw [hcast]
  rw [run_submitAnswer hq hc, hkey]
  unfold Tick.answer
  cases (τ 0).first.fault <;> rfl

/-! ## What the spelling does not change -/

section Spelling

variable {q q' c c' : String} {u v : Uuid}

theorem withUuid_spelled {α : Type} (hq : Spells io q u) (f : Uuid → Except SqlError α) :
    withUuid io q f = f u := by
  unfold withUuid
  rw [hq.cast]

theorem selectCorrectChoiceID_spelled (hq : Spells io q u) (db : Db) :
    selectCorrectChoiceID io db q =
      .ok ((db.answerKeys.find? fun k => k.questionId = u).map fun k => k.correctChoiceId.text) :=
  withUuid_spelled hq _

theorem existsChoice_spelled (hq : Spells io q u) (hc : Spells io c v) (db : Db) :
    existsChoice io db q c = .ok (db.choices.any fun c => c.questionId = u && c.id = v) := by
  unfold existsChoice
  rw [withUuid_spelled hq, withUuid_spelled hc]

/-- A question with a stored key: the key decides, if the choice is one of the question. -/
theorem run_submitAnswer_keyed (hq : Spells io q u) (hc : Spells io c v) {db : Db}
    {k : AnswerKeyRow} (hk : k ∈ db.answerKeys) (hkq : k.questionId = u) (user : String)
    (τ : ℕ → OpTick) :
    (submitAnswer io user q c).run (DbOp.exec io) τ db =
      if (τ 0).first.fault then (.error (invalidArgument "question_id が不正です" []), db)
      else if (τ 1).first.fault then
        (.error (invalidArgument "question_id または selected_choice_id が不正です" []), db)
      else if db.choices.any fun c => c.questionId = u && c.id = v then
        (recordAnswer user q c (c == k.correctChoiceId.text) k.correctChoiceId.text).run
          (DbOp.exec io) (later τ 2) db
      else
        (.error (invalidArgument "selected_choice_id が question_id に紐づいていません" []), db) := by
  subst hkq
  rw [run_submitAnswer hq.accepted hc.accepted, selectCorrectChoiceID_spelled hq,
    existsChoice_spelled hq hc, db.constraints.answerKeysPkey.find?_eq hk]
  unfold Tick.answer
  cases (τ 0).first.fault with
  | true => rfl
  | false =>
      cases (τ 1).first.fault with
      | true => rfl
      | false =>
          cases db.choices.any fun c => c.questionId = k.questionId && c.id = v <;> rfl

/-- A choice id that PostgreSQL does not read, when no statement fails. -/
theorem run_submitAnswer_unread_choice (hq : Spells io q u) (hc : c ≠ "" ∧ (io.parse c).isSome)
    (hcast : io.cast c = none) {db : Db} {k : AnswerKeyRow} (hk : k ∈ db.answerKeys)
    (hkq : k.questionId = u) (user : String) {τ : ℕ → OpTick} (hquiet : QuietStmts τ) :
    (submitAnswer io user q c).run (DbOp.exec io) τ db =
      (.error (invalidArgument "question_id または selected_choice_id が不正です" []), db) := by
  have hexists : existsChoice io db q c = .error .invalidUuid := by
    unfold existsChoice
    rw [withUuid_spelled hq]
    unfold withUuid
    rw [hcast]
  subst hkq
  rw [run_submitAnswer hq.accepted hc, selectCorrectChoiceID_spelled hq, hexists,
    db.constraints.answerKeysPkey.find?_eq hk]
  unfold Tick.answer
  rw [hquiet 0, hquiet 1]
  rfl

/-- A question without a stored key: the default set decides, if it has the text of the question. -/
theorem run_submitAnswer_unkeyed (hq : Spells io q u) (hc : c ≠ "" ∧ (io.parse c).isSome) {db : Db}
    (hnone : u ∉ db.answerKeys.map AnswerKeyRow.questionId) (user : String) (τ : ℕ → OpTick) :
    (submitAnswer io user q c).run (DbOp.exec io) τ db =
      if (τ 0).first.fault then (.error (invalidArgument "question_id が不正です" []), db)
      else match defaultCorrectChoiceIDByQuestionID.lookup q with
      | some correct => (.ok ⟨c == correct, correct, ""⟩, db)
      | none => (.error (notFound "正解情報が見つかりません"), db) := by
  have hfind : (db.answerKeys.find? fun k => k.questionId = u) = none :=
    List.find?_eq_none.mpr fun k hk hkq => hnone (List.mem_map.mpr ⟨k, hk, by simpa using hkq⟩)
  rw [run_submitAnswer hq.accepted hc, selectCorrectChoiceID_spelled hq, hfind]
  unfold Tick.answer
  cases (τ 0).first.fault <;> rfl

theorem insertAttempt_spelled (hq : Spells io q u) (hq' : Spells io q' u) (hc : Spells io c v)
    (hc' : Spells io c' v) (db : Db) (user : String) (isCorrect : Bool) (t : Tick) :
    insertAttempt io db user q c isCorrect t = insertAttempt io db user q' c' isCorrect t := by
  unfold insertAttempt
  simp only [withUuid_spelled hq, withUuid_spelled hq', withUuid_spelled hc, withUuid_spelled hc']

/-- A verdict is recorded under the ids, however they are spelled. -/
theorem run_recordAnswer_spelled (hq : Spells io q u) (hq' : Spells io q' u) (hc : Spells io c v)
    (hc' : Spells io c' v) (user : String) (isCorrect : Bool) (correct : String)
    (τ : ℕ → OpTick) (db : Db) :
    (recordAnswer user q c isCorrect correct).run (DbOp.exec io) τ db =
      (recordAnswer user q' c' isCorrect correct).run (DbOp.exec io) τ db := by
  have hattempt : ∀ (τ : ℕ → OpTick) (db : Db),
      ((AttemptRepository.createAttempt user q c isCorrect).bind fun attemptID =>
        (.ret ⟨isCorrect, correct, attemptID⟩ : DbProg SubmitAnswerResult)).run
          (DbOp.exec io) τ db =
      ((AttemptRepository.createAttempt user q' c' isCorrect).bind fun attemptID =>
        (.ret ⟨isCorrect, correct, attemptID⟩ : DbProg SubmitAnswerResult)).run
          (DbOp.exec io) τ db := by
    intro τ db
    have hexec : PoolStmt.exec io (.insertAttempt user q c isCorrect) (τ 0).first db =
        PoolStmt.exec io (.insertAttempt user q' c' isCorrect) (τ 0).first db := by
      rw [PoolStmt.exec, PoolStmt.exec, insertAttempt_spelled hq hq' hc hc']
    unfold AttemptRepository.createAttempt
    by_cases huser : user = ""
    · rw [if_pos huser, if_pos huser]
    · rw [if_neg huser, if_neg hq.nonempty, if_neg hc.nonempty, if_neg huser,
        if_neg hq'.nonempty, if_neg hc'.nonempty]
      simp only [Prog.bind_eq, Prog.bind_assoc]
      rw [run_query_bind, run_query_bind, hexec]
  unfold recordAnswer
  by_cases huser : user = ""
  · rw [if_pos huser, if_pos huser]
  · rw [if_neg huser, if_neg huser]
    simp only [Prog.bind_eq]
    rw [Prog.run_bind, Prog.run_bind]
    rcases (UserRepository.ensureUserExists user).run (DbOp.exec io) τ db with ⟨e | ⟨⟩, db'⟩
    · rfl
    · exact hattempt _ db'

/-- Without a user that can be stored nothing is recorded, whatever the verdict. -/
theorem run_recordAnswer_unstorable (io : UuidReaders) {user : String}
    (huser : storable user = false) (τ : ℕ → OpTick) (db : Db) :
    ∃ e : GoError, e.code = some .internal ∧ ∀ q c isCorrect correct,
      (recordAnswer user q c isCorrect correct).run (DbOp.exec io) τ db = (.error e, db) := by
  have hne : user ≠ "" := by
    rintro rfl
    cases huser
  have hexec : PoolStmt.exec io (.insertUser user) (τ 0).first db =
      ((τ 0).first.answer (.error .invalidText), db) := by
    have hinsert : insertUser db user = (.error .invalidText, db) := by
      unfold insertUser
      rw [huser]
      rfl
    rw [PoolStmt.exec, hinsert]
    exact Tick.guard_read ..
  obtain ⟨sqlError, herror⟩ : ∃ sqlError : SqlError,
      ((τ 0).first.answer (.error .invalidText) : Except SqlError Unit) = .error sqlError := by
    unfold Tick.answer
    split_ifs
    · exact ⟨.unavailable, rfl⟩
    · exact ⟨.invalidText, rfl⟩
  refine ⟨internal "ユーザーの初期化に失敗しました" (.wrap "insert users" (.driver sqlError)), rfl, ?_⟩
  intro q c isCorrect correct
  unfold recordAnswer UserRepository.ensureUserExists
  rw [if_neg hne, if_neg hne]
  simp only [Prog.bind_eq, Prog.bind_assoc]
  rw [run_query_bind, hexec, herror]
  rfl

/-- What is recorded is reported. -/
theorem recordAnswer_ok {user questionID choiceID correct : String} {isCorrect : Bool}
    {τ : ℕ → OpTick} {db db' : Db} {r : SubmitAnswerResult}
    (h : (recordAnswer user questionID choiceID isCorrect correct).run (DbOp.exec io) τ db =
      (.ok r, db')) : r.isCorrect = isCorrect ∧ r.correctChoiceID = correct := by
  unfold recordAnswer at h
  by_cases huser : user = ""
  · rw [if_pos huser] at h
    cases h
    exact ⟨rfl, rfl⟩
  · rw [if_neg huser] at h
    obtain ⟨_, _, -, h⟩ := Prog.run_bind_eq_ok.mp h
    obtain ⟨_, _, -, h⟩ := Prog.run_bind_eq_ok.mp h
    cases h
    exact ⟨rfl, rfl⟩

/-- When nothing fails, an answer with a choice of a question with a key is given. -/
theorem submitAnswer_given (hq : Spells io q u) (hc : Spells io c v) {db : Db} {k : AnswerKeyRow}
    (hk : k ∈ db.answerKeys) (hkq : k.questionId = u) {row : ChoiceRow} (hrow : row ∈ db.choices)
    (hrowq : row.questionId = u) (hid : row.id = v) {user : String} (huser : storable user = true)
    {τ : ℕ → OpTick} (hτ : ∀ n, (τ n).FreshAttempt db) :
    ∃ r, ((submitAnswer io user q c).run (DbOp.exec io) τ db).1 = .ok r ∧
      r.isCorrect = (c == k.correctChoiceId.text) ∧
      r.correctChoiceID = k.correctChoiceId.text := by
  have hbelongs : (db.choices.any fun c => c.questionId = u && c.id = v) = true :=
    List.any_eq_true.mpr ⟨row, hrow, by simp [hrowq, hid]⟩
  obtain ⟨question, hquestion, hquestionId⟩ := db.constraints.choicesQuestion row hrow
  subst hid
  obtain rfl : question.id = u := hquestionId.trans hrowq
  obtain ⟨attemptID, hrecord⟩ := post_recordAnswer io hquestion hrow hrowq huser
    (c == k.correctChoiceId.text) k.correctChoiceId.text (later τ 2) fun n => hτ _
  rw [run_submitAnswer_keyed hq hc hk hkq, (hτ 0).quiet, (hτ 1).quiet, hbelongs,
    run_recordAnswer_spelled hq (spells_text io _) hc (spells_text io _)]
  exact ⟨_, hrecord, rfl, rfl⟩

/-- A choice that is not the correct one is not spelled like it. -/
theorem verdict_of_ne (hc : Spells io c v) {w : Uuid} (hne : v ≠ w) : (c == w.text) = false := by
  rw [beq_eq_false_iff_ne]
  intro heq
  exact hne (hc.eq_text heq)

/-- The default set is looked up by canonical texts, and its keys are canonical texts. -/
theorem defaultCorrectChoiceID_eq_some {s correct : String}
    (h : defaultCorrectChoiceIDByQuestionID.lookup s = some correct) :
    ∃ u w : Uuid, s = u.text ∧ correct = w.text := by
  -- the entries are the texts of small numbers
  have hentries : defaultCorrectChoiceIDByQuestionID =
      ([(0x1, 0x1001), (0x2, 0x2001), (0x3, 0x3003)] : List (Uuid × Uuid)).map fun ids =>
        (ids.1.text, ids.2.text) := by
    decide +kernel
  obtain ⟨l₁, l₂, hsplit, -⟩ := List.lookup_eq_some_iff.mp h
  have hmem : (s, correct) ∈ defaultCorrectChoiceIDByQuestionID := by
    rw [hsplit]
    exact List.mem_append_right l₁ List.mem_cons_self
  rw [hentries] at hmem
  obtain ⟨ids, -, hids⟩ := List.mem_map.mp hmem
  obtain ⟨hs, hcorrect⟩ := Prod.mk.inj hids
  exact ⟨ids.1, ids.2, hs.symm, hcorrect.symm⟩

/-- The default set is searched by the canonical text of the question. -/
theorem lookup_spelled (hq : Spells io q u) {correct : String}
    (h : defaultCorrectChoiceIDByQuestionID.lookup q = some correct) :
    q = u.text ∧ ∃ w : Uuid, correct = w.text := by
  obtain ⟨u', w, htext, hcorrect⟩ := defaultCorrectChoiceID_eq_some h
  obtain rfl := hq.eq_text htext
  exact ⟨htext, w, hcorrect⟩

/-- Under another spelling it is not found. -/
theorem lookup_of_ne_text (hq : Spells io q u) (hne : q ≠ u.text) :
    defaultCorrectChoiceIDByQuestionID.lookup q = none := by
  cases hlookup : defaultCorrectChoiceIDByQuestionID.lookup q with
  | none => rfl
  | some correct => exact absurd (lookup_spelled hq hlookup).1 hne

end Spelling

end HistoryQuiz
