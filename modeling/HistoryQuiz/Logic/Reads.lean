import HistoryQuiz.Base.Hoare
import HistoryQuiz.Logic.Store

/-!
# What the reads return

The reads as functions of the rows, when no statement fails for a reason of its
own. The order of the choices does not depend on the physical order of the rows,
since a question has no two choices on one ordinal (`orderBy_choicesOf`).
-/

namespace HistoryQuiz

open Relational Effect QuestionRepository

variable {io : UuidReaders}

/-! ## The choices of a question -/

instance : Std.Total byOrdinal := ⟨fun a b => le_total a.ordinal b.ordinal⟩

instance : IsTrans ChoiceRow byOrdinal := ⟨fun _ _ _ hab hbc => le_trans hab hbc⟩

/-- The choices of a question, read in ordinal order. -/
theorem orderBy_choicesOf {db : Db} {q : Uuid} {rows : List ChoiceRow}
    (hperm : rows.Perm (db.choicesOf q)) (hsorted : rows.Pairwise byOrdinal) (scan : ℕ → ℕ) :
    orderBy byOrdinal scan (db.choicesOf q) = rows := by
  refine orderBy_eq_of_perm byOrdinal scan _ hperm hsorted ?_
  intro a ha b hb hab hba
  obtain ⟨ha, haq⟩ := mem_choicesOf.mp ha
  obtain ⟨hb, hbq⟩ := mem_choicesOf.mp hb
  refine db.constraints.choicesQuestionOrdinal.eq ha hb ?_
  exact Prod.ext (haq.trans hbq.symm) (le_antisymm hab hba)

/-- The choices of a question on a reading of the table that starts at its first row. -/
def Db.choicesInOrder (db : Db) (q : Uuid) : List ChoiceRow := orderBy byOrdinal id (db.choicesOf q)

theorem choicesInOrder_perm (db : Db) (q : Uuid) :
    (db.choicesInOrder q).Perm (db.choicesOf q) := orderBy_perm ..

theorem choicesInOrder_pairwise (db : Db) (q : Uuid) :
    (db.choicesInOrder q).Pairwise byOrdinal := orderBy_pairwise ..

theorem orderBy_choicesOf_scan (db : Db) (q : Uuid) (scan : ℕ → ℕ) :
    orderBy byOrdinal scan (db.choicesOf q) = db.choicesInOrder q :=
  orderBy_choicesOf (choicesInOrder_perm db q) (choicesInOrder_pairwise db q) scan

theorem mem_choicesInOrder {db : Db} {q : Uuid} {c : ChoiceRow} :
    c ∈ db.choicesInOrder q ↔ c ∈ db.choices ∧ c.questionId = q :=
  (choicesInOrder_perm db q).mem_iff.trans mem_choicesOf

/-- The four choices of a stored question, in order. -/
theorem WellFormed.choicesInOrder {db : Db} (hw : WellFormed db.toTables) {r : QuestionRow}
    (hr : r ∈ db.questions) : (db.choicesInOrder r.id).map ChoiceRow.ordinal = [0, 1, 2, 3] := by
  have hperm := ((choicesInOrder_perm db r.id).map ChoiceRow.ordinal).trans (hw.ordinals r hr)
  have hsorted : ((db.choicesInOrder r.id).map ChoiceRow.ordinal).Pairwise (· ≤ ·) :=
    List.pairwise_map.mpr (choicesInOrder_pairwise db r.id)
  exact hperm.eq_of_pairwise (fun _ _ _ _ => le_antisymm) hsorted (by decide)

/-! ## Conditions on a statement -/

/-- What a statement reports: its result, unless the connection fails. -/
def Tick.answer {α : Type} (t : Tick) (result : Except SqlError α) : Except SqlError α :=
  if t.fault then .error .unavailable else result

/-- A read reports its result and leaves the rows as they are. -/
theorem Tick.guard_read {α : Type} (t : Tick) (db : Db) (result : Except SqlError α) :
    t.guard db (result, db) = (t.answer result, db) := by
  unfold Tick.guard Tick.answer
  split_ifs <;> rfl

/-- A statement: the rest of the program from its answer, on every tick. -/
theorem post_query {A : OpTick → Prop} {α β : Type} {s : PoolStmt β} {f : β → DbProg α} {db : Db}
    {Q : Except GoError α → Db → Prop}
    (h : ∀ t, A t → (f (PoolStmt.exec io s t.first db).1).Post (DbOp.exec io) A
      (PoolStmt.exec io s t.first db).2 Q) :
    ((query s).bind f).Post (DbOp.exec io) A db Q :=
  Prog.Post.call h

/-- A program that only reads leaves the database as it was. -/
theorem post_of_reads {A : OpTick → Prop} {α : Type} {p : DbProg α} (hp : p.Uses ReadOp) (db : Db) :
    p.Post (DbOp.exec io) A db fun _ db' => db' = db := by
  refine Prog.Post.of_uses ?_ hp rfl
  rintro β op t _ ⟨s, hs⟩ rfl
  exact PoolStmt.exec_reads hs t.first _

/-! ## Statements that do not fail -/

section Statements

variable {t : Tick} {db : Db} (ht : t.fault = false)

include ht

theorem exec_selectChoices {questionID : String} {q : Uuid} (hq : io.cast questionID = some q) :
    PoolStmt.exec io (.selectChoices questionID) t db =
      (.ok ((db.choicesInOrder q).map ChoiceRow.toChoice), db) := by
  rw [PoolStmt.exec, Tick.guard_quiet ht, selectChoices, withUuid, hq]
  dsimp only
  rw [orderBy_choicesOf_scan]

/-- The key of a question. -/
theorem exec_selectCorrectChoiceID {questionID : String} {k : AnswerKeyRow}
    (hk : k ∈ db.answerKeys) (hq : io.cast questionID = some k.questionId) :
    PoolStmt.exec io (.selectCorrectChoiceID questionID) t db =
      (.ok (some k.correctChoiceId.text), db) := by
  rw [PoolStmt.exec, Tick.guard_quiet ht, selectCorrectChoiceID, withUuid, hq]
  dsimp only
  rw [db.constraints.answerKeysPkey.find?_eq hk]
  rfl

theorem exec_selectCorrectChoiceID_none {questionID : String} {q : Uuid}
    (hq : io.cast questionID = some q) (hnone : q ∉ db.answerKeys.map AnswerKeyRow.questionId) :
    PoolStmt.exec io (.selectCorrectChoiceID questionID) t db = (.ok none, db) := by
  rw [PoolStmt.exec, Tick.guard_quiet ht, selectCorrectChoiceID, withUuid, hq]
  dsimp only
  rw [List.find?_eq_none.mpr fun k hk hkq => hnone (List.mem_map.mpr ⟨k, hk, by simpa using hkq⟩)]
  rfl

theorem exec_selectQuestionAuthor {questionID : String} {r : QuestionRow} (hr : r ∈ db.questions)
    (hq : io.cast questionID = some r.id) :
    PoolStmt.exec io (.selectQuestionAuthor questionID) t db =
      (.ok (some (r.authorUserId, r.deletedAt)), db) := by
  rw [PoolStmt.exec, Tick.guard_quiet ht, selectQuestionAuthor, withUuid, hq]
  dsimp only
  rw [db.constraints.questionsPkey.find?_eq hr]
  rfl

theorem exec_selectMyQuestion {questionID : String} {r : QuestionRow} (hr : r ∈ db.questions)
    (hq : io.cast questionID = some r.id) (hactive : r.deletedAt = none)
    (hauthor : storable r.authorUserId = true) :
    PoolStmt.exec io (.selectMyQuestion questionID r.authorUserId) t db =
      (.ok (some (r.prompt, r.explanation.getD "", r.updatedAt)), db) := by
  rw [PoolStmt.exec, Tick.guard_quiet ht, selectMyQuestion, if_pos hauthor, withUuid, hq]
  dsimp only
  have hfind : (db.questions.find? fun q => q.id = r.id && q.authorUserId == r.authorUserId &&
      q.deletedAt.isNone) = some r := by
    refine find?_eq_some_of_unique hr (by simp [hactive]) ?_
    intro s hs hsel
    exact db.constraints.questionsPkey.eq hs hr (by simp at hsel; exact hsel.1.1)
  rw [hfind]
  rfl

theorem exec_insertUser_mem {u : String} (hu : storable u = true)
    (hmem : u ∈ db.users.map UserRow.id) :
    PoolStmt.exec io (.insertUser u) t db = (.ok (), db) := by
  rw [PoolStmt.exec, Tick.guard_quiet ht, insertUser, if_pos hu, Db.insertUser, dif_pos hmem]

theorem exec_insertUser {u : String} (hu : storable u = true) :
    ∃ db', PoolStmt.exec io (.insertUser u) t db = (.ok (), db') ∧
      (db' = db ∨ db'.toTables = db.addUser ⟨u⟩) ∧ u ∈ db'.users.map UserRow.id := by
  rw [PoolStmt.exec, Tick.guard_quiet ht, insertUser, if_pos hu]
  by_cases hmem : u ∈ db.users.map UserRow.id
  · refine ⟨db, ?_, .inl rfl, hmem⟩
    rw [Db.insertUser, dif_pos hmem]
  · refine ⟨⟨db.addUser ⟨u⟩, db.constraints.addUser hmem⟩, ?_, .inr rfl, ?_⟩
    · rw [Db.insertUser, dif_neg hmem]
    · simp [Tables.addUser]

/-- An attempt with an id of its own, a known user and a choice of the question is
stored. -/
theorem exec_insertAttempt {u : String} (hu : storable u = true)
    (hmem : u ∈ db.users.map UserRow.id) {r : QuestionRow} (hr : r ∈ db.questions)
    {c : ChoiceRow} (hc : c ∈ db.choices) (hcq : c.questionId = r.id)
    (hfresh : t.uuid.value ∉ db.attempts.map AttemptRow.id) (isCorrect : Bool) :
    ∃ db', PoolStmt.exec io (.insertAttempt u r.id.text c.id.text isCorrect) t db =
      (.ok t.uuid.value.text, db') := by
  let row : AttemptRow :=
    { id := t.uuid.value
      userId := u
      questionId := r.id
      selectedChoiceId := c.id
      isCorrect := isCorrect
      answeredAt := t.now }
  obtain ⟨db', hdb'⟩ : ∃ db', db.insertAttempt row = .ok db' := by
    have hquestion : row.questionId ∈ db.questions.map QuestionRow.id := List.mem_map_of_mem hr
    have hchoice : row.choiceRef ∈ db.choices.map ChoiceRow.idQuestion :=
      List.mem_map.mpr ⟨c, hc, Prod.ext rfl hcq⟩
    exact ⟨⟨_, db.constraints.addAttempt hfresh hmem hquestion hchoice⟩,
      Db.insertAttempt_eq_ok.mpr ⟨hfresh, hmem, hquestion, hchoice, rfl⟩⟩
  refine ⟨db', ?_⟩
  rw [PoolStmt.exec, Tick.guard_quiet ht, insertAttempt, if_pos hu]
  simp only [withUuid, io.cast_text]
  rw [hdb']

theorem exec_selectQuizQuestion {questionID : String} {r : QuestionRow} (hr : r ∈ db.questions)
    (hq : io.cast questionID = some r.id) (hactive : r.deletedAt = none) :
    PoolStmt.exec io (.selectQuizQuestion questionID) t db =
      (.ok (some (r.id.text, r.prompt, r.explanation.getD "")), db) := by
  rw [PoolStmt.exec, Tick.guard_quiet ht, selectQuizQuestion, withUuid, hq]
  dsimp only
  have hfind : (db.questions.find? fun q => q.id = r.id && q.deletedAt.isNone) = some r := by
    refine find?_eq_some_of_unique hr (by simp [hactive]) ?_
    intro s hs hsel
    exact db.constraints.questionsPkey.eq hs hr (by simp at hsel; exact hsel.1)
  rw [hfind]
  rfl

end Statements

/-! ## Read programs -/

/-- No statement through the pool fails for a reason of its own. -/
def QuietStmts (τ : ℕ → OpTick) : Prop := ∀ n, (τ n).first.fault = false

theorem QuietStmts.later {τ : ℕ → OpTick} (h : QuietStmts τ) (n : ℕ) :
    QuietStmts (Effect.later τ n) :=
  fun _ => h _

section Programs

variable {τ : ℕ → OpTick} {db : Db} (hquiet : QuietStmts τ)

include hquiet

theorem run_listChoices {questionID : String} {q : Uuid} (hq : io.cast questionID = some q) :
    (listChoices questionID).run (DbOp.exec io) τ db =
      (.ok ((db.choicesInOrder q).map ChoiceRow.toChoice), db) := by
  rw [listChoices, Prog.bind_eq, run_query_bind, exec_selectChoices (hquiet 0) hq]
  rfl

theorem run_getCorrectChoiceID {questionID : String} {k : AnswerKeyRow} (hk : k ∈ db.answerKeys)
    (hq : io.cast questionID = some k.questionId) :
    (getCorrectChoiceID questionID).run (DbOp.exec io) τ db =
      (.ok k.correctChoiceId.text, db) := by
  rw [getCorrectChoiceID, Prog.bind_eq, run_query_bind, exec_selectCorrectChoiceID (hquiet 0) hk hq]
  rfl

/-- What an author reads of a question. -/
theorem run_getMyQuestion {questionID : String} {r : QuestionRow} (hr : r ∈ db.questions)
    (hq : io.cast questionID = some r.id) (hactive : r.deletedAt = none)
    (hauthor : storable r.authorUserId = true) {k : AnswerKeyRow} (hk : k ∈ db.answerKeys)
    (hkq : k.questionId = r.id) :
    (QuestionRepository.getMyQuestion r.authorUserId questionID).run (DbOp.exec io) τ db =
      (.ok {
        id := questionID
        prompt := r.prompt
        choices := (db.choicesInOrder r.id).map ChoiceRow.toChoice
        correctChoiceID := k.correctChoiceId.text
        explanation := r.explanation.getD ""
        updatedAt := r.updatedAt }, db) := by
  rw [QuestionRepository.getMyQuestion, Prog.bind_eq, run_query_bind,
    exec_selectMyQuestion (hquiet 0) hr hq hactive hauthor]
  dsimp only
  rw [Prog.bind_eq, Prog.run_bind_ok (run_listChoices (hquiet.later 1) hq)]
  rw [Prog.bind_eq, Prog.run_bind_ok (run_getCorrectChoiceID
    ((hquiet.later 1).later _) hk (by rw [hq, hkq]))]
  rfl

end Programs

end HistoryQuiz
