import HistoryQuiz.Theorems.Update

/-!
# Reads of a question that is being updated

`GetMyQuestion` reads the row, the choices and the key of a question in three
statements, `GetQuizQuestion` the row and the choices in two, and updates of the
question may commit in between.

* `reads_mix_versions`: each part that is returned is that of the version which
  was committed when its statement ran. The versions are one when no update
  commits between the statements, and the correct choice is among the returned
  ones when none commits between the last two;
* `getMyQuestion_torn`: an update that commits between the last two statements
  makes the correct choice none of the returned ones.
-/

namespace HistoryQuiz

open Relational Effect Relation QuestionRepository

variable {io : UuidReaders}

/-! ## Versions of a question -/

/-- `v` is the version of the question `q` that `db` holds. -/
def Db.IsVersion (db : Db) (q : Uuid) (v : QuestionDetail) : Prop :=
  ∃ r ∈ db.questions, r.id = q ∧ ∃ k ∈ db.answerKeys, k.questionId = q ∧
    v = {
      id := q.text
      prompt := r.prompt
      choices := (db.choicesInOrder q).map ChoiceRow.toChoice
      correctChoiceID := k.correctChoiceId.text
      explanation := r.explanation.getD ""
      updatedAt := r.updatedAt }

/-- The correct choice of a version is one of its choices. -/
theorem Db.IsVersion.correct_mem {db : Db} {q : Uuid} {v : QuestionDetail} (h : db.IsVersion q v) :
    v.correctChoiceID ∈ v.choices.map Choice.id := by
  obtain ⟨r, -, -, k, hk, hkq, rfl⟩ := h
  obtain ⟨c, hc, href⟩ := db.constraints.answerKeysChoice k hk
  rw [ChoiceRow.idQuestion, AnswerKeyRow.choiceRef, Prod.mk.injEq] at href
  have hmem : c ∈ db.choicesInOrder q := mem_choicesInOrder.mpr ⟨hc, href.2.trans hkq⟩
  rw [List.map_map]
  exact List.mem_map.mpr ⟨c, hmem, congrArg Uuid.text href.1⟩

/-- A state holds one version of a question. -/
theorem Db.IsVersion.eq {db : Db} {q : Uuid} {v w : QuestionDetail} (hv : db.IsVersion q v)
    (hw : db.IsVersion q w) : v = w := by
  obtain ⟨r, hr, hrq, k, hk, hkq, rfl⟩ := hv
  obtain ⟨r', hr', hrq', k', hk', hkq', rfl⟩ := hw
  have hrow : r = r' := db.constraints.questionsPkey.eq hr hr' (hrq.trans hrq'.symm)
  have hkey : k = k' := db.constraints.answerKeysPkey.eq hk hk' (hkq.trans hkq'.symm)
  rw [hrow, hkey]

/-- In a well-formed store every question has a version. -/
theorem WellFormed.exists_version {db : Db} (hw : WellFormed db.toTables) {q : Uuid}
    (hq : q ∈ db.questions.map QuestionRow.id) : ∃ v, db.IsVersion q v := by
  obtain ⟨r, hr, rfl⟩ := List.mem_map.mp hq
  obtain ⟨k, hk, hkq⟩ := List.mem_map.mp (hw.keys r hr)
  exact ⟨_, r, hr, rfl, k, hk, hkq, rfl⟩

/-- A commit of `UpdateQuestion` on the question `q`. -/
def UpdateCommit (io : UuidReaders) (q : Uuid) (db db' : Db) : Prop :=
  ∃ u questionID draft t detail, io.cast questionID = some q ∧
    QuestionUsecase.validateDraft draft = none ∧
    withTx io (updateQuestionTx u questionID draft) t db = (.ok detail, db')

/-- Any number of commits on the question `q`. -/
abbrev UpdateCommits (io : UuidReaders) (q : Uuid) : Db → Db → Prop :=
  ReflTransGen (UpdateCommit io q)

/-- Commits keep the store well formed and lose no question. -/
theorem UpdateCommits.keeps {q : Uuid} {db db' : Db} (h : UpdateCommits io q db db')
    (hw : WellFormed db.toTables) :
    WellFormed db'.toTables ∧
      db'.questions.map QuestionRow.id = db.questions.map QuestionRow.id := by
  induction h with
  | refl => exact ⟨hw, rfl⟩
  | tail _ hcommit ih =>
      obtain ⟨u, questionID, draft, t, detail, -, hdraft, htx⟩ := hcommit
      obtain ⟨q', hupdated⟩ := updateQuestionTx_ok htx
      refine ⟨ih.1.updated (validateDraft_eq_none.mp hdraft) hupdated, ?_⟩
      obtain ⟨c, -, -, -, htables⟩ := hupdated.committed
      rw [htables, ← ih.2, Tables.rewritten, List.map_map]
      refine List.map_congr_left ?_
      intro r _
      dsimp only [Function.comp_apply]
      split <;> rfl

/-! ## Reads between commits -/

/-- The outcome of a program whose `n`-th statement finds the committed state `seen n`. -/
def readAt (io : UuidReaders) {α : Type} (p : DbProg α) (τ : ℕ → OpTick) (seen : ℕ → Db) :
    Except GoError α :=
  (p.run (Handler.interfered (DbOp.exec io)) (fun n => (fun _ => seen n, τ n)) (seen 0)).1

/-- A statement is answered from the state it finds. -/
theorem readAt_query_bind {α β : Type} (s : PoolStmt β) (f : β → DbProg α) (τ : ℕ → OpTick)
    (seen : ℕ → Db) : readAt io ((query s).bind f) τ seen =
      readAt io (f (PoolStmt.exec io s (τ 0).first (seen 0)).1) (later τ 1) (later seen 1) := by
  -- the next statement finds its own state, whatever this one has left
  have hindependent : ∀ (p : DbProg α) (τ : ℕ → (Db → Db) × OpTick) (db db' : Db),
      (∀ n x y, (τ n).1 x = (τ n).1 y) →
      (p.run (Handler.interfered (DbOp.exec io)) τ db).1 =
        (p.run (Handler.interfered (DbOp.exec io)) τ db').1 := by
    intro p τ db db' hconst
    cases p with
    | ret a => rfl
    | fail e => rfl
    | call op next =>
        rw [Prog.run_call, Prog.run_call]
        unfold Handler.interfered
        rw [hconst 0 db db']
  exact hindependent _ (fun n => (fun _ => later seen 1 n, later τ 1 n)) _ _ fun _ _ _ => rfl

theorem readAt_listChoices {α : Type} {questionID : String} {q : Uuid}
    (hq : io.cast questionID = some q) {f : List Choice → DbProg α} {τ : ℕ → OpTick}
    {seen : ℕ → Db} {a : α} (h : readAt io ((listChoices questionID).bind f) τ seen = .ok a) :
    readAt io (f (((seen 0).choicesInOrder q).map ChoiceRow.toChoice)) (later τ 1) (later seen 1) =
      .ok a := by
  rw [listChoices, Prog.bind_eq, Prog.bind_assoc, readAt_query_bind] at h
  cases hfault : (τ 0).first.fault with
  | true =>
      rw [PoolStmt.exec, Tick.guard, hfault] at h
      cases h
  | false =>
      rw [exec_selectChoices hfault hq] at h
      exact h

theorem readAt_getCorrectChoiceID {α : Type} {questionID : String} {q : Uuid}
    (hq : io.cast questionID = some q) {f : String → DbProg α} {τ : ℕ → OpTick}
    {seen : ℕ → Db} {k : AnswerKeyRow} (hk : k ∈ (seen 0).answerKeys) (hkq : k.questionId = q)
    {a : α} (h : readAt io ((getCorrectChoiceID questionID).bind f) τ seen = .ok a) :
    readAt io (f k.correctChoiceId.text) (later τ 1) (later seen 1) = .ok a := by
  rw [getCorrectChoiceID, Prog.bind_eq, Prog.bind_assoc, readAt_query_bind] at h
  cases hfault : (τ 0).first.fault with
  | true =>
      rw [PoolStmt.exec, Tick.guard, hfault] at h
      cases h
  | false =>
      rw [exec_selectCorrectChoiceID hfault hk (hq.trans (congrArg some hkq.symm))] at h
      exact h

/-- The question that `GetMyQuestion` goes on with is stored. -/
theorem readAt_selectMyQuestion {α : Type} {questionID u : String} {q : Uuid}
    (hq : io.cast questionID = some q)
    {f : Except SqlError (Option (String × String × Timestamp)) → DbProg α}
    (hnone : ∀ τ seen a, readAt io (f (.ok none)) τ seen ≠ .ok a)
    (herror : ∀ e τ seen a, readAt io (f (.error e)) τ seen ≠ .ok a) {τ : ℕ → OpTick}
    {seen : ℕ → Db} {a : α}
    (h : readAt io ((query (.selectMyQuestion questionID u)).bind f) τ seen = .ok a) :
    ∃ r ∈ (seen 0).questions, r.id = q ∧
      readAt io (f (.ok (some (r.prompt, r.explanation.getD "", r.updatedAt)))) (later τ 1)
        (later seen 1) = .ok a := by
  rw [readAt_query_bind, PoolStmt.exec, Tick.guard] at h
  split at h
  · exact absurd h (herror _ _ _ _)
  · rw [selectMyQuestion, withUuid, hq] at h
    split at h
    · dsimp only at h
      cases hfind : (seen 0).questions.find? fun r =>
          r.id = q && r.authorUserId == u && r.deletedAt.isNone with
      | none =>
          rw [hfind] at h
          exact absurd h (hnone _ _ _)
      | some r =>
          rw [hfind] at h
          have hsel := List.find?_some hfind
          rw [Bool.and_eq_true, Bool.and_eq_true, decide_eq_true_eq] at hsel
          exact ⟨r, List.mem_of_find?_eq_some hfind, hsel.1.1, h⟩
    · exact absurd h (herror _ _ _ _)

/-- The question that `GetQuizQuestion` goes on with is stored. -/
theorem readAt_selectQuizQuestion {α : Type} {questionID : String} {q : Uuid}
    (hq : io.cast questionID = some q)
    {f : Except SqlError (Option (String × String × String)) → DbProg α}
    (hnone : ∀ τ seen a, readAt io (f (.ok none)) τ seen ≠ .ok a)
    (herror : ∀ e τ seen a, readAt io (f (.error e)) τ seen ≠ .ok a) {τ : ℕ → OpTick}
    {seen : ℕ → Db} {a : α}
    (h : readAt io ((query (.selectQuizQuestion questionID)).bind f) τ seen = .ok a) :
    ∃ r ∈ (seen 0).questions, r.id = q ∧
      readAt io (f (.ok (some (r.id.text, r.prompt, r.explanation.getD "")))) (later τ 1)
        (later seen 1) = .ok a := by
  rw [readAt_query_bind, PoolStmt.exec, Tick.guard] at h
  split at h
  · exact absurd h (herror _ _ _ _)
  · rw [selectQuizQuestion, withUuid, hq] at h
    dsimp only at h
    cases hfind : (seen 0).questions.find? fun r => r.id = q && r.deletedAt.isNone with
    | none =>
        rw [hfind] at h
        exact absurd h (hnone _ _ _)
    | some r =>
        rw [hfind] at h
        have hsel := List.find?_some hfind
        rw [Bool.and_eq_true, decide_eq_true_eq] at hsel
        exact ⟨r, List.mem_of_find?_eq_some hfind, hsel.1, h⟩

/-! ## What the reads return -/

/-- What the quiz shows of a version. -/
def QuestionDetail.toQuestion (v : QuestionDetail) : Question where
  id := v.id
  prompt := v.prompt
  choices := v.choices
  explanation := v.explanation

theorem fail_ne_ok {α : Type} (e : GoError) (τ : ℕ → OpTick) (seen : ℕ → Db) (a : α) :
    readAt io (.fail e : DbProg α) τ seen ≠ .ok a := by
  intro h
  cases h

/-- `GetMyQuestion` mixes the versions that its statements find. -/
theorem readAt_getMyQuestion {questionID u : String} {q : Uuid} (hq : io.cast questionID = some q)
    {τ : ℕ → OpTick} {seen : ℕ → Db} {detail : QuestionDetail} {v₁ v₂ : QuestionDetail}
    (hv₁ : (seen 1).IsVersion q v₁) (hv₂ : (seen 2).IsVersion q v₂) {v₀ : QuestionDetail}
    (hv₀ : (seen 0).IsVersion q v₀)
    (h : readAt io (QuestionRepository.getMyQuestion u questionID) τ seen = .ok detail) :
    detail = { v₀ with
      id := questionID, choices := v₁.choices, correctChoiceID := v₂.correctChoiceID } := by
  obtain ⟨r₀, hr₀, hid₀, k₀, -, -, rfl⟩ := hv₀
  obtain ⟨r₁, -, -, k₁, -, -, rfl⟩ := hv₁
  obtain ⟨r₂, -, -, k₂, hk₂, hkq₂, rfl⟩ := hv₂
  rw [QuestionRepository.getMyQuestion, Prog.bind_eq] at h
  obtain ⟨r, hr, hid, h⟩ := readAt_selectMyQuestion hq (fun τ seen a => fail_ne_ok _ τ seen a)
    (fun _ τ seen a => fail_ne_ok _ τ seen a) h
  have hrow : r = r₀ := (seen 0).constraints.questionsPkey.eq hr hr₀ (hid.trans hid₀.symm)
  have hchoices := readAt_listChoices hq h
  have hkey := readAt_getCorrectChoiceID hq hk₂ hkq₂ hchoices
  rw [← Except.ok.inj hkey, hrow]
  rfl

/-- `GetQuizQuestion` mixes the versions that its statements find. -/
theorem readAt_getQuizQuestion {questionID : String} {q : Uuid} (hq : io.cast questionID = some q)
    {τ : ℕ → OpTick} {seen : ℕ → Db} {question : Question} {v₀ v₁ : QuestionDetail}
    (hv₀ : (seen 0).IsVersion q v₀) (hv₁ : (seen 1).IsVersion q v₁)
    (h : readAt io (getQuizQuestion questionID) τ seen = .ok question) :
    question = { v₀.toQuestion with choices := v₁.choices } := by
  obtain ⟨r₀, hr₀, hid₀, k₀, -, -, rfl⟩ := hv₀
  obtain ⟨r₁, -, -, k₁, -, -, rfl⟩ := hv₁
  rw [getQuizQuestion, Prog.bind_eq] at h
  obtain ⟨r, hr, hid, h⟩ := readAt_selectQuizQuestion hq (fun τ seen a => fail_ne_ok _ τ seen a)
    (fun _ τ seen a => fail_ne_ok _ τ seen a) h
  have hrow : r = r₀ := (seen 0).constraints.questionsPkey.eq hr hr₀ (hid.trans hid₀.symm)
  have hchoices := readAt_listChoices hq h
  rw [← Except.ok.inj hchoices, hrow, hid₀]
  rfl

/-- For every interleaving of the statements of the two reads with commits of
updates of the question: a read that succeeds takes each part from one committed
version, and parts that are read with no commit in between agree. -/
theorem reads_mix_versions {q : Uuid} {questionID : String} (hq : io.cast questionID = some q)
    {seen : ℕ → Db} (hdb : Reachable io (seen 0))
    (hseen : ∀ n, UpdateCommits io q (seen n) (seen (n + 1))) (u : String) (τ : ℕ → OpTick) :
    (∀ detail, readAt io (QuestionRepository.getMyQuestion u questionID) τ seen = .ok detail →
      ∃ v₀ v₁ v₂, (seen 0).IsVersion q v₀ ∧ (seen 1).IsVersion q v₁ ∧ (seen 2).IsVersion q v₂ ∧
        detail = { v₀ with
          id := questionID, choices := v₁.choices, correctChoiceID := v₂.correctChoiceID } ∧
        (seen 1 = seen 0 → seen 2 = seen 0 → detail = { v₀ with id := questionID }) ∧
        (seen 2 = seen 1 → detail.correctChoiceID ∈ detail.choices.map Choice.id)) ∧
    ∀ question, readAt io (getQuizQuestion questionID) τ seen = .ok question →
      ∃ v₀ v₁, (seen 0).IsVersion q v₀ ∧ (seen 1).IsVersion q v₁ ∧
        question = { v₀.toQuestion with choices := v₁.choices } ∧
        (seen 1 = seen 0 → question = v₀.toQuestion) := by
  have hw₀ : WellFormed (seen 0).toTables := hdb.wellFormed
  obtain ⟨hw₁, hids₁⟩ := (hseen 0).keeps hw₀
  obtain ⟨hw₂, hids₂⟩ := (hseen 1).keeps hw₁
  -- a question that is stored at the first statement has a version at every one
  have hversions : ∀ r ∈ (seen 0).questions, r.id = q → ∃ v₀ v₁ v₂,
      (seen 0).IsVersion q v₀ ∧ (seen 1).IsVersion q v₁ ∧ (seen 2).IsVersion q v₂ := by
    intro r hr hid
    have hmem : q ∈ (seen 0).questions.map QuestionRow.id := List.mem_map.mpr ⟨r, hr, hid⟩
    obtain ⟨v₀, hv₀⟩ := hw₀.exists_version hmem
    obtain ⟨v₁, hv₁⟩ := hw₁.exists_version (hids₁ ▸ hmem)
    obtain ⟨v₂, hv₂⟩ := hw₂.exists_version (hids₂ ▸ hids₁ ▸ hmem)
    exact ⟨v₀, v₁, v₂, hv₀, hv₁, hv₂⟩
  constructor
  · intro detail h
    have hstored := h
    rw [QuestionRepository.getMyQuestion, Prog.bind_eq] at hstored
    obtain ⟨r, hr, hid, -⟩ := readAt_selectMyQuestion hq (fun τ seen a => fail_ne_ok _ τ seen a)
      (fun _ τ seen a => fail_ne_ok _ τ seen a) hstored
    obtain ⟨v₀, v₁, v₂, hv₀, hv₁, hv₂⟩ := hversions r hr hid
    have hdetail := readAt_getMyQuestion hq hv₁ hv₂ hv₀ h
    refine ⟨v₀, v₁, v₂, hv₀, hv₁, hv₂, hdetail, ?_, ?_⟩
    · intro h₁ h₂
      rw [h₁] at hv₁
      rw [h₂] at hv₂
      rw [hdetail, hv₁.eq hv₀, hv₂.eq hv₀]
    · intro h₂
      rw [h₂] at hv₂
      rw [hdetail, hv₂.eq hv₁]
      exact hv₁.correct_mem
  · intro question h
    have hstored := h
    rw [getQuizQuestion, Prog.bind_eq] at hstored
    obtain ⟨r, hr, hid, -⟩ := readAt_selectQuizQuestion hq (fun τ seen a => fail_ne_ok _ τ seen a)
      (fun _ τ seen a => fail_ne_ok _ τ seen a) hstored
    obtain ⟨v₀, v₁, v₂, hv₀, hv₁, -⟩ := hversions r hr hid
    have hquestion := readAt_getQuizQuestion hq hv₀ hv₁ h
    refine ⟨v₀, v₁, hv₀, hv₁, hquestion, ?_⟩
    intro h₁
    rw [h₁] at hv₁
    rw [hquestion, hv₁.eq hv₀]
    rfl

/-! ### An update between the choices and the key -/

/-- Alice's update of her unanswered question. -/
def updatedStore : Db :=
  (withTx documentedReaders (updateQuestionTx "alice" sampleQuestion.text sampleDraft)
    (calm 3 16 0) createdStore).2

/-- The update commits right before the third statement of the read. -/
def seenByAlice (n : ℕ) : Db := if n < 2 then createdStore else updatedStore

theorem updateCommits_seenByAlice (n : ℕ) :
    UpdateCommits documentedReaders sampleQuestion (seenByAlice n) (seenByAlice (n + 1)) := by
  have hcommit : UpdateCommit documentedReaders sampleQuestion createdStore updatedStore := by
    have hok : (withTx documentedReaders (updateQuestionTx "alice" sampleQuestion.text sampleDraft)
        (calm 3 16 0) createdStore).1.isOk = true := by decide +kernel
    cases htx : withTx documentedReaders (updateQuestionTx "alice" sampleQuestion.text sampleDraft)
        (calm 3 16 0) createdStore with
    | mk r db' =>
        cases r with
        | error e =>
            rw [htx] at hok
            exact absurd hok (by simp [Except.isOk, Except.toBool])
        | ok detail =>
            refine ⟨"alice", sampleQuestion.text, sampleDraft, calm 3 16 0, detail,
              documentedReaders.cast_text _, by decide +kernel, ?_⟩
            rw [htx, updatedStore, htx]
  unfold seenByAlice
  by_cases h : n + 1 < 2
  · rw [if_pos h, if_pos (by omega)]
  · rw [if_neg h]
    by_cases h' : n < 2
    · rw [if_pos h']
      exact .single hcommit
    · rw [if_neg h']

/-- Alice reads the old choices with the key of the new ones. -/
theorem getMyQuestion_torn :
    Reachable documentedReaders (seenByAlice 0) ∧
      (∀ n, UpdateCommits documentedReaders sampleQuestion (seenByAlice n) (seenByAlice (n + 1))) ∧
      ∃ detail, readAt documentedReaders
          (QuestionRepository.getMyQuestion "alice" sampleQuestion.text) (calm 4 24) seenByAlice =
            .ok detail ∧
        detail.correctChoiceID ∉ detail.choices.map Choice.id ∧
        ∀ n v, (seenByAlice n).IsVersion sampleQuestion v →
          ¬(v.choices = detail.choices ∧ v.correctChoiceID = detail.correctChoiceID) := by
  refine ⟨reachable_createdStore, updateCommits_seenByAlice, ?_⟩
  have hread : ∃ detail, readAt documentedReaders
      (QuestionRepository.getMyQuestion "alice" sampleQuestion.text) (calm 4 24) seenByAlice =
        .ok detail ∧ detail.correctChoiceID ∉ detail.choices.map Choice.id := by
    have hdecided : (match readAt documentedReaders
        (QuestionRepository.getMyQuestion "alice" sampleQuestion.text) (calm 4 24) seenByAlice with
      | .ok detail => !(detail.choices.map Choice.id).contains detail.correctChoiceID
      | .error _ => false) = true := by decide +kernel
    split at hdecided
    · rename_i detail hok
      exact ⟨detail, hok, by simpa using hdecided⟩
    · cases hdecided
  obtain ⟨detail, hok, hnot⟩ := hread
  refine ⟨detail, hok, hnot, ?_⟩
  rintro n v hv ⟨hchoices, hcorrect⟩
  rw [← hchoices, ← hcorrect] at hnot
  exact hnot hv.correct_mem

/-- The same read when nothing commits in between. -/
theorem reads_mix_versions_created :
    ∃ detail, readAt documentedReaders
        (QuestionRepository.getMyQuestion "alice" sampleQuestion.text) (calm 4 24)
        (fun _ => createdStore) = .ok detail ∧
      detail.correctChoiceID ∈ detail.choices.map Choice.id := by
  have hok : (readAt documentedReaders
      (QuestionRepository.getMyQuestion "alice" sampleQuestion.text) (calm 4 24)
      (fun _ => createdStore)).isOk = true := by decide +kernel
  cases h : readAt documentedReaders
      (QuestionRepository.getMyQuestion "alice" sampleQuestion.text) (calm 4 24)
      (fun _ => createdStore) with
  | error e =>
      rw [h] at hok
      cases hok
  | ok detail =>
      obtain ⟨v₀, v₁, v₂, -, -, -, -, -, hcorrect⟩ :=
        (reads_mix_versions (documentedReaders.cast_text sampleQuestion) reachable_createdStore
          (fun _ => .refl) "alice" (calm 4 24)).1 detail h
      exact ⟨detail, rfl, hcorrect rfl⟩

end HistoryQuiz
