import HistoryQuiz.Logic.Store
import HistoryQuiz.Theorems.Update

/-!
# Authorisation, frame and atomicity of the write path

`UpdateQuestion` checks the owner in one statement and writes in a transaction
later on. Both calls are a guard that leaves the store as it is, followed by one
transaction (`updateQuestion_eq`, `createQuestion_eq`), so whatever others do to
the database in between, the only step of the call that touches the store is its
last one, and only if the call succeeds (`writePath_frame`).
-/

namespace HistoryQuiz

open Relational Effect

variable {io : UuidReaders}

/-- The questions, choices, answer keys and attempts are the same; the users may
have gained `u`. -/
structure SameStore (u : String) (db db' : Db) : Prop where
  questions : db'.questions = db.questions
  choices : db'.choices = db.choices
  answerKeys : db'.answerKeys = db.answerKeys
  attempts : db'.attempts = db.attempts
  users : db'.users = db.users ∨ db'.users = db.users ++ [⟨u⟩]

theorem SameStore.refl (u : String) (db : Db) : SameStore u db db := ⟨rfl, rfl, rfl, rfl, .inl rfl⟩

/-- Only the question `q` of the user `u`, which is not deleted, has another
prompt, explanation, `updated_at`, choices and answer key. -/
structure OnlyEdits (u : String) (q : Uuid) (db db' : Db) : Prop where
  own : ∃ r ∈ db.questions, r.id = q ∧ r.authorUserId = u ∧ r.deletedAt = none
  questions : ∃ prompt explanation updatedAt, db'.questions = db.questions.map fun r =>
    if r.id = q then
      { r with prompt := prompt, explanation := explanation, updatedAt := updatedAt }
    else r
  choices : (db'.choices.filter fun c => c.questionId ≠ q) =
    db.choices.filter fun c => c.questionId ≠ q
  answerKeys : (db'.answerKeys.filter fun k => k.questionId ≠ q) =
    db.answerKeys.filter fun k => k.questionId ≠ q
  attempts : db'.attempts = db.attempts
  users : db'.users = db.users

/-- Only one question by the user `u` is new, with its choices and its answer key. -/
structure OnlyAdds (u : String) (db db' : Db) : Prop where
  added : ∃ (row : QuestionRow) (rows : List ChoiceRow) (correct : Uuid),
    row.authorUserId = u ∧ row.id ∉ db.questions.map QuestionRow.id ∧
      (∀ c ∈ rows, c.questionId = row.id) ∧ db'.questions = db.questions ++ [row] ∧
      db'.choices = db.choices ++ rows ∧ db'.answerKeys = db.answerKeys ++ [⟨row.id, correct⟩]
  attempts : db'.attempts = db.attempts
  users : db'.users = db.users

theorem Created.onlyAdds {u : String} {draft : QuestionDraft} {t : OpTick} {db db' : Db}
    {detail : QuestionDetail} (h : Created u draft t db detail db') : OnlyAdds u db db' := by
  obtain ⟨c, -, -, -, htables⟩ := h.committed
  refine ⟨⟨createdRow u draft t, createdChoices draft t, c.id, rfl, h.fresh, ?_, ?_, ?_, ?_⟩,
    ?_, ?_⟩
  · exact fun d hd => questionId_of_mem_choiceRows hd
  all_goals rw [htables]; rfl

theorem Updated.onlyEdits {u questionID : String} {draft : QuestionDraft} {t : OpTick}
    {db db' : Db} {detail : QuestionDetail} {q : Uuid}
    (h : Updated io u questionID draft t db detail db' q) : OnlyEdits u q db db' := by
  obtain ⟨c, -, -, -, htables⟩ := h.committed
  have hrows : ((updatedChoices q draft t).filter fun d => d.questionId ≠ q) = [] := by
    refine List.filter_eq_nil_iff.mpr ?_
    intro d hd
    simp [questionId_of_mem_choiceRows hd]
  refine ⟨h.own, ⟨draft.prompt, QuestionRepository.nullIfEmpty draft.explanation, t.first.now, ?_⟩,
    ?_, ?_, ?_, ?_⟩
  · rw [htables]
    rfl
  · rw [htables, Tables.rewritten, List.filter_append, hrows, List.filter_filter]
    simp
  · rw [htables, Tables.rewritten, List.filter_append, List.filter_filter]
    simp
  · rw [htables]
    rfl
  · rw [htables]
    rfl

/-! ## A guard and a transaction -/

/-- The operations of a guard: reads and the insertion of the caller. -/
inductive GuardOp (u : String) : ⦃β : Type⦄ → DbOp β → Prop
  | read {β : Type} (s : PoolStmt β) (h : s.Reads) : GuardOp u (.stmt s)
  | insertUser : GuardOp u (.stmt (.insertUser u))

theorem GuardOp.sameStore {u : String} {β : Type} {op : DbOp β} (h : GuardOp u op) (t : OpTick)
    (db : Db) : SameStore u db (DbOp.exec io op t db).2 := by
  cases h with
  | read s hs =>
      rw [show (DbOp.exec io (.stmt s) t db).2 = db from PoolStmt.exec_reads hs t.first db]
      exact .refl u db
  | insertUser =>
      show SameStore u db (t.first.guard db (HistoryQuiz.insertUser db u)).2
      unfold Tick.guard
      split
      · exact .refl u db
      · rcases insertUser_cases u db with hsame | hadd
        · rw [hsame]
          exact .refl u db
        · refine ⟨?_, ?_, ?_, ?_, .inr ?_⟩ <;> rw [hadd] <;> rfl

theorem guard_ensureUserExists {u : String} :
    (UserRepository.ensureUserExists u).Uses (GuardOp u) := by
  unfold UserRepository.ensureUserExists
  split_ifs
  · trivial
  · refine ⟨.insertUser, ?_⟩
    rintro (_ | _) <;> trivial

/-- What a guard and a transaction can do: the transaction is the only step that
may touch the store, and it does so only in a run that succeeds. -/
theorem guard_inTx (io : UuidReaders) {u : String} {α : Type} {guard : DbProg Unit}
    (hguard : guard.Uses (GuardOp u)) (body : Prog TxStmt GoError α)
    (τ : ℕ → (Db → Db) × OpTick) (db : Db) :
    match ((guard.bind fun _ => inTx body).run (Handler.interfered (DbOp.exec io)) τ db).1 with
    | .error _ => ∀ x ∈ (guard.bind fun _ => inTx body).ownSteps (DbOp.exec io) τ db,
        SameStore u x.1 x.2
    | .ok a => ∃ init t before after,
        (guard.bind fun _ => inTx body).ownSteps (DbOp.exec io) τ db = init ++ [(before, after)] ∧
          (∀ x ∈ init, SameStore u x.1 x.2) ∧ withTx io body t before = (.ok a, after) := by
  have hinit : ∀ x ∈ guard.ownSteps (DbOp.exec io) τ db, SameStore u x.1 x.2 :=
    Prog.ownSteps_of_uses (fun _ _ t s hop => hop.sameStore t s) hguard τ db
  rw [Prog.run_bind, Prog.ownSteps_bind]
  cases hrun : guard.run (Handler.interfered (DbOp.exec io)) τ db with
  | mk r s =>
      cases r with
      | error e => simpa using hinit
      | ok a =>
          dsimp only
          generalize later τ (guard.steps (Handler.interfered (DbOp.exec io)) τ db) = τ'
          -- the transaction, and the state it starts from
          have hstep : (inTx body).ownSteps (DbOp.exec io) τ' s =
              [((τ' 0).1 s, (withTx io body (τ' 0).2 ((τ' 0).1 s)).2)] := by
            rw [inTx, Prog.ownSteps_call]
            cases (DbOp.exec io (.tx body) (τ' 0).2 ((τ' 0).1 s)).1 <;> rfl
          have hresult : ((inTx body).run (Handler.interfered (DbOp.exec io)) τ' s).1 =
              (withTx io body (τ' 0).2 ((τ' 0).1 s)).1 := by
            rw [inTx, Prog.run_call, Prog.run_ofExcept]
            rfl
          rw [hstep, hresult]
          cases htx : withTx io body (τ' 0).2 ((τ' 0).1 s) with
          | mk r db' =>
              cases r with
              | error e =>
                  intro x hx
                  rcases List.mem_append.mp hx with hx | hx
                  · exact hinit x hx
                  · rw [List.mem_singleton.mp hx, withTx_error htx]
                    exact .refl u _
              | ok a => exact ⟨_, (τ' 0).2, _, _, rfl, hinit, htx⟩

/-- The checks of `UpdateQuestion` before its transaction. -/
def updateGuard (io : UuidReaders) (userID questionID : String) (draft : QuestionDraft) :
    DbProg Unit := do
  if userID = "" then .fail (unauthenticated "認証が必要です")
  else if questionID = "" then
    .fail (invalidArgument "question_id が空です" [⟨"question_id", "必須です"⟩])
  else if (io.parse questionID).isNone then
    .fail (invalidArgument "question_id が不正です"
      [⟨"question_id", "UUID 形式で指定してください"⟩])
  else
    match QuestionUsecase.validateDraft draft with
    | some e => .fail e
    | none =>
        let (authorUserID, deleted) ← QuestionRepository.getQuestionAuthor questionID
        if deleted = true then .fail (notFound "問題が見つかりません")
        else if authorUserID ≠ userID then .fail (permissionDenied "権限がありません")
        else UserRepository.ensureUserExists userID

theorem updateQuestion_eq (userID questionID : String) (draft : QuestionDraft) :
    QuestionUsecase.updateQuestion io userID questionID draft =
      (updateGuard io userID questionID draft).bind fun _ =>
        inTx (QuestionRepository.updateQuestionTx userID questionID draft) := by
  unfold QuestionUsecase.updateQuestion updateGuard
  split
  · rfl
  split
  · rfl
  split
  · rfl
  cases QuestionUsecase.validateDraft draft with
  | some e => rfl
  | none =>
      simp only [Prog.bind_eq]
      rw [Prog.bind_assoc]
      congr 1
      funext r
      split
      · rfl
      split
      · rfl
      · rfl

theorem guard_updateGuard {u questionID : String} {draft : QuestionDraft} :
    (updateGuard io u questionID draft).Uses (GuardOp u) := by
  unfold updateGuard
  split
  · trivial
  split
  · trivial
  split
  · trivial
  cases QuestionUsecase.validateDraft draft with
  | some e => trivial
  | none =>
      refine (uses_getQuestionAuthor .read).bind fun r => ?_
      dsimp only
      split
      · trivial
      split
      · trivial
      · exact guard_ensureUserExists

/-- The checks of `CreateQuestion` before its transaction. -/
def createGuard (userID : String) (draft : QuestionDraft) : DbProg Unit :=
  if userID = "" then .fail (unauthenticated "認証が必要です")
  else
    match QuestionUsecase.validateDraft draft with
    | some e => .fail e
    | none => UserRepository.ensureUserExists userID

theorem createQuestion_eq (userID : String) (draft : QuestionDraft) :
    QuestionUsecase.createQuestion userID draft =
      (createGuard userID draft).bind fun _ =>
        inTx (QuestionRepository.createQuestionTx userID draft) := by
  unfold QuestionUsecase.createQuestion createGuard
  by_cases hu : userID = ""
  · rw [if_pos hu, if_pos hu]
    rfl
  · rw [if_neg hu, if_neg hu]
    cases QuestionUsecase.validateDraft draft with
    | some e => rfl
    | none =>
        dsimp only
        rw [QuestionRepository.createQuestion, if_neg hu]
        rfl

theorem guard_createGuard {u : String} {draft : QuestionDraft} :
    (createGuard u draft).Uses (GuardOp u) := by
  unfold createGuard
  split
  · trivial
  cases QuestionUsecase.validateDraft draft with
  | some e => trivial
  | none => exact guard_ensureUserExists

/-! ## Calls that succeed -/

/-- A guard leaves the questions as they are. -/
theorem GuardOp.run_questions (io : UuidReaders) {u : String} {guard : DbProg Unit}
    (hguard : guard.Uses (GuardOp u)) (τ : ℕ → OpTick) (db : Db) :
    (guard.run (DbOp.exec io) τ db).2.questions = db.questions :=
  Prog.run_invariant (I := fun s : Db => s.questions = db.questions)
    (fun _ _ t s hop hs => (hop.sameStore t s).questions.trans hs) hguard τ rfl

theorem perform_createQuestion_ok {u : String} {draft : QuestionDraft} {τ : ℕ → OpTick}
    {db db' : Db} {detail : QuestionDetail}
    (h : (Call.createQuestion u draft).perform io τ db = (.ok (.detail detail), db')) :
    ∃ t db₀, Created u draft t db₀ detail db' := by
  obtain ⟨_, db₁, hrun, hreply⟩ := Prog.run_bind_eq_ok.mp h
  cases hreply
  rw [createQuestion_eq] at hrun
  obtain ⟨⟨⟩, db₀, hguard, htx⟩ := Prog.run_bind_eq_ok.mp hrun
  rw [run_inTx] at htx
  exact ⟨_, db₀, createQuestionTx_ok htx⟩

/-- What passes the checks of `UpdateQuestion` names a question. -/
theorem updateGuard_ok {u questionID : String} {draft : QuestionDraft} {τ : ℕ → OpTick}
    {db db' : Db}
    (h : (updateGuard io u questionID draft).run (DbOp.exec io) τ db = (.ok (), db')) :
    u ≠ "" ∧ questionID ≠ "" ∧ (io.parse questionID).isSome := by
  unfold updateGuard at h
  split_ifs at h with hu hid hparse
  · cases h
  · cases h
  · cases h
  · exact ⟨hu, hid, by simpa [Option.isSome_iff_ne_none] using hparse⟩

theorem perform_updateQuestion_ok {u questionID : String} {draft : QuestionDraft}
    {τ : ℕ → OpTick} {db db' : Db} {detail : QuestionDetail}
    (h : (Call.updateQuestion u questionID draft).perform io τ db = (.ok (.detail detail), db')) :
    u ≠ "" ∧ questionID ≠ "" ∧ (io.parse questionID).isSome ∧ ∃ t db₀ q,
      db₀.questions = db.questions ∧ Updated io u questionID draft t db₀ detail db' q := by
  obtain ⟨_, db₁, hrun, hreply⟩ := Prog.run_bind_eq_ok.mp h
  cases hreply
  rw [updateQuestion_eq] at hrun
  obtain ⟨⟨⟩, db₀, hguard, htx⟩ := Prog.run_bind_eq_ok.mp hrun
  obtain ⟨hu, hid, hparse⟩ := updateGuard_ok hguard
  have hquestions := GuardOp.run_questions io
    (guard_updateGuard : (updateGuard io u questionID draft).Uses (GuardOp u)) τ db
  rw [hguard] at hquestions
  rw [run_inTx] at htx
  obtain ⟨q, hq⟩ := updateQuestionTx_ok htx
  exact ⟨hu, hid, hparse, _, db₀, q, hquestions, hq⟩

/-! ## The write path -/

/-- For every caller, question id, draft and state, whatever others do to the
database before each statement of the call and whatever fails: `UpdateQuestion`
and `CreateQuestion` leave the store as it is when they report an error, and else
their last step does exactly what was asked for. -/
theorem writePath_frame (io : UuidReaders) (u questionID : String) (draft : QuestionDraft)
    (τ : ℕ → (Db → Db) × OpTick) (db : Db) :
    (match ((QuestionUsecase.updateQuestion io u questionID draft).run
        (Handler.interfered (DbOp.exec io)) τ db).1 with
      | .error _ =>
          ∀ x ∈ (QuestionUsecase.updateQuestion io u questionID draft).ownSteps (DbOp.exec io) τ db,
            SameStore u x.1 x.2
      | .ok _ => ∃ init before after q,
          (QuestionUsecase.updateQuestion io u questionID draft).ownSteps (DbOp.exec io) τ db =
            init ++ [(before, after)] ∧
          (∀ x ∈ init, SameStore u x.1 x.2) ∧ io.cast questionID = some q ∧
          OnlyEdits u q before after) ∧
    (match ((QuestionUsecase.createQuestion u draft).run
        (Handler.interfered (DbOp.exec io)) τ db).1 with
      | .error _ =>
          ∀ x ∈ (QuestionUsecase.createQuestion u draft).ownSteps (DbOp.exec io) τ db,
            SameStore u x.1 x.2
      | .ok _ => ∃ init before after,
          (QuestionUsecase.createQuestion u draft).ownSteps (DbOp.exec io) τ db =
            init ++ [(before, after)] ∧
          (∀ x ∈ init, SameStore u x.1 x.2) ∧ OnlyAdds u before after) := by
  constructor
  · rw [updateQuestion_eq]
    have h := guard_inTx io
      (guard_updateGuard : (updateGuard io u questionID draft).Uses (GuardOp u))
      (QuestionRepository.updateQuestionTx u questionID draft) τ db
    split <;> rename_i hr <;> rw [hr] at h
    · exact h
    · obtain ⟨init, t, before, after, hsteps, hinit, htx⟩ := h
      obtain ⟨q, hq⟩ := updateQuestionTx_ok htx
      exact ⟨init, before, after, q, hsteps, hinit, hq.cast, hq.onlyEdits⟩
  · rw [createQuestion_eq]
    have h := guard_inTx io (guard_createGuard : (createGuard u draft).Uses (GuardOp u))
      (QuestionRepository.createQuestionTx u draft) τ db
    split <;> rename_i hr <;> rw [hr] at h
    · exact h
    · obtain ⟨init, t, before, after, hsteps, hinit, htx⟩ := h
      exact ⟨init, before, after, hsteps, hinit, (createQuestionTx_ok htx).onlyAdds⟩

/-! ### Writes that succeed -/

/-- Before each statement, somebody else becomes a user. -/
def busy (now : Timestamp) (uuid i : ℕ) : (Db → Db) × OpTick :=
  (fun db => (insertUser db "bob").2, calm now uuid i)

/-- Alice edits her question, or creates a second one: both calls succeed, and one of their steps
does what was asked for. -/
theorem writePath_frame_alice :
    (∃ x ∈ (QuestionUsecase.updateQuestion documentedReaders "alice" sampleQuestion.text
        otherKeyDraft).ownSteps (DbOp.exec documentedReaders) (busy 3 16) createdStore,
      OnlyEdits "alice" sampleQuestion x.1 x.2) ∧
    ∃ x ∈ (QuestionUsecase.createQuestion "alice" otherKeyDraft).ownSteps
        (DbOp.exec documentedReaders) (busy 3 16) createdStore, OnlyAdds "alice" x.1 x.2 := by
  obtain ⟨hupdate, hcreate⟩ := writePath_frame documentedReaders "alice" sampleQuestion.text
    otherKeyDraft (busy 3 16) createdStore
  have hupdated : ((QuestionUsecase.updateQuestion documentedReaders "alice" sampleQuestion.text
      otherKeyDraft).run (Handler.interfered (DbOp.exec documentedReaders)) (busy 3 16)
        createdStore).1.toBool = true := by decide +kernel
  have hcreated : ((QuestionUsecase.createQuestion "alice" otherKeyDraft).run
      (Handler.interfered (DbOp.exec documentedReaders)) (busy 3 16)
        createdStore).1.toBool = true := by decide +kernel
  constructor
  · split at hupdate <;> rename_i hr <;> rw [hr] at hupdated
    · cases hupdated
    · obtain ⟨init, before, after, q, hsteps, -, hcast, hedits⟩ := hupdate
      rw [documentedReaders.cast_text, Option.some.injEq] at hcast
      refine ⟨(before, after), ?_, hcast ▸ hedits⟩
      rw [hsteps]
      exact List.mem_append_right _ (List.mem_singleton.mpr rfl)
  · split at hcreate <;> rename_i hr <;> rw [hr] at hcreated
    · cases hcreated
    · obtain ⟨init, before, after, hsteps, -, hadds⟩ := hcreate
      refine ⟨(before, after), ?_, hadds⟩
      rw [hsteps]
      exact List.mem_append_right _ (List.mem_singleton.mpr rfl)

end HistoryQuiz
