import HistoryQuiz.Base.Hoare
import HistoryQuiz.Logic.Reads

/-!
# Statistics and the history of calls

A `History` is a run of calls with what each of them returned. The attempts that
are stored for a user are exactly those that the replies have announced
(`History.accounts`): a call adds at most one attempt, and it adds one exactly
when it returns its id (`post_submitAnswer`). So the two queries of the user
service agree with the history (`stats_equal_history`).
-/

namespace HistoryQuiz

open Relational Effect QuestionRepository

variable {io : UuidReaders}

/-- A run of calls from `init`, one after the other, with their replies, and the
state it leaves. Questions may be deleted in between. -/
inductive History (io : UuidReaders) (init : Db) :
    List (Call × Except GoError Reply) → Db → Prop
  | nil : History io init [] init
  | call {hist : List (Call × Except GoError Reply)} {db : Db} (h : History io init hist db)
      (c : Call) (τ : ℕ → OpTick) :
      History io init (hist ++ [(c, (c.perform io τ db).1)]) (c.perform io τ db).2
  | setDeletedAt {hist : List (Call × Except GoError Reply)} {db : Db} (h : History io init hist db)
      (now : Timestamp) (p : QuestionRow → Bool) (deletedAt : QuestionRow → Option Timestamp) :
      History io init hist (db.setDeletedAt now p deletedAt)

/-- The attempt of the user `u` that a call has announced: its id and whether it
is correct. -/
def announced (u : String) : Call × Except GoError Reply → Option (String × Bool)
  | (.submitAnswer userID _ _, .ok (.answer r)) =>
      if userID = u ∧ r.attemptID ≠ "" then some (r.attemptID, r.isCorrect) else none
  | _ => none

/-- The attempts of the user `u` that a history has announced. -/
def recorded (u : String) (hist : List (Call × Except GoError Reply)) : List (String × Bool) :=
  hist.filterMap (announced u)

/-! ## What a call adds -/

/-- What `SubmitAnswer` does to the attempts: it adds none and announces none, or
it adds the one that it announces. -/
inductive Records (u : String) (db : Db)
    (reply : Except GoError QuizUsecase.SubmitAnswerResult) (db' : Db) : Prop
  | nothing (h : db'.attempts = db.attempts) (hreply : ∀ r, reply = .ok r → r.attemptID = "")
  | attempt (row : AttemptRow) (correctChoiceID : String) (hu : u ≠ "")
      (h : db'.attempts = db.attempts ++ [row]) (huser : row.userId = u)
      (hreply : reply = .ok ⟨row.isCorrect, correctChoiceID, row.id.text⟩)

/-- The insertion of the user leaves the attempts alone. -/
theorem post_ensureUserExists {u : String} {db : Db} :
    (UserRepository.ensureUserExists u).Post (DbOp.exec io) (fun _ => True) db
      fun _ db' => db'.attempts = db.attempts := by
  unfold UserRepository.ensureUserExists
  split_ifs
  · exact .fail rfl
  · refine post_query ?_
    intro t _
    have hsame : (PoolStmt.exec io (.insertUser u) t.first db).2.attempts = db.attempts := by
      rw [PoolStmt.exec, Tick.guard]
      split
      · rfl
      · rcases insertUser_cases u db with h | h <;> rw [h]
        rfl
    cases (PoolStmt.exec io (.insertUser u) t.first db).1 with
    | ok a => exact .ret hsame
    | error e => exact .fail hsame

/-- The insertion of an attempt returns its id, or adds nothing. -/
theorem post_createAttempt {u questionID choiceID : String} {isCorrect : Bool} {db : Db} :
    (AttemptRepository.createAttempt u questionID choiceID isCorrect).Post (DbOp.exec io)
      (fun _ => True) db fun x db' => match x with
        | .ok id => ∃ row : AttemptRow, db'.attempts = db.attempts ++ [row] ∧
            row.userId = u ∧ row.isCorrect = isCorrect ∧ row.id.text = id
        | .error _ => db'.attempts = db.attempts := by
  unfold AttemptRepository.createAttempt
  split_ifs
  · exact .fail rfl
  · exact .fail rfl
  · exact .fail rfl
  · refine post_query ?_
    intro t _
    cases hfault : t.first.fault with
    | true =>
        rw [PoolStmt.exec, Tick.guard, hfault]
        exact .fail rfl
    | false =>
        rw [PoolStmt.exec, Tick.guard_quiet hfault]
        cases hins : insertAttempt io db u questionID choiceID isCorrect t.first with
        | mk r db' =>
            cases r with
            | error e =>
                rw [insertAttempt_error hins]
                exact .fail rfl
            | ok id =>
                obtain ⟨-, rfl, q, d, -, -, hdb⟩ := insertAttempt_ok hins
                obtain ⟨-, -, -, -, htables⟩ := Db.insertAttempt_eq_ok.mp hdb
                exact .ret ⟨_, congrArg (fun t : Tables => t.attempts) htables, rfl, rfl, rfl⟩

/-- `SubmitAnswer` adds an attempt exactly when it returns its id. -/
theorem post_submitAnswer (u questionID choiceID : String) (db : Db) :
    (QuizUsecase.submitAnswer io u questionID choiceID).Post (DbOp.exec io) (fun _ => True) db
      (Records u db) := by
  have hfail : ∀ e, Records u db (.error e) db := fun e => .nothing rfl fun r hr => by cases hr
  unfold QuizUsecase.submitAnswer
  split
  · exact .fail (hfail _)
  split
  · exact .fail (hfail _)
  split
  · exact .fail (hfail _)
  split
  · exact .fail (hfail _)
  refine Prog.Post.bind (Prog.Post.attempt
    ((post_of_reads (uses_getCorrectChoiceID .stmt) db).mono ?_))
  rintro (e | correct) _ rfl
  · -- the default set
    dsimp only
    split
    · exact .ret (.nothing rfl fun r hr => by rw [← Except.ok.inj hr]; rfl)
    · exact .fail (hfail _)
  · refine Prog.Post.bind ((post_of_reads (uses_choiceBelongsToQuestion .stmt) _).mono ?_)
    rintro (e | belongs) _ rfl
    · exact hfail e
    · dsimp only
      split
      · exact .fail (hfail _)
      split
      · exact .ret (.nothing rfl fun r hr => by rw [← Except.ok.inj hr])
      · refine Prog.Post.bind (post_ensureUserExists.mono ?_)
        rintro (e | ⟨⟩) db₁ hdb₁
        · exact .nothing hdb₁ fun r hr => by cases hr
        · refine Prog.Post.bind (post_createAttempt.mono ?_)
          rintro (e | id) db₂ hdb₂
          · exact .nothing (hdb₂.trans hdb₁) fun r hr => by cases hr
          · obtain ⟨row, hrows, huser, hcorrect, hid⟩ := hdb₂
            refine .ret (.attempt row correct ‹_› (hdb₁ ▸ hrows) huser ?_)
            rw [hcorrect, hid]

/-- The other calls leave the attempts alone. -/
theorem perform_attempts {c : Call} (hc : ∀ u q d, c ≠ .submitAnswer u q d) (τ : ℕ → OpTick)
    (db : Db) : (c.perform io τ db).2.attempts = db.attempts := by
  refine c.perform_invariant (I := fun db' => db'.attempts = db.attempts) ?_ τ rfl
  intro t db₁ db₂ hsame h
  rw [← hsame]
  cases h with
  | same h => rw [h]
  | user hu h =>
      rw [h]
      rfl
  | attempt u questionID choiceID row hsubmit => exact absurd hsubmit (hc _ _ _)
  | created u draft detail hcreate hu hdraft h =>
      obtain ⟨correct, -, -, -, htables⟩ := h.committed
      rw [htables]
      rfl
  | updated u questionID draft detail q hupdate hu hdraft h =>
      obtain ⟨correct, -, -, -, htables⟩ := h.committed
      rw [htables]
      rfl

theorem perform_submitAnswer (u questionID choiceID : String) (τ : ℕ → OpTick) (db : Db) :
    (Call.submitAnswer u questionID choiceID).perform io τ db =
      (((QuizUsecase.submitAnswer io u questionID choiceID).run (DbOp.exec io) τ db).1.map
          Reply.answer,
        ((QuizUsecase.submitAnswer io u questionID choiceID).run (DbOp.exec io) τ db).2) :=
  Prog.run_bind_ret ..

/-! ## The accounting -/

/-- The stored attempts of the user `u`: their ids and whether they are correct. -/
def Tables.answersOf (t : Tables) (u : String) : List (String × Bool) :=
  (t.attempts.filter fun a => a.userId == u).map fun a => (a.id.text, a.isCorrect)

/-- A call adds for `u` what it has announced for `u`. -/
theorem perform_answersOf (c : Call) (τ : ℕ → OpTick) (db : Db) (u : String) :
    (c.perform io τ db).2.answersOf u =
      db.answersOf u ++ (announced u (c, (c.perform io τ db).1)).toList := by
  by_cases hc : ∃ v questionID choiceID, c = .submitAnswer v questionID choiceID
  · obtain ⟨v, questionID, choiceID, rfl⟩ := hc
    have hrecords : Records v db
        ((QuizUsecase.submitAnswer io v questionID choiceID).run (DbOp.exec io) τ db).1
        ((QuizUsecase.submitAnswer io v questionID choiceID).run (DbOp.exec io) τ db).2 :=
      post_submitAnswer v questionID choiceID db τ fun _ => trivial
    rw [perform_submitAnswer]
    generalize (QuizUsecase.submitAnswer io v questionID choiceID).run (DbOp.exec io) τ db = outcome
      at hrecords
    obtain ⟨reply, db'⟩ := outcome
    unfold Tables.answersOf
    cases hrecords with
    | nothing h hreply =>
        rw [h]
        cases reply with
        | error e => simp [announced, Except.map]
        | ok r => simp [announced, Except.map, hreply r rfl]
    | attempt row correct hv h huser hreply =>
        dsimp only at h hreply ⊢
        rw [h, hreply, List.filter_append, List.map_append]
        congr 1
        by_cases hu : v = u
        · simp [announced, Except.map, huser, hu, Uuid.text_ne_empty]
        · simp [announced, Except.map, huser, hu]
  · have hnone : ∀ reply, announced u (c, reply) = none := by
      intro reply
      cases c with
      | submitAnswer v q d => exact absurd ⟨v, q, d, rfl⟩ hc
      | _ => rfl
    unfold Tables.answersOf
    rw [hnone, perform_attempts fun v q d h => hc ⟨v, q, d, h⟩]
    simp

/-- In every run the stored attempts of a user are those that were announced. -/
theorem History.accounts {init : Db} (hinit : init.attempts = [])
    {hist : List (Call × Except GoError Reply)} {db : Db} (h : History io init hist db)
    (u : String) : db.answersOf u = recorded u hist := by
  induction h with
  | nil => simp [Tables.answersOf, recorded, hinit]
  | call _ c τ ih =>
      rw [perform_answersOf, ih, recorded, recorded, List.filterMap_append]
      cases hannounced : announced u (c, (c.perform io τ _).1) with
      | none => simp [hannounced]
      | some a => simp [hannounced]
  | setDeletedAt _ now p deletedAt ih => exact ih

/-! ## What the user service reads -/

/-- The join with the questions keeps every attempt of the user once. -/
theorem map_fst_attemptsWithQuestions (db : Db) (u : String) :
    (db.attemptsWithQuestions u).map Prod.fst = db.attempts.filter fun a => a.userId == u :=
  (db.constraints.attemptsQuestion.filter _).join_map_fst db.constraints.questionsPkey

/-- `n` of the answers, none of them twice. -/
structure ListsSome (answers : List (String × Bool)) (n : ℕ) (attempts : List Attempt) : Prop where
  length : attempts.length = min n answers.length
  nodup : (attempts.map Attempt.id).Nodup
  among : ∃ all : List (String × Bool), all.Perm answers ∧
    (attempts.map fun a => (a.id, a.isCorrect)) = all.take n

/-- A list of attempts shows as many of the user's attempts as the limit allows. -/
theorem selectAttempts_ok {db : Db} {u : String} {limit : ℤ} {t : Tick} {attempts : List Attempt}
    (h : selectAttempts db u limit t = .ok attempts) :
    ListsSome (db.answersOf u) limit.toNat attempts := by
  unfold selectAttempts limited at h
  split_ifs at h with hu hlimit
  rw [Except.ok.injEq] at h
  have hperm : (orderBy latestFirst t.scan (db.attemptsWithQuestions u)).Perm
      (db.attemptsWithQuestions u) := orderBy_perm ..
  have hanswers : ((orderBy latestFirst t.scan (db.attemptsWithQuestions u)).map fun x =>
      (x.1.id.text, x.1.isCorrect)).Perm (db.answersOf u) := by
    unfold Tables.answersOf
    rw [← map_fst_attemptsWithQuestions, List.map_map]
    exact hperm.map _
  have hshown : (attempts.map fun a => (a.id, a.isCorrect)) =
      ((orderBy latestFirst t.scan (db.attemptsWithQuestions u)).map fun x =>
        (x.1.id.text, x.1.isCorrect)).take limit.toNat := by
    rw [← h, List.map_take, List.map_map]
    rfl
  refine ⟨?_, ?_, _, hanswers, hshown⟩
  · have hlength := congrArg List.length hshown
    rwa [List.length_map, List.length_take, hanswers.length_eq] at hlength
  · -- the ids of the rows are a primary key, and texts are injective
    have hids : ((db.answersOf u).map Prod.fst).Nodup := by
      unfold Tables.answersOf
      rw [List.map_map]
      have hkey : ((db.attempts.filter fun a => a.userId == u).map AttemptRow.id).Nodup :=
        db.constraints.attemptsPkey.filter _
      rw [show (Prod.fst ∘ fun a : AttemptRow => (a.id.text, a.isCorrect)) =
        Uuid.text ∘ AttemptRow.id from rfl, ← List.map_map]
      exact hkey.map fun _ _ => documentedReaders.text_injective
    have hfst : attempts.map Attempt.id =
        (attempts.map fun a => (a.id, a.isCorrect)).map Prod.fst := by
      rw [List.map_map]
      rfl
    rw [hfst, hshown, List.map_take]
    exact ((hanswers.map Prod.fst).nodup_iff.mpr hids).sublist (List.take_sublist ..)

/-- The statistics count the answers and the correct ones among them. -/
theorem selectStats_ok {db : Db} {u : String} {total correct : ℕ}
    (h : selectStats db u = .ok (total, correct)) :
    total = (db.answersOf u).length ∧ correct = ((db.answersOf u).filter Prod.snd).length := by
  have hcount : ∀ rows : List AttemptRow, (rows.map fun a => if a.isCorrect then 1 else 0).sum =
      ((rows.map fun a => (a.id.text, a.isCorrect)).filter Prod.snd).length := by
    intro rows
    induction rows with
    | nil => rfl
    | cons a rows ih =>
        cases ha : a.isCorrect <;> simp [ha, ih, Nat.add_comm]
  unfold selectStats at h
  split_ifs at h
  rw [Except.ok.injEq, Prod.mk.injEq] at h
  obtain ⟨rfl, rfl⟩ := h
  exact ⟨by simp [Tables.answersOf], hcount _⟩

/-- What `GetMyStats` of the repository returns, when it returns. -/
theorem run_getMyStats_ok {u : String} {τ : ℕ → OpTick} {db : Db} {s : Stats}
    (h : ((AttemptRepository.getMyStats u).run (DbOp.exec io) τ db).1 = .ok s) :
    s.totalAttempts = (db.answersOf u).length ∧
      s.correctAttempts = ((db.answersOf u).filter Prod.snd).length := by
  have hpost : (AttemptRepository.getMyStats u).Post (DbOp.exec io) (fun _ => True) db
      fun x _ => ∀ s, x = .ok s → s.totalAttempts = (db.answersOf u).length ∧
        s.correctAttempts = ((db.answersOf u).filter Prod.snd).length := by
    unfold AttemptRepository.getMyStats
    split_ifs
    · exact .fail fun s h => by cases h
    · refine post_query ?_
      intro t _
      rw [PoolStmt.exec, Tick.guard]
      cases t.first.fault with
      | true => exact .fail fun s h => by cases h
      | false =>
          cases hstats : selectStats db u with
          | error e => exact .fail fun s h => by cases h
          | ok counts =>
              refine .ret fun s h => ?_
              rw [← Except.ok.inj h]
              exact selectStats_ok hstats
  exact hpost τ (fun _ => trivial) s h

/-- What `ListMyAttempts` of the repository returns, when it returns. -/
theorem run_listMyAttempts_ok {u : String} {limit : ℤ} {τ : ℕ → OpTick} {db : Db}
    {attempts : List Attempt}
    (h : ((AttemptRepository.listMyAttempts u limit).run (DbOp.exec io) τ db).1 = .ok attempts) :
    ListsSome (db.answersOf u) limit.toNat attempts := by
  have hpost : (AttemptRepository.listMyAttempts u limit).Post (DbOp.exec io) (fun _ => True) db
      fun x _ => ∀ attempts, x = .ok attempts →
        ListsSome (db.answersOf u) limit.toNat attempts := by
    unfold AttemptRepository.listMyAttempts
    split_ifs
    · exact .fail fun attempts h => by cases h
    · refine post_query ?_
      intro t _
      rw [PoolStmt.exec, Tick.guard]
      cases t.first.fault with
      | true => exact .fail fun attempts h => by cases h
      | false =>
          cases hattempts : selectAttempts db u limit t.first with
          | error e => exact .fail fun attempts h => by cases h
          | ok shown =>
              refine .ret fun attempts h => ?_
              rw [← Except.ok.inj h]
              exact selectAttempts_ok hattempts
  exact hpost τ (fun _ => trivial) attempts h

/-- Both queries return for a user whose id can be stored. -/
theorem perform_user_queries {u : String} (hu : u ≠ "") (hstorable : storable u = true)
    {τ : ℕ → OpTick} (hquiet : QuietStmts τ) (db : Db) (pageSize : ℤ) :
    (∃ s, (Call.getMyStats u).perform io τ db = (.ok (.stats s), db)) ∧
      ∃ attempts, (Call.listMyAttempts u pageSize).perform io τ db =
        (.ok (.attempts attempts ""), db) := by
  have hstats : ∃ s, (UserUsecase.getMyStats u).run (DbOp.exec io) τ db = (.ok s, db) := by
    obtain ⟨counts, hcounts⟩ : ∃ counts, selectStats db u = .ok counts := by
      unfold selectStats
      rw [if_pos hstorable]
      exact ⟨_, rfl⟩
    rw [UserUsecase.getMyStats, if_neg hu, AttemptRepository.getMyStats, if_neg hu, Prog.bind_eq,
      run_query_bind, PoolStmt.exec, Tick.guard_quiet (hquiet 0), hcounts]
    exact ⟨_, rfl⟩
  have hattempts : ∃ attempts, (UserUsecase.listMyAttempts u pageSize).run (DbOp.exec io) τ db =
      (.ok (attempts, ""), db) := by
    have hlimit : ¬normalizePageSize pageSize < 0 := by
      have := normalizePageSize_bounds pageSize
      omega
    obtain ⟨shown, hshown⟩ : ∃ shown,
        selectAttempts db u (normalizePageSize pageSize) (τ 0).first = .ok shown := by
      unfold selectAttempts limited
      rw [if_pos hstorable, if_neg hlimit]
      exact ⟨_, rfl⟩
    rw [UserUsecase.listMyAttempts, if_neg hu, AttemptRepository.listMyAttempts, if_neg hu,
      Prog.bind_eq, Prog.bind_eq, Prog.bind_assoc, run_query_bind, PoolStmt.exec,
      Tick.guard_quiet (hquiet 0), hshown]
    exact ⟨_, rfl⟩
  obtain ⟨s, hs⟩ := hstats
  obtain ⟨attempts, hrun⟩ := hattempts
  exact ⟨⟨s, Prog.run_bind_ok hs _⟩, attempts, Prog.run_bind_ok hrun _⟩

/-- The statistics count the stored answers. -/
theorem perform_getMyStats_ok {u : String} {τ : ℕ → OpTick} {db db' : Db} {s : Stats}
    (h : (Call.getMyStats u).perform io τ db = (.ok (.stats s), db')) :
    s.totalAttempts = (db.answersOf u).length ∧
      s.correctAttempts = ((db.answersOf u).filter Prod.snd).length ∧
      s.correctAttempts ≤ s.totalAttempts := by
  obtain ⟨stats, db₁, hrun, hreply⟩ := Prog.run_bind_eq_ok.mp h
  unfold UserUsecase.getMyStats at hrun
  have hu : u ≠ "" := by
    rintro rfl
    cases hrun
  rw [if_neg hu] at hrun
  have hcounts := run_getMyStats_ok (congrArg Prod.fst hrun)
  cases hreply
  refine ⟨hcounts.1, hcounts.2, ?_⟩
  rw [hcounts.1, hcounts.2]
  exact List.length_filter_le _ _

/-- The page lists some of the stored answers. -/
theorem perform_listMyAttempts_ok {u : String} {pageSize : ℤ} {τ : ℕ → OpTick} {db db' : Db}
    {attempts : List Attempt} {token : String}
    (h : (Call.listMyAttempts u pageSize).perform io τ db = (.ok (.attempts attempts token), db')) :
    ListsSome (db.answersOf u) (normalizePageSize pageSize).toNat attempts := by
  obtain ⟨⟨shown, _⟩, db₁, hrun, hreply⟩ := Prog.run_bind_eq_ok.mp h
  unfold UserUsecase.listMyAttempts at hrun
  have hu : u ≠ "" := by
    rintro rfl
    cases hrun
  rw [if_neg hu] at hrun
  obtain ⟨shown', db₂, hrepository, hpair⟩ := Prog.run_bind_eq_ok.mp hrun
  cases hpair
  cases hreply
  exact run_listMyAttempts_ok (congrArg Prod.fst hrepository)

/-- An answer that fails, that is anonymous or that comes from the default set adds
no attempt. -/
theorem perform_submitAnswer_nothing {u questionID choiceID : String} {τ : ℕ → OpTick}
    {db db' : Db} {reply : Except GoError Reply}
    (h : (Call.submitAnswer u questionID choiceID).perform io τ db = (reply, db'))
    (hnothing : u = "" ∨ (∃ e, reply = .error e) ∨ ∃ correct, reply =
      .ok (.answer (QuizUsecase.submitDefaultAnswer u questionID choiceID correct))) :
    db'.attempts = db.attempts := by
  have hrecords : Records u db
      ((QuizUsecase.submitAnswer io u questionID choiceID).run (DbOp.exec io) τ db).1
      ((QuizUsecase.submitAnswer io u questionID choiceID).run (DbOp.exec io) τ db).2 :=
    post_submitAnswer u questionID choiceID db τ fun _ => trivial
  rw [perform_submitAnswer, Prod.mk.injEq] at h
  obtain ⟨hreply, rfl⟩ := h
  cases hrecords with
  | nothing hsame _ => exact hsame
  | attempt row correct hu _ _ hok =>
      rw [hok] at hreply
      rcases hnothing with hanonymous | ⟨e, herror⟩ | ⟨key, hdefault⟩
      · exact absurd hanonymous hu
      · rw [herror] at hreply
        cases hreply
      · rw [hdefault] at hreply
        have hid := congrArg QuizUsecase.SubmitAnswerResult.attemptID
          (Reply.answer.inj (Except.ok.inj hreply))
        exact absurd hid row.id.text_ne_empty

/-- For every run of calls from the migrated database and every user: what the
user service returns is what the replies of `SubmitAnswer` have announced, and
the user service does return. An answer that fails, that is anonymous or that
comes from the default set adds no attempt. -/
theorem stats_equal_history {now : Timestamp} {hist : List (Call × Except GoError Reply)} {db : Db}
    (h : History io (seeded now) hist db) (u : String) (τ : ℕ → OpTick) :
    (∀ s db', (Call.getMyStats u).perform io τ db = (.ok (.stats s), db') →
      s.totalAttempts = (recorded u hist).length ∧
        s.correctAttempts = ((recorded u hist).filter Prod.snd).length ∧
        s.correctAttempts ≤ s.totalAttempts) ∧
    (∀ pageSize attempts token db',
      (Call.listMyAttempts u pageSize).perform io τ db = (.ok (.attempts attempts token), db') →
        ListsSome (recorded u hist) (normalizePageSize pageSize).toNat attempts) ∧
    (∀ limit attempts db',
      (AttemptRepository.listMyAttempts u limit).run (DbOp.exec io) τ db = (.ok attempts, db') →
        ListsSome (recorded u hist) limit.toNat attempts) ∧
    (u ≠ "" → storable u = true → QuietStmts τ → ∀ pageSize,
      (∃ s, (Call.getMyStats u).perform io τ db = (.ok (.stats s), db)) ∧
        ∃ attempts, (Call.listMyAttempts u pageSize).perform io τ db =
          (.ok (.attempts attempts ""), db)) ∧
    ∀ questionID choiceID reply db',
      (Call.submitAnswer u questionID choiceID).perform io τ db = (reply, db') →
        (u = "" ∨ (∃ e, reply = .error e) ∨ ∃ correct, reply =
          .ok (.answer (QuizUsecase.submitDefaultAnswer u questionID choiceID correct))) →
        db'.attempts = db.attempts := by
  have haccounts : db.answersOf u = recorded u hist := h.accounts rfl u
  refine ⟨?_, ?_, ?_, fun hu hstorable hquiet pageSize =>
    perform_user_queries hu hstorable hquiet db pageSize, ?_⟩
  · intro s db' hperform
    rw [← haccounts]
    exact perform_getMyStats_ok hperform
  · intro pageSize attempts token db' hperform
    rw [← haccounts]
    exact perform_listMyAttempts_ok hperform
  · intro limit attempts db' hrun
    rw [← haccounts]
    exact run_listMyAttempts_ok (congrArg Prod.fst hrun)
  · intro questionID choiceID reply db' hperform hnothing
    exact perform_submitAnswer_nothing hperform hnothing

/-- The right answer of Bob to the first seeded question, with its reply. -/
def bobsReply : Except GoError Reply × Db :=
  (Call.submitAnswer "bob" (0x1 : Uuid).text (0x1001 : Uuid).text).perform documentedReaders
    (calm 1 0) (seeded 0)

theorem history_bob : History documentedReaders (seeded 0)
    [(.submitAnswer "bob" (0x1 : Uuid).text (0x1001 : Uuid).text, bobsReply.1)] bobsReply.2 :=
  .call .nil _ _

/-- Bob has one attempt, and it is correct. -/
theorem stats_equal_history_bob :
    ∃ s, (Call.getMyStats "bob").perform documentedReaders (calm 2 8) bobsReply.2 =
        (.ok (.stats s), bobsReply.2) ∧ s.totalAttempts = 1 ∧ s.correctAttempts = 1 := by
  obtain ⟨hstats, -, -, htotal, -⟩ := stats_equal_history history_bob "bob" (calm 2 8)
  obtain ⟨s, hs⟩ := (htotal (by decide) (by decide) (fun _ => rfl) 20).1
  obtain ⟨htotal, hcorrect, -⟩ := hstats s _ hs
  refine ⟨s, hs, htotal.trans ?_, hcorrect.trans ?_⟩
  · decide +kernel
  · decide +kernel

end HistoryQuiz
