import HistoryQuiz.Logic.Reads

/-!
# What a user sees

A user reads the own questions and the own attempts, each attempt with the prompt of
its question, which may be another user's. `SameView u db db'` says that the rows
behind these reads are the same in both states.

* `perform_sameView`: a call of another user leaves the view of `u` as it is;
* `SameView.agrees`: the reads of `u` then return the same;
* `perform_listMyQuestions_ok`, `perform_getMyQuestion_ok`, `perform_listMyAttempts_own`:
  they show only rows of `u`.
-/

namespace HistoryQuiz

open Relational Effect QuestionRepository

variable {io : UuidReaders}

/-! ## The view of a user -/

/-- The own questions with their choices and keys, and the own attempts with the
questions they are about, are the same. -/
structure SameView (u : String) (db db' : Db) : Prop where
  questions : (db'.questions.filter fun q => q.authorUserId == u) =
    db.questions.filter fun q => q.authorUserId == u
  choices : ∀ r ∈ db.questions, r.authorUserId = u → db'.choicesOf r.id = db.choicesOf r.id
  answerKeys : ∀ r ∈ db.questions, r.authorUserId = u →
    (db'.answerKeys.filter fun k => k.questionId = r.id) =
      db.answerKeys.filter fun k => k.questionId = r.id
  attempts : (db'.attempts.filter fun a => a.userId == u) =
    db.attempts.filter fun a => a.userId == u
  history : db'.attemptsWithQuestions u = db.attemptsWithQuestions u

theorem SameView.refl (u : String) (db : Db) : SameView u db db :=
  ⟨rfl, fun _ _ _ => rfl, fun _ _ _ => rfl, rfl, rfl⟩

/-- The own questions are the same rows. -/
theorem SameView.mem_questions {u : String} {db db' : Db} (h : SameView u db db')
    {r : QuestionRow} (hu : r.authorUserId = u) : r ∈ db'.questions ↔ r ∈ db.questions := by
  have hmem : r ∈ (db'.questions.filter fun q => q.authorUserId == u) ↔
      r ∈ db.questions.filter fun q => q.authorUserId == u := by rw [h.questions]
  simpa [hu] using hmem

theorem SameView.trans {u : String} {db₁ db₂ db₃ : Db} (h : SameView u db₁ db₂)
    (h' : SameView u db₂ db₃) : SameView u db₁ db₃ := by
  refine ⟨h'.questions.trans h.questions, ?_, ?_, h'.attempts.trans h.attempts,
    h'.history.trans h.history⟩
  · intro r hr hu
    exact (h'.choices r ((h.mem_questions hu).mpr hr) hu).trans (h.choices r hr hu)
  · intro r hr hu
    exact (h'.answerKeys r ((h.mem_questions hu).mpr hr) hu).trans (h.answerKeys r hr hu)

/-! ## Calls of others -/

/-- The history is the same when the own attempts and the questions they are about
are. -/
theorem attemptsWithQuestions_eq {u : String} {db db' : Db}
    (hattempts : (db'.attempts.filter fun a => a.userId == u) =
      db.attempts.filter fun a => a.userId == u)
    (hquestions : ∀ a ∈ db.attempts, (db'.questions.filter fun q => q.id = a.questionId) =
      db.questions.filter fun q => q.id = a.questionId) :
    db'.attemptsWithQuestions u = db.attemptsWithQuestions u := by
  unfold Db.attemptsWithQuestions
  rw [hattempts]
  refine List.flatMap_congr ?_
  intro a ha
  rw [hquestions a (List.mem_filter.mp ha).1]

section Others

variable {u : String} {t : OpTick} {db db' : Db}

/-- A new question of another user is in no view of `u`. -/
theorem SameView.created {v : String} (hv : v ≠ u) {draft : QuestionDraft} {detail : QuestionDetail}
    (h : Created v draft t db detail db') : SameView u db db' := by
  obtain ⟨correct, -, -, -, htables⟩ := h.committed
  have hnew : ∀ r ∈ db.questions, (createdRow v draft t).id ≠ r.id := fun r hr hid =>
    h.fresh (hid ▸ List.mem_map_of_mem hr)
  have hattempts : db'.attempts = db.attempts := by
    rw [htables]
    rfl
  refine ⟨?_, fun r hr _ => h.choicesOf_other (hnew r hr).symm,
    fun r hr _ => h.answerKeys_other (hnew r hr).symm, by rw [hattempts],
    attemptsWithQuestions_eq (by rw [hattempts]) ?_⟩
  · rw [htables, Tables.withQuestion, List.filter_append]
    simp [createdRow, hv]
  · intro a ha
    -- an attempt is about a question that was there before
    obtain ⟨r, hr, hid⟩ := db.constraints.attemptsQuestion a ha
    rw [htables, Tables.withQuestion, List.filter_append]
    simp [← hid, hnew r hr]

/-- An edited question of another user is not in the view of `u`: it is not the own
one, and nobody has answered it. -/
theorem SameView.updated {v questionID : String} (hv : v ≠ u) {draft : QuestionDraft}
    {detail : QuestionDetail} {q : Uuid} (h : Updated io v questionID draft t db detail db' q) :
    SameView u db db' := by
  obtain ⟨correct, -, -, -, htables⟩ := h.committed
  obtain ⟨edited, hedited, hq, hauthor, -⟩ := h.own
  have hother : ∀ r ∈ db.questions, r.authorUserId = u → r.id ≠ q := by
    rintro r hr hu hid
    have hrow : r = edited := db.constraints.questionsPkey.eq hr hedited (hid.trans hq.symm)
    exact hv (hauthor.symm.trans (hrow ▸ hu))
  have hattempts : db'.attempts = db.attempts := by
    rw [htables]
    rfl
  refine ⟨?_, fun r hr hu => h.choicesOf_other (hother r hr hu),
    fun r hr hu => h.answerKeys_other (hother r hr hu), by rw [hattempts],
    attemptsWithQuestions_eq (by rw [hattempts]) ?_⟩
  · rw [htables]
    refine filter_map_eq_filter (fun r => ?_) fun r hr hu => if_neg (hother r hr (by simpa using hu))
    split <;> rfl
  · intro a ha
    rw [htables]
    refine filter_map_eq_filter (fun r => ?_) fun r _ hid => if_neg ?_
    · split <;> rfl
    · rw [of_decide_eq_true hid]
      exact h.unanswered a ha

/-- An attempt of another user is in no view of `u`. -/
theorem SameView.attempt {row : AttemptRow} (hrow : row.userId ≠ u)
    (h : db'.toTables = db.addAttempt row) : SameView u db db' := by
  have hattempts : (db'.attempts.filter fun a => a.userId == u) =
      db.attempts.filter fun a => a.userId == u := by
    rw [h, Tables.addAttempt, List.filter_append]
    simp [hrow]
  refine ⟨by rw [h]; rfl, fun r _ _ => by rw [h]; rfl, fun r _ _ => by rw [h]; rfl, hattempts,
    attemptsWithQuestions_eq hattempts fun a _ => by rw [h]; rfl⟩

/-- No operation of another user changes what `u` sees. -/
theorem SameView.change {c : Call} (hc : c.userID ≠ u) (h : Change io c t db db') :
    SameView u db db' := by
  cases h with
  | same h =>
      rw [h]
      exact .refl u db
  | user hu h =>
      exact ⟨by rw [h]; rfl, fun r _ _ => by rw [h]; rfl, fun r _ _ => by rw [h]; rfl,
        by rw [h]; rfl, attemptsWithQuestions_eq (by rw [h]; rfl) fun a _ => by rw [h]; rfl⟩
  | attempt v questionID choiceID row hsubmit hv huser hquestion hchoice hid h =>
      rw [hsubmit] at hc
      exact .attempt (huser ▸ hc) h
  | created v draft detail hcreate hv hdraft h =>
      rw [hcreate] at hc
      exact .created hc h
  | updated v questionID draft detail q hupdate hv hdraft h =>
      rw [hupdate] at hc
      exact .updated hc h

end Others

/-- A call of another user leaves the view of `u` as it is, whatever it returns. -/
theorem perform_sameView {u : String} {c : Call} (hc : c.userID ≠ u) (τ : ℕ → OpTick) (db : Db) :
    SameView u db (c.perform io τ db).2 :=
  c.perform_invariant (I := SameView u db) (fun _ _ _ hview h => hview.trans (.change hc h)) τ
    (.refl u db)

/-! ## Reads that agree -/

/-- A program returns the same from both states. -/
def Agrees (io : UuidReaders) (db db' : Db) {α : Type} (p : DbProg α) : Prop :=
  ∀ τ : ℕ → OpTick, (p.run (DbOp.exec io) τ db').1 = (p.run (DbOp.exec io) τ db).1

section Agrees

variable {db db' : Db}

theorem Agrees.ret {α : Type} (a : α) : Agrees io db db' (.ret a : DbProg α) := fun _ => rfl

theorem Agrees.fail {α : Type} (e : GoError) : Agrees io db db' (.fail e : DbProg α) := fun _ => rfl

/-- A read with one answer, and then a program that agrees. -/
theorem Agrees.query {β α : Type} {s : PoolStmt β} (hs : s.Reads) {f : β → DbProg α}
    (hanswer : ∀ t, (PoolStmt.exec io s t db').1 = (PoolStmt.exec io s t db).1)
    (hf : ∀ t, Agrees io db db' (f (PoolStmt.exec io s t db).1)) :
    Agrees io db db' ((HistoryQuiz.query s).bind f) := by
  intro τ
  rw [run_query_bind, run_query_bind, PoolStmt.exec_reads hs, PoolStmt.exec_reads hs, hanswer]
  exact hf _ _

/-- The value is handed on. -/
theorem Agrees.map {α β : Type} {p : DbProg α} (hp : Agrees io db db' p) (f : α → β) :
    Agrees io db db' (p.bind fun a => .ret (f a)) := by
  intro τ
  rw [Prog.run_bind_ret, Prog.run_bind_ret, hp τ]

end Agrees

/-- A read is answered the same when what it selects is. -/
theorem Tick.guard_congr {α : Type} (t : Tick) {db db' : Db} {x x' : Except SqlError α}
    (h : x' = x) : (t.guard db' (x', db')).1 = (t.guard db (x, db)).1 := by
  unfold Tick.guard
  split
  · rfl
  · exact h

/-- The statistics are those of the own attempts. -/
theorem agrees_getMyStats {u : String} {db db' : Db}
    (hattempts : (db'.attempts.filter fun a => a.userId == u) =
      db.attempts.filter fun a => a.userId == u) :
    Agrees io db db' (UserUsecase.getMyStats u) := by
  unfold UserUsecase.getMyStats AttemptRepository.getMyStats
  split_ifs
  · exact .fail _
  · refine Agrees.query (s := .selectStats u) trivial (fun t => Tick.guard_congr t ?_) ?_
    · unfold selectStats
      rw [hattempts]
    · intro t
      cases (PoolStmt.exec io (.selectStats u) t db).1 with
      | ok counts => exact .ret _
      | error e => exact .fail _

section View

variable {u : String} {db db' : Db} (h : SameView u db db')

include h

theorem SameView.listMyQuestions (limit : ℤ) :
    Agrees io db db' (QuestionRepository.listMyQuestions u limit) := by
  refine Agrees.query (s := .selectMyQuestions u limit) trivial (fun t => Tick.guard_congr t ?_) ?_
  · have hrows : (db'.questions.filter fun q => q.authorUserId == u && q.deletedAt.isNone) =
        db.questions.filter fun q => q.authorUserId == u && q.deletedAt.isNone := by
      have hfilter := congrArg (List.filter fun q : QuestionRow => q.deletedAt.isNone) h.questions
      simpa [List.filter_filter, Bool.and_comm] using hfilter
    unfold selectMyQuestions
    rw [hrows]
  · intro t
    cases (PoolStmt.exec io (.selectMyQuestions u limit) t db).1 with
    | ok questions => exact .ret _
    | error e => exact .fail _

theorem SameView.listMyAttempts (limit : ℤ) :
    Agrees io db db' (AttemptRepository.listMyAttempts u limit) := by
  unfold AttemptRepository.listMyAttempts
  split_ifs
  · exact .fail _
  · refine Agrees.query (s := .selectAttempts u limit) trivial (fun t => Tick.guard_congr t ?_) ?_
    · unfold selectAttempts
      rw [h.history]
    · intro t
      cases (PoolStmt.exec io (.selectAttempts u limit) t db).1 with
      | ok attempts => exact .ret _
      | error e => exact .fail _

/-- An own question, its choices and its key. -/
theorem SameView.getMyQuestion (questionID : String) :
    Agrees io db db' (QuestionRepository.getMyQuestion u questionID) := by
  have hfind : ∀ qid, (db'.questions.find? fun q =>
        q.id = qid && q.authorUserId == u && q.deletedAt.isNone) =
      db.questions.find? fun q => q.id = qid && q.authorUserId == u && q.deletedAt.isNone := by
    intro qid
    have hown := congrArg (List.find? fun q : QuestionRow => q.id = qid && q.deletedAt.isNone)
      h.questions
    rw [List.find?_filter, List.find?_filter] at hown
    simpa only [Bool.decide_and, Bool.decide_eq_true, Bool.and_comm, Bool.and_left_comm,
      Bool.and_assoc] using hown
  refine Agrees.query (s := .selectMyQuestion questionID u) trivial
    (fun t => Tick.guard_congr t ?_) ?_
  · unfold selectMyQuestion withUuid
    cases io.cast questionID with
    | none => rfl
    | some qid =>
        dsimp only
        rw [hfind]
  · intro t
    rw [PoolStmt.exec, Tick.guard]
    cases t.fault with
    | true => exact .fail _
    | false =>
        simp only [Bool.false_eq_true, if_false, selectMyQuestion, withUuid]
        split_ifs with hu
        · cases hq : io.cast questionID with
          | none => exact .fail _
          | some qid =>
              dsimp only
              cases hrow : db.questions.find? fun q =>
                  q.id = qid && q.authorUserId == u && q.deletedAt.isNone with
              | none => exact .fail _
              | some r =>
                  -- the question is an own one
                  have hr : r ∈ db.questions := List.mem_of_find?_eq_some hrow
                  have hsel := List.find?_some hrow
                  simp only [Bool.and_eq_true, decide_eq_true_eq, beq_iff_eq] at hsel
                  obtain ⟨⟨rfl, hauthor⟩, -⟩ := hsel
                  simp only [Option.map_some, listChoices, getCorrectChoiceID, Prog.bind_eq,
                    Prog.bind_assoc]
                  refine Agrees.query (s := .selectChoices questionID) trivial
                    (fun t => Tick.guard_congr t ?_) fun t => ?_
                  · rw [selectChoices, selectChoices, withUuid, withUuid, hq]
                    dsimp only
                    rw [h.choices r hr hauthor]
                  cases (PoolStmt.exec io (.selectChoices questionID) t db).1 with
                  | error e => exact .fail _
                  | ok choices =>
                      simp only [Prog.pure_eq, Prog.ret_bind]
                      refine Agrees.query (s := .selectCorrectChoiceID questionID) trivial
                        (fun t => Tick.guard_congr t ?_) fun t => ?_
                      · rw [selectCorrectChoiceID, selectCorrectChoiceID, withUuid, withUuid, hq]
                        dsimp only
                        rw [← List.head?_filter, ← List.head?_filter, h.answerKeys r hr hauthor]
                      cases (PoolStmt.exec io (.selectCorrectChoiceID questionID) t db).1 with
                      | error e => exact .fail _
                      | ok key =>
                          cases key with
                          | none => exact .fail _
                          | some correct => exact .ret _
        · exact .fail _

end View

/-- The reads of the own questions, statistics and attempts. -/
inductive OwnRead (u : String) : Call → Prop
  | getMyQuestion (questionID : String) : OwnRead u (.getMyQuestion u questionID)
  | listMyQuestions (pageSize : ℤ) : OwnRead u (.listMyQuestions u pageSize)
  | listMyAttempts (pageSize : ℤ) : OwnRead u (.listMyAttempts u pageSize)
  | getMyStats : OwnRead u (.getMyStats u)

/-- With the same view, the own reads return the same. -/
theorem SameView.agrees {u : String} {db db' : Db} (h : SameView u db db') {c : Call}
    (hc : OwnRead u c) (τ : ℕ → OpTick) :
    (c.perform io τ db').1 = (c.perform io τ db).1 := by
  cases hc with
  | getMyQuestion questionID =>
      refine Agrees.map ?_ _ τ
      unfold QuestionUsecase.getMyQuestion
      split_ifs
      · exact .fail _
      · exact .fail _
      · exact .fail _
      · exact h.getMyQuestion questionID
  | listMyQuestions pageSize =>
      refine Agrees.map (f := fun x : List QuestionSummary × String => Reply.questions x.1 x.2) ?_ τ
      unfold QuestionUsecase.listMyQuestions
      split_ifs
      · exact .fail _
      · exact (h.listMyQuestions _).map _
  | listMyAttempts pageSize =>
      refine Agrees.map (f := fun x : List Attempt × String => Reply.attempts x.1 x.2) ?_ τ
      unfold UserUsecase.listMyAttempts
      split_ifs
      · exact .fail _
      · exact (h.listMyAttempts _).map _
  | getMyStats => exact (agrees_getMyStats h.attempts).map _ τ

/-! ## Own rows only -/

section Shown

variable {db : Db} {u : String}

/-- A listed question is an own one that is not deleted. -/
theorem selectMyQuestions_ok {limit : ℤ} {t : Tick} {qs : List QuestionSummary}
    (h : selectMyQuestions db u limit t = .ok qs) : ∀ s ∈ qs, ∃ r ∈ db.questions,
      r.authorUserId = u ∧ r.deletedAt = none ∧ s = ⟨r.id.text, r.prompt, r.updatedAt⟩ := by
  unfold selectMyQuestions limited at h
  split_ifs at h with hu hlimit
  rw [Except.ok.injEq] at h
  rintro s hs
  rw [← h] at hs
  obtain ⟨r, hr, rfl⟩ := List.mem_map.mp (List.mem_of_mem_take hs)
  obtain ⟨hr, hsel⟩ := List.mem_filter.mp ((mem_orderBy ..).mp hr)
  simp only [Bool.and_eq_true, beq_iff_eq, Option.isNone_iff_eq_none] at hsel
  exact ⟨r, hr, hsel.1, hsel.2, rfl⟩

/-- A listed attempt is an own one, with the prompt of its question. -/
theorem selectAttempts_own {limit : ℤ} {t : Tick} {attempts : List Attempt}
    (h : selectAttempts db u limit t = .ok attempts) : ∀ a ∈ attempts, ∃ row ∈ db.attempts,
      ∃ r ∈ db.questions, row.userId = u ∧ r.id = row.questionId ∧ a = toAttempt (row, r) := by
  unfold selectAttempts limited at h
  split_ifs at h with hu hlimit
  rw [Except.ok.injEq] at h
  intro a ha
  rw [← h] at ha
  obtain ⟨x, hx, rfl⟩ := List.mem_map.mp (List.mem_of_mem_take ha)
  have hx' : x ∈ db.attemptsWithQuestions u := (mem_orderBy ..).mp hx
  obtain ⟨row, hrow, hx'⟩ := List.mem_flatMap.mp hx'
  obtain ⟨r, hr, rfl⟩ := List.mem_map.mp hx'
  obtain ⟨hrow, huser⟩ := List.mem_filter.mp hrow
  obtain ⟨hr, hid⟩ := List.mem_filter.mp hr
  exact ⟨row, hrow, r, hr, by simpa using huser, by simpa using hid, rfl⟩

/-- A question that is found by its id and the user is an own one that is not deleted. -/
theorem selectMyQuestion_ok {questionID : String} {x : String × String × Timestamp}
    (h : selectMyQuestion io db questionID u = .ok (some x)) : ∃ r ∈ db.questions,
      io.cast questionID = some r.id ∧ r.authorUserId = u ∧ r.deletedAt = none ∧
        x = (r.prompt, r.explanation.getD "", r.updatedAt) := by
  unfold selectMyQuestion withUuid at h
  split_ifs at h
  cases hq : io.cast questionID with
  | none =>
      rw [hq] at h
      cases h
  | some q =>
      rw [hq] at h
      dsimp only at h
      rw [Except.ok.injEq, Option.map_eq_some_iff] at h
      obtain ⟨r, hfind, rfl⟩ := h
      have hsel := List.find?_some hfind
      simp only [Bool.and_eq_true, decide_eq_true_eq, beq_iff_eq, Option.isNone_iff_eq_none] at hsel
      obtain ⟨⟨rfl, hauthor⟩, hactive⟩ := hsel
      exact ⟨r, List.mem_of_find?_eq_some hfind, rfl, hauthor, hactive, rfl⟩

/-- A program that succeeds after a statement whose failure it reports: the statement
has succeeded. -/
theorem run_query_ok {β α : Type} {s : PoolStmt (Except SqlError β)}
    {f : Except SqlError β → DbProg α} (hf : ∀ e, ∃ e', f (.error e) = .fail e') {τ : ℕ → OpTick}
    {db' : Db} {a : α} (h : ((query s).bind f).run (DbOp.exec io) τ db = (.ok a, db')) :
    ∃ x, (PoolStmt.exec io s (τ 0).first db).1 = .ok x ∧
      (f (.ok x)).run (DbOp.exec io) (later τ 1) (PoolStmt.exec io s (τ 0).first db).2 =
        (.ok a, db') := by
  rw [run_query_bind] at h
  cases hx : (PoolStmt.exec io s (τ 0).first db).1 with
  | ok x =>
      rw [hx] at h
      exact ⟨x, rfl, h⟩
  | error e =>
      obtain ⟨e', he'⟩ := hf e
      rw [hx, he'] at h
      cases h

/-- A guarded read that succeeds has not failed. -/
theorem guard_fst_ok {β : Type} {t : Tick} {x : Except SqlError β} {a : β}
    (h : (t.guard db (x, db)).1 = .ok a) : x = .ok a := by
  unfold Tick.guard at h
  split at h
  · cases h
  · exact h

theorem perform_listMyQuestions_ok {pageSize : ℤ} {τ : ℕ → OpTick} {db' : Db}
    {qs : List QuestionSummary} {token : String}
    (h : (Call.listMyQuestions u pageSize).perform io τ db = (.ok (.questions qs token), db')) :
    ∀ s ∈ qs, ∃ r ∈ db.questions, r.authorUserId = u ∧ r.deletedAt = none ∧
      s = ⟨r.id.text, r.prompt, r.updatedAt⟩ := by
  obtain ⟨⟨shown, _⟩, db₁, hrun, hreply⟩ := Prog.run_bind_eq_ok.mp h
  unfold QuestionUsecase.listMyQuestions at hrun
  split_ifs at hrun
  · cases hrun
  · obtain ⟨shown', db₂, hrepository, hpair⟩ := Prog.run_bind_eq_ok.mp hrun
    cases hpair
    cases hreply
    obtain ⟨x, hx, hret⟩ := run_query_ok (fun e => ⟨_, rfl⟩) hrepository
    cases hret
    exact selectMyQuestions_ok (guard_fst_ok hx)

theorem perform_listMyAttempts_own {pageSize : ℤ} {τ : ℕ → OpTick} {db' : Db}
    {attempts : List Attempt} {token : String}
    (h : (Call.listMyAttempts u pageSize).perform io τ db = (.ok (.attempts attempts token), db')) :
    ∀ a ∈ attempts, ∃ row ∈ db.attempts, ∃ r ∈ db.questions, row.userId = u ∧
      r.id = row.questionId ∧ a = toAttempt (row, r) := by
  obtain ⟨⟨shown, _⟩, db₁, hrun, hreply⟩ := Prog.run_bind_eq_ok.mp h
  unfold UserUsecase.listMyAttempts at hrun
  split_ifs at hrun
  · cases hrun
  · obtain ⟨shown', db₂, hrepository, hpair⟩ := Prog.run_bind_eq_ok.mp hrun
    cases hpair
    cases hreply
    rw [AttemptRepository.listMyAttempts, if_neg ‹_›] at hrepository
    obtain ⟨x, hx, hret⟩ := run_query_ok (fun e => ⟨_, rfl⟩) hrepository
    cases hret
    exact selectAttempts_own (guard_fst_ok hx)

/-- The detail is that of the stored question `r`: its texts, its choices and its key. -/
structure QuestionRow.Detailed (db : Db) (r : QuestionRow) (detail : QuestionDetail) : Prop where
  prompt : detail.prompt = r.prompt
  explanation : detail.explanation = r.explanation.getD ""
  choices : detail.choices = (db.choicesInOrder r.id).map ChoiceRow.toChoice
  key : ∃ k ∈ db.answerKeys, k.questionId = r.id ∧ detail.correctChoiceID = k.correctChoiceId.text

theorem perform_getMyQuestion_ok {questionID : String} {τ : ℕ → OpTick} {db' : Db}
    {detail : QuestionDetail}
    (h : (Call.getMyQuestion u questionID).perform io τ db = (.ok (.detail detail), db')) :
    detail.id = questionID ∧ ∃ r ∈ db.questions, io.cast questionID = some r.id ∧
      r.authorUserId = u ∧ r.deletedAt = none ∧ r.Detailed db detail := by
  obtain ⟨shown, db₁, hrun, hreply⟩ := Prog.run_bind_eq_ok.mp h
  cases hreply
  unfold QuestionUsecase.getMyQuestion at hrun
  split_ifs at hrun
  · cases hrun
  · cases hrun
  · cases hrun
  · obtain ⟨x, hx, hrest⟩ := run_query_ok (fun e => ⟨_, rfl⟩) hrun
    cases x with
    | none => cases hrest
    | some x =>
        obtain ⟨r, hr, hq, hauthor, hactive, rfl⟩ := selectMyQuestion_ok (guard_fst_ok hx)
        rw [PoolStmt.exec_reads (s := .selectMyQuestion questionID u) trivial] at hrest
        obtain ⟨choices, db₂, hchoices, hrest⟩ := Prog.run_bind_eq_ok.mp hrest
        obtain ⟨rows, hrows, hret⟩ := run_query_ok (fun e => ⟨_, rfl⟩) hchoices
        rw [PoolStmt.exec_reads (s := .selectChoices questionID) trivial] at hret
        cases hret
        obtain ⟨correct, db₃, hcorrect, hret⟩ := Prog.run_bind_eq_ok.mp hrest
        obtain ⟨key, hkey, hret'⟩ := run_query_ok (fun e => ⟨_, rfl⟩) hcorrect
        cases key with
        | none => cases hret'
        | some key =>
            cases hret'
            cases hret
            refine ⟨rfl, r, hr, hq, hauthor, hactive, rfl, rfl, ?_, ?_⟩
            · have hselect := guard_fst_ok hrows
              rw [selectChoices, withUuid, hq] at hselect
              dsimp only at hselect
              rw [orderBy_choicesOf_scan] at hselect
              exact (Except.ok.inj hselect).symm
            · have hselect := guard_fst_ok hkey
              rw [selectCorrectChoiceID, withUuid, hq] at hselect
              dsimp only at hselect
              obtain ⟨k, hfind, hcorrect⟩ := Option.map_eq_some_iff.mp (Except.ok.inj hselect)
              exact ⟨k, List.mem_of_find?_eq_some hfind, by simpa using List.find?_some hfind,
                hcorrect.symm⟩

end Shown

end HistoryQuiz
