import HistoryQuiz.Logic.Judging

/-!
# Verdicts on the question's own choices

* `submitAnswer_own_choices`: when `SubmitAnswer` answers exactly for the choices of the question
  and refuses every other one with the right code.
* `submitAnswer_foreign_choice`: an answer from the default set accepts a choice of another
  question.
-/

namespace HistoryQuiz

open Relational Effect QuizUsecase

variable {io : UuidReaders}

/-! ## Questions and their choices -/

/-- The question is one of the default set. -/
def IsDefault (u : Uuid) : Prop := u.text ∈ defaultQuestions.map Question.id

/-- The question is stored, or answered from the default set. -/
def QuestionExists (db : Db) (u : Uuid) : Prop :=
  u ∈ db.questions.map QuestionRow.id ∨ IsDefault u

/-- The choice `v` is one of the question `u`: a row of it, or, if the question is not stored, a
choice of the default set. -/
def OwnChoice (db : Db) (u v : Uuid) : Prop :=
  (∃ c ∈ db.choices, c.questionId = u ∧ c.id = v) ∨
    u ∉ db.questions.map QuestionRow.id ∧
      ∃ q ∈ defaultQuestions, q.id = u.text ∧ v.text ∈ q.choices.map Choice.id

/-- An answer is given for a choice of the question. Every other one is refused and changes
nothing: one of an existing question as invalid, and one without a question as not found. -/
structure JudgedOnOwnChoices (db : Db) (u v : Uuid) (x : Except GoError SubmitAnswerResult)
    (db' : Db) : Prop where
  given : ∀ r, x = .ok r → OwnChoice db u v
  refused : ∀ e, x = .error e → db' = db ∧
    (QuestionExists db u ∧ ¬OwnChoice db u v ∧ e.code = some .invalidArgument ∨
      ¬QuestionExists db u ∧ e.code = some .notFound)

/-- The same for all texts: what the use case does not read as ids is refused as invalid. -/
def JudgesOwnChoices (io : UuidReaders) (db : Db) (q c : String)
    (x : Except GoError SubmitAnswerResult) (db' : Db) : Prop :=
  match io.parse q, io.parse c with
  | some u, some v => JudgedOnOwnChoices db u v x db'
  | _, _ => db' = db ∧ ∃ e, x = .error e ∧ e.code = some .invalidArgument

/-- When the choice of a question is checked, and no answer is lost. -/
structure OwnChoiceChecked (io : UuidReaders) (db : Db) (user q c : String) (u v : Uuid) :
    Prop where
  /-- A choice of a question with a stored key is read by PostgreSQL, as the question and the
  user are. -/
  keyed : u ∈ db.answerKeys.map AnswerKeyRow.questionId → OwnChoice db u v →
    (io.cast q).isSome ∧ (io.cast c).isSome ∧ storable user = true
  /-- The default set is asked for its own choices. -/
  default : u ∉ db.answerKeys.map AnswerKeyRow.questionId → q = u.text → IsDefault u →
    OwnChoice db u v
  /-- Another question without a key does not exist. -/
  missing : u ∉ db.answerKeys.map AnswerKeyRow.questionId → (io.cast q).isSome →
    ¬(q = u.text ∧ IsDefault u) → ¬QuestionExists db u
  /-- A question that PostgreSQL does not read exists, and the choice is foreign. -/
  unread : u ∉ db.answerKeys.map AnswerKeyRow.questionId → io.cast q = none →
    QuestionExists db u ∧ ¬OwnChoice db u v

/-- The keys of the default set are its questions. -/
theorem lookup_isSome {s : String} : (defaultCorrectChoiceIDByQuestionID.lookup s).isSome = true ↔
    s ∈ defaultQuestions.map Question.id := by
  have hkeys : defaultQuestions.map Question.id =
      defaultCorrectChoiceIDByQuestionID.map Prod.fst := rfl
  rw [hkeys, List.lookup_isSome_iff, List.mem_map]
  constructor
  · rintro ⟨p, hp, hs⟩
    exact ⟨p, hp, (beq_iff_eq.mp hs).symm⟩
  · rintro ⟨p, hp, hs⟩
    exact ⟨p, hp, beq_iff_eq.mpr hs.symm⟩

section Judged

variable {db : Db} {u v : Uuid}

/-- A question with a stored key is stored, so its choices are its rows. -/
theorem ownChoice_keyed (hkey : u ∈ db.answerKeys.map AnswerKeyRow.questionId) :
    QuestionExists db u ∧
      (OwnChoice db u v ↔ (db.choices.any fun c => c.questionId = u && c.id = v) = true) := by
  obtain ⟨k, hk, rfl⟩ := List.mem_map.mp hkey
  obtain ⟨r, hr, hid⟩ := db.constraints.answerKeysQuestion k hk
  have hstored : k.questionId ∈ db.questions.map QuestionRow.id := List.mem_map.mpr ⟨r, hr, hid⟩
  refine ⟨.inl hstored, ?_⟩
  rw [List.any_eq_true]
  constructor
  · rintro (⟨c, hc, hq, hv⟩ | ⟨hnot, -⟩)
    · exact ⟨c, hc, by simp [hq, hv]⟩
    · exact absurd hstored hnot
  · rintro ⟨c, hc, hsame⟩
    rw [Bool.and_eq_true, decide_eq_true_eq, decide_eq_true_eq] at hsame
    exact .inl ⟨c, hc, hsame⟩

theorem judged_ok {r : SubmitAnswerResult} {db' : Db} :
    JudgedOnOwnChoices db u v (.ok r) db' ↔ OwnChoice db u v := by
  constructor
  · intro h
    exact h.given r rfl
  · intro h
    exact ⟨fun _ _ => h, fun _ he => (nomatch he)⟩

theorem judged_invalid {e : GoError} (he : e.code = some .invalidArgument) :
    JudgedOnOwnChoices db u v (.error e) db ↔ QuestionExists db u ∧ ¬OwnChoice db u v := by
  constructor
  · intro h
    rcases (h.refused e rfl).2 with ⟨hexists, hforeign, -⟩ | ⟨-, hcode⟩
    · exact ⟨hexists, hforeign⟩
    · rw [he] at hcode
      cases hcode
  · rintro ⟨hexists, hforeign⟩
    refine ⟨fun _ hr => (nomatch hr), ?_⟩
    rintro _ ⟨⟩
    exact ⟨rfl, .inl ⟨hexists, hforeign, he⟩⟩

theorem judged_notFound {e : GoError} (he : e.code = some .notFound) :
    JudgedOnOwnChoices db u v (.error e) db ↔ ¬QuestionExists db u := by
  constructor
  · intro h
    rcases (h.refused e rfl).2 with ⟨-, -, hcode⟩ | ⟨hmissing, -⟩
    · rw [he] at hcode
      cases hcode
    · exact hmissing
  · intro hmissing
    refine ⟨fun _ hr => (nomatch hr), ?_⟩
    rintro _ ⟨⟩
    exact ⟨rfl, .inr ⟨hmissing, he⟩⟩

theorem not_judged_internal {e : GoError} (he : e.code = some .internal) :
    ¬JudgedOnOwnChoices db u v (.error e) db := by
  intro h
  rcases (h.refused e rfl).2 with ⟨-, -, hcode⟩ | ⟨-, hcode⟩
  all_goals
    rw [he] at hcode
    cases hcode

end Judged

/-! ## The two paths -/

section Paths

variable {db : Db} {user q c : String} {u v : Uuid} {τ : ℕ → OpTick}

/-- A question with a stored key. -/
theorem judged_keyed (hagree : io.Agree) (hq : Spells io q u) (hc : c ≠ "" ∧ (io.parse c).isSome)
    (hv : io.parse c = some v) (hkey : u ∈ db.answerKeys.map AnswerKeyRow.questionId)
    (hτ : ∀ n, (τ n).FreshAttempt db) :
    JudgedOnOwnChoices db u v ((submitAnswer io user q c).run (DbOp.exec io) τ db).1
        ((submitAnswer io user q c).run (DbOp.exec io) τ db).2 ↔
      (OwnChoice db u v → (io.cast c).isSome ∧ storable user = true) := by
  obtain ⟨hexists, hown⟩ := ownChoice_keyed (v := v) hkey
  obtain ⟨k, hk, rfl⟩ := List.mem_map.mp hkey
  have hquiet : QuietStmts τ := fun n => (hτ n).quiet
  cases hcast : io.cast c with
  | none =>
      -- the query of the relation fails, and the text is refused with the code of a foreign choice
      rw [run_submitAnswer_unread_choice hq hc hcast hk rfl user hquiet, judged_invalid rfl]
      simp [hexists]
  | some v' =>
      obtain rfl := hagree.same hv hcast
      have hspells : Spells io c v := ⟨hc.1, hc.2, hcast⟩
      by_cases hbelongs : OwnChoice db k.questionId v
      · by_cases huser : storable user = true
        · obtain ⟨row, hrow, hsame⟩ := List.any_eq_true.mp (hown.mp hbelongs)
          rw [Bool.and_eq_true, decide_eq_true_eq, decide_eq_true_eq] at hsame
          obtain ⟨r, hr, -, -⟩ := submitAnswer_given hq hspells hk rfl hrow hsame.1 hsame.2 huser hτ
          rw [hr, judged_ok]
          simp [hbelongs, huser]
        · -- the choice passes, and recording the answer fails
          obtain ⟨e, hcode, hfails⟩ := run_recordAnswer_unstorable io
            (Bool.eq_false_iff.mpr huser) (later τ 2) db
          rw [run_submitAnswer_keyed hq hspells hk rfl, hquiet 0, hquiet 1, hown.mp hbelongs,
            hfails]
          refine iff_of_false (not_judged_internal hcode) ?_
          intro h
          exact huser (h hbelongs).2
      · rw [run_submitAnswer_keyed hq hspells hk rfl, hquiet 0, hquiet 1,
          Bool.eq_false_iff.mpr fun h => hbelongs (hown.mpr h)]
        exact iff_of_true ((judged_invalid rfl).mpr ⟨hexists, hbelongs⟩) fun h => absurd h hbelongs

/-- A question without a stored key. -/
theorem judged_unkeyed (hq : Spells io q u) (hc : c ≠ "" ∧ (io.parse c).isSome)
    (hkey : u ∉ db.answerKeys.map AnswerKeyRow.questionId) (hquiet : QuietStmts τ) :
    JudgedOnOwnChoices db u v ((submitAnswer io user q c).run (DbOp.exec io) τ db).1
        ((submitAnswer io user q c).run (DbOp.exec io) τ db).2 ↔
      (q = u.text → IsDefault u → OwnChoice db u v) ∧
        (¬(q = u.text ∧ IsDefault u) → ¬QuestionExists db u) := by
  rw [run_submitAnswer_unkeyed hq hc hkey, hquiet 0]
  cases hlookup : defaultCorrectChoiceIDByQuestionID.lookup q with
  | none =>
      have hnot : ¬(q = u.text ∧ IsDefault u) := by
        rintro ⟨rfl, hdefault⟩
        have hsome := lookup_isSome.mpr hdefault
        rw [hlookup] at hsome
        cases hsome
      show JudgedOnOwnChoices db u v (.error _) db ↔ _
      rw [judged_notFound rfl]
      exact ⟨fun h => ⟨fun htext hdefault => absurd ⟨htext, hdefault⟩ hnot, fun _ => h⟩,
        fun h => h.2 hnot⟩
  | some correct =>
      -- `submitDefaultAnswer` does not look at the choices of the question
      obtain ⟨htext, -⟩ := lookup_spelled hq hlookup
      have hdefault : IsDefault u := by
        unfold IsDefault
        rw [← htext, ← lookup_isSome, hlookup]
        rfl
      show JudgedOnOwnChoices db u v (.ok _) db ↔ _
      rw [judged_ok]
      exact ⟨fun h => ⟨fun _ _ => h, fun hnot => absurd ⟨htext, hdefault⟩ hnot⟩,
        fun h => h.1 htext hdefault⟩

/-- A question that PostgreSQL does not read. -/
theorem checked_unread (hcast : io.cast q = none) :
    OwnChoiceChecked io db user q c u v ↔ QuestionExists db u ∧ ¬OwnChoice db u v := by
  constructor
  · intro h
    by_cases hkey : u ∈ db.answerKeys.map AnswerKeyRow.questionId
    · refine ⟨(ownChoice_keyed (v := v) hkey).1, fun hown => ?_⟩
      have hread := (h.keyed hkey hown).1
      rw [hcast] at hread
      cases hread
    · exact h.unread hkey hcast
  · rintro ⟨hexists, hforeign⟩
    refine ⟨fun _ hown => absurd hown hforeign, ?_, fun _ h => ?_, fun _ _ => ⟨hexists, hforeign⟩⟩
    · rintro - rfl
      rw [io.cast_text] at hcast
      cases hcast
    · rw [hcast] at h
      cases h

theorem checked_keyed (hq : Spells io q u)
    (hkey : u ∈ db.answerKeys.map AnswerKeyRow.questionId) :
    OwnChoiceChecked io db user q c u v ↔
      (OwnChoice db u v → (io.cast c).isSome ∧ storable user = true) := by
  constructor
  · intro h hown
    exact (h.keyed hkey hown).2
  · intro h
    refine ⟨fun _ hown => ⟨by rw [hq.cast]; rfl, h hown⟩, ?_, ?_, ?_⟩
    all_goals
      intro hnot
      exact absurd hkey hnot

theorem checked_unkeyed (hq : Spells io q u)
    (hkey : u ∉ db.answerKeys.map AnswerKeyRow.questionId) :
    OwnChoiceChecked io db user q c u v ↔
      (q = u.text → IsDefault u → OwnChoice db u v) ∧
        (¬(q = u.text ∧ IsDefault u) → ¬QuestionExists db u) := by
  constructor
  · intro h
    exact ⟨h.default hkey, h.missing hkey (by rw [hq.cast]; rfl)⟩
  · rintro ⟨hdefault, hmissing⟩
    refine ⟨fun h => absurd h hkey, fun _ => hdefault, fun _ _ => hmissing, fun _ h => ?_⟩
    rw [hq.cast] at h
    cases h

/-- Two ids: what PostgreSQL reads, and whether the question has a stored key, select the path. -/
theorem judged_iff_checked (hagree : io.Agree) (hu : io.parse q = some u)
    (hv : io.parse c = some v) (hτ : ∀ n, (τ n).FreshAttempt db) :
    JudgedOnOwnChoices db u v ((submitAnswer io user q c).run (DbOp.exec io) τ db).1
        ((submitAnswer io user q c).run (DbOp.exec io) τ db).2 ↔
      OwnChoiceChecked io db user q c u v := by
  have haccepted : ∀ {s : String} {w : Uuid}, io.parse s = some w →
      s ≠ "" ∧ (io.parse s).isSome := by
    intro s w hs
    refine ⟨?_, by rw [hs]; rfl⟩
    rintro rfl
    rw [hagree.parse_empty] at hs
    cases hs
  have hquiet : QuietStmts τ := fun n => (hτ n).quiet
  cases hcast : io.cast q with
  | none =>
      rw [run_submitAnswer_unread (haccepted hu) (haccepted hv) hcast, judged_invalid rfl,
        checked_unread hcast]
  | some u' =>
      obtain rfl := hagree.same hu hcast
      have hspells : Spells io q u := ⟨(haccepted hu).1, (haccepted hu).2, hcast⟩
      by_cases hkey : u ∈ db.answerKeys.map AnswerKeyRow.questionId
      · rw [judged_keyed hagree hspells (haccepted hv) hv hkey hτ, checked_keyed hspells hkey]
      · rw [judged_unkeyed hspells (haccepted hv) hkey hquiet, checked_unkeyed hspells hkey]

end Paths

/-! ## All texts -/

/-- For every state, user, question text and choice text, when no statement fails: a text that is
no id is refused, an answer is given exactly for the choices of the question, and every other
one is refused as invalid or as not found and changes nothing, if and only if the relation of
the choice to the question is checked (`OwnChoiceChecked`). -/
theorem submitAnswer_own_choices (hagree : io.Agree) (db : Db) (user q c : String)
    {τ : ℕ → OpTick} (hτ : ∀ n, (τ n).FreshAttempt db) :
    JudgesOwnChoices io db q c ((submitAnswer io user q c).run (DbOp.exec io) τ db).1
        ((submitAnswer io user q c).run (DbOp.exec io) τ db).2 ↔
      ∀ u v, io.parse q = some u → io.parse c = some v → OwnChoiceChecked io db user q c u v := by
  have hmalformed : (io.parse q).isNone = true ∨ (io.parse c).isNone = true →
      ((submitAnswer io user q c).run (DbOp.exec io) τ db).2 = db ∧
        ∃ e : GoError, ((submitAnswer io user q c).run (DbOp.exec io) τ db).1 = .error e ∧
          e.code = some .invalidArgument := by
    intro h
    obtain ⟨e, hcode, hrun⟩ := run_submitAnswer_malformed h user τ db
    rw [hrun]
    exact ⟨rfl, e, rfl, hcode⟩
  unfold JudgesOwnChoices
  cases hu : io.parse q with
  | none => exact iff_of_true (hmalformed (.inl (by rw [hu]; rfl))) fun u v h => (nomatch h)
  | some u =>
      cases hv : io.parse c with
      | none => exact iff_of_true (hmalformed (.inr (by rw [hv]; rfl))) fun u v _ h => (nomatch h)
      | some v =>
          show JudgedOnOwnChoices db u v _ _ ↔ _
          rw [judged_iff_checked hagree hu hv hτ]
          constructor
          · rintro h u' v' ⟨⟩ ⟨⟩
            exact h
          · intro h
            exact h u v rfl rfl

/-- Without stored questions, the first default question is answered with a choice of the
second one: the answer says that it is wrong, where a stored question refuses it. -/
theorem submitAnswer_foreign_choice :
    ((submitAnswer documentedReaders "alice" (Uuid.text 0x1) (Uuid.text 0x2002)).run
      (DbOp.exec documentedReaders) (calm 1 0) Db.empty).1 =
        .ok ⟨false, Uuid.text 0x1001, ""⟩ ∧
    ¬OwnChoice Db.empty 0x1 0x2002 ∧
    ¬JudgesOwnChoices documentedReaders Db.empty (Uuid.text 0x1) (Uuid.text 0x2002)
      ((submitAnswer documentedReaders "alice" (Uuid.text 0x1) (Uuid.text 0x2002)).run
        (DbOp.exec documentedReaders) (calm 1 0) Db.empty).1
      ((submitAnswer documentedReaders "alice" (Uuid.text 0x1) (Uuid.text 0x2002)).run
        (DbOp.exec documentedReaders) (calm 1 0) Db.empty).2 := by
  have hok : ((submitAnswer documentedReaders "alice" (Uuid.text 0x1) (Uuid.text 0x2002)).run
      (DbOp.exec documentedReaders) (calm 1 0) Db.empty).1 =
        .ok ⟨false, Uuid.text 0x1001, ""⟩ := by decide +kernel
  have hforeign : ¬OwnChoice Db.empty 0x1 0x2002 := by
    rintro (⟨c, hc, -⟩ | ⟨-, hdefault⟩)
    · exact absurd hc List.not_mem_nil
    · exact absurd hdefault (by decide +kernel)
  refine ⟨hok, hforeign, ?_⟩
  unfold JudgesOwnChoices
  rw [documentedReaders.parse_text, documentedReaders.parse_text]
  intro h
  exact hforeign (h.given _ hok)

/-- A choice of a stored question is judged. -/
theorem submitAnswer_own_choices_seeded :
    JudgesOwnChoices documentedReaders (seeded 0) (Uuid.text 0x1) (Uuid.text 0x1002)
      ((submitAnswer documentedReaders "alice" (Uuid.text 0x1) (Uuid.text 0x1002)).run
        (DbOp.exec documentedReaders) (calm 1 0) (seeded 0)).1
      ((submitAnswer documentedReaders "alice" (Uuid.text 0x1) (Uuid.text 0x1002)).run
        (DbOp.exec documentedReaders) (calm 1 0) (seeded 0)).2 := by
  have hfresh : ∀ n, (calm 1 0 n).FreshAttempt (seeded 0) := by
    intro n
    refine ⟨rfl, ?_⟩
    simp [seeded, seededTables]
  refine (submitAnswer_own_choices documentedReaders_agree (seeded 0) "alice" _ _ hfresh).mpr ?_
  rintro u v hu hv
  rw [documentedReaders.parse_text, Option.some.injEq] at hu hv
  subst hu hv
  have hkey : (0x1 : Uuid) ∈ (seeded 0).answerKeys.map AnswerKeyRow.questionId := by decide
  refine ⟨fun _ _ => ⟨by rw [documentedReaders.cast_text]; rfl,
    by rw [documentedReaders.cast_text]; rfl, by decide⟩, ?_, ?_, ?_⟩
  all_goals
    intro hnot
    exact absurd hkey hnot

end HistoryQuiz
