import HistoryQuiz.Base.SortedReads
import HistoryQuiz.Client.Me
import HistoryQuiz.Theorems.Answerable
import HistoryQuiz.Theorems.EditForm
import HistoryQuiz.Theorems.History

/-!
# The page of a user shows what is stored

In every state that the service reaches, the backend replies to the three calls of the page of a
user, and what the page makes of the replies is what is stored: its numbers count the answers of the
user, and its lists are the most recent ones of the user's attempts and of the user's questions.
What the edit page makes of every question that it links to has the prompt of the link
(`me_page_shows`). The client throws before it makes these calls (`invokeUnary_throws`), so this is
about the backend and about what the page does with replies, not about a page that opens.
-/

namespace HistoryQuiz

open Relational Effect QuestionRepository

variable {io : UuidReaders}

/-! ## The three reads -/

instance : Std.Total recentlyUpdatedFirst := ⟨fun a b => le_total b.updatedAt a.updatedAt⟩

instance : IsTrans QuestionRow recentlyUpdatedFirst := ⟨fun _ _ _ hab hbc => le_trans hbc hab⟩

instance : Std.Total latestFirst := ⟨fun x y => le_total y.1.answeredAt x.1.answeredAt⟩

instance : IsTrans (AttemptRow × QuestionRow) latestFirst :=
  ⟨fun _ _ _ hab hbc => le_trans hbc hab⟩

/-- The questions of a user that are not deleted. -/
def Db.ownQuestions (db : Db) (u : String) : List QuestionRow :=
  db.questions.filter fun q => q.authorUserId == u && q.deletedAt.isNone

def QuestionRow.summary (r : QuestionRow) : QuestionSummary := ⟨r.id.text, r.prompt, r.updatedAt⟩

section Reads

variable {u : String} {τ : ℕ → OpTick}

theorem perform_listMyQuestions_top (io : UuidReaders) (db : Db) (hu : u ≠ "")
    (hstorable : storable u = true) (hquiet : QuietStmts τ) (pageSize : ℤ) : ∃ rows,
      TopRows recentlyUpdatedFirst (normalizePageSize pageSize).toNat (db.ownQuestions u) rows ∧
      (Call.listMyQuestions u pageSize).perform io τ db =
        (.ok (.questions (rows.map QuestionRow.summary) ""), db) := by
  have hlimit : ¬normalizePageSize pageSize < 0 := by
    have := normalizePageSize_bounds pageSize
    omega
  refine ⟨_, topRows_take_orderBy (τ 0).first.scan, ?_⟩
  have hread : (QuestionUsecase.listMyQuestions u pageSize).run (DbOp.exec io) τ db =
      (.ok (((orderBy recentlyUpdatedFirst (τ 0).first.scan (db.ownQuestions u)).take
        (normalizePageSize pageSize).toNat).map QuestionRow.summary, ""), db) := by
    rw [QuestionUsecase.listMyQuestions, if_neg hu, QuestionRepository.listMyQuestions,
      Prog.bind_eq, Prog.bind_eq, Prog.bind_assoc, run_query_bind, PoolStmt.exec,
      Tick.guard_quiet (hquiet 0), selectMyQuestions, if_pos hstorable, limited, if_neg hlimit,
      List.map_take]
    rfl
  exact Prog.run_bind_ok hread _

theorem perform_listMyAttempts_top (io : UuidReaders) (db : Db) (hu : u ≠ "")
    (hstorable : storable u = true) (hquiet : QuietStmts τ) (pageSize : ℤ) : ∃ rows,
      TopRows latestFirst (normalizePageSize pageSize).toNat (db.attemptsWithQuestions u) rows ∧
      (Call.listMyAttempts u pageSize).perform io τ db =
        (.ok (.attempts (rows.map toAttempt) ""), db) := by
  have hlimit : ¬normalizePageSize pageSize < 0 := by
    have := normalizePageSize_bounds pageSize
    omega
  refine ⟨_, topRows_take_orderBy (τ 0).first.scan, ?_⟩
  have hread : (UserUsecase.listMyAttempts u pageSize).run (DbOp.exec io) τ db =
      (.ok (((orderBy latestFirst (τ 0).first.scan (db.attemptsWithQuestions u)).take
        (normalizePageSize pageSize).toNat).map toAttempt, ""), db) := by
    rw [UserUsecase.listMyAttempts, if_neg hu, AttemptRepository.listMyAttempts, if_neg hu,
      Prog.bind_eq, Prog.bind_eq, Prog.bind_assoc, run_query_bind, PoolStmt.exec,
      Tick.guard_quiet (hquiet 0), selectAttempts, if_pos hstorable, limited, if_neg hlimit,
      List.map_take]
    rfl
  exact Prog.run_bind_ok hread _

end Reads

/-- A question of the user is read with its texts, its choices in order and a correct one. -/
theorem perform_getMyQuestion_quiet (io : UuidReaders) {db : Db} (hw : WellFormed db.toTables)
    {u : String} {r : QuestionRow} (hr : r ∈ db.ownQuestions u) (hu : u ≠ "")
    (hstorable : storable u = true) {τ : ℕ → OpTick} (hquiet : QuietStmts τ) : ∃ detail,
      (Call.getMyQuestion u r.id.text).perform io τ db = (.ok (.detail detail), db) ∧
      detail.id = r.id.text ∧ r.Detailed db detail := by
  obtain ⟨hstored, hown⟩ := List.mem_filter.mp hr
  simp only [Bool.and_eq_true, beq_iff_eq, Option.isNone_iff_eq_none] at hown
  obtain ⟨rfl, hactive⟩ := hown
  obtain ⟨k, hk, hkq⟩ := List.mem_map.mp (hw.keys r hstored)
  have hread : (QuestionUsecase.getMyQuestion io r.authorUserId r.id.text).run (DbOp.exec io) τ
      db = (QuestionRepository.getMyQuestion r.authorUserId r.id.text).run (DbOp.exec io) τ db := by
    unfold QuestionUsecase.getMyQuestion
    rw [if_neg hu, if_neg r.id.text_ne_empty, if_neg (by simp)]
  refine ⟨_, Prog.run_bind_ok (hread.trans (run_getMyQuestion hquiet hstored (io.cast_text _)
    hactive hstorable hk hkq)) _, rfl, ⟨rfl, rfl, rfl, _, hk, hkq, rfl⟩⟩

namespace Client

open Js

/-! ## The edit page -/

/-- A detail that is read of a well-formed store is the content of a value. -/
theorem exists_value {db : Db} (hw : WellFormed db.toTables) {r : QuestionRow}
    (hr : r ∈ db.questions) {detail : HistoryQuiz.QuestionDetail} (h : r.Detailed db detail) :
    ∃ v : CreateQuestionFormValue, v.prompt = r.prompt ∧ detail.Shows v.draft := by
  obtain ⟨k, hk, hkq, hcorrect⟩ := h.key
  obtain ⟨c, hc, href⟩ := db.constraints.answerKeysChoice k hk
  rw [ChoiceRow.idQuestion, AnswerKeyRow.choiceRef, Prod.mk.injEq] at href
  refine ⟨⟨r.prompt, detail.choices.map Choice.label, c.ordinal, r.explanation.getD ""⟩, rfl,
    h.prompt, rfl, ?_, ⟨c.toChoice, ?_, rfl, ?_⟩, h.explanation⟩
  · rw [h.choices, List.map_map]
    exact hw.choicesInOrder hr
  · rw [h.choices]
    exact List.mem_map_of_mem (mem_choicesInOrder.mpr ⟨hc, href.2.trans hkq⟩)
  · rw [hcorrect, ← href.1]
    rfl

/-- What is read of an own question makes the edit page with its prompt. -/
theorem perform_getMyQuestion_shown (io : UuidReaders) {db : Db} (hw : WellFormed db.toTables)
    {u : String} (hu : u ≠ "") (hstorable : storable u = true) {r : QuestionRow}
    (hr : r ∈ db.ownQuestions u) {τ : ℕ → OpTick} (hquiet : QuietStmts τ) : ∃ detail v,
      (Call.getMyQuestion u r.id.text).perform io τ db = (.ok (.detail detail), db) ∧
      detail.id = r.id.text ∧
      QuestionsEdit.toInitialFormValues (toQuestionDetail detail) = .ok v ∧
      v.prompt = r.prompt := by
  obtain ⟨detail, hperform, hid, hdetailed⟩ :=
    perform_getMyQuestion_quiet io hw hr hu hstorable hquiet
  obtain ⟨v, hprompt, hshows⟩ := exists_value hw (List.mem_filter.mp hr).1 hdetailed
  exact ⟨detail, v, hperform, hid,
    QuestionsEdit.toInitialFormValues_shows hshows (hdetailed.nodup_ids io), hprompt⟩

/-! ## The page -/

namespace Me

/-- The call for a section, as the backend performs it for the user `u`. -/
def PageSection.call (u : String) : PageSection → Call
  | attempts => .listMyAttempts u LIST_PAGE_SIZE
  | stats => .getMyStats u
  | questions => .listMyQuestions u LIST_PAGE_SIZE

/-- It is the request that the page makes. -/
theorem PageSection.call_request (pageSection : PageSection) (requestId : String) (ctx : Context) :
    (withRequestContext pageSection.request requestId).call ctx =
      pageSection.call ctx.userID.1 := by
  cases pageSection <;> rfl

theorem lookup_sections {reply : PageSection → Reply} {sections : List PageSection}
    {pageSection : PageSection} (h : pageSection ∈ sections) :
    (sections.map fun pageSection => (pageSection, reply pageSection)).lookup pageSection =
      some (reply pageSection) := by
  induction sections with
  | nil => cases h
  | cons first sections ih =>
      rw [List.map_cons, List.lookup_cons]
      by_cases hfirst : pageSection = first
      · simp [hfirst]
      · rw [beq_false_of_ne hfirst]
        exact ih ((List.mem_cons.mp h).resolve_left hfirst)

/-- What the page shows to the user `u` of what `db` stores. -/
structure Shows (db : Db) (u : String) (data : LoaderData) : Prop where
  user : data.userId = u
  totalAttempts : data.stats.totalAttempts = toString (db.answersOf u).length
  correctAttempts : data.stats.correctAttempts = toString ((db.answersOf u).filter Prod.snd).length
  attempts : ∃ rows, TopRows latestFirst 20 (db.attemptsWithQuestions u) rows ∧
    data.attempts = rows.map toAttempt
  questions : ∃ rows, TopRows recentlyUpdatedFirst 20 (db.ownQuestions u) rows ∧
    data.questions = rows.map QuestionRow.summary

/-- The replies to the calls of the page, each of them made while no statement fails. -/
theorem performs_sections (io : UuidReaders) (db : Db) {u : String} (hu : u ≠ "")
    (hstorable : storable u = true) {τ : PageSection → ℕ → OpTick}
    (hquiet : ∀ pageSection, QuietStmts (τ pageSection)) : ∃ reply : PageSection → Reply,
      (∀ pageSection : PageSection, (pageSection.call u).perform io (τ pageSection) db =
        (.ok (reply pageSection), db)) ∧
      ∀ (order : AnswerOrder) (requestId : String), Shows db u (toLoaderData requestId u
        (order.sections.map fun pageSection => (pageSection, reply pageSection))) := by
  obtain ⟨rows, htop, hquestions⟩ :=
    perform_listMyQuestions_top io db hu hstorable (hquiet .questions) LIST_PAGE_SIZE
  obtain ⟨attemptRows, htopAttempts, hattempts⟩ :=
    perform_listMyAttempts_top io db hu hstorable (hquiet .attempts) LIST_PAGE_SIZE
  obtain ⟨s, hstats⟩ : ∃ s,
      (Call.getMyStats u).perform io (τ .stats) db = (.ok (.stats s), db) :=
    (perform_user_queries hu hstorable (hquiet .stats) db LIST_PAGE_SIZE).1
  obtain ⟨htotal, hcorrect, -⟩ := perform_getMyStats_ok hstats
  refine ⟨PageSection.rec (.attempts (attemptRows.map toAttempt) "") (.stats s)
    (.questions (rows.map QuestionRow.summary) ""), ?_, ?_⟩
  · intro pageSection
    cases pageSection with
    | attempts => exact hattempts
    | stats => exact hstats
    | questions => exact hquestions
  · intro order requestId
    have hmem : ∀ pageSection, pageSection ∈ order.sections := by
      intro pageSection
      refine order.complete.mem_iff.mpr ?_
      cases pageSection <;> simp
    refine ⟨rfl, ?_, ?_, ⟨attemptRows, htopAttempts, ?_⟩, rows, htop, ?_⟩
    · rw [← htotal]
      unfold toLoaderData statsOf
      rw [lookup_sections (hmem .stats)]
      rfl
    · rw [← hcorrect]
      unfold toLoaderData statsOf
      rw [lookup_sections (hmem .stats)]
      rfl
    · unfold toLoaderData attemptsOf
      rw [lookup_sections (hmem .attempts)]
    · unfold toLoaderData questionsOf
      rw [lookup_sections (hmem .questions)]

/-- In every state that the service reaches, whoever has used it: the backend replies to the three
calls of the page of a user. Whatever the order is in which it does so, the data of the page say how
many answers of the user are stored and how many of them are correct, and list the 20 most recent
attempts and the 20 questions that were updated last. The backend replies to the call for each of
these questions too, and the edit page makes a value of it that has the prompt of the link. -/
theorem me_page_shows {init db : Db} (hinit : (∃ now, init = seeded now) ∨ init.questions = [])
    (hdb : Steps io (fun _ => True) init db) {u : String} (hu : u ≠ "")
    (hstorable : storable u = true) {τ : PageSection → ℕ → OpTick}
    (hquiet : ∀ pageSection, QuietStmts (τ pageSection)) : ∃ reply : PageSection → Reply,
      (∀ (pageSection : PageSection) requestId (ctx : Context), ctx.userID.1 = u →
        ((withRequestContext pageSection.request requestId).call ctx).perform io
          (τ pageSection) db = (.ok (reply pageSection), db)) ∧
      ∀ (order : AnswerOrder) (requestId : String), ∃ data,
        data = toLoaderData requestId u
          (order.sections.map fun pageSection => (pageSection, reply pageSection)) ∧
        Shows db u data ∧
        ∀ question ∈ data.questions, ∀ τ', QuietStmts τ' → ∃ detail v,
          (Call.getMyQuestion u question.id).perform io τ' db = (.ok (.detail detail), db) ∧
          detail.id = question.id ∧
          QuestionsEdit.toInitialFormValues (toQuestionDetail detail) = .ok v ∧
          v.prompt = question.prompt := by
  have hw : WellFormed db.toTables := by
    refine hdb.wellFormed ?_
    rcases hinit with ⟨now, rfl⟩ | hempty
    · exact wellFormed_seeded now
    · exact wellFormed_of_no_questions hempty
  obtain ⟨reply, hreply, hshows⟩ := performs_sections io db hu hstorable hquiet
  refine ⟨reply, ?_, fun order requestId => ⟨_, rfl, hshows order requestId, ?_⟩⟩
  · intro pageSection requestId ctx hctx
    rw [pageSection.call_request, hctx]
    exact hreply pageSection
  intro question hquestion τ' hquiet'
  obtain ⟨rows, htop, hrows⟩ := (hshows order requestId).questions
  rw [hrows] at hquestion
  obtain ⟨r, hr, rfl⟩ := List.mem_map.mp hquestion
  exact perform_getMyQuestion_shown io hw hu hstorable (htop.subset hr) hquiet'

/-- The page of Alice links to the question that she has saved, and the edit page has its prompt. -/
theorem me_page_shows_alice : ∃ (data : LoaderData) (question : QuestionSummary),
    Shows sampleSaved "alice" data ∧ data.questions = [question] ∧ ∃ detail v,
      (Call.getMyQuestion "alice" question.id).perform documentedReaders (calm 2 0) sampleSaved =
        (.ok (.detail detail), sampleSaved) ∧
      QuestionsEdit.toInitialFormValues (toQuestionDetail detail) = .ok v ∧
      v.prompt = question.prompt := by
  have hsaved : Steps documentedReaders (fun _ => True) (seeded 0) sampleSaved :=
    .single (.call _ _ trivial)
  obtain ⟨reply, -, hpage⟩ := me_page_shows (.inl ⟨0, rfl⟩) hsaved (show "alice" ≠ "" by decide)
    (by decide) (show ∀ _ : PageSection, QuietStmts (calm 2 0) from fun _ _ => rfl)
  obtain ⟨data, -, hshows, hlinks⟩ := hpage ⟨[.stats, .attempts, .questions], .swap ..⟩ "page"
  obtain ⟨rows, ⟨-, -, hlength, -⟩, hrows⟩ := hshows.questions
  have hone : data.questions.length = 1 := by
    have hown : (sampleSaved.ownQuestions "alice").length = 1 := by decide +kernel
    rw [hrows, List.length_map, hlength, hown]
    rfl
  obtain ⟨question, hquestion⟩ := List.length_eq_one_iff.mp hone
  obtain ⟨detail, v, hperform, -, hv, hprompt⟩ := hlinks question
    (hquestion ▸ List.mem_singleton.mpr rfl) (calm 2 0) (fun _ => rfl)
  exact ⟨data, question, hshows, hquestion, detail, v, hperform, hv, hprompt⟩

end Me

end Client

end HistoryQuiz
