import HistoryQuiz.Backend.Observer
import HistoryQuiz.Base.Replay
import HistoryQuiz.Logic.Content

/-!
# The ledger of writes

What the backend is for, without tables, statements or transactions: a book of questions and of
attempts, and three writes. A write is allowed only if the book has what it needs (`Book.Step`); the
content of a question is replaced by its author, and only while nobody has answered it.

The store is an implementation of the book. `Tables.book` is what the tables say, every operation on
the database that succeeds is one write or none (`Writes.replay`), and every call makes the write
that its reply speaks of or none (`Call.prog_writes`).
-/

namespace HistoryQuiz

open Relational Effect QuestionRepository

/-! ## The book -/

/-- What a question says: its texts, its choices in order and the ids of its keys. -/
structure Content where
  prompt : String
  explanation : Option String
  choices : List Choice
  keys : List String
deriving DecidableEq

structure Entry where
  id : Uuid
  author : String
  content : Content
deriving DecidableEq

/-- The questions and the attempts, oldest first. -/
structure Book where
  questions : List Entry
  attempts : List AttemptRow

/-- A write, with what its caller sent and what it was told. -/
inductive Write where
  | answered (userID questionID choiceID : String) (isCorrect : Bool) (attemptID : String)
  | created (userID : String) (draft : QuestionDraft) (detail : QuestionDetail)
  | updated (userID questionID : String) (draft : QuestionDraft) (detail : QuestionDetail)
deriving DecidableEq

/-- The content that a detail shows. -/
def QuestionDetail.content (detail : QuestionDetail) : Content where
  prompt := detail.prompt
  explanation := nullIfEmpty detail.explanation
  choices := detail.choices
  keys := [detail.correctChoiceID]

/-- A write that the book allows, and the book after it. -/
inductive Book.Step (io : UuidReaders) (b : Book) : Write → Book → Prop
  | answered {u questionID choiceID : String} (row : AttemptRow) (hu : u ≠ "")
      (huser : row.userId = u) (hquestion : io.cast questionID = some row.questionId)
      (hchoice : io.cast choiceID = some row.selectedChoiceId)
      (hknown : ∃ e ∈ b.questions, e.id = row.questionId) :
      Step io b (.answered u questionID choiceID row.isCorrect row.id.text)
        { b with attempts := b.attempts ++ [row] }
  | created {u : String} {draft : QuestionDraft} {detail : QuestionDetail} (id : Uuid)
      (hid : detail.id = id.text) (hfresh : ∀ e ∈ b.questions, e.id ≠ id)
      (hshows : detail.Shows draft) :
      Step io b (.created u draft detail)
        { b with questions := b.questions ++ [⟨id, u, detail.content⟩] }
  | updated {u questionID : String} {draft : QuestionDraft} {detail : QuestionDetail} (id : Uuid)
      (hid : io.cast questionID = some id) (hown : ∃ e ∈ b.questions, e.id = id ∧ e.author = u)
      (hunanswered : ∀ a ∈ b.attempts, a.questionId ≠ id) (hshows : detail.Shows draft) :
      Step io b (.updated u questionID draft detail)
        { b with questions := b.questions.map fun e =>
            if e.id = id then { e with content := detail.content } else e }

variable {io : UuidReaders}

/-- The attempts only grow, no question loses its author, and one that has been answered keeps its
content. -/
structure Book.Extends (b b' : Book) : Prop where
  attempts : b.attempts <+: b'.attempts
  questions : ∀ e ∈ b.questions, ∃ e' ∈ b'.questions, e'.id = e.id ∧ e'.author = e.author ∧
    ((∃ a ∈ b.attempts, a.questionId = e.id) → e' = e)

theorem Book.Extends.refl (b : Book) : b.Extends b :=
  ⟨List.prefix_rfl, fun e he => ⟨e, he, rfl, rfl, fun _ => rfl⟩⟩

theorem Book.Extends.step {b b' b'' : Book} {w : Write} (h : b.Extends b')
    (hstep : Book.Step io b' w b'') : b.Extends b'' := by
  cases hstep with
  | answered row hu huser hquestion hchoice hknown =>
      exact ⟨h.attempts.trans (List.prefix_append _ _), h.questions⟩
  | created id hid hfresh hshows =>
      refine ⟨h.attempts, ?_⟩
      intro e he
      obtain ⟨e', he', hkept⟩ := h.questions e he
      exact ⟨e', List.mem_append_left _ he', hkept⟩
  | updated id hid hown hunanswered hshows =>
      refine ⟨h.attempts, ?_⟩
      intro e he
      obtain ⟨e', he', hkeptId, hkeptAuthor, hkept⟩ := h.questions e he
      refine ⟨_, List.mem_map_of_mem he', ?_, ?_, ?_⟩
      · split_ifs <;> exact hkeptId
      · split_ifs <;> exact hkeptAuthor
      · rintro ⟨a, ha, hae⟩
        -- an answered question is not the one that is rewritten
        have hother : e'.id ≠ id := by
          rw [hkeptId, ← hae]
          exact hunanswered a (h.attempts.subset ha)
        rw [if_neg hother]
        exact hkept ⟨a, ha, hae⟩

theorem Book.extends_of_replays {b b' : Book} {ws : List Write}
    (h : Replays (Book.Step io) b ws b') : b.Extends b' :=
  h.invariant (fun _ _ _ hextends hstep => hextends.step hstep) (Book.Extends.refl b)

/-! ## The book of the tables -/

/-- The content of a question in the tables. -/
def QuestionRow.content (t : Tables) (r : QuestionRow) : Content where
  prompt := r.prompt
  explanation := r.explanation
  choices := (orderBy byOrdinal (fun i => i) (t.choicesOf r.id)).map ChoiceRow.toChoice
  keys := (t.answerKeys.filter fun k => k.questionId = r.id).map fun k => k.correctChoiceId.text

def QuestionRow.entry (t : Tables) (r : QuestionRow) : Entry := ⟨r.id, r.authorUserId, r.content t⟩

@[simp] theorem QuestionRow.entry_id (t : Tables) (r : QuestionRow) : (r.entry t).id = r.id := rfl

/-- What the tables say. -/
def Tables.book (t : Tables) : Book where
  questions := t.questions.map (QuestionRow.entry t)
  attempts := t.attempts

/-- What the rows of a question say depends on its choices and its keys only. -/
theorem QuestionRow.entry_congr {t t' : Tables} {r : QuestionRow}
    (hchoices : t'.choicesOf r.id = t.choicesOf r.id)
    (hkeys : (t'.answerKeys.filter fun k => k.questionId = r.id) =
      t.answerKeys.filter fun k => k.questionId = r.id) : r.entry t' = r.entry t := by
  unfold QuestionRow.entry QuestionRow.content
  rw [hchoices, hkeys]

/-- The content of a question whose rows are those of a detail. -/
theorem content_eq {db : Db} {r : QuestionRow} {draft : QuestionDraft} {detail : QuestionDetail}
    (hstores : db.Stores r.id draft) (hprompt : r.prompt = detail.prompt)
    (hexplanation : r.explanation = nullIfEmpty detail.explanation)
    (hchoices : (db.choicesOf r.id).map ChoiceRow.toChoice = detail.choices) {c : Uuid}
    (hkeys : (db.answerKeys.filter fun k => k.questionId = r.id) = [⟨r.id, c⟩])
    (hcorrect : c.text = detail.correctChoiceID) :
    r.content db.toTables = detail.content := by
  have horder : orderBy byOrdinal (fun i => i) (db.choicesOf r.id) = db.choicesOf r.id :=
    hstores.choicesInOrder
  unfold QuestionRow.content QuestionDetail.content
  rw [horder, hchoices, hkeys, hprompt, hexplanation, ← hcorrect]
  rfl

/-- A detail with the rows of the loop shows the draft. -/
theorem shows_choiceRows {draft : QuestionDraft} {detail : QuestionDetail} {q : Uuid} {τ : ℕ → Tick}
    {c : ChoiceRow} (hfour : draft.choices.length = 4) (hc : c ∈ choiceRows q 0 draft.choices τ)
    (hord : c.ordinal = draft.correctOrdinal) (hprompt : detail.prompt = draft.prompt)
    (hchoices : detail.choices = (choiceRows q 0 draft.choices τ).map ChoiceRow.toChoice)
    (hcorrect : detail.correctChoiceID = c.id.text)
    (hexplanation : detail.explanation = draft.explanation) : detail.Shows draft := by
  refine ⟨hprompt, ?_, ?_, ⟨c.toChoice, ?_, hord, hcorrect.symm⟩, hexplanation⟩
  · rw [hchoices, List.map_map]
    exact map_label_choiceRows ..
  · rw [hchoices, List.map_map]
    exact ordinals_choiceRows hfour τ
  · rw [hchoices]
    exact List.mem_map_of_mem hc

section Writes

variable {u questionID : String} {draft : QuestionDraft} {t : OpTick} {db db' : Db}
  {detail : QuestionDetail} {q : Uuid}

theorem Created.book (h : Created u draft t db detail db') :
    Book.Step io db.toTables.book (.created u draft detail) db'.toTables.book := by
  obtain ⟨c, hc, hord, hdetail, htables⟩ := h.committed
  have hkeys : (db'.answerKeys.filter fun k => k.questionId = (createdRow u draft t).id) =
      [⟨(createdRow u draft t).id, c.id⟩] := by
    have hnone : (db.answerKeys.filter fun k => k.questionId = (createdRow u draft t).id) = [] := by
      refine List.filter_eq_nil_iff.mpr ?_
      intro k hk hkq
      exact Db.not_mem_answerKeys h.fresh (List.mem_map.mpr ⟨k, hk, by simpa using hkq⟩)
    rw [htables, Tables.withQuestion, List.filter_append, hnone]
    simp
  have hcontent : (createdRow u draft t).content db'.toTables = detail.content := by
    refine content_eq h.stores ?_ ?_ ?_ hkeys ?_
    · rw [hdetail]
      rfl
    · rw [hdetail]
      rfl
    · rw [h.choicesOf_new, hdetail]
    · rw [hdetail]
  have hold : ∀ r ∈ db.questions, r.entry db'.toTables = r.entry db.toTables := by
    intro r hr
    have hne : r.id ≠ (createdRow u draft t).id := fun heq =>
      h.fresh (heq ▸ List.mem_map_of_mem hr)
    exact QuestionRow.entry_congr (h.choicesOf_other hne) (h.answerKeys_other hne)
  have hbook : db'.toTables.book = { db.toTables.book with
      questions := db.toTables.book.questions ++
        [⟨(createdRow u draft t).id, u, detail.content⟩] } := by
    have hquestions : db'.questions = db.questions ++ [createdRow u draft t] := by rw [htables]; rfl
    have hattempts : db'.attempts = db.attempts := by rw [htables]; rfl
    unfold Tables.book
    rw [hquestions, hattempts, List.map_append, List.map_congr_left hold, ← hcontent]
    rfl
  rw [hbook]
  refine .created _ (by rw [hdetail]) ?_ ?_
  · intro e he
    obtain ⟨r, hr, rfl⟩ := List.mem_map.mp he
    exact fun heq => h.fresh (heq ▸ List.mem_map_of_mem hr)
  · rw [hdetail]
    exact shows_choiceRows h.four hc hord rfl rfl rfl rfl

theorem Updated.book (h : Updated io u questionID draft t db detail db' q) :
    Book.Step io db.toTables.book (.updated u questionID draft detail) db'.toTables.book := by
  obtain ⟨c, hc, hord, hdetail, htables⟩ := h.committed
  have hkeys : (db'.answerKeys.filter fun k => k.questionId = q) = [⟨q, c.id⟩] := by
    rw [htables, Tables.rewritten, List.filter_append, List.filter_filter]
    simp
  have hentry : ∀ r ∈ db.questions,
      (if r.id = q then r.edited draft t.first.now else r).entry db'.toTables =
        if (r.entry db.toTables).id = q then { r.entry db.toTables with content := detail.content }
        else r.entry db.toTables := by
    intro r hr
    by_cases hid : r.id = q
    · rw [if_pos hid, QuestionRow.entry_id, if_pos hid]
      have hcontent : (r.edited draft t.first.now).content db'.toTables = detail.content := by
        refine content_eq (hid ▸ h.stores) ?_ ?_ ?_ (hid ▸ hkeys) ?_
        · rw [hdetail]
          rfl
        · rw [hdetail]
          rfl
        · rw [hdetail]
          exact congrArg _ (hid ▸ h.choicesOf_self)
        · rw [hdetail]
      rw [← hcontent]
      rfl
    · rw [if_neg hid, QuestionRow.entry_id, if_neg hid]
      exact QuestionRow.entry_congr (h.choicesOf_other hid) (h.answerKeys_other hid)
  have hbook : db'.toTables.book = { db.toTables.book with
      questions := db.toTables.book.questions.map fun e =>
        if e.id = q then { e with content := detail.content } else e } := by
    have hquestions : db'.questions =
        db.questions.map fun r => if r.id = q then r.edited draft t.first.now else r := by
      rw [htables]
      rfl
    have hattempts : db'.attempts = db.attempts := by rw [htables]; rfl
    unfold Tables.book
    rw [hquestions, hattempts, List.map_map, List.map_map]
    exact congrArg (Book.mk · _) (List.map_congr_left hentry)
  rw [hbook]
  refine .updated q h.cast ?_ h.unanswered ?_
  · obtain ⟨r, hr, hid, hauthor, -⟩ := h.own
    exact ⟨r.entry db.toTables, List.mem_map_of_mem hr, hid, hauthor⟩
  · rw [hdetail]
    exact shows_choiceRows h.four hc hord rfl rfl rfl rfl

/-- An attempt that is inserted is the attempt of its caller on a known question. -/
theorem insertAttempt_book {choiceID id : String} {isCorrect : Bool} {t : Tick} (hu : u ≠ "")
    (h : insertAttempt io db u questionID choiceID isCorrect t = (.ok id, db')) :
    Book.Step io db.toTables.book (.answered u questionID choiceID isCorrect id)
      db'.toTables.book := by
  obtain ⟨-, rfl, q, c, hq, hc, hdb⟩ := insertAttempt_ok h
  obtain ⟨-, -, hquestion, -, htables⟩ := Db.insertAttempt_eq_ok.mp hdb
  obtain ⟨r, hr, hid⟩ := List.mem_map.mp hquestion
  rw [htables]
  exact .answered ⟨t.uuid.value, u, q, c, isCorrect, t.now⟩ hu rfl hq hc
    ⟨r.entry db.toTables, List.mem_map_of_mem hr, hid⟩

end Writes

/-- Operators set a column that the book has not. -/
theorem book_setDeletedAt (db : Db) (now : Timestamp) (p : QuestionRow → Bool)
    (deletedAt : QuestionRow → Option Timestamp) :
    (db.setDeletedAt now p deletedAt).toTables.book = db.toTables.book := by
  have hentry : ∀ r ∈ db.questions,
      (if p r then { r with deletedAt := deletedAt r, updatedAt := now } else r).entry db.toTables =
        r.entry db.toTables := by
    intro r _
    split_ifs <;> rfl
  exact congrArg (Book.mk · _) ((List.map_map ..).trans (List.map_congr_left hentry))

/-! ## What operations write -/

/-- The write of an attempt: there is none without an id. -/
def answerWrites (userID questionID choiceID : String) (isCorrect : Bool) (attemptID : String) :
    List Write :=
  if attemptID = "" then [] else [.answered userID questionID choiceID isCorrect attemptID]

/-- What an operation with its answer writes. -/
inductive Writes : ⦃β : Type⦄ → DbOp β → β → List Write → Prop
  | read {β : Type} (s : PoolStmt β) (hs : s.Reads) (b : β) : Writes (.stmt s) b []
  | insertUser (userID : String) (b : Except SqlError Unit) :
      Writes (.stmt (.insertUser userID)) b []
  | insertAttempt (userID questionID choiceID : String) (isCorrect : Bool) (hu : userID ≠ "")
      (attemptID : String) :
      Writes (.stmt (.insertAttempt userID questionID choiceID isCorrect)) (.ok attemptID)
        (answerWrites userID questionID choiceID isCorrect attemptID)
  | refused (userID questionID choiceID : String) (isCorrect : Bool) (e : SqlError) :
      Writes (.stmt (.insertAttempt userID questionID choiceID isCorrect)) (.error e) []
  | createQuestion (userID : String) (draft : QuestionDraft) (detail : QuestionDetail) :
      Writes (.tx (createQuestionTx userID draft)) (.ok detail) [.created userID draft detail]
  | updateQuestion (userID questionID : String) (draft : QuestionDraft) (detail : QuestionDetail) :
      Writes (.tx (updateQuestionTx userID questionID draft)) (.ok detail)
        [.updated userID questionID draft detail]
  | rolledBack {α : Type} (body : Prog TxStmt GoError α) (e : GoError) :
      Writes (.tx body) (.error e) []

/-- An operation on the tables is the writes that its answer speaks of. -/
theorem Writes.replay {β : Type} {op : DbOp β} {t : OpTick} {db : Db} {ws es : List Write}
    {b₀ : Book} (h : Writes op (DbOp.exec io op t db).1 es)
    (hreplay : Replays (Book.Step io) b₀ ws db.toTables.book) :
    Replays (Book.Step io) b₀ (ws ++ es) (DbOp.exec io op t db).2.toTables.book := by
  generalize hexec : DbOp.exec io op t db = outcome at h ⊢
  obtain ⟨b, db'⟩ := outcome
  dsimp only at h ⊢
  cases h with
  | read s hs =>
      have hsame : db' = db :=
        (congrArg Prod.snd hexec).symm.trans (PoolStmt.exec_reads hs t.first db)
      rw [List.append_nil, hsame]
      exact hreplay
  | insertUser userID =>
      have hbook : db'.toTables.book = db.toTables.book := by
        have hafter : db' = (t.first.guard db (HistoryQuiz.insertUser db userID)).2 :=
          (congrArg Prod.snd hexec).symm
        rw [hafter, Tick.guard]
        split_ifs
        · rfl
        · rcases insertUser_cases userID db with hsame | hadd
          · rw [hsame]
          · rw [hadd]
            rfl
      rw [List.append_nil, hbook]
      exact hreplay
  | insertAttempt userID questionID choiceID isCorrect hu attemptID =>
      have hinsert : HistoryQuiz.insertAttempt io db userID questionID choiceID isCorrect t.first =
          (.ok attemptID, db') := (Tick.guard_eq_ok.mp hexec).2
      have hid : attemptID ≠ "" := by
        rw [(insertAttempt_ok hinsert).2.1]
        exact Uuid.text_ne_empty _
      rw [answerWrites, if_neg hid]
      exact hreplay.append (insertAttempt_book hu hinsert)
  | refused userID questionID choiceID isCorrect e =>
      have hguard : t.first.guard db
          (HistoryQuiz.insertAttempt io db userID questionID choiceID isCorrect t.first) =
            (.error e, db') := hexec
      have hsame : db' = db := by
        unfold Tick.guard at hguard
        split_ifs at hguard
        · exact (Prod.mk.inj hguard).2.symm
        · exact insertAttempt_error hguard
      rw [List.append_nil, hsame]
      exact hreplay
  | createQuestion userID draft detail =>
      exact hreplay.append (createQuestionTx_ok hexec).book
  | updateQuestion userID questionID draft detail =>
      obtain ⟨q, hq⟩ := updateQuestionTx_ok hexec
      exact hreplay.append hq.book
  | rolledBack body e =>
      rw [List.append_nil, withTx_error hexec]
      exact hreplay

/-! ## What calls write -/

/-- The writes that the reply of a call speaks of. -/
def Call.writes : Call → Except GoError Reply → List Write
  | .submitAnswer userID questionID choiceID, .ok (.answer r) =>
      answerWrites userID questionID choiceID r.isCorrect r.attemptID
  | .createQuestion userID draft, .ok (.detail detail) => [.created userID draft detail]
  | .updateQuestion userID questionID draft, .ok (.detail detail) =>
      [.updated userID questionID draft detail]
  | _, _ => []

@[simp] theorem Call.writes_error (c : Call) (e : GoError) : c.writes (.error e) = [] := by
  cases c <;> rfl

/-- A program writes nothing before its last operation, and then what its outcome speaks of. -/
abbrev WritesOnce {ε α : Type} (p : Prog DbOp ε α) (writes : Except ε α → List Write) : Prop :=
  p.Emits Writes (fun es => es = []) (fun x es => es = writes x) []

section Programs

variable {α β : Type} {writes : Except GoError α → List Write}

/-- The operations that write nothing, whatever their answer is. -/
def Silent ⦃β : Type⦄ (op : DbOp β) : Prop := ∀ b, Writes op b []

theorem silent_reads {β : Type} (s : PoolStmt β) (hs : s.Reads) : Silent (.stmt s) :=
  fun b => .read s hs b

theorem writesOnce_silent {ε : Type} {p : Prog DbOp ε β} {writes : Except ε β → List Write}
    (hp : p.Uses Silent) (hnone : ∀ x, writes x = []) : WritesOnce p writes :=
  hp.emits (fun _ _ hop b => hop b) rfl fun x => (hnone x).symm

/-- Reads before the rest of a program. -/
theorem writesOnce_bind {p : DbProg β} {f : β → DbProg α} (hp : p.Uses Silent)
    (hf : ∀ b, WritesOnce (f b) writes) (hnone : ∀ e, writes (.error e) = []) :
    WritesOnce (p.bind f) writes := by
  refine Prog.Emits.bind (hp.emits (fun _ _ hop b => hop b) rfl ?_)
  intro x
  cases x with
  | error e => exact (hnone e).symm
  | ok b => exact hf b

/-- A value that is computed from the outcome. -/
theorem writesOnce_map {p : DbProg β} {f : β → α} {writes' : Except GoError β → List Write}
    (hp : WritesOnce p writes') (hok : ∀ b, writes (.ok (f b)) = writes' (.ok b))
    (herror : ∀ e, writes (.error e) = writes' (.error e)) :
    WritesOnce (p.bind fun b => .ret (f b)) writes := by
  refine Prog.Emits.bind (hp.mono ?_)
  rintro x es rfl
  cases x with
  | error e => exact (herror e).symm
  | ok b => exact (hok b).symm

end Programs

theorem silent_ensureUserExists (userID : String) :
    (UserRepository.ensureUserExists userID).Uses Silent := by
  unfold UserRepository.ensureUserExists
  split_ifs
  · trivial
  · refine uses_query_bind (fun b => .insertUser userID b) ?_
    rintro (_ | _) <;> trivial

theorem writesOnce_inTx {body : Prog TxStmt GoError QuestionDetail}
    {writes : Except GoError QuestionDetail → List Write}
    (hok : ∀ detail, Writes (.tx body) (.ok detail) (writes (.ok detail)))
    (herror : ∀ e, writes (.error e) = []) : WritesOnce (inTx body) writes := by
  refine ⟨rfl, ?_⟩
  rintro (e | detail)
  · exact ⟨[], .rolledBack body e, (herror e).symm⟩
  · exact ⟨_, hok detail, rfl⟩

theorem submitAnswer_writes {u questionID choiceID : String} :
    WritesOnce (QuizUsecase.submitAnswer io u questionID choiceID)
      (fun x => (Call.submitAnswer u questionID choiceID).writes (x.map .answer)) := by
  unfold QuizUsecase.submitAnswer
  by_cases hquestion : questionID = ""
  · rw [if_pos hquestion]
    rfl
  rw [if_neg hquestion]
  by_cases hchoice : choiceID = ""
  · rw [if_pos hchoice]
    rfl
  rw [if_neg hchoice]
  split
  · rfl
  split
  · rfl
  refine writesOnce_bind (uses_getCorrectChoiceID silent_reads).attempt ?_ fun _ => rfl
  rintro (e | correct)
  · dsimp only
    split
    · rfl
    · rfl
  · refine writesOnce_bind (uses_choiceBelongsToQuestion silent_reads) ?_ fun _ => rfl
    intro belongs
    split_ifs with hbelongs hu
    · rfl
    · rfl
    · refine writesOnce_bind (silent_ensureUserExists u) ?_ fun _ => rfl
      intro _
      unfold AttemptRepository.createAttempt
      rw [if_neg hu, if_neg hquestion, if_neg hchoice]
      refine ⟨rfl, ?_⟩
      rintro (e | attemptID)
      · exact ⟨[], .refused .., rfl⟩
      · exact ⟨_, .insertAttempt _ _ _ _ hu attemptID, rfl⟩

theorem createQuestion_writes {u : String} {draft : QuestionDraft} :
    WritesOnce (QuestionUsecase.createQuestion u draft)
      (fun x => (Call.createQuestion u draft).writes (x.map .detail)) := by
  unfold QuestionUsecase.createQuestion
  split_ifs with hu
  · rfl
  · split
    · rfl
    · refine writesOnce_bind (silent_ensureUserExists u) ?_ fun _ => rfl
      intro _
      unfold QuestionRepository.createQuestion
      rw [if_neg hu]
      exact writesOnce_inTx (fun detail => .createQuestion u draft detail) fun _ => rfl

theorem updateQuestion_writes {u questionID : String} {draft : QuestionDraft} :
    WritesOnce (QuestionUsecase.updateQuestion io u questionID draft)
      (fun x => (Call.updateQuestion u questionID draft).writes (x.map .detail)) := by
  unfold QuestionUsecase.updateQuestion
  split_ifs
  · rfl
  · rfl
  · rfl
  · split
    · rfl
    · refine writesOnce_bind (uses_getQuestionAuthor silent_reads) ?_ fun _ => rfl
      rintro ⟨author, deleted⟩
      dsimp only
      split_ifs
      · rfl
      · rfl
      · refine writesOnce_bind (silent_ensureUserExists u) ?_ fun _ => rfl
        intro _
        exact writesOnce_inTx (fun detail => .updateQuestion u questionID draft detail) fun _ => rfl

/-- Every call makes the write that its reply speaks of, as its last operation, or none. -/
theorem Call.prog_writes (io : UuidReaders) (c : Call) : WritesOnce (c.prog io) c.writes := by
  cases hc : c with
  | submitAnswer u questionID choiceID =>
      exact writesOnce_map submitAnswer_writes (fun _ => rfl) fun _ => rfl
  | createQuestion u draft =>
      exact writesOnce_map createQuestion_writes (fun _ => rfl) fun _ => rfl
  | updateQuestion u questionID draft =>
      exact writesOnce_map updateQuestion_writes (fun _ => rfl) fun _ => rfl
  | _ =>
      -- the other calls only read
      refine writesOnce_silent ((Call.prog_uses io _).mono ?_) fun _ => rfl
      intro β op hop
      cases hop with
      | read s hs => exact silent_reads s hs
      | insertUser hu => exact fun b => .insertUser _ b
      | insertAttempt u questionID choiceID isCorrect hc hu => cases hc
      | createQuestion u draft hc hu hdraft => cases hc
      | updateQuestion u questionID draft hc hu hdraft => cases hc

/-- A call that nobody interrupts makes the write that its reply speaks of. -/
theorem Call.perform_writes (io : UuidReaders) (c : Call) (τ : ℕ → OpTick) (db : Db) :
    Replays (Book.Step io) db.toTables.book (c.writes (c.perform io τ db).1)
      (c.perform io τ db).2.toTables.book := by
  obtain ⟨es, rfl, hreplay⟩ := (Call.prog_writes io c).run
    (J := fun db' es => Replays (Book.Step io) db.toTables.book es db'.toTables.book)
    (fun _ _ _ _ _ _ hjournal hwrites => hwrites.replay hjournal) τ .nil
  exact hreplay

end HistoryQuiz
