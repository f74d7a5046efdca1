import HistoryQuiz.Logic.Requests
import HistoryQuiz.Logic.Views

/-!
# The content of a question

`Db.Stores q draft`: the rows of the question `q` have the content of a draft. Both write
transactions leave the draft stored (`Created.stores`, `Updated.stores`), and an author who
reads the question then sees the draft (`QuestionRow.Detailed.shows`).
-/

namespace HistoryQuiz

open Relational Effect QuestionRepository

variable {io : UuidReaders}

/-- The question `q` is stored with the content of the draft: its texts, its four choices
in the order of the draft, and one key, which is the correct choice. -/
structure Db.Stores (db : Db) (q : Uuid) (draft : QuestionDraft) : Prop where
  row : ∃ r ∈ db.questions, r.id = q ∧ r.prompt = draft.prompt ∧
    r.explanation = nullIfEmpty draft.explanation
  four : (db.choicesOf q).length = 4
  labels : (db.choicesOf q).map ChoiceRow.label = draft.choices
  ordinals : (db.choicesOf q).map ChoiceRow.ordinal = [0, 1, 2, 3]
  key : ∃ c ∈ db.choicesOf q, c.ordinal = draft.correctOrdinal ∧
    (db.answerKeys.filter fun k => k.questionId = q) = [⟨q, c.id⟩]

/-- The question `q` is one of the user `u`, and not deleted. -/
def Db.Owns (db : Db) (u : String) (q : Uuid) : Prop :=
  ∃ r ∈ db.questions, r.id = q ∧ r.authorUserId = u ∧ r.deletedAt = none

/-- The detail has the content of the draft. -/
structure QuestionDetail.Shows (detail : QuestionDetail) (draft : QuestionDraft) : Prop where
  prompt : detail.prompt = draft.prompt
  labels : detail.choices.map Choice.label = draft.choices
  ordinals : detail.choices.map Choice.ordinal = [0, 1, 2, 3]
  correct : ∃ c ∈ detail.choices, c.ordinal = draft.correctOrdinal ∧ c.id = detail.correctChoiceID
  explanation : detail.explanation = draft.explanation

theorem nullIfEmpty_getD (s : String) : (QuestionRepository.nullIfEmpty s).getD "" = s := by
  unfold QuestionRepository.nullIfEmpty
  split_ifs with h
  · rw [h, Option.getD_none]
  · rfl

/-! ## After a commit -/

/-- The rows that the loop inserts are the choices of the draft. -/
theorem Db.stores_of_choiceRows {db : Db} {q : Uuid} {draft : QuestionDraft} {τ : ℕ → Tick}
    {c : ChoiceRow}
    (hrow : ∃ r ∈ db.questions, r.id = q ∧ r.prompt = draft.prompt ∧
      r.explanation = nullIfEmpty draft.explanation)
    (hfour : draft.choices.length = 4)
    (hchoices : db.choicesOf q = choiceRows q 0 draft.choices τ)
    (hc : c ∈ choiceRows q 0 draft.choices τ) (hord : c.ordinal = draft.correctOrdinal)
    (hkey : (db.answerKeys.filter fun k => k.questionId = q) = [⟨q, c.id⟩]) :
    db.Stores q draft where
  row := hrow
  four := by
    rw [hchoices, length_choiceRows]
    exact hfour
  labels := by
    rw [hchoices]
    exact map_label_choiceRows ..
  ordinals := by
    rw [hchoices]
    exact ordinals_choiceRows hfour _
  key := ⟨c, hchoices ▸ hc, hord, hkey⟩

theorem Created.stores {u : String} {draft : QuestionDraft} {t : OpTick} {db db' : Db}
    {detail : QuestionDetail} (h : Created u draft t db detail db') :
    db'.Stores (createdRow u draft t).id draft := by
  obtain ⟨c, hc, hord, -, htables⟩ := h.committed
  have hnokey : (db.answerKeys.filter fun k => k.questionId = (createdRow u draft t).id) = [] := by
    refine List.filter_eq_nil_iff.mpr ?_
    intro k hk hkq
    exact Db.not_mem_answerKeys h.fresh (List.mem_map.mpr ⟨k, hk, by simpa using hkq⟩)
  refine Db.stores_of_choiceRows ⟨createdRow u draft t, ?_, rfl, rfl, rfl⟩ h.four h.choicesOf_new
    hc hord ?_
  · rw [htables]
    exact List.mem_append_right _ (List.mem_singleton.mpr rfl)
  · rw [htables, Tables.withQuestion, List.filter_append, hnokey]
    simp

theorem Updated.stores {u questionID : String} {draft : QuestionDraft} {t : OpTick} {db db' : Db}
    {detail : QuestionDetail} {q : Uuid} (h : Updated io u questionID draft t db detail db' q) :
    db'.Stores q draft := by
  obtain ⟨c, hc, hord, -, htables⟩ := h.committed
  obtain ⟨r, hr, hid, -, -⟩ := h.own
  refine Db.stores_of_choiceRows ⟨r.edited draft t.first.now, ?_, hid, rfl, rfl⟩ h.four
    h.choicesOf_self hc hord ?_
  · rw [htables]
    exact List.mem_map.mpr ⟨r, hr, if_pos hid⟩
  · rw [htables, Tables.rewritten, List.filter_append, List.filter_filter]
    simp

/-- An updated question is still its author's, and not deleted. -/
theorem Updated.own_after {u questionID : String} {draft : QuestionDraft} {t : OpTick} {db db' : Db}
    {detail : QuestionDetail} {q : Uuid} (h : Updated io u questionID draft t db detail db' q) :
    db'.Owns u q := by
  obtain ⟨c, -, -, -, htables⟩ := h.committed
  obtain ⟨r, hr, hid, hauthor, hactive⟩ := h.own
  refine ⟨r.edited draft t.first.now, ?_, hid, hauthor, hactive⟩
  rw [htables]
  exact List.mem_map.mpr ⟨r, hr, if_pos hid⟩

theorem Created.own_after {u : String} {draft : QuestionDraft} {t : OpTick} {db db' : Db}
    {detail : QuestionDetail} (h : Created u draft t db detail db') :
    db'.Owns u (createdRow u draft t).id := by
  obtain ⟨c, -, -, -, htables⟩ := h.committed
  refine ⟨createdRow u draft t, ?_, rfl, rfl, rfl⟩
  rw [htables]
  exact List.mem_append_right _ (List.mem_singleton.mpr rfl)

/-! ## What is read -/

/-- The choices of a stored question are read in the order of its rows. -/
theorem Db.Stores.choicesInOrder {db : Db} {q : Uuid} {draft : QuestionDraft}
    (h : db.Stores q draft) : db.choicesInOrder q = db.choicesOf q := by
  refine orderBy_choicesOf (.refl _) ?_ id
  have hsorted : ((db.choicesOf q).map ChoiceRow.ordinal).Pairwise (· ≤ ·) := by
    rw [h.ordinals]
    decide
  rw [List.pairwise_map] at hsorted
  exact hsorted

/-- The author reads the stored draft. -/
theorem QuestionRow.Detailed.shows {db : Db} {r : QuestionRow} {detail : QuestionDetail}
    {draft : QuestionDraft} (hstores : db.Stores r.id draft) (hr : r ∈ db.questions)
    (h : r.Detailed db detail) : detail.Shows draft := by
  obtain ⟨r', hr', hid, hprompt, hexplanation⟩ := hstores.row
  obtain rfl : r' = r := db.constraints.questionsPkey.eq hr' hr hid
  obtain ⟨c, hc, hord, hkeys⟩ := hstores.key
  obtain ⟨k, hk, hkq, hcorrect⟩ := h.key
  have hchoices : detail.choices = (db.choicesOf r'.id).map ChoiceRow.toChoice := by
    rw [h.choices, hstores.choicesInOrder]
  have hkey : k = ⟨r'.id, c.id⟩ := by
    have hmem : k ∈ db.answerKeys.filter fun k => k.questionId = r'.id :=
      List.mem_filter.mpr ⟨hk, by simpa using hkq⟩
    rw [hkeys] at hmem
    exact List.mem_singleton.mp hmem
  refine ⟨h.prompt.trans hprompt, ?_, ?_, ⟨c.toChoice, ?_, hord, ?_⟩, ?_⟩
  · rw [hchoices, List.map_map]
    exact hstores.labels
  · rw [hchoices, List.map_map]
    exact hstores.ordinals
  · rw [hchoices]
    exact List.mem_map_of_mem hc
  · rw [hcorrect, hkey]
    rfl
  · rw [h.explanation, hexplanation, nullIfEmpty_getD]

/-- The choices that are read have different ids. -/
theorem QuestionRow.Detailed.nodup_ids (io : UuidReaders) {db : Db} {r : QuestionRow}
    {detail : QuestionDetail} (h : r.Detailed db detail) :
    (detail.choices.map Choice.id).Nodup := by
  have hids : ((db.choicesInOrder r.id).map ChoiceRow.id).Nodup :=
    ((choicesInOrder_perm db r.id).map ChoiceRow.id).nodup_iff.mpr
      (db.constraints.choicesPkey.filter _)
  rw [h.choices, List.map_map]
  have htexts := hids.map fun _ _ => io.text_injective
  rwa [List.map_map] at htexts

/-- A read of an own question changes nothing. -/
theorem perform_getMyQuestion_state (io : UuidReaders) (u questionID : String) (τ : ℕ → OpTick)
    (db : Db) : ((Call.getMyQuestion u questionID).perform io τ db).2 = db := by
  have hreads : ((Call.getMyQuestion u questionID).prog io).Uses ReadOp :=
    (uses_getMyQuestion .stmt).bind fun _ => trivial
  exact run_of_reads hreads τ db

/-- An own question that is not deleted can be read, unless a statement fails. -/
theorem Db.Stores.perform_getMyQuestion {db : Db} {u questionID : String} {q : Uuid}
    {draft : QuestionDraft} (hstores : db.Stores q draft) (howns : db.Owns u q) (hu : u ≠ "")
    (hstorable : storable u = true) (hid : questionID ≠ "")
    (hparse : (io.parse questionID).isSome) (hq : io.cast questionID = some q) {τ : ℕ → OpTick}
    (hquiet : QuietStmts τ) :
    ∃ detail, (Call.getMyQuestion u questionID).perform io τ db = (.ok (.detail detail), db) ∧
      detail.id = questionID ∧ detail.Shows draft := by
  obtain ⟨r, hr, rfl, rfl, hactive⟩ := howns
  obtain ⟨c, -, -, hkeys⟩ := hstores.key
  have hk : (⟨r.id, c.id⟩ : AnswerKeyRow) ∈ db.answerKeys := by
    have hmem : (⟨r.id, c.id⟩ : AnswerKeyRow) ∈ db.answerKeys.filter fun k => k.questionId = r.id :=
      by rw [hkeys]; exact List.mem_singleton.mpr rfl
    exact (List.mem_filter.mp hmem).1
  have hread : (QuestionUsecase.getMyQuestion io r.authorUserId questionID).run (DbOp.exec io) τ
      db = (QuestionRepository.getMyQuestion r.authorUserId questionID).run (DbOp.exec io) τ db := by
    unfold QuestionUsecase.getMyQuestion
    rw [if_neg hu, if_neg hid, if_neg (by simpa [Option.isSome_iff_ne_none] using hparse)]
  refine ⟨_, Prog.run_bind_ok
    (hread.trans (run_getMyQuestion hquiet hr hq hactive hstorable hk rfl)) _, rfl, ?_⟩
  exact QuestionRow.Detailed.shows hstores hr ⟨rfl, rfl, rfl, _, hk, rfl, rfl⟩

/-! ## What keeps a content -/

/-- A question has one content. -/
theorem Db.Stores.draft_eq {db : Db} {q : Uuid} {draft draft' : QuestionDraft}
    (h : db.Stores q draft) (h' : db.Stores q draft') : draft = draft' := by
  obtain ⟨r, hr, hid, hprompt, hexplanation⟩ := h.row
  obtain ⟨r', hr', hid', hprompt', hexplanation'⟩ := h'.row
  obtain rfl : r = r' := db.constraints.questionsPkey.eq hr hr' (hid.trans hid'.symm)
  obtain ⟨c, hc, hord, hkeys⟩ := h.key
  obtain ⟨c', hc', hord', hkeys'⟩ := h'.key
  have hcorrect : c = c' := by
    have hkey := List.singleton_inj.mp (hkeys.symm.trans hkeys')
    exact db.constraints.choicesPkey.eq (mem_choicesOf.mp hc).1 (mem_choicesOf.mp hc').1
      (congrArg AnswerKeyRow.correctChoiceId hkey)
  have hexplanations : draft.explanation = draft'.explanation := by
    rw [← nullIfEmpty_getD draft.explanation, ← nullIfEmpty_getD draft'.explanation,
      ← hexplanation, ← hexplanation']
  cases draft
  cases draft'
  rw [QuestionDraft.mk.injEq]
  refine ⟨?_, ?_, ?_, hexplanations⟩
  · exact hprompt.symm.trans hprompt'
  · exact h.labels.symm.trans h'.labels
  · rw [hcorrect] at hord
    exact hord.symm.trans hord'

/-- The content depends on the row of the question, on its choices and on its keys. -/
theorem Db.Stores.frame {db db' : Db} {q : Uuid} {draft : QuestionDraft} (h : db.Stores q draft)
    (hrow : ∀ r ∈ db.questions, r.id = q → ∃ r' ∈ db'.questions, r'.id = q ∧
      r'.prompt = r.prompt ∧ r'.explanation = r.explanation)
    (hchoices : db'.choicesOf q = db.choicesOf q)
    (hkeys : (db'.answerKeys.filter fun k => k.questionId = q) =
      db.answerKeys.filter fun k => k.questionId = q) : db'.Stores q draft := by
  obtain ⟨r, hr, hid, hprompt, hexplanation⟩ := h.row
  obtain ⟨r', hr', hid', hprompt', hexplanation'⟩ := hrow r hr hid
  refine ⟨⟨r', hr', hid', hprompt'.trans hprompt, hexplanation'.trans hexplanation⟩, ?_, ?_, ?_, ?_⟩
  · rw [hchoices]
    exact h.four
  · rw [hchoices]
    exact h.labels
  · rw [hchoices]
    exact h.ordinals
  · rw [hchoices, hkeys]
    exact h.key

/-- Every change keeps the content of a question, but for an update of the question with
another draft. -/
theorem Db.Stores.change {c : Call} {t : OpTick} {db db' : Db} {q : Uuid} {draft : QuestionDraft}
    (hstores : db.Stores q draft)
    (hsame : ∀ u questionID draft', c = .updateQuestion u questionID draft' →
      io.cast questionID = some q → draft' = draft)
    (h : Change io c t db db') : db'.Stores q draft := by
  have hstored : q ∈ db.questions.map QuestionRow.id := by
    obtain ⟨r, hr, hid, -⟩ := hstores.row
    exact List.mem_map.mpr ⟨r, hr, hid⟩
  cases h with
  | same h => rwa [h]
  | user hu h =>
      refine hstores.frame ?_ ?_ ?_
      · intro r hr hid
        exact ⟨r, by rw [h]; exact hr, hid, rfl, rfl⟩
      · rw [h]
        rfl
      · rw [h]
        rfl
  | attempt u questionID choiceID row hc hu huser hquestion hchoice hid h =>
      refine hstores.frame ?_ ?_ ?_
      · intro r hr hid
        exact ⟨r, by rw [h]; exact hr, hid, rfl, rfl⟩
      · rw [h]
        rfl
      · rw [h]
        rfl
  | created u draft' detail hc hu hdraft h =>
      have hne : q ≠ (createdRow u draft' t).id := by
        rintro rfl
        exact h.fresh hstored
      obtain ⟨c, -, -, -, htables⟩ := h.committed
      refine hstores.frame ?_ (h.choicesOf_other hne) (h.answerKeys_other hne)
      intro r hr hid
      refine ⟨r, ?_, hid, rfl, rfl⟩
      rw [htables]
      exact List.mem_append_left _ hr
  | updated u questionID draft' detail q' hc hu hdraft h =>
      by_cases hq : q = q'
      · subst hq
        obtain rfl := hsame u questionID draft' hc h.cast
        exact h.stores
      · obtain ⟨c, -, -, -, htables⟩ := h.committed
        refine hstores.frame ?_ (h.choicesOf_other hq) (h.answerKeys_other hq)
        intro r hr hid
        refine ⟨r, ?_, hid, rfl, rfl⟩
        rw [htables]
        refine List.mem_map.mpr ⟨r, hr, if_neg ?_⟩
        rw [hid]
        exact hq

/-- No change takes a question away from its author. -/
theorem Db.Owns.change {c : Call} {t : OpTick} {db db' : Db} {u : String} {q : Uuid}
    (howns : db.Owns u q) (h : Change io c t db db') : db'.Owns u q := by
  obtain ⟨r, hr, hid, hauthor, hactive⟩ := howns
  cases h with
  | same h => exact ⟨r, by rwa [h], hid, hauthor, hactive⟩
  | user hu h => exact ⟨r, by rw [h]; exact hr, hid, hauthor, hactive⟩
  | attempt _ questionID choiceID row hc hu huser hquestion hchoice _ h =>
      exact ⟨r, by rw [h]; exact hr, hid, hauthor, hactive⟩
  | created _ draft detail hc hu hdraft h =>
      obtain ⟨c, -, -, -, htables⟩ := h.committed
      refine ⟨r, ?_, hid, hauthor, hactive⟩
      rw [htables]
      exact List.mem_append_left _ hr
  | updated _ questionID draft detail q' hc hu hdraft h =>
      obtain ⟨c, -, -, -, htables⟩ := h.committed
      refine ⟨if r.id = q' then r.edited draft t.first.now else r, ?_, ?_⟩
      · rw [htables]
        exact List.mem_map_of_mem hr
      · split_ifs <;> exact ⟨hid, hauthor, hactive⟩

/-- The author of a question in a reachable state can be asked for. -/
theorem Db.Owns.storable {db : Db} (hdb : Reachable io db) {u : String} {q : Uuid}
    (h : db.Owns u q) : storable u = true := by
  obtain ⟨r, hr, -, rfl, -⟩ := h
  exact (hdb.wellFormed.authors r hr).2

/-- The state after a call is reachable. -/
theorem Reachable.perform {db db' : Db} (hdb : Reachable io db) {c : Call} {τ : ℕ → OpTick}
    {r : Except GoError Reply} (h : c.perform io τ db = (r, db')) : Reachable io db' := by
  obtain ⟨now, hsteps⟩ := hdb
  have hstep : Step io (fun _ => True) db (c.perform io τ db).2 := .call c τ trivial
  rw [h] at hstep
  exact ⟨now, hsteps.tail hstep⟩

end HistoryQuiz
