import HistoryQuiz.Theorems.Update
import HistoryQuiz.Theorems.WritePath

/-!
# Choices with equal labels

`docs/tech.md` lists among the invariants that the backend always checks that the choices of a
question are distinct. `validateDraft` has no such check and no index of `choices` covers the
label, so both write paths store what the draft says: the labels stay distinct in the runs
whose drafts have distinct labels, and one accepted draft that repeats a label ends it
(`distinctLabels_run`).
-/

namespace HistoryQuiz

open Relational Effect

variable {io : UuidReaders}

/-- The labels of every question are pairwise different after trimming. -/
def Tables.DistinctLabels (t : Tables) : Prop :=
  ∀ r ∈ t.questions, ((t.choicesOf r.id).map fun c => trimSpace c.label).Nodup

instance (t : Tables) : Decidable t.DistinctLabels := List.decidableBAll _ _

/-- The choices of the draft are pairwise different after trimming. -/
def QuestionDraft.DistinctChoices (draft : QuestionDraft) : Prop :=
  (draft.choices.map trimSpace).Nodup

/-- The draft of the call, if it has one, has distinct choices. -/
def Call.DistinctDraft : Call → Prop
  | createQuestion _ draft => draft.DistinctChoices
  | updateQuestion _ _ draft => draft.DistinctChoices
  | _ => True

theorem map_trimSpace_label (choices : List ChoiceRow) :
    (choices.map fun c => trimSpace c.label) = (choices.map ChoiceRow.label).map trimSpace := by
  rw [List.map_map]
  rfl

/-- The trimmed labels of the rows of the loop. -/
theorem map_trimSpace_choiceRows (q : Uuid) (labels : List String) (τ : ℕ → Tick) :
    ((choiceRows q 0 labels τ).map fun c => trimSpace c.label) = labels.map trimSpace := by
  rw [map_trimSpace_label, map_label_choiceRows]

section Created

variable {u : String} {draft : QuestionDraft} {t : OpTick} {db db' : Db} {detail : QuestionDetail}

theorem Created.distinctLabels (h : Created u draft t db detail db')
    (hdraft : draft.DistinctChoices) (hdb : db.DistinctLabels) : db'.DistinctLabels := by
  obtain ⟨c, -, -, -, htables⟩ := h.committed
  intro r hr
  rw [htables] at hr
  rcases List.mem_append.mp hr with hold | hnew
  · have hne : r.id ≠ (createdRow u draft t).id := fun hid =>
      h.fresh (List.mem_map.mpr ⟨r, hold, hid⟩)
    rw [h.choicesOf_other hne]
    exact hdb r hold
  · rw [List.mem_singleton.mp hnew, h.choicesOf_new, createdChoices, map_trimSpace_choiceRows]
    exact hdraft

theorem Created.distinctChoices (h : Created u draft t db detail db')
    (hdb' : db'.DistinctLabels) : draft.DistinctChoices := by
  obtain ⟨c, -, -, -, htables⟩ := h.committed
  have hrow : createdRow u draft t ∈ db'.questions := by
    rw [htables]
    exact List.mem_append_right _ (List.mem_singleton.mpr rfl)
  have hnodup := hdb' _ hrow
  rwa [h.choicesOf_new, createdChoices, map_trimSpace_choiceRows] at hnodup

end Created

section Updated

variable {u questionID : String} {draft : QuestionDraft} {t : OpTick} {db db' : Db}
  {detail : QuestionDetail} {q : Uuid}

theorem Updated.distinctLabels (h : Updated io u questionID draft t db detail db' q)
    (hdraft : draft.DistinctChoices) (hdb : db.DistinctLabels) : db'.DistinctLabels := by
  intro r hr
  obtain ⟨r₀, hr₀, rfl⟩ := h.mem_questions hr
  have hid : (if r₀.id = q then r₀.edited draft t.first.now else r₀).id = r₀.id := by
    split <;> rfl
  rw [hid]
  by_cases hq : r₀.id = q
  · rw [hq, h.choicesOf_self, updatedChoices, map_trimSpace_choiceRows]
    exact hdraft
  · rw [h.choicesOf_other hq]
    exact hdb r₀ hr₀

theorem Updated.distinctChoices (h : Updated io u questionID draft t db detail db' q)
    (hdb' : db'.DistinctLabels) : draft.DistinctChoices := by
  obtain ⟨r, hr, hid, -⟩ := h.own_after
  have hnodup := hdb' r hr
  rwa [hid, h.choicesOf_self, updatedChoices, map_trimSpace_choiceRows] at hnodup

end Updated

theorem Tables.DistinctLabels.change {c : Call} {t : OpTick} {db db' : Db}
    (hc : c.DistinctDraft) (hdb : db.DistinctLabels) (h : Change io c t db db') :
    db'.DistinctLabels := by
  cases h with
  | same h => rwa [h]
  | user hu h => rwa [h]
  | attempt u questionID choiceID row hc hu huser hquestion hchoice hid h => rwa [h]
  | created u draft detail hcall hu hvalid h =>
      subst hcall
      exact h.distinctLabels hc hdb
  | updated u questionID draft detail q hcall hu hvalid h =>
      subst hcall
      exact h.distinctLabels hc hdb

theorem Tables.DistinctLabels.setDeletedAt {db : Db} (hdb : db.DistinctLabels) (now : Timestamp)
    (p : QuestionRow → Bool) (deletedAt : QuestionRow → Option Timestamp) :
    (db.setDeletedAt now p deletedAt).DistinctLabels := by
  intro r hr
  obtain ⟨r₀, hr₀, hid, -⟩ := mem_setDeletedAt hr
  rw [hid]
  exact hdb r₀ hr₀

theorem distinctLabels_seeded (now : Timestamp) : (seeded now).DistinctLabels := by
  obtain ⟨htrimmed, hlabels⟩ : (∀ c ∈ seededChoices, trimSpace c.label = c.label) ∧
      (seededChoices.map ChoiceRow.label).Nodup := by
    decide
  intro r _
  -- no two of the seeded choices have the same label, whatever their questions
  have hown : ((seeded now).choicesOf r.id).Sublist seededChoices := List.filter_sublist
  rw [List.map_congr_left fun c hc => htrimmed c (hown.mem hc)]
  exact hlabels.sublist (hown.map _)

/-- Whatever calls are made and wherever they fail: where every draft has distinct choices, the
labels of every question are distinct in every state reached; and a call that succeeds leaves
them distinct only if its draft has distinct choices. -/
theorem distinctLabels_run (io : UuidReaders) (now : Timestamp) :
    (∀ db, Steps io Call.DistinctDraft (seeded now) db → db.DistinctLabels) ∧
    ∀ (c : Call) (τ : ℕ → OpTick) (db db' : Db) (reply : Reply),
      c.perform io τ db = (.ok reply, db') → db'.DistinctLabels → c.DistinctDraft := by
  constructor
  · intro db h
    exact h.changes (I := fun db => db.DistinctLabels) (fun _ _ _ _ hc hdb h => hdb.change hc h)
      (fun _ now p deletedAt hdb => hdb.setDeletedAt now p deletedAt) (distinctLabels_seeded now)
  · intro c τ db db' reply hperform hdb'
    cases c with
    | createQuestion u draft =>
        obtain ⟨detail, _, -, hreply⟩ := Prog.run_bind_eq_ok.mp hperform
        cases hreply
        obtain ⟨t, db₀, hcreated⟩ := perform_createQuestion_ok hperform
        exact hcreated.distinctChoices hdb'
    | updateQuestion u questionID draft =>
        obtain ⟨detail, _, -, hreply⟩ := Prog.run_bind_eq_ok.mp hperform
        cases hreply
        obtain ⟨-, -, -, t, db₀, q, -, hupdated⟩ := perform_updateQuestion_ok hperform
        exact hupdated.distinctChoices hdb'
    | _ => trivial

/-! ### A draft with one label twice -/

/-- Two of the four choices are the same. -/
def repeatedDraft : QuestionDraft where
  prompt := "鎌倉幕府を開いたのは？"
  choices := ["源頼朝", "源頼朝", "徳川家康", "平清盛"]
  correctOrdinal := 0
  explanation := ""

/-- Alice creates the question on the migrated database. -/
def repeatedOutcome : Except GoError Reply × Db :=
  (Call.createQuestion "alice" repeatedDraft).perform documentedReaders (calm 1 0) (seeded 0)

/-- Her question with a repeated choice is accepted and stored. -/
theorem repeatedDraft_stored :
    Reachable documentedReaders repeatedOutcome.2 ∧ repeatedOutcome.1.isOk = true ∧
      ¬ repeatedOutcome.2.DistinctLabels := by
  obtain ⟨hok, hquestion, hlabels⟩ : repeatedOutcome.1.isOk = true ∧
      sampleQuestion ∈ repeatedOutcome.2.questions.map QuestionRow.id ∧
      (repeatedOutcome.2.choicesOf sampleQuestion).map ChoiceRow.label =
        repeatedDraft.choices := by
    decide +kernel
  refine ⟨⟨0, .single (.call _ _ trivial)⟩, hok, ?_⟩
  intro hstored
  obtain ⟨r, hr, hid⟩ := List.mem_map.mp hquestion
  have hnodup := hstored r hr
  rw [hid, map_trimSpace_label, hlabels] at hnodup
  simp [repeatedDraft] at hnodup

/-- The state after Alice's question with four different choices. -/
theorem distinctLabels_run_created : createdStore.DistinctLabels :=
  (distinctLabels_run documentedReaders 0).1 createdStore
    (.single (.call (.createQuestion "alice" sampleDraft) (calm 1 0)
      (by unfold Call.DistinctDraft QuestionDraft.DistinctChoices; decide)))

end HistoryQuiz
