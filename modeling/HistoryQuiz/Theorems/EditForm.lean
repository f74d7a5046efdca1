import HistoryQuiz.Logic.EditForm
import HistoryQuiz.Theorems.Update
import HistoryQuiz.Theorems.WritePath

/-!
# Saving and reopening

A value that a form has saved crosses the rows of a question, the reply of the backend
and the decoder of the page that edits the question. The two halves of the way meet at
`Db.Stores`: what is saved is stored (`Saves.stored`), and what is stored is shown
(`Kept.reopens`). So the page makes of the reply the value that was saved, and saving it once
more changes nothing (`saved_reopens`).
-/

namespace HistoryQuiz

namespace Client

open Js Effect

variable {io : UuidReaders}

/-! ## Saving and opening -/

/-- The id, as a route hands it to a call, names the question `q`. -/
structure Names (io : UuidReaders) (id : String) (q : Uuid) : Prop where
  nonempty : id ≠ ""
  parse : (io.parse id).isSome
  cast : io.cast id = some q

theorem names_text (io : UuidReaders) (u : Uuid) : Names io u.text u where
  nonempty := u.text_ne_empty
  parse := by
    rw [io.parse_text]
    rfl
  cast := io.cast_text u

/-- The calls by which the user `u` saves `v`: one that creates a question and replies with its
id, or one that updates the question with this id. -/
inductive Saves (io : UuidReaders) (u : String) (v : CreateQuestionFormValue) (db db' : Db) :
    String → Prop
  | created (τ : ℕ → OpTick) (detail : HistoryQuiz.QuestionDetail)
      (hperform : (Call.createQuestion u v.draft).perform io τ db = (.ok (.detail detail), db')) :
      Saves io u v db db' detail.id
  | updated (τ : ℕ → OpTick) (id : String) (detail : HistoryQuiz.QuestionDetail)
      (hperform : (Call.updateQuestion u id v.draft).perform io τ db =
        (.ok (.detail detail), db')) : Saves io u v db db' id

/-- Whatever the call replies that reads the question `q` for the user `u`, the edit page makes
`v` of it, and the ids of its choices are distinct. It replies unless a statement fails, and it
changes nothing. -/
def Reopens (io : UuidReaders) (u : String) (v : CreateQuestionFormValue) (q : Uuid) (db : Db) :
    Prop :=
  ∀ τ id, Names io id q →
    (∀ detail t, (Call.getMyQuestion u id).perform io τ db = (.ok (.detail detail), t) →
      t = db ∧ detail.id ≠ "" ∧ (detail.choices.map Choice.id).Nodup ∧
      QuestionsEdit.toInitialFormValues (toQuestionDetail detail) = .ok v) ∧
    (QuietStmts τ → ∃ detail,
      (Call.getMyQuestion u id).perform io τ db = (.ok (.detail detail), db))

/-! ## What is saved is stored -/

/-- A question of the user that the database holds with the content of `v`, which the user
can ask for. -/
structure Kept (u : String) (v : CreateQuestionFormValue) (q : Uuid) (db : Db) : Prop where
  stores : db.Stores q v.draft
  owns : db.Owns u q
  nonempty : u ≠ ""
  storable : storable u = true

theorem Saves.stored {u : String} {v : CreateQuestionFormValue} {db db' : Db} {id : String}
    (hdb : Reachable io db) (h : Saves io u v db db' id) : ∃ q, Names io id q ∧ Kept u v q db' := by
  cases h with
  | created τ detail hperform =>
      obtain ⟨t, db₀, hcreated⟩ := perform_createQuestion_ok hperform
      obtain ⟨c, -, -, hdetail, -⟩ := hcreated.committed
      refine ⟨(createdRow u v.draft t).id, ?_, hcreated.stores, hcreated.own_after, ?_,
        hcreated.own_after.storable (hdb.perform hperform)⟩
      · rw [hdetail]
        exact names_text io _
      · rintro rfl
        obtain ⟨_, _, hrun, -⟩ := Prog.run_bind_eq_ok.mp hperform
        cases hrun
  | updated τ id detail hperform =>
      obtain ⟨hu, hid, hid', t, db₀, q, -, hupdated⟩ := perform_updateQuestion_ok hperform
      exact ⟨q, ⟨hid, hid', hupdated.cast⟩, hupdated.stores, hupdated.own_after, hu,
        hupdated.own_after.storable (hdb.perform hperform)⟩

/-! ## What is stored is shown -/

theorem Kept.reopens {u : String} {v : CreateQuestionFormValue} {q : Uuid} {db : Db}
    (h : Kept u v q db) : Reopens io u v q db := by
  intro τ id hnames
  constructor
  · intro detail t hperform
    obtain ⟨hid, r, hr, hcast, -, -, hdetailed⟩ := perform_getMyQuestion_ok hperform
    obtain rfl : r.id = q := Option.some.inj (hcast.symm.trans hnames.cast)
    refine ⟨?_, ?_, hdetailed.nodup_ids io, QuestionsEdit.toInitialFormValues_shows
      (hdetailed.shows h.stores hr) (hdetailed.nodup_ids io)⟩
    · rw [← perform_getMyQuestion_state io u id τ db, hperform]
    · rw [hid]
      exact hnames.nonempty
  · intro hquiet
    obtain ⟨detail, hperform, -, -⟩ := h.stores.perform_getMyQuestion h.owns h.nonempty h.storable
      hnames.nonempty hnames.parse hnames.cast hquiet
    exact ⟨detail, hperform⟩

/-! ## Saving once more -/

/-- Every question keeps its content. -/
def SameContent (db db' : Db) : Prop := ∀ q draft, db.Stores q draft → db'.Stores q draft

/-- Saving the content that a question has is no change of any content, whether the call
succeeds or not. -/
theorem Kept.resubmitted {u : String} {v : CreateQuestionFormValue} {q : Uuid} {db : Db}
    (h : Kept u v q db) {id : String} (hnames : Names io id q) (τ : ℕ → OpTick) :
    SameContent db ((Call.updateQuestion u id v.draft).perform io τ db).2 ∧
      Kept u v q ((Call.updateQuestion u id v.draft).perform io τ db).2 := by
  obtain ⟨hsame, howns⟩ : SameContent db ((Call.updateQuestion u id v.draft).perform io τ db).2 ∧
      ((Call.updateQuestion u id v.draft).perform io τ db).2.Owns u q := by
    refine Call.perform_invariant (I := fun db' => SameContent db db' ∧ db'.Owns u q) ?_ τ
      ⟨fun _ _ hq => hq, h.owns⟩
    intro t db₁ db₂ hdb₁ hchange
    refine ⟨?_, hdb₁.2.change hchange⟩
    intro q' draft hstores
    refine (hdb₁.1 q' draft hstores).change ?_ hchange
    rintro u' id' draft' hcall hcast
    -- the call is an update of `q` with the content that it has
    injection hcall with _ hid hdraft
    obtain rfl : q = q' := by
      rw [← hid, hnames.cast] at hcast
      exact Option.some.inj hcast
    rw [← hdraft]
    exact h.stores.draft_eq hstores
  exact ⟨hsame, hsame q v.draft h.stores, howns, h.nonempty, h.storable⟩

/-! ## Saving and reopening -/

/-- For every reachable state, every value that the schema returns for a form and every call that
saves it: the edit page makes the same value of the question that it reads, and the schema accepts
the fields that hold it as this value. Saving it from there keeps the content of every question, and
the page makes the same of what it reads again. -/
theorem saved_reopens {conform : Conform} {fields : QuestionFields} {u : String}
    {v : CreateQuestionFormValue} {db db' : Db} {id : String} (hdb : Reachable io db)
    (hschema : createQuestionFormSchema conform fields = some v) (h : Saves io u v db db' id) :
    ∃ q, Names io id q ∧ Reopens io u v q db' ∧
      createQuestionFormSchema conform v.fields = some v ∧
      ∀ id', Names io id' q → ∀ τ : ℕ → OpTick,
        SameContent db' ((Call.updateQuestion u id' v.draft).perform io τ db').2 ∧
        Reopens io u v q ((Call.updateQuestion u id' v.draft).perform io τ db').2 := by
  obtain ⟨q, hnames, hkept⟩ := h.stored hdb
  refine ⟨q, hnames, hkept.reopens,
    createQuestionFormSchema_fields (createQuestionFormSchema_ok hschema), ?_⟩
  intro id' hnames' τ
  obtain ⟨hcontent, hkept'⟩ := hkept.resubmitted hnames' τ
  exact ⟨hcontent, hkept'.reopens⟩

/-! ### Alice saves a question, and edits it -/

/-- The value of Alice's question. -/
def sampleValue : CreateQuestionFormValue where
  prompt := "鎌倉幕府を開いたのは？"
  choices := ["源頼朝", "足利尊氏", "徳川家康", "平清盛"]
  correctOrdinal := 0
  explanation := ""

/-- The value after her edit. -/
def editedValue : CreateQuestionFormValue :=
  { sampleValue with correctOrdinal := 2, explanation := "1192年" }

/-- The id of the question that a call has replied with. -/
def repliedId (outcome : Except GoError Reply) : Option String :=
  match outcome with
  | .ok (.detail detail) => some detail.id
  | _ => none

theorem repliedId_eq_some {outcome : Except GoError Reply} {id : String}
    (h : repliedId outcome = some id) :
    ∃ detail, outcome = .ok (.detail detail) ∧ detail.id = id := by
  unfold repliedId at h
  split at h
  · exact ⟨_, rfl, Option.some.inj h⟩
  · cases h

/-- The database after Alice has created her question. -/
def sampleSaved : Db :=
  ((Call.createQuestion "alice" sampleValue.draft).perform documentedReaders (calm 1 0)
    (seeded 0)).2

/-- The database after she has edited it. -/
def sampleEdited : Db :=
  ((Call.updateQuestion "alice" sampleQuestion.text editedValue.draft).perform documentedReaders
    (calm 3 16) sampleSaved).2

theorem saves_created :
    Saves documentedReaders "alice" sampleValue (seeded 0) sampleSaved sampleQuestion.text := by
  have hreplied : repliedId ((Call.createQuestion "alice" sampleValue.draft).perform
      documentedReaders (calm 1 0) (seeded 0)).1 = some sampleQuestion.text := by decide +kernel
  obtain ⟨detail, hreply, hid⟩ := repliedId_eq_some hreplied
  rw [← hid]
  exact .created (calm 1 0) detail (Prod.ext hreply rfl)

theorem saves_updated :
    Saves documentedReaders "alice" editedValue sampleSaved sampleEdited sampleQuestion.text := by
  have hreplied : repliedId ((Call.updateQuestion "alice" sampleQuestion.text
      editedValue.draft).perform documentedReaders (calm 3 16) sampleSaved).1 =
        some sampleQuestion.text := by decide +kernel
  obtain ⟨detail, hreply, -⟩ := repliedId_eq_some hreplied
  exact .updated (calm 3 16) sampleQuestion.text detail (Prod.ext hreply rfl)

/-- The page shows the value that was created, and then the one that it was edited to. -/
theorem saved_reopens_sample :
    (∃ q, Names documentedReaders sampleQuestion.text q ∧
      Reopens documentedReaders "alice" sampleValue q sampleSaved) ∧
    ∃ q, Names documentedReaders sampleQuestion.text q ∧
      Reopens documentedReaders "alice" editedValue q sampleEdited := by
  have hsaved : Reachable documentedReaders sampleSaved := ⟨0, .single (.call _ _ trivial)⟩
  have hvalue : createQuestionFormSchema plainConform sampleValue.fields = some sampleValue := by
    decide +kernel
  have hedited : createQuestionFormSchema plainConform editedValue.fields = some editedValue := by
    decide +kernel
  obtain ⟨q, hnames, hreopens, -⟩ := saved_reopens ⟨0, .refl⟩ hvalue saves_created
  obtain ⟨q', hnames', hreopens', -⟩ := saved_reopens hsaved hedited saves_updated
  exact ⟨⟨q, hnames, hreopens⟩, q', hnames', hreopens'⟩

end Client

end HistoryQuiz
