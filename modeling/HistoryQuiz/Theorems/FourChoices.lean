import HistoryQuiz.Postgres.ChoiceWrites
import HistoryQuiz.Postgres.Migration

/-!
# What the four-choices trigger checks

The trigger looks at the question of the new row, so an `UPDATE` that moves a choice to another
question is checked for the question the choice has come to, and not for the one it has left. A
transaction that commits has kept four choices for every question exactly when each question
that a row was moved out of is checked for another of its events (`commit_four_iff`).
-/

namespace HistoryQuiz

open Relational Throw

/-- Every question has four choices. -/
def Tables.FourChoices (t : Tables) : Prop := ∀ r ∈ t.questions, (t.choicesOf r.id).length = 4

instance (t : Tables) : Decidable t.FourChoices := List.decidableBAll _ _

/-- Each question that a row was moved out of is the one that the trigger derives from some
event. -/
def NamesLeftQuestions (events : List (RowEvent ChoiceRow)) : Prop :=
  ∀ old new, .update old new ∈ events → old.questionId ≠ new.questionId →
    old.questionId ∈ events.map (RowEvent.group ChoiceRow.questionId)

/-- For every transaction that commits: if every question had four choices before, every
question has four choices after it exactly when the trigger has looked at each question that a
choice was moved out of. -/
theorem commit_four_iff {db db' db'' : Db} {stmts : List ChoicesStmt}
    {events : List (RowEvent ChoiceRow)} (hfour : db.FourChoices)
    (hrun : runChoices db stmts = .ok (db', events))
    (hcommit : commitChoices db' events = .ok db'') :
    db''.FourChoices ↔ NamesLeftQuestions events := by
  obtain ⟨hquestions, haccounts⟩ := runChoices_rewrites hrun
  obtain ⟨hchecked, rfl⟩ := commitChoices_eq_ok.mp hcommit
  constructor
  · intro hafter old new hevent hmoved
    by_contra hunnamed
    -- the row that has left the question is one of those it had
    have hcount := haccounts _ hunnamed
    have hleft : 0 < events.countP (RowEvent.movesFrom ChoiceRow.questionId old.questionId) :=
      List.countP_pos_iff.mpr ⟨_, hevent, by simpa [RowEvent.movesFrom] using hmoved.symm⟩
    have hold : 0 < (groupOf ChoiceRow.questionId db.choices old.questionId).length := by omega
    obtain ⟨c, hc⟩ := List.exists_mem_of_length_pos hold
    obtain ⟨hc, hcq⟩ := List.mem_filter.mp hc
    obtain ⟨r, hr, hid⟩ := db.constraints.choicesQuestion c hc
    have hrq : r.id = old.questionId := by simpa [hid] using hcq
    have hbefore : (groupOf ChoiceRow.questionId db.choices old.questionId).length = 4 :=
      hrq ▸ hfour r hr
    have hrest : (groupOf ChoiceRow.questionId db'.choices old.questionId).length = 4 :=
      hrq ▸ hafter r (hquestions ▸ hr)
    omega
  · intro hnames r hr
    by_cases hnamed : r.id ∈ events.map (RowEvent.group ChoiceRow.questionId)
    · obtain ⟨e, he, hq⟩ := List.mem_map.mp hnamed
      have hchoices := hchecked e he
      rwa [hq] at hchoices
    · have hstay : ∀ e ∈ events, e.movesFrom ChoiceRow.questionId r.id = false := by
        intro e he
        cases e with
        | insert new => rfl
        | delete old => rfl
        | update old new =>
            by_contra hmoves
            obtain ⟨hq, hmoved⟩ : old.questionId = r.id ∧ new.questionId ≠ r.id := by
              simpa [RowEvent.movesFrom] using hmoves
            refine hnamed (hq ▸ hnames old new he ?_)
            rw [hq]
            exact hmoved.symm
      have hkept := (haccounts.length_eq_iff hnamed).mpr hstay
      have hbefore := hfour r (hquestions ▸ hr)
      exact hkept.trans hbefore

/-! ### A choice that changes its question -/

/-- Delete the last choice of the second question. -/
def deleteLast : ChoicesStmt := .delete fun c => c.id = 0x2004

/-- Move the last choice of the first question to the second one. -/
def moveLast : ChoicesStmt :=
  .update (fun c => c.id = 0x1004) fun c => { c with questionId := 0x2 }

/-- The numbers of choices of the questions after a transaction. -/
def committedCounts (db : Db) (stmts : List ChoicesStmt) : Except SqlError (List ℕ) := do
  let (db', events) ← runChoices db stmts
  let db'' ← commitChoices db' events
  return db''.questions.map fun r => (db''.choicesOf r.id).length

/-- The transaction that a count stands for. -/
theorem committedCounts_eq_ok {db : Db} {stmts : List ChoicesStmt} {counts : List ℕ}
    (h : committedCounts db stmts = .ok counts) :
    ∃ db' events, runChoices db stmts = .ok (db', events) ∧
      commitChoices db' events = .ok db' ∧
      counts = db'.questions.map fun r => (db'.choicesOf r.id).length := by
  obtain ⟨⟨db', events⟩, hrun, h⟩ := except_bind_eq_ok.mp h
  obtain ⟨db'', hcommit, hcounts⟩ := except_bind_eq_ok.mp h
  obtain rfl := (commitChoices_eq_ok.mp hcommit).2
  cases hcounts
  exact ⟨db', events, hrun, hcommit, rfl⟩

theorem committedCounts_moveLast :
    committedCounts (seeded 0) [deleteLast, moveLast] = .ok [3, 4, 4] := by
  have hcounts : (committedCounts (seeded 0) [deleteLast, moveLast]).toOption = some [3, 4, 4] := by
    decide +kernel
  cases hresult : committedCounts (seeded 0) [deleteLast, moveLast] with
  | error e =>
      rw [hresult] at hcounts
      cases hcounts
  | ok counts =>
      rw [hresult] at hcounts
      exact congrArg Except.ok (Option.some.inj hcounts)

theorem fourChoices_seeded : (seeded 0).FourChoices := by decide +kernel

/-- The transaction of the two statements commits on the migrated database, and leaves the first
question with three choices. -/
theorem moveLast_commits :
    ∃ db' events, (seeded 0).FourChoices ∧
      runChoices (seeded 0) [deleteLast, moveLast] = .ok (db', events) ∧
      commitChoices db' events = .ok db' ∧ ¬ db'.FourChoices := by
  obtain ⟨db', events, hrun, hcommit, hcounts⟩ := committedCounts_eq_ok committedCounts_moveLast
  refine ⟨db', events, fourChoices_seeded, hrun, hcommit, ?_⟩
  intro hfour
  have hthree : 3 ∈ db'.questions.map fun r => (db'.choicesOf r.id).length := by
    rw [← hcounts]
    exact List.mem_cons_self
  obtain ⟨r, hr, hlen⟩ := List.mem_map.mp hthree
  have hlen' := hfour r hr
  omega

theorem commit_four_iff_moveLast :
    ∃ db' events, runChoices (seeded 0) [deleteLast, moveLast] = .ok (db', events) ∧
      (db'.FourChoices ↔ NamesLeftQuestions events) := by
  obtain ⟨db', events, hrun, hcommit, -⟩ := committedCounts_eq_ok committedCounts_moveLast
  exact ⟨db', events, hrun, commit_four_iff fourChoices_seeded hrun hcommit⟩

end HistoryQuiz
