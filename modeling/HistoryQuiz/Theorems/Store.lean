import HistoryQuiz.Logic.Store
import HistoryQuiz.Theorems.Update

/-!
# The invariant of the store

`reachable_store`: in every reachable state, whatever calls were made and
wherever they failed, every question has four choices on the ordinals 0 to 3 with
labels that are not blank and exactly one answer key that is one of them, and
every attempt has chosen a choice of its question.
-/

namespace HistoryQuiz

open Relational

variable {io : UuidReaders}

/-- A question that has a key has exactly one, and it is one of its choices. -/
theorem answerKey_of_mem {db : Db} {q : Uuid}
    (hkey : q ∈ db.answerKeys.map AnswerKeyRow.questionId) :
    ∃ k, (db.answerKeys.filter fun k => k.questionId = q) = [k] ∧
      ∃ c ∈ db.choicesOf q, c.id = k.correctChoiceId := by
  obtain ⟨k, hk, rfl⟩ := List.mem_map.mp hkey
  refine ⟨k, db.constraints.answerKeysPkey.filter_key_eq hk, ?_⟩
  obtain ⟨c, hc, href⟩ := db.constraints.answerKeysChoice k hk
  rw [ChoiceRow.idQuestion, AnswerKeyRow.choiceRef, Prod.mk.injEq] at href
  exact ⟨c, mem_choicesOf.mpr ⟨hc, href.2⟩, href.1⟩

/-- An attempt has chosen a choice of its question. -/
theorem selectedChoice_of_mem {db : Db} {a : AttemptRow} (ha : a ∈ db.attempts) :
    ∃ c ∈ db.choicesOf a.questionId, c.id = a.selectedChoiceId := by
  obtain ⟨c, hc, href⟩ := db.constraints.attemptsChoice a ha
  rw [ChoiceRow.idQuestion, AttemptRow.choiceRef, Prod.mk.injEq] at href
  exact ⟨c, mem_choicesOf.mpr ⟨hc, href.2⟩, href.1⟩

theorem reachable_store {db : Db} (hdb : Reachable io db) :
    (∀ r ∈ db.questions,
      (db.choicesOf r.id).length = 4 ∧
      ((db.choicesOf r.id).map ChoiceRow.ordinal).Perm [0, 1, 2, 3] ∧
      (∀ c ∈ db.choicesOf r.id, trimSpace c.label ≠ "") ∧
      ∃ k, (db.answerKeys.filter fun k => k.questionId = r.id) = [k] ∧
        ∃ c ∈ db.choicesOf r.id, c.id = k.correctChoiceId) ∧
    ∀ a ∈ db.attempts, ∃ c ∈ db.choicesOf a.questionId, c.id = a.selectedChoiceId := by
  have hw := hdb.wellFormed
  refine ⟨?_, fun a ha => selectedChoice_of_mem ha⟩
  intro r hr
  have hordinals := hw.ordinals r hr
  refine ⟨?_, hordinals, ?_, answerKey_of_mem (hw.keys r hr)⟩
  · have hlen := hordinals.length_eq
    rwa [List.length_map] at hlen
  · intro c hc
    exact hw.labels c (mem_choicesOf.mp hc).1

/-- Alice has edited the question that she has created. -/
def changedStore : Db :=
  ((Call.updateQuestion "alice" sampleQuestion.text otherKeyDraft).perform documentedReaders
    (calm 3 16) createdStore).2

/-- Bob has answered it since. -/
def usedStore : Db :=
  ((Call.submitAnswer "bob" sampleQuestion.text (countedUuid 20).value.text).perform
    documentedReaders (calm 4 24) changedStore).2

/-- The edited question still has four choices, and the answer is one of them. -/
theorem reachable_store_used :
    (∃ r ∈ usedStore.questions, r.id = sampleQuestion ∧ r.createdAt < r.updatedAt) ∧
    (∀ r ∈ usedStore.questions, ((usedStore.choicesOf r.id).map ChoiceRow.ordinal).Perm
      [0, 1, 2, 3]) ∧
    ∃ a ∈ usedStore.attempts, a.questionId = sampleQuestion ∧
      ∃ c ∈ usedStore.choicesOf a.questionId, c.id = a.selectedChoiceId := by
  have hused : Reachable documentedReaders usedStore :=
    ⟨0, .tail (.tail (.single (.call _ _ trivial)) (.call _ _ trivial)) (.call _ _ trivial)⟩
  obtain ⟨hquestions, hattempts⟩ := reachable_store hused
  obtain ⟨a, ha, hanswers⟩ : ∃ a ∈ usedStore.attempts, a.questionId = sampleQuestion := by
    decide +kernel
  exact ⟨by decide +kernel, fun r hr => (hquestions r hr).2.1, a, ha, hanswers, hattempts a ha⟩

end HistoryQuiz
