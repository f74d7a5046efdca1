import HistoryQuiz.Client.RawForm
import HistoryQuiz.Theorems.EditForm

/-!
# The two validators of a draft

`createQuestionFormSchema` checks a form before the backend's `validateDraft` does. Both ask for
texts that are not blank, and mean different things by it: of the characters that Go trims,
JavaScript keeps U+0085, and of those that JavaScript trims, Go keeps U+FEFF
(`isSpace_eq`). A draft that the schema has accepted is refused exactly when one of its texts
consists of U+0085 and of white space of both (`validateDraft_accepted_iff`).
-/

namespace HistoryQuiz

namespace Client

open Js

/-- The two notions of white space differ on two characters. -/
theorem isSpace_eq (c : Char) :
    isSpace c = (decide (c = '\u0085') || (isWhiteSpace c && !decide (c = '\ufeff'))) := by
  unfold isSpace isWhiteSpace
  by_cases hnext : c = '\u0085'
  · subst hnext
    rfl
  by_cases hmark : c = '\ufeff'
  · subst hmark
    rfl
  simp [hnext, hmark]

/-- A text is blank to Go when Go counts all of its characters as space. -/
theorem trimSpace_eq_empty {s : String} :
    trimSpace s = "" ↔ ∀ c ∈ s.toList, isSpace c = true := by
  have htrim : trimSpace s = String.ofList (Trim.trim isSpace s.toList) := rfl
  rw [htrim, String.ofList_eq_empty_iff, Trim.trim_eq_nil]

/-- The text, as JavaScript trims it, has a character that neither of the two trims. -/
def Legible (text : String) : Prop :=
  ∃ c ∈ (trim text).toList, c ≠ '\u0085' ∧ (isWhiteSpace c = false ∨ c = '\ufeff')

theorem trimSpace_trim_ne_empty {text : String} : trimSpace (trim text) ≠ "" ↔ Legible text := by
  rw [Ne, trimSpace_eq_empty]
  unfold Legible
  push Not
  refine exists_congr fun c => and_congr_right fun _ => ?_
  rw [isSpace_eq]
  cases isWhiteSpace c <;> simp

variable {ν : Type} {js : Values ν}

/-- For every object that the schema accepts, whatever its properties are: the backend accepts
the draft too exactly when the prompt and the choices are legible to both. -/
theorem validateDraft_accepted_iff {raw : RawForm ν} {v : CreateQuestionFormValue}
    (h : raw.createQuestionFormSchema js = some v) :
    QuestionUsecase.validateDraft v.draft = none ↔ ∀ text ∈ raw.texts js, Legible text := by
  obtain ⟨htexts, hfour, hordinal⟩ := RawForm.createQuestionFormSchema_ok h
  -- count and ordinal are in order, so what is left is that no text is blank
  have hvalid : QuestionUsecase.validateDraft v.draft = none ↔
      ∀ s ∈ v.prompt :: v.choices, trimSpace s ≠ "" := by
    rw [validateDraft_eq_none, List.forall_mem_cons]
    constructor
    · intro hdraft
      exact ⟨hdraft.prompt, hdraft.labels⟩
    · rintro ⟨hprompt, hlabels⟩
      exact ⟨hprompt, hfour, hlabels, hordinal⟩
  rw [hvalid, htexts, List.forall_mem_map]
  exact forall₂_congr fun text _ => trimSpace_trim_ne_empty

/-- A prompt that JavaScript does not trim, but Go does. -/
def nextLineValue : CreateQuestionFormValue := { sampleValue with prompt := "\u0085" }

/-- A form with the prompt U+0085: the schema accepts it, and the backend refuses the draft. -/
theorem nextLineValue_refused :
    nextLineValue.fields.raw.createQuestionFormSchema (ConformValue.values plainConform) =
      some nextLineValue ∧
    QuestionUsecase.validateDraft nextLineValue.draft =
      some (invalidArgument "入力が不正です" [⟨"draft.prompt", "必須です"⟩]) := by
  refine ⟨?_, by decide⟩
  rw [createQuestionFormSchema_raw]
  decide +kernel

/-- The form of a question in Japanese. -/
theorem validateDraft_accepted_iff_sample :
    QuestionUsecase.validateDraft sampleValue.draft = none ↔
      ∀ text ∈ sampleValue.fields.raw.texts (ConformValue.values plainConform), Legible text := by
  have haccepted : sampleValue.fields.raw.createQuestionFormSchema
      (ConformValue.values plainConform) = some sampleValue := by
    rw [createQuestionFormSchema_raw]
    decide +kernel
  exact validateDraft_accepted_iff haccepted

end Client

end HistoryQuiz
