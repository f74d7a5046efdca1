import HistoryQuiz.Logic.EditForm

/-!
# The schema on raw values

`createQuestionFormSchema` is given an object whose properties can be any JavaScript values.
`RawForm.createQuestionFormSchema` is the schema on such objects, over any type of values that
answers what the schema asks of one (`Values`); the schema of the routes, which see what
conform has made of a form, is an instance of it (`createQuestionFormSchema_raw`).
-/

namespace HistoryQuiz

namespace Client

open Js

/-- What the schema asks of a JavaScript value. -/
structure Values (ν : Type) where
  /-- The string, if `typeof value === "string"`. -/
  string? : ν → Option String
  /-- The elements, if `Array.isArray(value)`. -/
  array? : ν → Option (List ν)
  isUndefined : ν → Bool
  /-- `Number(value)`, if it is a finite number. -/
  number? : ν → Option ℚ

/-- The properties that the schema reads of a raw object. -/
structure RawForm (ν : Type) where
  prompt : ν
  choices : ν
  correctOrdinal : ν
  explanation : ν

namespace RawForm

variable {ν : Type} (js : Values ν)

/-- `createRequiredTrimmedTextSchema`: what is not a string counts as the empty one. -/
def requiredText (value : ν) : Option String :=
  let text := trim ((js.string? value).getD "")
  if text = "" then none else some text

/-- The schema of the explanation: a missing one counts as the empty text. -/
def explanationText (value : ν) : Option String :=
  if js.isUndefined value then some ""
  else
    (js.string? value).bind fun text =>
      if length (trim text) ≤ MAX_EXPLANATION_LENGTH then some (trim text) else none

/-- `createQuestionFormSchema`. -/
def createQuestionFormSchema (raw : RawForm ν) : Option CreateQuestionFormValue := do
  let prompt ← requiredText js raw.prompt
  let items ← js.array? raw.choices
  let choices ← items.mapM (requiredText js)
  guard (choices.length = QUESTION_CHOICES_COUNT)
  let correctOrdinal ← js.number? raw.correctOrdinal
  guard (correctOrdinal.isInt ∧ 0 ≤ correctOrdinal ∧ correctOrdinal ≤ QUESTION_CHOICES_COUNT - 1)
  let explanation ← explanationText js raw.explanation
  return { prompt, choices, correctOrdinal := correctOrdinal.num, explanation }

/-- The texts that have to be there: the prompt and the choices. -/
def texts (raw : RawForm ν) : List String :=
  (js.string? raw.prompt).toList ++ ((js.array? raw.choices).getD []).filterMap js.string?

variable {js}

theorem requiredText_eq_some {value : ν} {s : String} : requiredText js value = some s ↔
    ∃ text, js.string? value = some text ∧ trim text = s ∧ s ≠ "" := by
  unfold requiredText
  cases htext : js.string? value with
  | none =>
      have hempty : trim "" = "" := by decide
      simp [hempty]
  | some text =>
      by_cases hblank : trim text = ""
      · simp only [Option.getD_some, hblank, if_true]
        constructor
        · intro h
          cases h
        · rintro ⟨_, htext, htrim, hne⟩
          cases htext
          exact absurd (htrim.symm.trans hblank) hne
      · simp only [Option.getD_some, hblank, if_false, Option.some.injEq]
        constructor
        · rintro rfl
          exact ⟨text, rfl, rfl, hblank⟩
        · rintro ⟨_, rfl, htrim, -⟩
          exact htrim

/-- The choices of the schema are the trimmed texts of the array. -/
theorem mapM_requiredText {items : List ν} {choices : List String}
    (h : items.mapM (requiredText js) = some choices) :
    choices = (items.filterMap js.string?).map trim := by
  induction items generalizing choices with
  | nil =>
      cases h
      rfl
  | cons item items ih =>
      rw [List.mapM_cons] at h
      obtain ⟨s, hs, h⟩ := Option.bind_eq_some_iff.mp h
      obtain ⟨rest, hrest, h⟩ := Option.bind_eq_some_iff.mp h
      cases h
      obtain ⟨text, htext, htrim, -⟩ := requiredText_eq_some.mp hs
      rw [List.filterMap_cons_some htext, List.map_cons, htrim, ih hrest]

/-- What the schema accepts has the trimmed texts of the object, four choices and an ordinal
of one of them. -/
theorem createQuestionFormSchema_ok {raw : RawForm ν} {v : CreateQuestionFormValue}
    (h : raw.createQuestionFormSchema js = some v) :
    v.prompt :: v.choices = (raw.texts js).map trim ∧ v.choices.length = 4 ∧
      0 ≤ v.correctOrdinal ∧ v.correctOrdinal ≤ 3 := by
  unfold createQuestionFormSchema at h
  obtain ⟨prompt, hprompt, h⟩ := Option.bind_eq_some_iff.mp h
  obtain ⟨items, hitems, h⟩ := Option.bind_eq_some_iff.mp h
  obtain ⟨choices, hchoices, h⟩ := Option.bind_eq_some_iff.mp h
  obtain ⟨⟨⟩, hfour, h⟩ := Option.bind_eq_some_iff.mp h
  obtain ⟨n, -, h⟩ := Option.bind_eq_some_iff.mp h
  obtain ⟨⟨⟩, hn, h⟩ := Option.bind_eq_some_iff.mp h
  obtain ⟨explanation, -, h⟩ := Option.bind_eq_some_iff.mp h
  rw [Option.guard_eq_some'] at hfour hn
  cases h
  obtain ⟨text, htext, htrim, -⟩ := requiredText_eq_some.mp hprompt
  refine ⟨?_, hfour, num_bounds hn.1 hn.2.1 hn.2.2⟩
  rw [texts, htext, hitems, Option.toList_some, List.singleton_append, List.map_cons, htrim,
    mapM_requiredText hchoices]
  rfl

end RawForm

/-! ## What conform finds -/

/-- The values that conform hands to the schema. -/
inductive ConformValue where
  | field (value : Option FieldValue)
  | list (fields : List (Option FieldValue))

def ConformValue.values (conform : Conform) : Values ConformValue where
  string?
    | .field (some (.text value)) => some value
    | _ => none
  array?
    | .field _ => none
    | .list fields => some (fields.map .field)
  isUndefined
    | .field none => true
    | _ => false
  number?
    | .field value => conform.coerceNumber value
    | .list _ => none

def QuestionFields.raw (fields : QuestionFields) : RawForm ConformValue where
  prompt := .field fields.prompt
  choices := .list fields.choices
  correctOrdinal := .field fields.correctOrdinal
  explanation := .field fields.explanation

theorem requiredText_raw (conform : Conform) (value : Option FieldValue) :
    RawForm.requiredText (ConformValue.values conform) (.field value) = requiredText value := by
  have hempty : trim "" = "" := by decide
  rcases value with _ | (value | _)
  · simp [RawForm.requiredText, ConformValue.values, requiredText, hempty]
  · rfl
  · simp [RawForm.requiredText, ConformValue.values, requiredText, hempty]

/-- The schema of the routes. -/
theorem createQuestionFormSchema_raw (conform : Conform) (fields : QuestionFields) :
    fields.raw.createQuestionFormSchema (ConformValue.values conform) =
      createQuestionFormSchema conform fields := by
  have hchoices : (fields.choices.map ConformValue.field).mapM
      (RawForm.requiredText (ConformValue.values conform)) = fields.choices.mapM requiredText := by
    induction fields.choices with
    | nil => rfl
    | cons value rest ih => rw [List.map_cons, List.mapM_cons, List.mapM_cons, ih, requiredText_raw]
  unfold RawForm.createQuestionFormSchema createQuestionFormSchema
  rw [show fields.raw.prompt = .field fields.prompt from rfl, requiredText_raw]
  rw [show (ConformValue.values conform).array? fields.raw.choices =
    some (fields.choices.map .field) from rfl]
  rw [show (ConformValue.values conform).number? fields.raw.correctOrdinal =
    conform.coerceNumber fields.correctOrdinal from rfl]
  simp only [Option.bind_eq_bind, Option.bind_some, hchoices]
  rcases hexplanation : fields.explanation with _ | (value | _)
  · simp [RawForm.explanationText, QuestionFields.raw, ConformValue.values, hexplanation]
  · by_cases hlength : length (trim value) ≤ MAX_EXPLANATION_LENGTH <;>
      simp [RawForm.explanationText, QuestionFields.raw, ConformValue.values, hexplanation, hlength]
  · simp [RawForm.explanationText, QuestionFields.raw, ConformValue.values, hexplanation]

end Client

end HistoryQuiz
