import HistoryQuiz.Client.Question
import HistoryQuiz.Logic.Content

/-!
# What a form saves and shows

What `createQuestionFormSchema` accepts is trimmed, so the fields that hold it are accepted as the
same value (`createQuestionFormSchema_fields`). A question with the content of its draft is shown
as this value: the choices in the order of their ordinals, and the correct one by its id
(`toInitialFormValues_shows`).
-/

namespace HistoryQuiz

namespace Client

open Js

/-! ## The schema -/

/-- A value that the schema returns: trimmed, and within the bounds. -/
structure CreateQuestionFormValue.Accepted (v : CreateQuestionFormValue) : Prop where
  prompt : trim v.prompt = v.prompt ∧ v.prompt ≠ ""
  choices : ∀ label ∈ v.choices, trim label = label ∧ label ≠ ""
  four : v.choices.length = 4
  correctOrdinal : 0 ≤ v.correctOrdinal ∧ v.correctOrdinal ≤ 3
  explanation : trim v.explanation = v.explanation ∧ length v.explanation ≤ MAX_EXPLANATION_LENGTH

theorem requiredText_eq_some {field : Option FieldValue} {s : String} :
    requiredText field = some s ↔ ∃ value, field = some (.text value) ∧ trim value = s ∧ s ≠ "" := by
  unfold requiredText
  rcases field with _ | (value | _)
  · simp
  · by_cases h : trim value = ""
    · simp [h]
    · simp only [h, if_false, Option.some.injEq, FieldValue.text.injEq]
      constructor
      · rintro rfl
        exact ⟨value, rfl, rfl, h⟩
      · rintro ⟨_, rfl, rfl, -⟩
        rfl
  · simp

theorem requiredText_trimmed {s : String} (h : trim s = s ∧ s ≠ "") :
    requiredText (some (.text s)) = some s :=
  requiredText_eq_some.mpr ⟨s, rfl, h⟩

/-- The elements of the result of `mapM` are results. -/
theorem exists_of_mem_mapM {α β : Type} {f : α → Option β} {l : List α} {l' : List β}
    (h : l.mapM f = some l') : ∀ b ∈ l', ∃ a ∈ l, f a = some b := by
  induction l generalizing l' with
  | nil =>
      cases h
      simp
  | cons a l ih =>
      rw [List.mapM_cons] at h
      obtain ⟨b, hb, h⟩ := Option.bind_eq_some_iff.mp h
      obtain ⟨bs, hbs, h⟩ := Option.bind_eq_some_iff.mp h
      cases h
      intro b' hb'
      rcases List.mem_cons.mp hb' with rfl | hb'
      · exact ⟨a, List.mem_cons_self, hb⟩
      · obtain ⟨a', ha', hfa'⟩ := ih hbs b' hb'
        exact ⟨a', List.mem_cons_of_mem _ ha', hfa'⟩

theorem mapM_requiredText {labels : List String} (h : ∀ label ∈ labels, trim label = label ∧
    label ≠ "") : (labels.map fun label => some (FieldValue.text label)).mapM requiredText =
      some labels := by
  induction labels with
  | nil => rfl
  | cons label labels ih =>
      rw [List.map_cons, List.mapM_cons, requiredText_trimmed (h label List.mem_cons_self),
        ih fun label' hlabel' => h label' (List.mem_cons_of_mem _ hlabel')]
      rfl

variable {conform : Conform}

/-- The ordinals that the schema accepts. -/
theorem num_bounds {n : ℚ} (hint : n.isInt = true) (hmin : 0 ≤ n)
    (hmax : n ≤ (QUESTION_CHOICES_COUNT : ℚ) - 1) : 0 ≤ n.num ∧ n.num ≤ 3 := by
  have hnum : n.num ≤ 3 := by
    have hle : ((n.num : ℤ) : ℚ) ≤ ((3 : ℤ) : ℚ) := by
      rw [← Rat.eq_num_of_isInt hint]
      exact hmax.trans (by norm_num [QUESTION_CHOICES_COUNT])
    exact_mod_cast hle
  exact ⟨Rat.num_nonneg.mpr hmin, hnum⟩

theorem createQuestionFormSchema_ok {fields : QuestionFields} {v : CreateQuestionFormValue}
    (h : createQuestionFormSchema conform fields = some v) : v.Accepted := by
  unfold createQuestionFormSchema at h
  obtain ⟨prompt, hprompt, h⟩ := Option.bind_eq_some_iff.mp h
  obtain ⟨choices, hchoices, h⟩ := Option.bind_eq_some_iff.mp h
  obtain ⟨⟨⟩, hfour, h⟩ := Option.bind_eq_some_iff.mp h
  obtain ⟨n, -, h⟩ := Option.bind_eq_some_iff.mp h
  obtain ⟨⟨⟩, hn, h⟩ := Option.bind_eq_some_iff.mp h
  rw [Option.guard_eq_some'] at hfour hn
  obtain ⟨_, -, htrim, hne⟩ := requiredText_eq_some.mp hprompt
  have hlabels : ∀ label ∈ choices, trim label = label ∧ label ≠ "" := by
    intro label hlabel
    obtain ⟨field, -, hfield⟩ := exists_of_mem_mapM hchoices label hlabel
    obtain ⟨_, -, htrim, hne⟩ := requiredText_eq_some.mp hfield
    exact ⟨by rw [← htrim, trim_trim], hne⟩
  have haccepted : ∀ explanation, trim explanation = explanation →
      length explanation ≤ MAX_EXPLANATION_LENGTH →
      (⟨prompt, choices, n.num, explanation⟩ : CreateQuestionFormValue).Accepted :=
    fun explanation htrimmed hlength =>
      ⟨⟨by rw [← htrim, trim_trim], hne⟩, hlabels, hfour, num_bounds hn.1 hn.2.1 hn.2.2,
        htrimmed, hlength⟩
  dsimp only at h
  split at h
  · cases h
    exact haccepted "" (by decide) (by decide)
  · split_ifs at h with hlength
    · cases h
      exact haccepted _ (trim_trim _) hlength
    · cases h
  · cases h

/-- The schema accepts the fields of a value that it has returned. -/
theorem createQuestionFormSchema_fields {v : CreateQuestionFormValue} (h : v.Accepted) :
    createQuestionFormSchema conform v.fields = some v := by
  obtain ⟨i, hi⟩ := Int.eq_ofNat_of_zero_le h.correctOrdinal.1
  have hlt : i < 4 := by
    have hmax := h.correctOrdinal.2
    omega
  have hordinal : conform.coerceNumber v.fields.correctOrdinal = some (i : ℚ) := by
    rw [CreateQuestionFormValue.fields, hi]
    exact conform.coerceNumber_digit i (by omega)
  have hguard : ((i : ℚ)).isInt = true ∧ 0 ≤ (i : ℚ) ∧
      (i : ℚ) ≤ (QUESTION_CHOICES_COUNT : ℚ) - 1 := by
    refine ⟨rfl, Nat.cast_nonneg i, ?_⟩
    have hle : (i : ℚ) ≤ 3 := by exact_mod_cast Nat.lt_succ_iff.mp hlt
    exact hle.trans (by norm_num [QUESTION_CHOICES_COUNT])
  unfold createQuestionFormSchema
  rw [show v.fields.prompt = some (.text v.prompt) from rfl, requiredText_trimmed h.prompt,
    show v.fields.choices = v.choices.map fun label => some (.text label) from rfl,
    mapM_requiredText h.choices, hordinal]
  simp only [Option.bind_eq_bind, Option.bind_some, guard,
    if_pos (show v.choices.length = QUESTION_CHOICES_COUNT from h.four), if_pos hguard,
    CreateQuestionFormValue.fields]
  have hv : (⟨v.prompt, v.choices, (i : ℚ).num, v.explanation⟩ : CreateQuestionFormValue) = v := by
    rw [Rat.num_natCast, ← hi]
  by_cases hempty : v.explanation = ""
  · rw [hempty] at hv
    simp only [hempty, if_true]
    exact congrArg some hv
  · simp only [hempty, if_false, h.explanation.1, h.explanation.2, if_true]
    exact congrArg some hv

/-! ## The values that are shown -/

/-- The search for an element by its id finds the element itself. -/
theorem findIdx?_id {α β : Type} [BEq β] [LawfulBEq β] {f : α → β} {l : List α}
    (hl : (l.map f).Nodup) {i : ℕ} (hi : i < l.length) :
    (l.findIdx? fun a => f a == f l[i]) = some i := by
  rw [List.findIdx?_eq_some_iff_getElem]
  refine ⟨hi, beq_self_eq_true _, ?_⟩
  intro j hj heq
  have hi' : i < (l.map f).length := by simpa using hi
  have hj' : j < (l.map f).length := by omega
  have hsame : (l.map f)[j] = (l.map f)[i] := by
    rw [List.getElem_map, List.getElem_map]
    exact eq_of_beq heq
  have hji := (List.Nodup.getElem_inj_iff hl).mp hsame
  omega

/-- The ordinals stand at their own places. -/
theorem getElem?_ordinals : ∀ i : ℕ, i < 4 → ([0, 1, 2, 3] : List ℤ)[i]? = some (i : ℤ) := by decide

/-- A question with the content of a draft is shown as the value it was made of. -/
theorem QuestionsEdit.toInitialFormValues_shows {detail : HistoryQuiz.QuestionDetail}
    {v : CreateQuestionFormValue} (h : detail.Shows v.draft)
    (hids : (detail.choices.map Choice.id).Nodup) :
    QuestionsEdit.toInitialFormValues (toQuestionDetail detail) = .ok v := by
  have hordinals : (toQuestionDetail detail).choices.map QuestionChoice.ordinal = [0, 1, 2, 3] := by
    rw [← h.ordinals]
    simp [toQuestionDetail]
  have hlength : (toQuestionDetail detail).choices.length = 4 := by
    simpa using congrArg List.length hordinals
  have hsorted : QuestionsEdit.toSortedChoices (toQuestionDetail detail) =
      (toQuestionDetail detail).choices := by
    refine List.Pairwise.insertionSort_eq ?_
    have hpairwise : ((toQuestionDetail detail).choices.map QuestionChoice.ordinal).Pairwise
        (· ≤ ·) := by
      rw [hordinals]
      decide
    rwa [List.pairwise_map] at hpairwise
  have hnodup : ((toQuestionDetail detail).choices.map QuestionChoice.id).Nodup := by
    simpa [toQuestionDetail, Function.comp_def] using hids
  -- the correct choice stands at the place of its ordinal
  obtain ⟨c, hc, hord, hcorrect⟩ := h.correct
  obtain ⟨i, hi, hci⟩ := List.getElem_of_mem hc
  have hi' : i < (toQuestionDetail detail).choices.length := by simpa [toQuestionDetail] using hi
  have hplace : v.correctOrdinal = i := by
    have hfour : i < 4 := by simpa [hlength] using hi'
    have hat : (detail.choices.map Choice.ordinal)[i]? = ([0, 1, 2, 3] : List ℤ)[i]? := by
      rw [h.ordinals]
    rw [List.getElem?_map, List.getElem?_eq_getElem hi, hci, getElem?_ordinals i hfour] at hat
    exact hord.symm.trans (Option.some.inj hat)
  have hfind : ((toQuestionDetail detail).choices.findIdx? fun choice =>
      choice.id == (toQuestionDetail detail).correctChoiceId) = some i := by
    have hid : (toQuestionDetail detail).correctChoiceId =
        ((toQuestionDetail detail).choices[i]).id := by
      simp [toQuestionDetail, hci, hcorrect]
    rw [hid]
    exact findIdx?_id hnodup hi'
  have hlabels : (toQuestionDetail detail).choices.map QuestionChoice.label = v.choices := by
    rw [show v.choices = v.draft.choices from rfl, ← h.labels]
    simp [toQuestionDetail]
  have hprompt : (toQuestionDetail detail).prompt = v.prompt := h.prompt
  have hexplanation : (toQuestionDetail detail).explanation = v.explanation := h.explanation
  unfold QuestionsEdit.toInitialFormValues
  dsimp only
  rw [hsorted, if_neg (by rw [hlength]; decide), hfind]
  simp only [hlabels, hprompt, hexplanation, ← hplace]

end Client

end HistoryQuiz
