import HistoryQuiz.Logic.Judging

/-!
# Ids and their spellings

* `submitAnswer_judges_ids`: when `SubmitAnswer` judges two spellings of the same ids alike, and
  by the ids.
* `hyphens_change_verdict`: the correct choice, spelled without hyphens, is judged wrong.
-/

namespace HistoryQuiz

open Relational Effect QuizUsecase

variable {io : UuidReaders}

/-- The verdicts of the attempts that `db'` has and `db` had not. -/
def recordedVerdicts (db db' : Db) : List Bool :=
  (db'.attempts.drop db.attempts.length).map AttemptRow.isCorrect

/-- Both calls fail with one code, or both succeed, with one verdict and one correct choice, and
record one verdict. -/
def SameAnswer (db : Db) : Except GoError SubmitAnswerResult × Db →
    Except GoError SubmitAnswerResult × Db → Prop
  | (.ok r, db₁), (.ok r', db₂) => r.isCorrect = r'.isCorrect ∧
      r.correctChoiceID = r'.correctChoiceID ∧ recordedVerdicts db db₁ = recordedVerdicts db db₂
  | (.error e, _), (.error e', _) => e.code = e'.code
  | _, _ => False

theorem SameAnswer.refl (db : Db) (a : Except GoError SubmitAnswerResult × Db) :
    SameAnswer db a a := by
  rcases a with ⟨e | r, db'⟩
  · rfl
  · exact ⟨rfl, rfl, rfl⟩

/-- An answer is correct when the id `v` of the selected choice is that of the correct one. -/
def ComparesIds (io : UuidReaders) (v : Uuid) (x : Except GoError SubmitAnswerResult) : Prop :=
  ∀ r, x = .ok r → (r.isCorrect = true ↔ io.cast r.correctChoiceID = some v)

/-- The spellings `q` and `q'` of a question, and `c` and `c'` of a choice `v`, are judged alike
and by the ids. -/
structure JudgedByIds (io : UuidReaders) (τ : ℕ → OpTick) (db : Db) (user : String) (v : Uuid)
    (q q' c c' : String) : Prop where
  same : SameAnswer db ((submitAnswer io user q c).run (DbOp.exec io) τ db)
    ((submitAnswer io user q' c').run (DbOp.exec io) τ db)
  left : ComparesIds io v ((submitAnswer io user q c).run (DbOp.exec io) τ db).1
  right : ComparesIds io v ((submitAnswer io user q' c').run (DbOp.exec io) τ db).1

/-- Where an id is compared as a text it is spelled canonically: the correct choice, and the
question when it is one of the default set that has no stored key. -/
structure CanonicalWhereCompared (db : Db) (user : String) (u v : Uuid) (q q' c c' : String) :
    Prop where
  stored : (⟨u, v⟩ : AnswerKeyRow) ∈ db.answerKeys → storable user = true →
    c = v.text ∧ c' = v.text
  default : u ∉ db.answerKeys.map AnswerKeyRow.questionId → ∀ correct,
    defaultCorrectChoiceIDByQuestionID.lookup u.text = some correct →
      (q = u.text ↔ q' = u.text) ∧ (q = u.text → v.text = correct → c = v.text ∧ c' = v.text)

section Spelled

variable {u v : Uuid} {q q' c c' : String} {user : String}

/-- An answer that is given: by the stored key to a user that can be stored, or by the default
set. -/
theorem submitAnswer_ok (hq : Spells io q u) (hc : Spells io c v) {τ : ℕ → OpTick} {db db' : Db}
    {r : SubmitAnswerResult}
    (h : (submitAnswer io user q c).run (DbOp.exec io) τ db = (.ok r, db')) :
    ∃ w : Uuid, r.correctChoiceID = w.text ∧ r.isCorrect = (c == w.text) ∧
      ((⟨u, w⟩ : AnswerKeyRow) ∈ db.answerKeys ∧ storable user = true ∨
        u ∉ db.answerKeys.map AnswerKeyRow.questionId ∧ q = u.text ∧
          defaultCorrectChoiceIDByQuestionID.lookup u.text = some w.text) := by
  by_cases hkey : u ∈ db.answerKeys.map AnswerKeyRow.questionId
  · obtain ⟨k, hk, rfl⟩ := List.mem_map.mp hkey
    rw [run_submitAnswer_keyed hq hc hk rfl] at h
    split_ifs at h
    · cases h
    · cases h
    · obtain ⟨hverdict, hcorrect⟩ := recordAnswer_ok h
      refine ⟨k.correctChoiceId, hcorrect, hverdict, .inl ⟨hk, ?_⟩⟩
      by_contra hunstorable
      obtain ⟨e, -, hfails⟩ := run_recordAnswer_unstorable io
        (Bool.eq_false_iff.mpr hunstorable) (later τ 2) db
      rw [hfails] at h
      cases h
    · cases h
  · rw [run_submitAnswer_unkeyed hq hc.accepted hkey] at h
    split_ifs at h
    · cases h
    · cases hlookup : defaultCorrectChoiceIDByQuestionID.lookup q with
      | none =>
          rw [hlookup] at h
          cases h
      | some correct =>
          rw [hlookup] at h
          cases h
          obtain ⟨rfl, w, rfl⟩ := lookup_spelled hq hlookup
          exact ⟨w, rfl, rfl, .inr ⟨hkey, rfl, hlookup⟩⟩

/-- Under the condition both spellings run alike, whatever fails. -/
theorem CanonicalWhereCompared.run_eq {db : Db} (hq : Spells io q u) (hq' : Spells io q' u)
    (hc : Spells io c v) (hc' : Spells io c' v)
    (h : CanonicalWhereCompared db user u v q q' c c') (τ : ℕ → OpTick) :
    (submitAnswer io user q c).run (DbOp.exec io) τ db =
      (submitAnswer io user q' c').run (DbOp.exec io) τ db := by
  by_cases hkey : u ∈ db.answerKeys.map AnswerKeyRow.questionId
  · obtain ⟨k, hk, rfl⟩ := List.mem_map.mp hkey
    have hrecord : (recordAnswer user q c (c == k.correctChoiceId.text)
        k.correctChoiceId.text).run (DbOp.exec io) (later τ 2) db =
        (recordAnswer user q' c' (c' == k.correctChoiceId.text)
          k.correctChoiceId.text).run (DbOp.exec io) (later τ 2) db := by
      by_cases huser : storable user = true
      · -- a wrong choice has no spelling that is the text of the correct one
        have hverdict : (c == k.correctChoiceId.text) = (c' == k.correctChoiceId.text) := by
          by_cases hv : v = k.correctChoiceId
          · obtain ⟨rfl, rfl⟩ := h.stored (by rwa [hv]) huser
            rfl
          · rw [verdict_of_ne hc hv, verdict_of_ne hc' hv]
        rw [hverdict]
        exact run_recordAnswer_spelled hq hq' hc hc' ..
      · obtain ⟨e, -, hfails⟩ := run_recordAnswer_unstorable io
          (Bool.eq_false_iff.mpr huser) (later τ 2) db
        rw [hfails, hfails]
    rw [run_submitAnswer_keyed hq hc hk rfl, run_submitAnswer_keyed hq' hc' hk rfl, hrecord]
  · rw [run_submitAnswer_unkeyed hq hc.accepted hkey,
      run_submitAnswer_unkeyed hq' hc'.accepted hkey]
    cases hlookup : defaultCorrectChoiceIDByQuestionID.lookup u.text with
    | none =>
        have hmissing : ∀ {s}, Spells io s u →
            defaultCorrectChoiceIDByQuestionID.lookup s = none := by
          intro s hs
          by_cases htext : s = u.text
          · rw [htext, hlookup]
          · exact lookup_of_ne_text hs htext
        rw [hmissing hq, hmissing hq']
    | some correct =>
        obtain ⟨hiff, hcanonical⟩ := h.default hkey correct hlookup
        by_cases htext : q = u.text
        · have hverdict : (c == correct) = (c' == correct) := by
            obtain ⟨-, w, rfl⟩ := lookup_spelled (spells_text io u) hlookup
            by_cases hv : v = w
            · obtain ⟨rfl, rfl⟩ := hcanonical htext (congrArg Uuid.text hv)
              rfl
            · rw [verdict_of_ne hc hv, verdict_of_ne hc' hv]
          rw [htext, hiff.mp htext, hlookup]
          dsimp only
          rw [hverdict]
        · rw [lookup_of_ne_text hq htext,
            lookup_of_ne_text hq' fun htext' => htext (hiff.mpr htext')]

/-- The verdict compares the ids where the correct choice is spelled canonically. -/
theorem comparesIds_spelled (hq : Spells io q u) (hc : Spells io c v) {db : Db}
    (hstored : (⟨u, v⟩ : AnswerKeyRow) ∈ db.answerKeys → storable user = true → c = v.text)
    (hdefault : u ∉ db.answerKeys.map AnswerKeyRow.questionId → q = u.text →
      defaultCorrectChoiceIDByQuestionID.lookup u.text = some v.text → c = v.text)
    (τ : ℕ → OpTick) :
    ComparesIds io v ((submitAnswer io user q c).run (DbOp.exec io) τ db).1 := by
  intro r hr
  obtain ⟨w, hcorrect, hverdict, hway⟩ := submitAnswer_ok hq hc (Prod.ext hr rfl)
  rw [hcorrect, hverdict, io.cast_text, Option.some.injEq, beq_iff_eq]
  constructor
  · intro htext
    exact (hc.eq_text htext).symm
  · rintro rfl
    rcases hway with ⟨hkey, huser⟩ | ⟨hkey, htext, hlookup⟩
    · exact hstored hkey huser
    · exact hdefault hkey htext hlookup

/-- A correct choice that is judged by the ids is spelled canonically. -/
theorem ComparesIds.canonical {x : Except GoError SubmitAnswerResult} (h : ComparesIds io v x)
    {r : SubmitAnswerResult} (hx : x = .ok r) (hcorrect : r.correctChoiceID = v.text)
    (hverdict : r.isCorrect = (c == v.text)) : c = v.text := by
  have htrue := (h r hx).mpr (by rw [hcorrect, io.cast_text])
  rw [hverdict] at htrue
  exact beq_iff_eq.mp htrue

/-- For every state, user, and two spellings of a question and of a choice that the use case and
PostgreSQL accept. When the ids are canonical where they are compared as texts, both calls
have the same outcome whatever fails, and an answer is correct if and only if the ids are
equal. In every run in which nothing fails this is the only case. -/
theorem submitAnswer_judges_ids (db : Db) (user : String) (hq : Spells io q u)
    (hq' : Spells io q' u) (hc : Spells io c v) (hc' : Spells io c' v) :
    (CanonicalWhereCompared db user u v q q' c c' →
      ∀ τ, JudgedByIds io τ db user v q q' c c') ∧
    ∀ τ : ℕ → OpTick, (∀ n, (τ n).FreshAttempt db) →
      (JudgedByIds io τ db user v q q' c c' ↔ CanonicalWhereCompared db user u v q q' c c') := by
  have hholds : CanonicalWhereCompared db user u v q q' c c' →
      ∀ τ, JudgedByIds io τ db user v q q' c c' := by
    intro h τ
    refine ⟨?_, ?_, ?_⟩
    · rw [h.run_eq hq hq' hc hc' τ]
      exact SameAnswer.refl db _
    · refine comparesIds_spelled hq hc (fun hkey huser => (h.stored hkey huser).1) ?_ τ
      intro hkey htext hlookup
      exact ((h.default hkey _ hlookup).2 htext rfl).1
    · refine comparesIds_spelled hq' hc' (fun hkey huser => (h.stored hkey huser).2) ?_ τ
      intro hkey htext hlookup
      exact ((h.default hkey _ hlookup).2 ((h.default hkey _ hlookup).1.mpr htext) rfl).2
  refine ⟨hholds, fun τ hτ => ⟨fun h => ⟨?_, ?_⟩, fun h => hholds h τ⟩⟩
  · intro hkey huser
    obtain ⟨row, hrow, href⟩ := db.constraints.answerKeysChoice _ hkey
    rw [ChoiceRow.idQuestion, AnswerKeyRow.choiceRef, Prod.mk.injEq] at href
    obtain ⟨r, hr, hverdict, hcorrect⟩ := submitAnswer_given hq hc hkey rfl hrow href.2 href.1
      huser hτ
    obtain ⟨r', hr', hverdict', hcorrect'⟩ := submitAnswer_given hq' hc' hkey rfl hrow href.2
      href.1 huser hτ
    exact ⟨h.left.canonical hr hcorrect hverdict, h.right.canonical hr' hcorrect' hverdict'⟩
  · intro hkey correct hlookup
    -- the default set answers the canonical spelling of the question only
    have hgiven : ∀ {s t : String}, Spells io s u → Spells io t v → s = u.text →
        (submitAnswer io user s t).run (DbOp.exec io) τ db =
          (.ok ⟨t == correct, correct, ""⟩, db) := by
      intro s t hs ht htext
      rw [run_submitAnswer_unkeyed hs ht.accepted hkey, (hτ 0).quiet, htext, hlookup]
      rfl
    have hmissing : ∀ {s t : String}, Spells io s u → Spells io t v → s ≠ u.text →
        (submitAnswer io user s t).run (DbOp.exec io) τ db =
          (.error (notFound "正解情報が見つかりません"), db) := by
      intro s t hs ht hne
      rw [run_submitAnswer_unkeyed hs ht.accepted hkey, (hτ 0).quiet, lookup_of_ne_text hs hne]
      rfl
    have hsame := h.same
    have hiff : q = u.text ↔ q' = u.text := by
      constructor
      · intro htext
        by_contra hne
        rw [hgiven hq hc htext, hmissing hq' hc' hne] at hsame
        exact hsame
      · intro htext
        by_contra hne
        rw [hmissing hq hc hne, hgiven hq' hc' htext] at hsame
        exact hsame
    refine ⟨hiff, ?_⟩
    rintro htext rfl
    exact ⟨h.left.canonical (congrArg Prod.fst (hgiven hq hc htext)) rfl rfl,
      h.right.canonical (congrArg Prod.fst (hgiven hq' hc' (hiff.mp htext))) rfl rfl⟩

end Spelled

/-! ## Hyphens -/

/-- The correct choice of the first seeded question, without hyphens. -/
def unhyphenated : String := "00000000000000000000000000001001"

theorem spells_unhyphenated : Spells documentedReaders unhyphenated 0x1001 where
  nonempty := by decide
  parse := by decide +kernel
  cast := by decide +kernel

/-- Alice answers the first seeded question twice with the correct choice. Spelled without
hyphens it is judged wrong, and recorded so. -/
theorem hyphens_change_verdict :
    Spells documentedReaders unhyphenated 0x1001 ∧
    ((submitAnswer documentedReaders "alice" (Uuid.text 0x1) (Uuid.text 0x1001)).run
      (DbOp.exec documentedReaders) (calm 1 0) (seeded 0)).1 =
        .ok ⟨true, Uuid.text 0x1001, (countedUuid 0).value.text⟩ ∧
    ((submitAnswer documentedReaders "alice" (Uuid.text 0x1) unhyphenated).run
      (DbOp.exec documentedReaders) (calm 1 0) (seeded 0)).1 =
        .ok ⟨false, Uuid.text 0x1001, (countedUuid 0).value.text⟩ ∧
    ¬SameAnswer (seeded 0)
      ((submitAnswer documentedReaders "alice" (Uuid.text 0x1) (Uuid.text 0x1001)).run
        (DbOp.exec documentedReaders) (calm 1 0) (seeded 0))
      ((submitAnswer documentedReaders "alice" (Uuid.text 0x1) unhyphenated).run
        (DbOp.exec documentedReaders) (calm 1 0) (seeded 0)) := by
  have hcanonical : ((submitAnswer documentedReaders "alice" (Uuid.text 0x1) (Uuid.text 0x1001)).run
      (DbOp.exec documentedReaders) (calm 1 0) (seeded 0)).1 =
        .ok ⟨true, Uuid.text 0x1001, (countedUuid 0).value.text⟩ := by decide +kernel
  have hplain : ((submitAnswer documentedReaders "alice" (Uuid.text 0x1) unhyphenated).run
      (DbOp.exec documentedReaders) (calm 1 0) (seeded 0)).1 =
        .ok ⟨false, Uuid.text 0x1001, (countedUuid 0).value.text⟩ := by decide +kernel
  refine ⟨spells_unhyphenated, hcanonical, hplain, ?_⟩
  rw [← Prod.mk.eta (p := (submitAnswer documentedReaders "alice" (Uuid.text 0x1)
      (Uuid.text 0x1001)).run (DbOp.exec documentedReaders) (calm 1 0) (seeded 0)), hcanonical,
    ← Prod.mk.eta (p := (submitAnswer documentedReaders "alice" (Uuid.text 0x1) unhyphenated).run
      (DbOp.exec documentedReaders) (calm 1 0) (seeded 0)), hplain]
  rintro ⟨hverdict, -⟩
  cases hverdict

/-- The two spellings are not judged by the ids in a run in which nothing fails, since the second
is not canonical. -/
theorem submitAnswer_judges_ids_hyphens :
    ¬JudgedByIds documentedReaders (calm 1 0) (seeded 0) "alice" 0x1001 (Uuid.text 0x1)
      (Uuid.text 0x1) (Uuid.text 0x1001) unhyphenated := by
  intro h
  have hfresh : ∀ n, (calm 1 0 n).FreshAttempt (seeded 0) := by
    intro n
    refine ⟨rfl, ?_⟩
    simp [seeded, seededTables]
  have hcanonical := ((submitAnswer_judges_ids (seeded 0) "alice" (spells_text _ 0x1)
    (spells_text _ 0x1) (spells_text _ 0x1001) spells_unhyphenated).2 (calm 1 0) hfresh).mp h
  exact absurd (hcanonical.stored (by decide) (by decide)).2 (by decide +kernel)

end HistoryQuiz
