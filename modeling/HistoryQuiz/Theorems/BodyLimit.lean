import HistoryQuiz.Theorems.Posts

/-!
# The limit of the body

`assertRequestContentLengthWithinLimit` checks what the header declares, and `request.formData()`
reads what the server delivers. A declared length binds the body, since the server delivers as
much as the header says (`declared_throws_iff`); a request without one passes, however long its
body is. So the limit binds exactly for the requests that declare a length (`bodyLimit_iff`).
-/

namespace HistoryQuiz

namespace Client

open Js

/-- The request has a `Content-Length` header, which is `text` after trimming and not blank. -/
def Declares (request : Request) (text : String) : Prop :=
  ∃ value, request.contentLength = some value ∧ trim value = text ∧ text ≠ ""

/-- A decimal digit string, and the number it denotes. -/
def Denotes (text : String) (n : ℕ) : Prop :=
  text.toList.all Char.isDigit = true ∧ parseDigits text.toList = n

/-- The body that the HTTP server delivers with the request can be this long: as long as the
header says, and of any length without one. -/
def Delivers (request : Request) (length : ℕ) : Prop :=
  ∀ text n, Declares request text → Denotes text n → length = n

/-- Infinity is above every limit. -/
theorem lt_of_parseIntDigits_eq_none {digits : List Char} {m : ℕ} (hm : m < 2 ^ 53)
    (h : parseIntDigits digits = none) : m < Rounding.toBits 53 (parseDigits digits) := by
  have hinf : 2 ^ 1024 ≤ Rounding.toBits 53 (parseDigits digits) := by
    unfold parseIntDigits at h
    by_contra hfinite
    rw [if_neg hfinite] at h
    cases h
  calc m < 2 ^ 53 := hm
    _ ≤ 2 ^ 1024 := pow_le_pow_right₀ one_le_two (by decide)
    _ ≤ Rounding.toBits 53 (parseDigits digits) := hinf

theorem parseIntDigits_eq_some {digits : List Char} {n : ℕ} (h : parseIntDigits digits = some n) :
    n = Rounding.toBits 53 (parseDigits digits) := by
  unfold parseIntDigits at h
  dsimp only at h
  split_ifs at h
  exact (Option.some.inj h).symm

theorem parseContentLengthHeader_undeclared {request : Request}
    (h : ¬ ∃ text, Declares request text) :
    parseContentLengthHeader request.contentLength = none := by
  unfold parseContentLengthHeader
  cases hvalue : request.contentLength with
  | none => rfl
  | some value =>
      by_cases hblank : trim value = ""
      · exact if_pos hblank
      · exact absurd ⟨trim value, value, hvalue, rfl, hblank⟩ h

/-- A declared length is refused exactly when it is not a digit string or above the limit. -/
theorem declared_throws_iff {fresh : String} {maxBytes : ℕ} (hmax : maxBytes < 2 ^ 53)
    {request : Request} (requestId : Option String) {text : String} (h : Declares request text) :
    (∃ e, assertRequestContentLengthWithinLimit fresh maxBytes request requestId =
      .error e) ↔ ∀ n, Denotes text n → maxBytes < n := by
  obtain ⟨value, hvalue, htext, hne⟩ := h
  unfold assertRequestContentLengthWithinLimit parseContentLengthHeader
  rw [hvalue]
  dsimp only
  rw [htext, if_neg hne]
  by_cases hdigits : text.toList.all Char.isDigit = true
  · have hdenotes : (∀ n, Denotes text n → maxBytes < n) ↔ maxBytes < parseDigits text.toList := by
      constructor
      · intro hall
        exact hall _ ⟨hdigits, rfl⟩
      · rintro hlt n ⟨-, rfl⟩
        exact hlt
    have hlimit := Rounding.lt_toBits_iff (n := parseDigits text.toList) (show 0 < 53 by decide)
      hmax
    rw [if_pos hdigits, hdenotes, ← hlimit]
    cases hparsed : parseIntDigits text.toList with
    | none =>
        refine iff_of_true ⟨_, rfl⟩ ?_
        exact lt_of_parseIntDigits_eq_none hmax hparsed
    | some n =>
        rw [← parseIntDigits_eq_some hparsed]
        by_cases hlarge : maxBytes < n <;> simp [hlarge]
  · rw [if_neg hdigits]
    constructor
    · rintro - n ⟨hall, -⟩
      exact absurd hall hdigits
    · intro _
      exact ⟨_, rfl⟩

/-- A text denotes one number at most. -/
theorem forall_denotes_iff {text : String} {maxBytes : ℕ} :
    (∀ n, Denotes text n → maxBytes < n) ↔
      (¬ ∃ n, Denotes text n) ∨ ∃ n, Denotes text n ∧ maxBytes < n := by
  constructor
  · intro h
    by_cases hnumber : ∃ n, Denotes text n
    · obtain ⟨n, hn⟩ := hnumber
      exact .inr ⟨n, hn, h n hn⟩
    · exact .inl hnumber
  · rintro (hnone | ⟨n, ⟨-, rfl⟩, hlt⟩) n' hn'
    · exact absurd ⟨n', hn'⟩ hnone
    · rwa [← hn'.2]

/-- For every request and every limit below `2 ^ 53`: the bodies of the requests that pass are
within the limit exactly when the request declares a length; and a request that declares one is
refused exactly when it is not a digit string or denotes more than the limit. -/
theorem bodyLimit_iff (fresh : String) {maxBytes : ℕ} (hmax : maxBytes < 2 ^ 53)
    (request : Request) (requestId : Option String) :
    ((∀ length, Delivers request length →
        (∃ id, assertRequestContentLengthWithinLimit fresh maxBytes request requestId =
          .ok id) → length ≤ maxBytes) ↔ ∃ text, Declares request text) ∧
    ∀ text, Declares request text →
      ((∃ e, assertRequestContentLengthWithinLimit fresh maxBytes request requestId =
        .error e) ↔ (¬ ∃ n, Denotes text n) ∨ ∃ n, Denotes text n ∧ maxBytes < n) := by
  refine ⟨⟨?_, ?_⟩, fun text h => (declared_throws_iff hmax requestId h).trans forall_denotes_iff⟩
  · intro hbinds
    by_contra hnone
    have hpasses : ∃ id, assertRequestContentLengthWithinLimit fresh maxBytes request
        requestId = .ok id := by
      unfold assertRequestContentLengthWithinLimit
      rw [parseContentLengthHeader_undeclared hnone]
      exact ⟨_, rfl⟩
    have hdelivers : Delivers request (maxBytes + 1) :=
      fun text _ htext => absurd ⟨text, htext⟩ hnone
    have hle := hbinds _ hdelivers hpasses
    omega
  · rintro ⟨text, htext⟩ length hdelivers ⟨id, hok⟩
    by_contra hlong
    obtain ⟨e, he⟩ := (declared_throws_iff hmax requestId htext).mpr fun n hn => by
      rw [← hdelivers text n htext hn]
      exact Nat.lt_of_not_le hlong
    rw [hok] at he
    cases he

/-- A form without a `Content-Length`, as a chunked one is: a body of any length passes the limit
of 32768 bytes. -/
theorem bodyLimit_undeclared :
    sampleSubmission.contentLength = none ∧ Delivers sampleSubmission 1000000 ∧
      ¬ 1000000 ≤ QuestionsNew.QUESTION_CREATE_ACTION_MAX_BODY_BYTES ∧
      assertRequestContentLengthWithinLimit "fresh"
        QuestionsNew.QUESTION_CREATE_ACTION_MAX_BODY_BYTES sampleSubmission none = .ok "fresh" := by
  refine ⟨rfl, ?_, by decide, rfl⟩
  rintro text n ⟨value, hvalue, -⟩
  cases hvalue

theorem bodyLimit_iff_sample :
    (∀ length, Delivers { sampleSubmission with contentLength := some " 70000 " } length →
      (∃ id, assertRequestContentLengthWithinLimit "fresh" 32768
        { sampleSubmission with contentLength := some " 70000 " } none = .ok id) →
      length ≤ 32768) ↔
      ∃ text, Declares { sampleSubmission with contentLength := some " 70000 " } text :=
  (bodyLimit_iff "fresh" (show 32768 < 2 ^ 53 by decide) _ none).1

end Client

end HistoryQuiz
