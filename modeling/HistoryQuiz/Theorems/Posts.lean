import HistoryQuiz.Logic.Posts
import HistoryQuiz.Theorems.EditForm

/-!
# No effect without a verified token

* `post_effects`: a post has one effect at most, and only with a verified token, a form that
  has passed the schema of its route, and, for the questions, the user of the session.
* `spaced_user_sent`: a user that is stored with white space at its ends is sent without it.
-/

namespace HistoryQuiz

namespace Client

open Js

/-- For every post with whatever session, headers, path parameter and form. It has one effect
at most, and an effect means three things. The token of the session is there and not blank,
and trimmed it is the trimmed token of the form. The form has passed the schema of the
route, or asks for a logout, and the effect is the call that it stands for. For the two
routes of questions the user of the session is not blank, and trimmed it is the user that
the call names. -/
theorem post_effects {σ : Type} (outside : Outside σ) (s : σ) (request : Request) (post : Post) :
    (post.effects outside s request).length ≤ 1 ∧
    ∀ effect ∈ post.effects outside s request, ∃ formData, request.formData = some formData ∧
      TokenVerified request formData ∧ post.Allows outside.conform request formData effect := by
  rcases post.effects_cases outside s request with hnone | ⟨effect, hone, hjustified⟩
  · rw [hnone]
    refine ⟨by simp, ?_⟩
    intro effect heffect
    cases heffect
  · rw [hone]
    refine ⟨by simp, ?_⟩
    intro effect' heffect
    rw [List.mem_singleton.mp heffect]
    exact hjustified

/-- The methods of a client whose backend cannot be reached. -/
def unavailableMethod : UnaryMethod Unit :=
  clientMethod fun _ _ => pure (.error ⟨.unavailable, ""⟩)

/-- The outside over these methods. -/
def unavailable : Outside Unit :=
  overGrpc plainPlatform.readers plainConform grpcJs unavailableMethod

/-- Alice sends the form of her question. -/
def sampleSubmission : Request where
  origin := "https://quiz.example"
  pathname := "/questions/new"
  search := ""
  searchParams := []
  contentLength := none
  xRequestId := none
  session := (Session.empty.set .userId "alice").set .csrfToken "token"
  formData := some [("csrfToken", .text "token"), ("prompt", .text "鎌倉幕府を開いたのは？"),
    ("choices[0]", .text "源頼朝"), ("choices[1]", .text "足利尊氏"), ("choices[2]", .text "徳川家康"),
    ("choices[3]", .text "平清盛"), ("correctOrdinal", .text "0"), ("explanation", .text "")]

def sampleRandom : RandomValues := ⟨countedUuid 31, 0⟩

/-- The same, with white space around the user of the session. -/
def spacedSubmission : Request :=
  { sampleSubmission with session := sampleSubmission.session.set .userId " alice " }

/-- The call names a user that the session does not hold. -/
theorem spaced_user_sent : ∃ callContext call,
    (Post.questionsNew sampleRandom).effects unavailable () spacedSubmission =
      [.call callContext call] ∧
    spacedSubmission.session .userId = some (.str " alice ") ∧
    callContext.userId = some "alice" := by
  have hsome : ((Post.questionsNew sampleRandom).effects unavailable () spacedSubmission).isEmpty =
      false := by decide +kernel
  rcases (Post.questionsNew sampleRandom).effects_cases unavailable () spacedSubmission with
    hnone | ⟨effect, hone, formData, -, -, hallows⟩
  · rw [hnone] at hsome
    cases hsome
  · cases effect with
    | destroySession => exact hallows.elim
    | call callContext call =>
        refine ⟨callContext, call, hone, rfl, ?_⟩
        have huser : SentByUser spacedSubmission callContext := by
          cases call with
          | createQuestion context draft => exact hallows.1
          | _ => exact hallows.elim
        obtain ⟨stored, hstored, -, huserId⟩ := huser
        cases hstored
        rw [huserId]
        decide

end Client

end HistoryQuiz
