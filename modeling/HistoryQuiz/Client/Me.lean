import HistoryQuiz.Client.Question

/-!
# The page of a user

The route `me.tsx`: its loader makes three calls at once.
-/

namespace HistoryQuiz

namespace Client

namespace Me

open Js Throw

def LIST_PAGE_SIZE : ℤ := 20

/-- `LoaderData["stats"]`; the accuracy is a quotient, so it is finite. -/
structure SafeStats where
  accuracy : ℚ
  correctAttempts : String
  totalAttempts : String
deriving DecidableEq

structure LoaderData where
  attempts : List Attempt
  questions : List QuestionSummary
  requestId : String
  stats : SafeStats
  userId : String
deriving DecidableEq

/-- `toSafeStats`. -/
def toSafeStats : Option Stats → SafeStats
  | none => ⟨0, "0", "0"⟩
  | some stats => ⟨stats.accuracy, toString stats.correctAttempts, toString stats.totalAttempts⟩

/-- The sections of the page, each with a call of its own. -/
inductive PageSection where
  | attempts
  | stats
  | questions
deriving DecidableEq, Repr

/-- The call for a section. -/
def PageSection.request : PageSection → HistoryQuiz.Request
  | attempts => .listMyAttempts none (some ⟨LIST_PAGE_SIZE⟩)
  | stats => .getMyStats none
  | questions => .listMyQuestions none (some ⟨LIST_PAGE_SIZE⟩)

/-- An order in which the three calls are answered. -/
structure AnswerOrder where
  sections : List PageSection
  complete : sections.Perm [.attempts, .stats, .questions]

/-- `response.attempts`. -/
def attemptsOf (replies : List (PageSection × Reply)) : List Attempt :=
  match replies.lookup .attempts with
  | some (.attempts attempts _) => attempts
  | _ => []

/-- `response.questions`. -/
def questionsOf (replies : List (PageSection × Reply)) : List QuestionSummary :=
  match replies.lookup .questions with
  | some (.questions questions _) => questions
  | _ => []

/-- `response.stats`. -/
def statsOf (replies : List (PageSection × Reply)) : Option Stats :=
  match replies.lookup .stats with
  | some (.stats stats) => some stats
  | _ => none

/-- The data of the page, from the replies to its calls. -/
def toLoaderData (requestId userId : String) (replies : List (PageSection × Reply)) : LoaderData :=
  ⟨attemptsOf replies, questionsOf replies, requestId, toSafeStats (statsOf replies), userId⟩

variable {σ : Type} (outside : Outside σ)

/-- The call for a section, and its reply. -/
def callSection (requestId userId : String) (pageSection : PageSection) :
    EStateM Thrown σ (PageSection × Reply) := do
  let result ← outside.callService requestId ⟨some requestId, some userId⟩ pageSection.request
  return (pageSection, result.response.reply)

/-- The loader. The calls are made at once, and `Promise.all` throws the error of the one that
fails first. -/
def loader (order : AnswerOrder) (random : RandomValues) (request : Request) :
    EStateM Raised σ (Response LoaderData) := do
  let user ← ofExcept (requireAuthenticatedUser request)
  let requestId := createRequestId random
  let outcome ← catching
    (runAll (order.sections.map (callSection outside requestId user.userId)))
  match outcome with
  | .ok replies =>
      return json (toLoaderData requestId user.userId replies) 200 none (some requestId)
  | .error error =>
      throw (throwGrpcErrorResponse outside.readers error
        (some "マイページの取得に失敗しました。時間をおいて再試行してください。") (some requestId))

end Me

end Client

end HistoryQuiz
