import HistoryQuiz.Backend.Repository
import HistoryQuiz.Base.Sha256

/-!
# The quiz use case

`backend/internal/usecase/quiz`: serving the next question and judging an
answer, each with its fallback to the default set that is compiled into the
program.
-/

namespace HistoryQuiz

open Effect

namespace QuizUsecase

/-! ## The default set -/

def defaultQuestions : List Question := [
  { id := "00000000-0000-0000-0000-000000000001"
    prompt := "古代ローマの首都はどこ？"
    choices := [
      ⟨"00000000-0000-0000-0000-000000001001", "ローマ", 0⟩,
      ⟨"00000000-0000-0000-0000-000000001002", "アテネ", 1⟩,
      ⟨"00000000-0000-0000-0000-000000001003", "カルタゴ", 2⟩,
      ⟨"00000000-0000-0000-0000-000000001004", "アレクサンドリア", 3⟩]
    explanation := "ローマは古代ローマの中心都市として知られる。" },
  { id := "00000000-0000-0000-0000-000000000002"
    prompt := "中世ヨーロッパで十字軍が向かった主な目的地は？"
    choices := [
      ⟨"00000000-0000-0000-0000-000000002001", "エルサレム（聖地）", 0⟩,
      ⟨"00000000-0000-0000-0000-000000002002", "カイロ", 1⟩,
      ⟨"00000000-0000-0000-0000-000000002003", "コンスタンティノープル", 2⟩,
      ⟨"00000000-0000-0000-0000-000000002004", "ロンドン", 3⟩]
    explanation := "十字軍は主にエルサレムなど聖地の奪還を目的とした。" },
  { id := "00000000-0000-0000-0000-000000000003"
    prompt := "大航海時代にインド航路を開拓した人物は？"
    choices := [
      ⟨"00000000-0000-0000-0000-000000003001", "コロンブス", 0⟩,
      ⟨"00000000-0000-0000-0000-000000003002", "マゼラン", 1⟩,
      ⟨"00000000-0000-0000-0000-000000003003", "ヴァスコ・ダ・ガマ", 2⟩,
      ⟨"00000000-0000-0000-0000-000000003004", "クック", 3⟩]
    explanation := "ヴァスコ・ダ・ガマは喜望峰を回ってインドへ到達した。" }]

def defaultCorrectChoiceIDByQuestionID : List (String × String) := [
  ("00000000-0000-0000-0000-000000000001", "00000000-0000-0000-0000-000000001001"),
  ("00000000-0000-0000-0000-000000000002", "00000000-0000-0000-0000-000000002001"),
  ("00000000-0000-0000-0000-000000000003", "00000000-0000-0000-0000-000000003003")]

/-! ## Selection -/

/-- `[]byte(s)`. -/
def utf8Bytes (s : String) : List (BitVec 8) :=
  (s.toList.flatMap String.utf8EncodeChar).map UInt8.toBitVec

/-- `pickDeterministically`: the first eight bytes of the hash of the request id
choose the candidate. -/
def pickDeterministically (requestID : String) (candidateIDs : List String) : String :=
  if candidateIDs = [] then ""
  else
    let seed := if requestID = "" then "no-request-id" else requestID
    let n := Sha256.ofBigEndian ((Sha256.sum256 (utf8Bytes seed)).take 8)
    candidateIDs.getD (n % candidateIDs.length) ""

/-- `selectDefaultQuestion` over a given default set. -/
def selectDefaultQuestionFrom (questions : List Question) (requestID previousQuestionID : String) :
    Except GoError Question :=
  match questions with
  | [] => .error (notFound "出題可能な問題がありません")
  | first :: rest =>
      let others := (first :: rest).filter fun q => q.id != previousQuestionID
      let candidates := if others = [] then first :: rest else others
      let selectedID := pickDeterministically requestID (candidates.map Question.id)
      match candidates.find? fun q => q.id == selectedID with
      | some q => .ok q
      | none => .ok (candidates.headD first)

def selectDefaultQuestion (requestID previousQuestionID : String) : Except GoError Question :=
  selectDefaultQuestionFrom defaultQuestions requestID previousQuestionID

/-- `GetQuestion`. -/
def getQuestion (io : UuidReaders) (requestID previousQuestionID : String) : DbProg Question := do
  if previousQuestionID ≠ "" ∧ (io.parse previousQuestionID).isNone then
    .fail (invalidArgument "previous_question_id が不正です"
      [⟨"previous_question_id", "UUID 形式で指定してください"⟩])
  else
    let nonSystemIDs ←
      QuestionRepository.listQuizCandidateNonSystemQuestionIDs previousQuestionID
    let listFor (previous : String) : DbProg (List String) :=
      if nonSystemIDs = [] then QuestionRepository.listQuizCandidateSystemQuestionIDs previous
      else QuestionRepository.listQuizCandidateQuestionIDs previous
    let firstIDs ← listFor previousQuestionID
    -- without the exclusion when it left nothing
    let retry : DbProg (List String) :=
      if firstIDs = [] ∧ previousQuestionID ≠ "" then listFor "" else pure firstIDs
    let candidateIDs ← retry
    if candidateIDs = [] then
      .ofExcept (selectDefaultQuestion requestID previousQuestionID)
    else
      let selectedID := pickDeterministically requestID candidateIDs
      match ← (QuestionRepository.getQuizQuestion selectedID).attempt with
      | .ok q => return q
      | .error e =>
          if e.isCode .notFound then
            .ofExcept (selectDefaultQuestion requestID previousQuestionID)
          else .fail e

/-! ## Judging -/

structure SubmitAnswerResult where
  isCorrect : Bool
  correctChoiceID : String
  attemptID : String
deriving DecidableEq, Repr

/-- `submitDefaultAnswer`: both branches of the code return the same. -/
def submitDefaultAnswer (_userID _questionID selectedChoiceID correctChoiceID : String) :
    SubmitAnswerResult where
  isCorrect := selectedChoiceID == correctChoiceID
  correctChoiceID := correctChoiceID
  attemptID := ""

/-- `SubmitAnswer`. -/
def submitAnswer (io : UuidReaders) (userID questionID selectedChoiceID : String) :
    DbProg SubmitAnswerResult := do
  if questionID = "" then
    .fail (invalidArgument "question_id が空です" [⟨"question_id", "必須です"⟩])
  else if selectedChoiceID = "" then
    .fail (invalidArgument "selected_choice_id が空です" [⟨"selected_choice_id", "必須です"⟩])
  else if (io.parse questionID).isNone then
    .fail (invalidArgument "question_id が不正です"
      [⟨"question_id", "UUID 形式で指定してください"⟩])
  else if (io.parse selectedChoiceID).isNone then
    .fail (invalidArgument "selected_choice_id が不正です"
      [⟨"selected_choice_id", "UUID 形式で指定してください"⟩])
  else
    match ← (QuestionRepository.getCorrectChoiceID questionID).attempt with
    | .error e =>
        match e.isCode .notFound, defaultCorrectChoiceIDByQuestionID.lookup questionID with
        | true, some defaultCorrect =>
            return submitDefaultAnswer userID questionID selectedChoiceID defaultCorrect
        | _, _ => .fail e
    | .ok correctChoiceID =>
        let belongs ← QuestionRepository.choiceBelongsToQuestion questionID selectedChoiceID
        if belongs = false then
          .fail (invalidArgument "selected_choice_id が question_id に紐づいていません" [])
        else
          let isCorrect := selectedChoiceID == correctChoiceID
          -- anonymous answers are judged but not recorded
          if userID = "" then
            return { isCorrect, correctChoiceID, attemptID := "" }
          else
            UserRepository.ensureUserExists userID
            let attemptID ←
              AttemptRepository.createAttempt userID questionID selectedChoiceID isCorrect
            return { isCorrect, correctChoiceID, attemptID }

end QuizUsecase

end HistoryQuiz
