import HistoryQuiz.Postgres.Schema
import Mathlib.Data.Rat.Defs

/-!
# Domain models and errors

The types of `backend/internal/domain` and `backend/internal/domain/apperror`.
An error of the program (`GoError`) is a chain: an `*apperror.Error`, possibly
with a cause, a wrapper made by `fmt.Errorf` with `%w`, or an error that came
from the driver. `errors.As` (`asAppError`) finds the first `*apperror.Error` of
the chain, and everything the transport reports is read off that one.
-/

namespace HistoryQuiz

/-! ## Models -/

structure Choice where
  id : String
  label : String
  ordinal : ℤ
deriving DecidableEq, Repr

/-- A question as the quiz serves it: without the correct choice. -/
structure Question where
  id : String
  prompt : String
  choices : List Choice
  explanation : String
deriving DecidableEq, Repr

structure QuestionDraft where
  prompt : String
  choices : List String
  correctOrdinal : ℤ
  explanation : String
deriving DecidableEq, Repr

structure QuestionSummary where
  id : String
  prompt : String
  updatedAt : Timestamp
deriving DecidableEq, Repr

structure QuestionDetail where
  id : String
  prompt : String
  choices : List Choice
  correctChoiceID : String
  explanation : String
  updatedAt : Timestamp
deriving DecidableEq, Repr

structure Attempt where
  id : String
  questionID : String
  questionPrompt : String
  selectedChoiceID : String
  isCorrect : Bool
  answeredAt : Timestamp
deriving DecidableEq, Repr

/-- The statistics; the accuracy is the exact quotient. -/
structure Stats where
  totalAttempts : ℕ
  correctAttempts : ℕ
  accuracy : ℚ
deriving DecidableEq

/-! ## Errors -/

inductive Code where
  | invalidArgument
  | notFound
  | permissionDenied
  | unauthenticated
  | internal
deriving DecidableEq, Repr

structure FieldViolation where
  field : String
  description : String
deriving DecidableEq, Repr

/-- An `error` of the program that is not nil. -/
inductive GoError where
  /-- `*apperror.Error` without a cause. -/
  | app (code : Code) (message : String) (fieldViolations : List FieldViolation)
  /-- `*apperror.Error` with a cause. -/
  | appCause (code : Code) (message : String) (fieldViolations : List FieldViolation)
      (cause : GoError)
  /-- `fmt.Errorf("text: %w", cause)`. -/
  | wrap (text : String) (cause : GoError)
  /-- `fmt.Errorf` without a wrapped error. -/
  | errorf (text : String)
  /-- An error the database driver returned. -/
  | driver (error : SqlError)
deriving DecidableEq, Repr

namespace GoError

/-- `errors.As(err, &appErr)`: the code and the message of the first
`*apperror.Error` along the chain. -/
def asAppError : GoError → Option (Code × String)
  | app code message _ => some (code, message)
  | appCause code message _ _ => some (code, message)
  | wrap _ cause => cause.asAppError
  | errorf _ => none
  | driver _ => none

/-- `apperror.IsCode`. -/
def isCode (e : GoError) (code : Code) : Bool :=
  match e.asAppError with
  | some (c, _) => c == code
  | none => false

end GoError

/-- `apperror.InvalidArgument`. -/
def invalidArgument (message : String) (fieldViolations : List FieldViolation) : GoError :=
  .app .invalidArgument message fieldViolations

/-- `apperror.NotFound`. -/
def notFound (message : String) : GoError := .app .notFound message []

/-- `apperror.PermissionDenied`. -/
def permissionDenied (message : String) : GoError := .app .permissionDenied message []

/-- `apperror.Unauthenticated`. -/
def unauthenticated (message : String) : GoError := .app .unauthenticated message []

/-- `apperror.Internal`. -/
def internal (message : String) (cause : GoError) : GoError := .appCause .internal message [] cause

end HistoryQuiz
