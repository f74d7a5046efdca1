import HistoryQuiz.Base.Prog
import HistoryQuiz.Base.Hoare
import HistoryQuiz.Base.Failures
import HistoryQuiz.Base.Interleave
import HistoryQuiz.Base.Table
import HistoryQuiz.Base.Sha256
import HistoryQuiz.Postgres.Uuid
import HistoryQuiz.Postgres.Schema
import HistoryQuiz.Postgres.Statement
import HistoryQuiz.Postgres.Migration
import HistoryQuiz.Backend.Domain
import HistoryQuiz.Backend.Repository
import HistoryQuiz.Backend.QuizUsecase
import HistoryQuiz.Backend.QuestionUsecase
import HistoryQuiz.Backend.Calls
import HistoryQuiz.Backend.Transport
import HistoryQuiz.Logic.Transactions
import HistoryQuiz.Logic.Operations
import HistoryQuiz.Logic.Store
import HistoryQuiz.Logic.Reads
import HistoryQuiz.Logic.Quiz
import HistoryQuiz.Theorems.Store
import HistoryQuiz.Theorems.Update
import HistoryQuiz.Theorems.WritePath
import HistoryQuiz.Theorems.Migrations
import HistoryQuiz.Theorems.Verdicts
import HistoryQuiz.Theorems.Snapshots
import HistoryQuiz.Theorems.History
import HistoryQuiz.Theorems.Serving
import HistoryQuiz.Theorems.Answerable
import HistoryQuiz.Theorems.Failures
import HistoryQuiz.Theorems.Repetition
import HistoryQuiz.Logic.Views
import HistoryQuiz.Logic.Requests
import HistoryQuiz.Theorems.Deleted
import HistoryQuiz.Theorems.Isolation
import HistoryQuiz.Base.Trim
import HistoryQuiz.Client.Js
import HistoryQuiz.Client.Session
import HistoryQuiz.Client.Auth
import HistoryQuiz.Client.Grpc
import HistoryQuiz.Base.Throw
import HistoryQuiz.Client.Oidc
import HistoryQuiz.Client.Login
import HistoryQuiz.Client.Question
import HistoryQuiz.Client.Quiz
import HistoryQuiz.Logic.Sessions
import HistoryQuiz.Theorems.Sessions
import HistoryQuiz.Logic.Oidc
import HistoryQuiz.Theorems.Login
import HistoryQuiz.Logic.Accounts
import HistoryQuiz.Theorems.Accounts
import HistoryQuiz.Base.ReadCommitted
import HistoryQuiz.Theorems.ConcurrentEdits
import HistoryQuiz.Logic.EditForm
import HistoryQuiz.Theorems.EditForm
import HistoryQuiz.Base.CopyBack
import HistoryQuiz.Logic.Tabs
import HistoryQuiz.Logic.Posts
import HistoryQuiz.Theorems.Tabs
import HistoryQuiz.Theorems.Posts
import HistoryQuiz.Base.Url
import HistoryQuiz.Theorems.Redirects
import HistoryQuiz.Client.Me
import HistoryQuiz.Client.SearchParams
import HistoryQuiz.Logic.Return
import HistoryQuiz.Theorems.Return
import HistoryQuiz.Client.GrpcError
import HistoryQuiz.Theorems.Errors
import HistoryQuiz.Logic.Tracing
import HistoryQuiz.Theorems.Tracing
import HistoryQuiz.Logic.Judging
import HistoryQuiz.Theorems.Spellings
import HistoryQuiz.Theorems.OwnChoices
import HistoryQuiz.Base.SortedReads
import HistoryQuiz.Theorems.Selection
import HistoryQuiz.Theorems.Labels
import HistoryQuiz.Client.RawForm
import HistoryQuiz.Theorems.Validators
import HistoryQuiz.Base.RowEvents
import HistoryQuiz.Postgres.ChoiceWrites
import HistoryQuiz.Theorems.FourChoices
import HistoryQuiz.Theorems.Cascades
import HistoryQuiz.Base.Rounding
import HistoryQuiz.Theorems.BodyLimit
import HistoryQuiz.Logic.TokenErrors
import HistoryQuiz.Theorems.BadTokens
import HistoryQuiz.Logic.KeyCache
import HistoryQuiz.Theorems.KeyCache
import HistoryQuiz.Theorems.Metrics
import HistoryQuiz.Theorems.ClientMetrics
import HistoryQuiz.Theorems.PathKeys
import HistoryQuiz.Theorems.FieldErrors
import HistoryQuiz.Theorems.Base64Url
import HistoryQuiz.Theorems.Percentile
import HistoryQuiz.Theorems.Telemetry
import HistoryQuiz.Theorems.Documents
import HistoryQuiz.Theorems.AccessLines
import HistoryQuiz.Theorems.ProcessMetrics
import HistoryQuiz.Theorems.Ledger
import HistoryQuiz.Theorems.QuizRound
import HistoryQuiz.Theorems.FreshReads
import HistoryQuiz.Theorems.MePage
import HistoryQuiz.Theorems.LoginAgreement
import HistoryQuiz.Theorems.UnmadeCalls
