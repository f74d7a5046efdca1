import HistoryQuiz.Backend.Transport
import HistoryQuiz.Logic.Reads

/-!
# Requests

A request is refused, or it is the call that its method makes for the caller whom the
metadata names (`serve_eq`). So what holds of every operation of a call holds of every
request (`serve_invariant`), and a request without a caller only reads
(`serve_uses_reads`).
-/

namespace HistoryQuiz

open Relational Effect

variable {io : UuidReaders}

/-- The context that `UnaryContextInterceptor` hands on. -/
def incoming (md : Metadata) : Context where
  requestIDKey :=
    if first (md metadataKeyRequestID) ≠ "" then some (first (md metadataKeyRequestID)) else none
  userIDKey := if first (md metadataKeyUserID) ≠ "" then some (first (md metadataKeyUserID)) else none

@[simp] theorem incoming_userID (md : Metadata) :
    (incoming md).userID.1 = first (md metadataKeyUserID) := by
  unfold Context.userID incoming
  by_cases h : first (md metadataKeyUserID) = "" <;> simp [h]

theorem unaryContextInterceptor_eq {α : Type} (md : Metadata) (handler : Context → GrpcProg α) :
    unaryContextInterceptor false md Context.background handler = handler (incoming md) := by
  unfold unaryContextInterceptor incoming Context.background Context.withRequestID
    Context.withUserID
  by_cases hr : first (md metadataKeyRequestID) = "" <;>
    by_cases hu : first (md metadataKeyUserID) = "" <;> simp [hr, hu]

/-- A method that is not open to anonymous callers needs a caller. -/
theorem unaryRequireAuthByMethodInterceptor_eq {α : Type} (md : Metadata) (fullMethod : String)
    (handler : Context → GrpcProg α) :
    unaryRequireAuthByMethodInterceptor allowAnonymous fullMethod (incoming md) handler =
      if fullMethod ∈ allowAnonymous ∨ first (md metadataKeyUserID) ≠ "" then handler (incoming md)
      else .fail ⟨.unauthenticated, "認証が必要です"⟩ := by
  unfold unaryRequireAuthByMethodInterceptor
  by_cases hm : fullMethod ∈ allowAnonymous
  · rw [if_pos hm, if_pos (.inl hm)]
  · rw [if_neg hm]
    by_cases hu : first (md metadataKeyUserID) = "" <;> simp [hm, hu, Context.userID, incoming]

/-- What the server does with a request. -/
theorem serve_eq (io : UuidReaders) (md : Metadata) (req : Request) :
    serve io md req =
      if req.fullMethod ∈ allowAnonymous ∨ first (md metadataKeyUserID) ≠ "" then
        handle io (incoming md) req
      else .fail ⟨.unauthenticated, "認証が必要です"⟩ := by
  unfold serve
  rw [unaryContextInterceptor_eq, unaryRequireAuthByMethodInterceptor_eq]

/-- The caller of the call is the one in the context. -/
theorem Request.call_userID (ctx : Context) (req : Request) :
    (req.call ctx).userID = ctx.userID.1 ∨ (req.call ctx).userID = "" := by
  cases req with
  | getQuestion context previousQuestionID => exact .inr rfl
  | _ => exact .inl rfl

/-- What the operations of the call satisfy, those of the request satisfy. -/
theorem serve_uses {P : ⦃β : Type⦄ → DbOp β → Prop} {md : Metadata} {req : Request}
    (h : ((req.call (incoming md)).prog io).Uses P) : (serve io md req).Uses P := by
  rw [serve_eq]
  split_ifs
  · exact h.mapError.bind fun _ => trivial
  · trivial

/-- What every operation of the call preserves, the request preserves. -/
theorem serve_invariant {I : Db → Prop} {md : Metadata} {req : Request}
    (hchange : ∀ ⦃t db db'⦄, I db → Change io (req.call (incoming md)) t db db' → I db')
    (τ : ℕ → OpTick) {db : Db} (hdb : I db) : I ((serve io md req).run (DbOp.exec io) τ db).2 :=
  Prog.run_invariant (fun _ _ t db hop hI => hchange hI (hop.change t db))
    (serve_uses ((req.call (incoming md)).prog_uses io)) τ hdb

/-- A call without a caller only reads. -/
theorem ServiceOp.reads {c : Call} (hc : c.userID = "") {β : Type} {op : DbOp β}
    (h : ServiceOp c op) : ReadOp op := by
  cases h with
  | read s hs => exact .stmt s hs
  | insertUser hu => exact absurd hc hu
  | insertAttempt u questionID choiceID isCorrect hsubmit hu =>
      rw [hsubmit] at hc
      exact absurd hc hu
  | createQuestion u draft hcreate hu hdraft =>
      rw [hcreate] at hc
      exact absurd hc hu
  | updateQuestion u questionID draft hupdate hu hdraft =>
      rw [hupdate] at hc
      exact absurd hc hu

/-- A program that only reads leaves the database as it was. -/
theorem run_of_reads {ε α : Type} {p : Prog DbOp ε α} (hp : p.Uses ReadOp) (τ : ℕ → OpTick)
    (db : Db) : (p.run (DbOp.exec io) τ db).2 = db := by
  refine Prog.run_invariant (I := fun s => s = db) ?_ hp τ rfl
  rintro β op t _ ⟨s, hs⟩ rfl
  exact PoolStmt.exec_reads hs t.first _

/-- A request without a caller only reads. -/
theorem serve_uses_reads {md : Metadata} (hmd : first (md metadataKeyUserID) = "")
    (req : Request) : (serve io md req).Uses ReadOp := by
  have hcaller : (req.call (incoming md)).userID = "" := by
    rcases req.call_userID (incoming md) with h | h
    · rw [h, incoming_userID, hmd]
    · exact h
  exact serve_uses (((req.call (incoming md)).prog_uses io).mono fun _ _ hop => hop.reads hcaller)

end HistoryQuiz
