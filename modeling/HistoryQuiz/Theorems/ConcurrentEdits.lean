import HistoryQuiz.Base.ReadCommitted
import HistoryQuiz.Theorems.Update

/-!
# Concurrent edits

* `concurrent_edits`: the update transactions of one question, in any interleaving of their
  statements, do not mix. The first statement of each locks the row of the question, so
  the committed rows are those of the transactions one after the other.

`READ COMMITTED` is the isolation level of every transaction of the backend.
-/

namespace HistoryQuiz

open Relational Effect QuestionRepository

variable {io : UuidReaders}

/-! ## Transactions of the database -/

/-- What a transaction sees when others have committed: a function of the committed rows
that it has last seen, those that are committed now, and what it saw last, with its own
writes. -/
structure RowsSeen where
  see : Db → Db → Db → Db
  /-- Nothing has been committed. -/
  nothing_new : ∀ db own, see db db own = own
  /-- Nothing has been written. -/
  nothing_own : ∀ db committed, see db committed db = committed

/-- The locks that last to the end of the transaction: an update locks the row that it
updates. The other statements need no lock here. -/
def TxStmt.locks (io : UuidReaders) ⦃β : Type⦄ (stmt : TxStmt β) (t : Tick) (s : TxState) : Set Uuid :=
  match stmt with
  | .updateQuestion prompt explanation questionID userID =>
      {q | io.cast questionID = some q ∧ ∃ now, (TxStmt.exec io
        (.updateQuestion prompt explanation questionID userID) t s).1 = .ok (some now)}
  | _ => ∅

/-- The transactions of `withTx`. -/
def readCommitted (io : UuidReaders) (rows : RowsSeen) :
    ReadCommitted TxStmt Tick Uuid Db TxState where
  start t db := { db := db, now := t.now, pending := [] }
  handler := TxStmt.exec io
  locks := TxStmt.locks io
  view seen committed s := { s with db := rows.see seen committed s.db }
  commit t s := if t.fault then none else if s.fourChoices then some s.db else none
  view_same seen s := by rw [rows.nothing_new]
  view_start seen committed t := by rw [rows.nothing_own]

theorem commit_eq_some {rows : RowsSeen} {t : Tick} {s : TxState} {db : Db} :
    (readCommitted io rows).commit t s = some db ↔
      t.fault = false ∧ s.fourChoices = true ∧ db = s.db := by
  change (if t.fault then none else if s.fourChoices then some s.db else none) = some db ↔ _
  cases t.fault <;> cases s.fourChoices <;> simp [eq_comm]

/-- A transaction that runs alone is one of `withTx`. -/
theorem alone_iff {rows : RowsSeen} {α : Type} {body : Prog TxStmt GoError α} {db db' : Db} {a : α} :
    Alone (readCommitted io rows) body db a db' ↔ ∃ t, withTx io body t db = (.ok a, db') := by
  constructor
  · rintro ⟨t, τ, t', s, hrun, hcommit⟩
    obtain ⟨hfault, hfour, hrows⟩ := commit_eq_some.mp hcommit
    exact ⟨⟨{ t with fault := false }, τ, t'⟩,
      withTx_ok.mpr ⟨rfl, hfault, s, hrun, hfour, hrows⟩⟩
  · rintro ⟨t, h⟩
    obtain ⟨-, hfault, s, hrun, hfour, hrows⟩ := withTx_ok.mp h
    exact ⟨t.first, t.body, t.commit, s, hrun, commit_eq_some.mpr ⟨hfault, hfour, hrows⟩⟩

/-- The update of a question starts with its locking statement, and fails when that
updates no row. -/
theorem updateQuestionTx_eq_call (u questionID : String) (draft : QuestionDraft) :
    ∃ next, updateQuestionTx u questionID draft =
        .call (.updateQuestion draft.prompt (nullIfEmpty draft.explanation) questionID u) next ∧
      (∀ e, ∃ e', next (.error e) = .fail e') ∧ ∃ e', next (.ok none) = .fail e' :=
  ⟨_, rfl, fun _ => ⟨_, rfl⟩, _, rfl⟩

theorem guarded_updateQuestionTx (rows : RowsSeen) {questionID : String} {q : Uuid}
    (hq : io.cast questionID = some q) (u : String) (draft : QuestionDraft) :
    Guarded (readCommitted io rows) q (updateQuestionTx u questionID draft) := by
  obtain ⟨next, hcall, herror, hnone⟩ := updateQuestionTx_eq_call u questionID draft
  rw [hcall]
  intro t s
  change _ ∨ ∃ e, next (TxStmt.exec io _ t s).1 = .fail e
  rcases hanswer : (TxStmt.exec io
      (.updateQuestion draft.prompt (nullIfEmpty draft.explanation) questionID u) t s).1 with
    e | _ | updatedAt
  · exact .inr (herror e)
  · exact .inr hnone
  · exact .inl ⟨hq, updatedAt, hanswer⟩

/-! ## Edits in several tabs -/

/-- For every interleaving of any number of update transactions of one question, however
they end: as long as none has committed, the rows are as they were; after that, the
question is stored with the content of one draft, that of the transaction that has
committed last. -/
theorem concurrent_edits (io : UuidReaders) (rows : RowsSeen) {ι : Type} [DecidableEq ι] {u : String}
    {q : Uuid} {questionID : ι → String} (hq : ∀ i, io.cast (questionID i) = some q)
    (draft : ι → QuestionDraft) (db : Db)
    {c : Transactions TxStmt ι Uuid Db TxState GoError QuestionDetail}
    (hsteps : Relation.ReflTransGen (Transactions.Step (readCommitted io rows)
      fun i => updateQuestionTx u (questionID i) (draft i)) (.initial db) c) :
    c.history = [] ∧ c.rows = db ∨
      ∃ earlier i detail, c.history = earlier ++ [(i, detail)] ∧ c.rows.Stores q (draft i) := by
  have hserial := Transactions.serial
    (fun i => guarded_updateQuestionTx rows (hq i) u (draft i)) hsteps
  generalize c.history = history at *
  generalize c.rows = final at *
  cases hserial with
  | nil => exact .inl ⟨rfl, rfl⟩
  | commit i detail hserial halone =>
      right
      obtain ⟨t, htx⟩ := alone_iff.mp halone
      obtain ⟨q', hupdated⟩ := updateQuestionTx_ok htx
      obtain rfl : q = q' := Option.some.inj ((hq i).symm.trans hupdated.cast)
      exact ⟨_, i, detail, rfl, hupdated.stores⟩

/-! ### Two tabs -/

/-- A transaction that has written something sees only that. -/
noncomputable def ownRows : RowsSeen where
  see db committed own := open Classical in if own = db then committed else own
  nothing_new db own := by
    split_ifs with h
    · exact h.symm
    · rfl
  nothing_own db committed := by simp

/-- The draft of the second tab. -/
def secondDraft : QuestionDraft := { sampleDraft with prompt := "室町幕府を開いたのは？", correctOrdinal := 1 }

def tabDraft : Bool → QuestionDraft
  | false => sampleDraft
  | true => secondDraft

/-- Alice's question after the edit of the first tab. -/
def editedStore : Db :=
  (withTx documentedReaders (updateQuestionTx "alice" sampleQuestion.text sampleDraft) (calm 3 16 0)
    createdStore).2

theorem withTx_of_isOk {α : Type} {body : Prog TxStmt GoError α} {t : OpTick} {db : Db}
    (h : (withTx io body t db).1.isOk = true) :
    ∃ a, withTx io body t db = (.ok a, (withTx io body t db).2) := by
  rcases hrun : withTx io body t db with ⟨_ | a, db'⟩
  · rw [hrun] at h
    cases h
  · exact ⟨a, rfl⟩

/-- Both tabs begin, then the first one runs to its end and the second one after it: the
draft of the second one is stored. -/
theorem concurrent_edits_tabs :
    ∃ c, Relation.ReflTransGen (Transactions.Step (readCommitted documentedReaders ownRows)
        fun tab => updateQuestionTx "alice" sampleQuestion.text (tabDraft tab))
        (.initial createdStore) c ∧
      c.AllEnded ∧ c.history.map Prod.fst = [false, true] ∧
      c.rows.Stores sampleQuestion secondDraft := by
  obtain ⟨detail, hfirst⟩ := withTx_of_isOk (show (withTx documentedReaders (updateQuestionTx "alice"
    sampleQuestion.text sampleDraft) (calm 3 16 0) createdStore).1.isOk = true by decide +kernel)
  obtain ⟨detail', hsecond⟩ := withTx_of_isOk (show (withTx documentedReaders (updateQuestionTx
    "alice" sampleQuestion.text secondDraft) (calm 4 24 0) editedStore).1.isOk = true by
      decide +kernel)
  obtain ⟨-, -, x, hrun, hfour, hrows⟩ := withTx_ok.mp hfirst
  obtain ⟨-, -, x', hrun', hfour', -⟩ := withTx_ok.mp hsecond
  let D := readCommitted documentedReaders ownRows
  let prog := fun tab => updateQuestionTx "alice" sampleQuestion.text (tabDraft tab)
  -- both tabs have begun
  let begun : Bool → Transaction TxStmt Uuid Db TxState GoError QuestionDetail :=
    Function.update (Function.update (fun _ => .waiting) false
      (.active createdStore (D.start (calm 3 16 0).first createdStore) ∅ (prog false))) true
        (.active createdStore (D.start (calm 4 24 0).first createdStore) ∅ (prog true))
  have hbegun : Relation.ReflTransGen (Transactions.Step D prog) (.initial createdStore)
      ⟨createdStore, begun, []⟩ :=
    .tail (.single (.begin false (calm 3 16 0).first rfl)) (.begin true (calm 4 24 0).first rfl)
  have hcommit : D.commit (calm 3 16 0).commit x = some editedStore :=
    commit_eq_some.mpr ⟨rfl, hfour, hrows⟩
  have hcommit' : D.commit (calm 4 24 0).commit x' = some x'.db :=
    commit_eq_some.mpr ⟨rfl, hfour', rfl⟩
  have hone : Relation.ReflTransGen (Transactions.Step D prog) ⟨createdStore, begun, []⟩
      ⟨editedStore, Function.update begun false .ended, [(false, detail)]⟩ := by
    refine Transactions.run_active (i := false) (τ := (calm 3 16 0).body) rfl ?_ ?_ hcommit
    · rintro (_ | _) hj k
      · exact absurd rfl hj
      · exact Transactions.not_holds_of_begun rfl k
    · rw [D.view_same]
      exact hrun
  have htwo : Relation.ReflTransGen (Transactions.Step D prog)
      ⟨editedStore, Function.update begun false .ended, [(false, detail)]⟩
      ⟨x'.db, Function.update (Function.update begun false .ended) true .ended,
        [(false, detail), (true, detail')]⟩ := by
    refine Transactions.run_active (i := true) (τ := (calm 4 24 0).body) rfl ?_ ?_ hcommit'
    · rintro (_ | _) hj k
      · exact Transactions.not_holds_of_ended rfl k
      · exact absurd rfl hj
    · -- the second tab sees what the first one has committed
      rw [D.view_start]
      exact hrun'
  have hall := (hbegun.trans hone).trans htwo
  refine ⟨_, hall, ?_, rfl, ?_⟩
  · rintro (_ | _) <;> rfl
  · rcases concurrent_edits documentedReaders ownRows
        (fun _ => documentedReaders.cast_text sampleQuestion) tabDraft createdStore hall with
      ⟨hnone, -⟩ | ⟨earlier, tab, last, hhistory, hstores⟩
    · cases hnone
    · have hlast := congrArg List.getLast? hhistory
      rw [List.getLast?_concat] at hlast
      cases hlast
      exact hstores

end HistoryQuiz
