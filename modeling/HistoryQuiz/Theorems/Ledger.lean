import HistoryQuiz.Logic.Ledger

/-!
# Writes happen once

The backend with any number of requests in flight, whatever fails, implements the book of
`Logic.Ledger`:

* `writes_linearized`: the tables are what a ledger of writes makes of the book, each write allowed
  when its turn comes; the ledger has the writes that the answers speak of, each once, and those of
  requests that are about to be answered; and it only grows, so a write that has been answered comes
  before the writes of every later request;
* `answered_frozen`: an attempt is never changed nor deleted, and a question that has been answered
  keeps its texts, its choices and its keys.

A transaction is one operation here: its statements lock the question that they change, and what it
writes is seen at its commit.
-/

namespace HistoryQuiz

open Effect Relational QuestionRepository

namespace Observability

variable {io : UuidReaders}

/-- The writes that the answer of a request speaks of. -/
def Incoming.writes (r : Incoming) : Except Status Response → List Write
  | .ok response => (r.req.call (incoming r.md)).writes (.ok response.reply)
  | .error _ => []

/-- The server writes what its answer speaks of, or nothing. -/
theorem serve_writes (r : Incoming) : WritesOnce (serve io r.md r.req) r.writes := by
  rw [serve_eq]
  split_ifs
  · unfold handle
    rw [Prog.bind_eq]
    refine Prog.Emits.bind (Prog.Emits.mapError ((Call.prog_writes io _).mono ?_))
    rintro x es rfl
    cases x with
    | error e => exact Call.writes_error _ e
    | ok reply => rfl
  · rfl

/-! ## The ledger of a run -/

/-- The account of the writes, after the past that led to a book. -/
def writing (io : UuidReaders) (book : Book) (past : List Write) :
    Served.Accounts DbOp Incoming Db Status Response Write where
  Journal db ledger := ∃ more, ledger = past ++ more ∧
    Replays (Book.Step io) book more db.toTables.book
  emit := Writes
  Partial _ es := es = []
  Total r x es := es = r.writes x

theorem accounted_steps {book : Book} {past ledger : List Write}
    {c c' : Served DbOp Incoming Db Status Response}
    (h : Served.Accounted (writing io book past) c ledger) (hsteps : PlainSteps io c c') :
    ∃ more, Served.Accounted (writing io book past) c' (ledger ++ more) := by
  have hexec : ∀ ⦃β : Type⦄ (op : DbOp β) t db journal es,
      (writing io book past).Journal db journal →
      (writing io book past).emit op (DbOp.exec io op t db).1 es →
      (writing io book past).Journal (DbOp.exec io op t db).2 (journal ++ es) := by
    rintro β op t db _ es ⟨more, rfl, hreplay⟩ hwrites
    exact ⟨more ++ es, List.append_assoc .., hwrites.replay hreplay⟩
  have hoperators : ∀ db db' journal, Operators db db' →
      (writing io book past).Journal db journal →
      (writing io book past).Journal db' journal := by
    rintro db _ journal ⟨now, p, deletedAt⟩ ⟨more, hmore, hreplay⟩
    exact ⟨more, hmore, by rwa [book_setDeletedAt]⟩
  exact h.steps hexec hoperators (fun r => serve_writes r) hsteps

/-- The account can be opened anew at the book that has been reached. -/
theorem accounted_reopen {book : Book} {past ledger : List Write}
    {c : Served DbOp Incoming Db Status Response}
    (h : Served.Accounted (writing io book past) c ledger) :
    Served.Accounted (writing io c.state.toTables.book ledger) c ledger := by
  obtain ⟨totals, dones, -, htotals, hdones, hperm⟩ := h
  exact ⟨totals, dones, ⟨[], (List.append_nil _).symm, .nil⟩, htotals, hdones, hperm⟩

theorem accounted_journal {book : Book} {past ledger : List Write}
    {c : Served DbOp Incoming Db Status Response}
    (h : Served.Accounted (writing io book past) c ledger) :
    ∃ more, ledger = past ++ more ∧ Replays (Book.Step io) book more c.state.toTables.book := by
  obtain ⟨-, -, hjournal, -⟩ := h
  exact hjournal

/-- The tables are what the ledger makes of the book, and the ledger has the writes of the answers,
each once, and those of requests that are about to be answered. -/
structure LedgerOf (io : UuidReaders) (book : Book)
    (c : Served DbOp Incoming Db Status Response) (ledger : List Write) : Prop where
  replays : Replays (Book.Step io) book ledger c.state.toTables.book
  once : ∃ pending : List (List Write),
    List.Forall₂ (fun x es => es = [] ∨ ∃ outcome, x.rest = .ofExcept outcome ∧
      es = x.request.writes outcome) c.threads pending ∧
    ledger.Perm ((c.answers.map fun a => a.1.writes a.2).flatten ++ pending.flatten)

theorem accounted_once {book : Book} {past ledger : List Write}
    {c : Served DbOp Incoming Db Status Response}
    (h : Served.Accounted (writing io book past) c ledger) : ∃ pending : List (List Write),
      List.Forall₂ (fun x es => es = [] ∨ ∃ outcome, x.rest = .ofExcept outcome ∧
        es = x.request.writes outcome) c.threads pending ∧
      ledger.Perm ((c.answers.map fun a => a.1.writes a.2).flatten ++ pending.flatten) := by
  obtain ⟨totals, dones, -, htotals, hdones, hperm⟩ := h
  have htotals' : totals = c.answers.map fun a => a.1.writes a.2 := eq_map_of_forall₂ htotals
  refine ⟨dones, hdones.imp ?_, htotals' ▸ hperm⟩
  rintro ⟨r, rest⟩ es hes
  cases rest with
  | ret response => exact .inr ⟨.ok response, rfl, hes⟩
  | fail status => exact .inr ⟨.error status, rfl, hes⟩
  | call op next => exact .inl hes.1

/-- In every run, whatever the order is in which the operations of the requests are performed and
whatever fails: the writes happen one after the other, each allowed when its turn comes; each
answer's writes happen once and no others do; and later writes come after the earlier ones. -/
theorem writes_linearized (io : UuidReaders) {db : Db}
    {c c' : Served DbOp Incoming Db Status Response} (hc : PlainSteps io (Served.start db) c)
    (hc' : PlainSteps io c c') :
    ∃ ledger more, LedgerOf io db.toTables.book c ledger ∧
      Replays (Book.Step io) c.state.toTables.book more c'.state.toTables.book ∧
      LedgerOf io db.toTables.book c' (ledger ++ more) := by
  have hstart : Served.Accounted (writing io db.toTables.book []) (Served.start db) [] :=
    Served.accounted_start ⟨[], rfl, .nil⟩
  obtain ⟨ledger, hledger⟩ := accounted_steps hstart hc
  obtain ⟨more, hmore⟩ := accounted_steps (accounted_reopen hledger) hc'
  obtain ⟨_, rfl, hfirst⟩ := accounted_journal hledger
  obtain ⟨more', hsame, hsecond⟩ := accounted_journal hmore
  obtain rfl := List.append_cancel_left hsame
  exact ⟨_, more, ⟨hfirst, accounted_once hledger⟩, hsecond,
    ⟨hfirst.trans hsecond, accounted_once hmore⟩⟩

/-! ### Two answers at once -/

/-- The user takes the first choice of the first question of the seed. -/
def answersFirst (userID : String) : Incoming where
  md := Function.update (fun _ => []) metadataKeyUserID [userID]
  req := .submitAnswer none (Uuid.text 0x1) (Uuid.text 0x1001)

/-- The operations of the requests at these positions, each with another id. -/
def turns {Req : Type} (positions : List ℕ) : List (Served.Act Req OpTick) :=
  positions.zipIdx.map fun p => .turn p.1 (calm 1 p.2 0)

/-- Alice's request and Bob's are in flight, and their operations come by turns. Bob's is answered
first. -/
def bothAnswer : Served DbOp Incoming Db Status Response :=
  Served.acts (DbOp.exec documentedReaders) (fun r => serve documentedReaders r.md r.req)
    (Served.start (seeded 0)) ([.arrive (answersFirst "alice"), .arrive (answersFirst "bob")] ++
      turns [0, 1, 1, 0, 0, 1, 1, 0] ++ [.answer 1])

def bothAnswered : Served DbOp Incoming Db Status Response :=
  Served.acts (DbOp.exec documentedReaders) (fun r => serve documentedReaders r.md r.req)
    bothAnswer [.answer 0]

theorem bothAnswer_reached : PlainSteps documentedReaders (Served.start (seeded 0)) bothAnswer :=
  Served.steps_acts _ _

theorem bothAnswered_reached : PlainSteps documentedReaders bothAnswer bothAnswered :=
  Served.steps_acts _ _

/-- The ledger has the write of Bob's answer, and it grows to the two writes. -/
theorem writes_linearized_both : ∃ ledger more,
    LedgerOf documentedReaders (seeded 0).toTables.book bothAnswer ledger ∧ 1 ≤ ledger.length ∧
    LedgerOf documentedReaders (seeded 0).toTables.book bothAnswered (ledger ++ more) ∧
    (ledger ++ more).length = 2 := by
  obtain ⟨ledger, more, hledger, -, hmore⟩ :=
    writes_linearized documentedReaders bothAnswer_reached bothAnswered_reached
  refine ⟨ledger, more, hledger, ?_, hmore, ?_⟩
  · obtain ⟨pending, -, hperm⟩ := hledger.once
    have hone : (bothAnswer.answers.map fun a => a.1.writes a.2).flatten.length = 1 := by
      decide +kernel
    rw [hperm.length_eq, List.length_append, hone]
    exact Nat.le_add_right 1 _
  · obtain ⟨pending, hpending, hperm⟩ := hmore.once
    have hleft : bothAnswered.threads = [] := List.length_eq_zero_iff.mp (by decide +kernel)
    rw [hleft] at hpending
    have hnone : pending = [] := List.forall₂_nil_left_iff.mp hpending
    have htwo : (bothAnswered.answers.map fun a => a.1.writes a.2).flatten.length = 2 := by
      decide +kernel
    rw [hperm.length_eq, hnone, List.flatten_nil, List.append_nil, htwo]

/-- An attempt is never changed nor deleted, and a question that has been answered keeps its author,
its texts, its choices and its keys. -/
theorem answered_frozen {db : Db} {c c' : Served DbOp Incoming Db Status Response}
    (hc : PlainSteps io (Served.start db) c) (hc' : PlainSteps io c c') :
    c.state.attempts <+: c'.state.attempts ∧
    ∀ a ∈ c.state.attempts, ∀ r ∈ c.state.questions, r.id = a.questionId →
      ∃ r' ∈ c'.state.questions, r'.id = r.id ∧ r'.authorUserId = r.authorUserId ∧
        r'.content c'.state.toTables = r.content c.state.toTables := by
  have hstart : Served.Accounted (writing io db.toTables.book []) (Served.start db) [] :=
    Served.accounted_start ⟨[], rfl, .nil⟩
  obtain ⟨ledger, hledger⟩ := accounted_steps hstart hc
  obtain ⟨more, hmore⟩ := accounted_steps (accounted_reopen hledger) hc'
  obtain ⟨more', -, hreplay⟩ := accounted_journal hmore
  have hextends := Book.extends_of_replays hreplay
  refine ⟨hextends.attempts, ?_⟩
  intro a ha r hr hid
  obtain ⟨e, he, -, -, hkept⟩ := hextends.questions _ (List.mem_map_of_mem hr)
  obtain ⟨r', hr', hentry⟩ := List.mem_map.mp he
  have hsame : r'.entry c'.state.toTables = r.entry c.state.toTables :=
    hentry.trans (hkept ⟨a, ha, hid.symm⟩)
  exact ⟨r', hr', congrArg Entry.id hsame, congrArg Entry.author hsame,
    congrArg Entry.content hsame⟩

/-- Operators have deleted the questions. -/
def bothDeleted : Served DbOp Incoming Db Status Response :=
  { bothAnswer with state := bothAnswer.state.setDeletedAt 9 (fun _ => true) fun _ => some 9 }

/-- Both attempts are still there, and the question that they are about says what it said. -/
theorem answered_frozen_deleted : bothAnswer.state.attempts.length = 2 ∧
    bothAnswer.state.attempts <+: bothDeleted.state.attempts ∧
    ∃ r ∈ bothAnswer.state.questions, r.id = 0x1 ∧ ∃ r' ∈ bothDeleted.state.questions,
      r'.id = r.id ∧ r'.deletedAt.isSome ∧
        r'.content bothDeleted.state.toTables = r.content bothAnswer.state.toTables := by
  have hdeletion : PlainSteps documentedReaders bothAnswer bothDeleted :=
    .single (.other (.setDeletedAt bothAnswer.state 9 _ _))
  obtain ⟨hattempts, hquestions⟩ := answered_frozen bothAnswer_reached hdeletion
  obtain ⟨r, hr, hid⟩ : ∃ r ∈ bothAnswer.state.questions, r.id = 0x1 := by decide +kernel
  obtain ⟨a, ha, haid⟩ : ∃ a ∈ bothAnswer.state.attempts, a.questionId = 0x1 := by decide +kernel
  have hdeleted : ∀ r' ∈ bothDeleted.state.questions, r'.deletedAt.isSome = true := by
    decide +kernel
  obtain ⟨r', hr', hid', -, hcontent⟩ := hquestions a ha r hr (hid.trans haid.symm)
  exact ⟨by decide +kernel, hattempts, r, hr, hid, r', hr', hid', hdeleted r' hr', hcontent⟩

end Observability

end HistoryQuiz
