import HistoryQuiz.Base.Moment
import HistoryQuiz.Theorems.History
import HistoryQuiz.Theorems.Ledger

/-!
# Fresh reads

The two lists and the statistics are read by one statement each. So whatever the order is in which
the operations of the requests are performed, their replies are those of one moment between arrival
and answer (`reads_at_a_moment`); and the statistics count at least every answer that the user was
given before the request arrived (`stats_fresh`).

Requests carry numbers here, so that two that ask for the same are two.
-/

namespace HistoryQuiz

open Effect Relational

namespace Observability

variable {io : UuidReaders}

/-- The runs of the server, with a number for each request. -/
abbrev NumberedSteps (io : UuidReaders) : Served DbOp (ℕ × Incoming) Db Status Response →
    Served DbOp (ℕ × Incoming) Db Status Response → Prop :=
  Served.Steps (DbOp.exec io) (fun r => serve io r.2.md r.2.req) Operators

/-- Without the numbers, they are runs of the server. -/
theorem plainSteps_rename {c c' : Served DbOp (ℕ × Incoming) Db Status Response}
    (h : NumberedSteps io c c') : PlainSteps io (c.rename Prod.snd) (c'.rename Prod.snd) :=
  Served.Steps.rename Prod.snd h

/-! ## Reads with one statement -/

/-- The methods that read with one statement. -/
def ReadsOnce : Request → Prop
  | .listMyQuestions _ _ => True
  | .listMyAttempts _ _ => True
  | .getMyStats _ => True
  | _ => False

theorem single_query_bind {α β : Type} {s : PoolStmt β} {f : β → DbProg α}
    (hf : ∀ b, ∃ x, f b = .ofExcept x) : ((query s).bind f).Single := hf

theorem single_listMyQuestions (u : String) (pageSize : ℤ) :
    (QuestionUsecase.listMyQuestions u pageSize).Single := by
  unfold QuestionUsecase.listMyQuestions
  split_ifs
  · trivial
  · refine Prog.Single.bind (single_query_bind ?_) fun questions => ⟨.ok (questions, ""), rfl⟩
    rintro (e | questions)
    · exact ⟨.error _, rfl⟩
    · exact ⟨.ok questions, rfl⟩

theorem single_listMyAttempts (u : String) (pageSize : ℤ) :
    (UserUsecase.listMyAttempts u pageSize).Single := by
  unfold UserUsecase.listMyAttempts AttemptRepository.listMyAttempts
  split_ifs
  · trivial
  · refine Prog.Single.bind (single_query_bind ?_) fun attempts => ⟨.ok (attempts, ""), rfl⟩
    rintro (e | attempts)
    · exact ⟨.error _, rfl⟩
    · exact ⟨.ok attempts, rfl⟩

theorem single_getMyStats (u : String) : (UserUsecase.getMyStats u).Single := by
  unfold UserUsecase.getMyStats AttemptRepository.getMyStats
  split_ifs
  · trivial
  · apply single_query_bind
    rintro (e | counts)
    · exact ⟨.error _, rfl⟩
    · exact ⟨.ok _, rfl⟩

theorem readsOnce_getMyStats {req : Request} {ctx : Context} {u : String}
    (h : req.call ctx = .getMyStats u) : ReadsOnce req := by
  cases req with
  | getMyStats context => trivial
  | _ => cases h

theorem ReadsOnce.single {req : Request} (h : ReadsOnce req) (md : Metadata) :
    (serve io md req).Single := by
  have hcall : ((req.call (incoming md)).prog io).Single := by
    cases req with
    | listMyQuestions context pagination =>
        exact (single_listMyQuestions _ _).bind fun page => ⟨.ok (.questions page.1 page.2), rfl⟩
    | listMyAttempts context pagination =>
        exact (single_listMyAttempts _ _).bind fun page => ⟨.ok (.attempts page.1 page.2), rfl⟩
    | getMyStats context => exact (single_getMyStats _).bind fun s => ⟨.ok (.stats s), rfl⟩
    | _ => exact h.elim
  rw [serve_eq]
  split_ifs
  · exact hcall.mapError.bind fun reply => ⟨.ok _, rfl⟩
  · trivial

instance : Nonempty OpTick := ⟨calm 0 0 0⟩

theorem serve_ok {md : Metadata} {req : Request} {τ : ℕ → OpTick} {db : Db} {response : Response}
    (h : ((serve io md req).run (DbOp.exec io) τ db).1 = .ok response) :
    ((req.call (incoming md)).perform io τ db).1 = .ok response.reply := by
  rw [serve_eq] at h
  split_ifs at h
  · rw [run_handle] at h
    cases hperform : ((req.call (incoming md)).perform io τ db).1 with
    | error e =>
        rw [hperform] at h
        cases h
    | ok reply =>
        rw [hperform] at h
        cases h
        rfl
  · cases h

/-- The reply of a list or of the statistics is that of the call, performed alone at one moment
between its arrival and its answer. -/
theorem reads_at_a_moment {c c' : Served DbOp (ℕ × Incoming) Db Status Response}
    (hc : NumberedSteps io c c') {r : ℕ × Incoming} (hr : ReadsOnce r.2.req) (hnew : r ∉ c.arrived)
    {response : Response} (hx : (r, .ok response) ∈ c'.answers) :
    ∃ d τ, NumberedSteps io c d ∧ NumberedSteps io d c' ∧
      ((r.2.req.call (incoming r.2.md)).perform io τ d.state).1 = .ok response.reply := by
  obtain ⟨d, τ, hd, hd', hrun⟩ := Served.answered_between hc (hr.single r.2.md) hnew hx
  exact ⟨d, τ, hd, hd', serve_ok hrun⟩

/-! ### The same request twice -/

/-- Alice asks for her statistics. -/
def aliceStats : Incoming where
  md := Function.update (fun _ => []) metadataKeyUserID ["alice"]
  req := .getMyStats none

/-- Alice asks for her statistics, which takes long. In the meantime she answers a question, and is
told so. -/
def statsWait : Served DbOp (ℕ × Incoming) Db Status Response :=
  Served.acts (DbOp.exec documentedReaders) (fun r => serve documentedReaders r.2.md r.2.req)
    (Served.start (seeded 0)) ([.arrive (0, aliceStats), .arrive (1, answersFirst "alice")] ++
      turns [1, 1, 1, 1] ++ [.answer 1])

/-- She asks for the same again, while Bob is about to answer a question; the second request is
answered. -/
def statsAgain : Served DbOp (ℕ × Incoming) Db Status Response :=
  Served.acts (DbOp.exec documentedReaders) (fun r => serve documentedReaders r.2.md r.2.req)
    statsWait ([.arrive (2, answersFirst "bob"), .arrive (3, aliceStats)] ++
      turns [1, 2, 1, 0] ++ [.answer 2])

theorem statsWait_reached : NumberedSteps documentedReaders (Served.start (seeded 0)) statsWait :=
  Served.steps_acts _ _

theorem statsAgain_reached : NumberedSteps documentedReaders statsWait statsAgain :=
  Served.steps_acts _ _

/-- The statistics in an outcome. -/
def statsOf : Except Status Response → Option Stats
  | .ok ⟨_, .stats s⟩ => some s
  | _ => none

/-- The second request has the number 3. It is new, it asks for the statistics of Alice, and it is
answered with statistics. -/
theorem statsAgain_answered : ∃ r response s, r ∉ statsWait.arrived ∧
    r.2.req.call (incoming r.2.md) = .getMyStats "alice" ∧
    (r, .ok response) ∈ statsAgain.answers ∧ response.reply = .stats s := by
  obtain ⟨⟨r, x⟩, ha, hnumber, hcall, hstats⟩ : ∃ a ∈ statsAgain.answers, a.1.1 = 3 ∧
      a.1.2.req.call (incoming a.1.2.md) = .getMyStats "alice" ∧ (statsOf a.2).isSome = true := by
    decide +kernel
  have hnumbers : ∀ n ∈ statsWait.arrived.map Prod.fst, n ≠ 3 := by decide +kernel
  have hnew : r ∉ statsWait.arrived := fun h => hnumbers _ (List.mem_map_of_mem h) hnumber
  unfold statsOf at hstats
  dsimp only at hstats
  split at hstats
  · exact ⟨r, _, _, hnew, hcall, ha, rfl⟩
  · cases hstats

theorem reads_at_a_moment_stats : ∃ d τ s, NumberedSteps documentedReaders statsWait d ∧
    NumberedSteps documentedReaders d statsAgain ∧
    ((Call.getMyStats "alice").perform documentedReaders τ d.state).1 = .ok (.stats s) := by
  obtain ⟨r, response, s, hnew, hcall, hx, hs⟩ := statsAgain_answered
  obtain ⟨d, τ, hd, hd', hperform⟩ :=
    reads_at_a_moment statsAgain_reached (readsOnce_getMyStats hcall) hnew hx
  rw [hcall, hs] at hperform
  exact ⟨d, τ, s, hd, hd', hperform⟩

/-! ## Statistics -/

/-- The attempt of the user `u` that an answer has announced. -/
def told (u : String) (a : Incoming × Except Status Response) : Option (String × Bool) :=
  match a.2 with
  | .ok response => announced u (a.1.req.call (incoming a.1.md), .ok response.reply)
  | .error _ => none

/-- The attempt of the user `u` that a write adds. -/
def Write.answerOf (u : String) : Write → Option (String × Bool)
  | .answered userID _ _ isCorrect attemptID =>
      if userID = u then some (attemptID, isCorrect) else none
  | _ => none

/-- An answer speaks of the attempt that it has announced. -/
theorem filterMap_answerOf_writes (u : String) (a : Incoming × Except Status Response) :
    (a.1.writes a.2).filterMap (Write.answerOf u) = (told u a).toList := by
  obtain ⟨r, x⟩ := a
  unfold Incoming.writes told
  cases x with
  | error status => rfl
  | ok response =>
      dsimp only
      cases r.req.call (incoming r.md) with
      | submitAnswer v questionID choiceID =>
          cases response.reply with
          | answer result =>
              change (answerWrites v questionID choiceID result.isCorrect
                result.attemptID).filterMap (Write.answerOf u) =
                  (if v = u ∧ result.attemptID ≠ "" then _ else none : Option _).toList
              unfold answerWrites
              by_cases hid : result.attemptID = ""
              · simp [hid]
              · by_cases hu : v = u <;> simp [hid, hu, Write.answerOf]
          | _ => rfl
      | createQuestion v draft => cases response.reply <;> rfl
      | updateQuestion v questionID draft => cases response.reply <;> rfl
      | _ => rfl

/-- The answers of a user among the rows of attempts. -/
def answersAmong (u : String) (rows : List AttemptRow) : List (String × Bool) :=
  (rows.filter fun a => a.userId == u).map fun a => (a.id.text, a.isCorrect)

theorem answersAmong_append (u : String) (rows more : List AttemptRow) :
    answersAmong u (rows ++ more) = answersAmong u rows ++ answersAmong u more := by
  unfold answersAmong
  rw [List.filter_append, List.map_append]

/-- The answers of a book are those that it has had and those that were written. -/
theorem answersAmong_replays {u : String} {b b' : Book} {ws : List Write}
    (h : Replays (Book.Step io) b ws b') :
    answersAmong u b'.attempts = answersAmong u b.attempts ++ ws.filterMap (Write.answerOf u) := by
  induction h with
  | nil => simp
  | append _ hstep ih =>
      rw [List.filterMap_append, ← List.append_assoc, ← ih]
      cases hstep with
      | @answered v questionID choiceID row hu huser hquestion hchoice hknown =>
          rw [answersAmong_append]
          by_cases hv : v = u <;> simp [answersAmong, Write.answerOf, huser, hv]
      | created id hid hfresh hshows => simp [Write.answerOf]
      | updated id hid hown hunanswered hshows => simp [Write.answerOf]

/-- What the user was told is recorded. -/
theorem told_subperm {db : Db} {c : Served DbOp Incoming Db Status Response}
    (hc : PlainSteps io (Served.start db) c) (u : String) :
    (c.answers.filterMap (told u)).Subperm (c.state.answersOf u) := by
  have hstart : Served.Accounted (writing io db.toTables.book []) (Served.start db) [] :=
    Served.accounted_start ⟨[], rfl, .nil⟩
  obtain ⟨ledger, hledger⟩ := accounted_steps hstart hc
  obtain ⟨ledger', hsame, hreplays⟩ := accounted_journal hledger
  obtain rfl : ledger = ledger' := hsame
  obtain ⟨pending, -, hperm⟩ := accounted_once hledger
  have htold : c.answers.filterMap (told u) =
      (c.answers.map fun a => a.1.writes a.2).flatten.filterMap (Write.answerOf u) := by
    rw [List.filterMap_flatten, List.map_map]
    induction c.answers with
    | nil => rfl
    | cons a answers ih =>
        rw [List.map_cons, List.flatten_cons, ← ih, Function.comp, filterMap_answerOf_writes]
        cases hfirst : told u a <;> simp [hfirst]
  have hwritten : (c.answers.filterMap (told u)).Subperm (ledger.filterMap (Write.answerOf u)) := by
    refine List.Sublist.subperm ?_ |>.trans (hperm.filterMap _).symm.subperm
    rw [List.filterMap_append, htold]
    exact List.sublist_append_left _ _
  refine hwritten.trans ?_
  rw [show c.state.answersOf u = answersAmong u c.state.toTables.book.attempts from rfl,
    answersAmong_replays hreplays]
  exact (List.sublist_append_right _ _).subperm

/-- No recorded answer is lost. -/
theorem answersOf_kept {db : Db} {c c' : Served DbOp Incoming Db Status Response}
    (hc : PlainSteps io (Served.start db) c) (hc' : PlainSteps io c c') (u : String) :
    c.state.answersOf u <+: c'.state.answersOf u := by
  have hstart : Served.Accounted (writing io db.toTables.book []) (Served.start db) [] :=
    Served.accounted_start ⟨[], rfl, .nil⟩
  obtain ⟨ledger, hledger⟩ := accounted_steps hstart hc
  obtain ⟨more, hmore⟩ := accounted_steps (accounted_reopen hledger) hc'
  obtain ⟨_, -, hreplays⟩ := accounted_journal hmore
  exact ⟨_, (answersAmong_replays (u := u) hreplays).symm⟩

/-- The statistics count every answer that the user was given before the request arrived, and
nothing that is not recorded when it is answered. -/
theorem stats_fresh {db : Db} {c c' : Served DbOp (ℕ × Incoming) Db Status Response}
    (hc : NumberedSteps io (Served.start db) c) (hc' : NumberedSteps io c c') {r : ℕ × Incoming}
    {u : String} (hr : r.2.req.call (incoming r.2.md) = .getMyStats u) (hnew : r ∉ c.arrived)
    {response : Response} {s : Stats} (hx : (r, .ok response) ∈ c'.answers)
    (hs : response.reply = .stats s) :
    ((c.rename Prod.snd).answers.filterMap (told u)).length ≤ s.totalAttempts ∧
      (((c.rename Prod.snd).answers.filterMap (told u)).filter Prod.snd).length ≤
        s.correctAttempts ∧
      s.totalAttempts ≤ (c'.state.answersOf u).length ∧
      s.correctAttempts ≤ ((c'.state.answersOf u).filter Prod.snd).length := by
  obtain ⟨d, τ, hd, hd', hrun⟩ :=
    Served.answered_between hc' ((readsOnce_getMyStats hr).single r.2.md) hnew hx
  have hperform := serve_ok hrun
  rw [hr, hs] at hperform
  obtain ⟨htotal, hcorrect, -⟩ := perform_getMyStats_ok (Prod.ext hperform rfl)
  -- the rest is about the run without the numbers
  have hplain : PlainSteps io (Served.start db) (c.rename Prod.snd) := plainSteps_rename hc
  have hkept : c.state.answersOf u <+: d.state.answersOf u :=
    answersOf_kept hplain (plainSteps_rename hd) u
  have hbefore : ((c.rename Prod.snd).answers.filterMap (told u)).Subperm (d.state.answersOf u) :=
    (told_subperm hplain u).trans hkept.sublist.subperm
  have hafter : d.state.answersOf u <+: c'.state.answersOf u :=
    answersOf_kept (plainSteps_rename (hc.trans hd)) (plainSteps_rename hd') u
  rw [htotal, hcorrect]
  exact ⟨hbefore.length_le, (hbefore.filter _).length_le, hafter.length_le,
    (hafter.filter _).length_le⟩

/-- The second time, the statistics count the answer that Alice has been given. -/
theorem stats_fresh_alice : ∃ r response s, (r, .ok response) ∈ statsAgain.answers ∧
    r ∉ statsWait.arrived ∧ response.reply = .stats s ∧ 1 ≤ s.totalAttempts := by
  obtain ⟨r, response, s, hnew, hcall, hx, hs⟩ := statsAgain_answered
  have hone : ((statsWait.rename Prod.snd).answers.filterMap (told "alice")).length = 1 := by
    decide +kernel
  refine ⟨r, response, s, hx, hnew, hs, ?_⟩
  rw [← hone]
  exact (stats_fresh statsWait_reached statsAgain_reached hcall hnew hx hs).1

end Observability

end HistoryQuiz
