import HistoryQuiz.Logic.Reads

/-!
# Serving and judging

What `GetQuestion` serves and what `SubmitAnswer` judges, as facts about the rows:

* `post_getQuestion`: whatever fails, a served question is one of those that the last
  candidate query finds (`Db.choosable`), or without any one of the default set;
* `post_getQuestion_quiet`: when nothing fails, the default set is served exactly
  when no stored question is on offer (`Db.Offers`);
* `post_submitAnswer_stored`, `post_submitAnswer_default`: the two ways to judge.
-/

namespace HistoryQuiz

open Relational Effect QuestionRepository QuizUsecase

variable {io : UuidReaders}

/-! ## Selection -/

theorem pickDeterministically_mem (requestID : String) {candidateIDs : List String}
    (h : candidateIDs ≠ []) : pickDeterministically requestID candidateIDs ∈ candidateIDs := by
  have hlen : 0 < candidateIDs.length := List.length_pos_iff.mpr h
  unfold pickDeterministically
  rw [if_neg h]
  dsimp only
  rw [List.getD_eq_getElem?_getD, List.getElem?_eq_getElem (Nat.mod_lt _ hlen)]
  exact List.getElem_mem _

/-- A question of the set, and not the previous one if there is another. -/
theorem selectDefaultQuestionFrom_mem {questions : List Question} (hquestions : questions ≠ [])
    (requestID previous : String) :
    ∃ q ∈ questions, selectDefaultQuestionFrom questions requestID previous = .ok q ∧
      ((∃ x ∈ questions, x.id ≠ previous) → q.id ≠ previous) := by
  obtain ⟨first, rest, rfl⟩ := List.exists_cons_of_ne_nil hquestions
  unfold selectDefaultQuestionFrom
  dsimp only
  set others := (first :: rest).filter fun q => q.id != previous with hothers
  set candidates := if others = [] then first :: rest else others with hcandidates
  -- the candidates are questions of the set, without the previous one if that leaves any
  have hmem : ∀ q ∈ candidates, q ∈ first :: rest ∧
      ((∃ x ∈ first :: rest, x.id ≠ previous) → q.id ≠ previous) := by
    intro q hq
    by_cases hnone : others = []
    · rw [hcandidates, if_pos hnone] at hq
      refine ⟨hq, ?_⟩
      rintro ⟨x, hx, hne⟩
      have hmem : x ∈ others := List.mem_filter.mpr ⟨hx, by simpa using hne⟩
      rw [hnone] at hmem
      cases hmem
    · rw [hcandidates, if_neg hnone] at hq
      obtain ⟨hq, hne⟩ := List.mem_filter.mp hq
      exact ⟨hq, fun _ => by simpa using hne⟩
  have hcons : candidates ≠ [] := by
    by_cases hnone : others = []
    · rw [hcandidates, if_pos hnone]
      exact List.cons_ne_nil _ _
    · rwa [hcandidates, if_neg hnone]
  cases hfind : candidates.find?
      fun q => q.id == pickDeterministically requestID (candidates.map Question.id) with
  | some q =>
      obtain ⟨hq, hprevious⟩ := hmem q (List.mem_of_find?_eq_some hfind)
      exact ⟨q, hq, rfl, hprevious⟩
  | none =>
      obtain ⟨q, others', hq⟩ := List.exists_cons_of_ne_nil hcons
      obtain ⟨hq', hprevious⟩ := hmem q (by rw [hq]; exact List.mem_cons_self)
      refine ⟨q, hq', ?_, hprevious⟩
      rw [hq]
      rfl

/-- The default set always has a question to offer, and not the previous one. -/
theorem selectDefaultQuestion_mem (requestID previous : String) :
    ∃ q ∈ defaultQuestions, selectDefaultQuestion requestID previous = .ok q ∧ q.id ≠ previous := by
  have htwo : ∃ x ∈ defaultQuestions, x.id ≠ previous := by
    by_cases h : previous = "00000000-0000-0000-0000-000000000001"
    · exact ⟨_, List.mem_cons_of_mem _ List.mem_cons_self, by rw [h]; decide⟩
    · exact ⟨_, List.mem_cons_self, fun heq => h heq.symm⟩
  obtain ⟨q, hq, hok, hprevious⟩ :=
    selectDefaultQuestionFrom_mem (show defaultQuestions ≠ [] by decide) requestID previous
  exact ⟨q, hq, hok, hprevious htwo⟩

/-- What the quiz shows of a stored question. -/
def QuestionRow.served (r : QuestionRow) (db : Db) : Question where
  id := r.id.text
  prompt := r.prompt
  choices := (db.choicesInOrder r.id).map ChoiceRow.toChoice
  explanation := r.explanation.getD ""

/-! ## Which questions are on offer -/

theorem mem_candidates {db : Db} {filter : CandidateFilter} {previous : String} {r : QuestionRow} :
    r ∈ db.candidates filter previous ↔ r ∈ db.questions ∧ r.deletedAt = none ∧
      filter.admits r.authorUserId = true ∧ (previous = "" ∨ r.id.text ≠ previous) := by
  simp [Db.candidates, and_assoc]

/-- A stored question is on offer after `previous`: one by the system user, or one
that is not the previous one. -/
def Db.Offers (db : Db) (previous : String) : Prop :=
  ∃ r ∈ db.questions, r.deletedAt = none ∧
    (r.authorUserId = "system" ∨ r.id.text ≠ previous)

/-- The filter of the second and the third candidate query. -/
def Db.mode (db : Db) (previous : String) : CandidateFilter :=
  if db.candidates .nonSystem previous = [] then .system else .all

/-- The exclusion leaves any other question there. -/
theorem candidates_mode_ne_nil {db : Db} {previous : String} {r : QuestionRow}
    (hr : r ∈ db.questions) (hactive : r.deletedAt = none) (hne : r.id.text ≠ previous) :
    db.candidates (db.mode previous) previous ≠ [] := by
  unfold Db.mode
  by_cases hnone : db.candidates .nonSystem previous = []
  · rw [if_pos hnone]
    -- a question of another user would be among those that are not the system's
    have hauthor : r.authorUserId = "system" := by
      by_contra hother
      have hmem : r ∈ db.candidates .nonSystem previous :=
        mem_candidates.mpr ⟨hr, hactive, by simpa [CandidateFilter.admits] using hother, .inr hne⟩
      rw [hnone] at hmem
      cases hmem
    exact List.ne_nil_of_mem (mem_candidates.mpr
      ⟨hr, hactive, by simp [CandidateFilter.admits, hauthor], .inr hne⟩)
  · rw [if_neg hnone]
    obtain ⟨s, hs⟩ := List.exists_mem_of_ne_nil _ hnone
    obtain ⟨hs, hactive, -, hne⟩ := mem_candidates.mp hs
    exact List.ne_nil_of_mem (mem_candidates.mpr ⟨hs, hactive, rfl, hne⟩)

/-- The candidate queries leave something exactly when a question is on offer. -/
theorem candidates_offers (db : Db) (previous : String) :
    (db.candidates (db.mode previous) previous ≠ [] ∨
      previous ≠ "" ∧ db.candidates (db.mode previous) "" ≠ []) ↔ db.Offers previous := by
  constructor
  · have hoffer : ∀ p, (p = previous ∨ p = "") → db.candidates (db.mode previous) p ≠ [] →
        db.Offers previous := by
      intro p hp hcons
      by_cases hnone : db.candidates .nonSystem previous = []
      · -- only the system user's questions are asked for
        obtain ⟨r, hr⟩ := List.exists_mem_of_ne_nil _ hcons
        rw [Db.mode, if_pos hnone] at hr
        obtain ⟨hr, hactive, hauthor, -⟩ := mem_candidates.mp hr
        exact ⟨r, hr, hactive, .inl (by simpa [CandidateFilter.admits] using hauthor)⟩
      · obtain ⟨r, hr⟩ := List.exists_mem_of_ne_nil _ hnone
        obtain ⟨hr, hactive, -, hprevious⟩ := mem_candidates.mp hr
        refine ⟨r, hr, hactive, .inr ?_⟩
        rcases hprevious with rfl | hne
        · exact r.id.text_ne_empty
        · exact hne
    rintro (h | ⟨-, h⟩)
    · exact hoffer previous (.inl rfl) h
    · exact hoffer "" (.inr rfl) h
  · rintro ⟨r, hr, hactive, hoffer⟩
    by_cases hid : r.id.text = previous
    · -- the previous question is the system user's, and without the exclusion it is left
      have hauthor : r.authorUserId = "system" := hoffer.resolve_right fun hne => hne hid
      have hadmits : (db.mode previous).admits r.authorUserId = true := by
        rw [hauthor]
        unfold Db.mode
        split_ifs <;> rfl
      exact .inr ⟨hid ▸ r.id.text_ne_empty,
        List.ne_nil_of_mem (mem_candidates.mpr ⟨hr, hactive, hadmits, .inl rfl⟩)⟩
    · exact .inl (candidates_mode_ne_nil hr hactive hid)

/-! ## The queries -/

/-- The ids that a candidate query returns on one of the ticks. -/
def Db.CandidateIDs (db : Db) (A : OpTick → Prop) (filter : CandidateFilter) (previous : String)
    (ids : List String) : Prop :=
  ∃ t, A t ∧ ids = (orderBy newestFirst t.first.scan (db.candidates filter previous)).map
    fun q => q.id.text

theorem Db.CandidateIDs.eq_nil {db : Db} {A : OpTick → Prop} {filter : CandidateFilter}
    {previous : String} {ids : List String} (h : db.CandidateIDs A filter previous ids) :
    ids = [] ↔ db.candidates filter previous = [] := by
  obtain ⟨t, -, rfl⟩ := h
  rw [List.map_eq_nil_iff]
  exact orderBy_eq_nil ..

/-- A tick on which no statement through the pool fails for a reason of its own. -/
abbrev OpTick.QuietStmt (t : OpTick) : Prop := t.first.fault = false

/-- A statement with the text `s` may fail: on one of the ticks, or because of `s`. -/
def MayFail (A : OpTick → Prop) (s : String) : Prop :=
  (∃ t, A t ∧ t.first.fault = true) ∨ storable s = false

theorem not_mayFail_quiet {A : OpTick → Prop} (hA : ∀ t, A t → t.QuietStmt) {s : String}
    (hs : storable s = true) : ¬MayFail A s := by
  rintro (⟨t, ht, hfault⟩ | hs')
  · rw [hA t ht] at hfault
    cases hfault
  · rw [hs] at hs'
    cases hs'

theorem MayFail.of_empty {A : OpTick → Prop} (h : MayFail A "") (s : String) : MayFail A s := by
  rcases h with h | h
  · exact .inl h
  · cases h

section Queries

variable {A : OpTick → Prop} {db : Db} {previous : String}

/-- A candidate query returns the candidates. -/
theorem post_listQuizCandidates (filter : CandidateFilter) {mode : String}
    (hmode : (mode, filter) ∈ [("", .all), ("system", .system), ("non-system", .nonSystem)]) :
    (listQuizCandidates previous mode).Post (DbOp.exec io) A db fun x db' => db' = db ∧
      ((∃ ids, x = .ok ids ∧ db.CandidateIDs A filter previous ids) ∨
        MayFail A previous ∧ ∃ e, x = .error e) := by
  have hselect : ∀ f : Except SqlError (List String) → DbProg (List String),
      (∀ ids, f (.ok ids) = .ret ids) → (∀ e, ∃ e', f (.error e) = .fail e') →
      ((query (.selectCandidates filter previous)).bind f).Post (DbOp.exec io) A db
        fun x db' => db' = db ∧ ((∃ ids, x = .ok ids ∧ db.CandidateIDs A filter previous ids) ∨
          MayFail A previous ∧ ∃ e, x = .error e) := by
    intro f hok herror
    refine post_query ?_
    intro t ht
    rw [PoolStmt.exec, Tick.guard, selectCandidates]
    cases hfault : t.first.fault with
    | true =>
        obtain ⟨e, he⟩ := herror .unavailable
        simp only [if_true, he]
        exact .fail ⟨rfl, .inr ⟨.inl ⟨t, ht, hfault⟩, e, rfl⟩⟩
    | false =>
        cases hstorable : storable previous with
        | true =>
            simp only [Bool.false_eq_true, if_false, if_true, hok]
            exact .ret ⟨rfl, .inl ⟨_, rfl, t, ht, rfl⟩⟩
        | false =>
            obtain ⟨e, he⟩ := herror .invalidText
            simp only [Bool.false_eq_true, if_false, he]
            exact .fail ⟨rfl, .inr ⟨.inr hstorable, e, rfl⟩⟩
  simp only [List.mem_cons, Prod.mk.injEq, List.not_mem_nil, or_false] at hmode
  rcases hmode with ⟨rfl, rfl⟩ | ⟨rfl, rfl⟩ | ⟨rfl, rfl⟩
  · exact hselect _ (fun _ => rfl) fun _ => ⟨_, rfl⟩
  · exact hselect _ (fun _ => rfl) fun _ => ⟨_, rfl⟩
  · exact hselect _ (fun _ => rfl) fun _ => ⟨_, rfl⟩

/-- `listFor` of `GetQuestion`. -/
theorem post_listFor {first : String} {nonSystemIDs : List String}
    (h : db.CandidateIDs A .nonSystem first nonSystemIDs) :
    (if nonSystemIDs = [] then listQuizCandidateSystemQuestionIDs previous
      else listQuizCandidateQuestionIDs previous).Post (DbOp.exec io) A db fun x db' => db' = db ∧
        ((∃ ids, x = .ok ids ∧ db.CandidateIDs A (db.mode first) previous ids) ∨
          MayFail A previous ∧ ∃ e, x = .error e) := by
  unfold Db.mode
  by_cases hnone : nonSystemIDs = []
  · rw [if_pos hnone, if_pos (h.eq_nil.mp hnone)]
    exact post_listQuizCandidates .system (by simp)
  · rw [if_neg hnone, if_neg fun hnil => hnone (h.eq_nil.mpr hnil)]
    exact post_listQuizCandidates .all (by simp)

/-- What the last candidate query excludes: nothing if the exclusion of `previous`
leaves nothing. -/
def Db.excluded (db : Db) (previous : String) : String :=
  if db.candidates (db.mode previous) previous = [] then "" else previous

/-- The questions among which `GetQuestion` picks. -/
def Db.choosable (db : Db) (previous : String) : List QuestionRow :=
  db.candidates (db.mode previous) (db.excluded previous)

/-- There is one exactly when a question is on offer. -/
theorem choosable_ne_nil (db : Db) (previous : String) :
    db.choosable previous ≠ [] ↔ db.Offers previous := by
  rw [← candidates_offers, Db.choosable, Db.excluded]
  by_cases hnil : db.candidates (db.mode previous) previous = []
  · rw [if_pos hnil]
    by_cases hempty : previous = ""
    · subst hempty
      simp [hnil]
    · simp [hnil, hempty]
  · rw [if_neg hnil]
    simp [hnil]

/-- The candidates after the retry. -/
theorem post_retry {nonSystemIDs firstIDs : List String}
    (hnonSystem : db.CandidateIDs A .nonSystem previous nonSystemIDs)
    (hfirst : db.CandidateIDs A (db.mode previous) previous firstIDs) :
    (if firstIDs = [] ∧ previous ≠ "" then (if nonSystemIDs = [] then
        listQuizCandidateSystemQuestionIDs "" else listQuizCandidateQuestionIDs "")
      else (pure firstIDs : DbProg _)).Post (DbOp.exec io) A db fun x db' => db' = db ∧
        ((∃ ids, x = .ok ids ∧ db.CandidateIDs A (db.mode previous) (db.excluded previous) ids) ∨
          MayFail A previous ∧ ∃ e, x = .error e) := by
  unfold Db.excluded
  by_cases hretry : firstIDs = [] ∧ previous ≠ ""
  · rw [if_pos hretry, if_pos (hfirst.eq_nil.mp hretry.1)]
    refine (post_listFor hnonSystem).mono ?_
    rintro x db' ⟨hdb', hids | ⟨hfail, herror⟩⟩
    · exact ⟨hdb', .inl hids⟩
    · exact ⟨hdb', .inr ⟨hfail.of_empty previous, herror⟩⟩
  · rw [if_neg hretry]
    refine .ret ⟨rfl, .inl ⟨firstIDs, rfl, ?_⟩⟩
    by_cases hnil : firstIDs = []
    · have hempty : previous = "" := by
        by_contra hne
        exact hretry ⟨hnil, hne⟩
      rw [if_pos (hfirst.eq_nil.mp hnil)]
      rwa [hempty] at hfirst ⊢
    · rwa [if_neg fun h => hnil (hfirst.eq_nil.mpr h)]

/-- A stored question that is not deleted is served. -/
theorem post_getQuizQuestion {r : QuestionRow} (hr : r ∈ db.questions) (hactive : r.deletedAt = none) :
    (getQuizQuestion r.id.text).Post (DbOp.exec io) A db fun x db' => db' = db ∧
      (x = .ok (r.served db) ∨
        MayFail A "" ∧ ∃ e, x = .error e ∧ e.isCode .notFound = false) := by
  refine post_query ?_
  intro t ht
  cases hfault : t.first.fault with
  | true =>
      rw [PoolStmt.exec, Tick.guard, hfault]
      exact .fail ⟨rfl, .inr ⟨.inl ⟨t, ht, hfault⟩, _, rfl, rfl⟩⟩
  | false =>
      rw [exec_selectQuizQuestion hfault hr (io.cast_text _) hactive]
      refine Prog.Post.bind (post_query ?_)
      intro t ht
      cases hfault : t.first.fault with
      | true =>
          rw [PoolStmt.exec, Tick.guard, hfault]
          exact .fail ⟨rfl, .inr ⟨.inl ⟨t, ht, hfault⟩, _, rfl, rfl⟩⟩
      | false =>
          rw [exec_selectChoices hfault (io.cast_text _)]
          exact .ret (.ret ⟨rfl, .inl rfl⟩)

end Queries

/-! ## What is served -/

/-- What `GetQuestion` can return: the question that the request id picks among the
choosable ones, without any a question of the default set, or an error. -/
inductive Serves (io : UuidReaders) (A : OpTick → Prop) (db : Db) (requestID previous : String)
    (x : Except GoError Question) : Prop
  | stored (t : OpTick) (ht : A t) (r : QuestionRow) (hr : r ∈ db.choosable previous)
      (hid : r.id.text = pickDeterministically requestID
        ((orderBy newestFirst t.first.scan (db.choosable previous)).map fun q => q.id.text))
      (hx : x = .ok (r.served db))
  | default (hnone : db.choosable previous = [])
      (hx : x = selectDefaultQuestion requestID previous)
  | refused (hinvalid : previous ≠ "" ∧ (io.parse previous).isNone) (e : GoError)
      (hx : x = .error e)
  | failed (hfail : MayFail A previous) (e : GoError) (hx : x = .error e)

theorem post_getQuestion (io : UuidReaders) (A : OpTick → Prop) (db : Db)
    (requestID previous : String) :
    (getQuestion io requestID previous).Post (DbOp.exec io) A db fun x db' =>
      db' = db ∧ Serves io A db requestID previous x := by
  unfold getQuestion
  split
  · rename_i hinvalid
    exact .fail ⟨rfl, .refused hinvalid _ rfl⟩
  · refine Prog.Post.bind ((post_listQuizCandidates .nonSystem (by simp)).mono ?_)
    rintro _ _ ⟨rfl, ⟨nonSystemIDs, rfl, hnonSystem⟩ | ⟨hfail, e, rfl⟩⟩
    swap
    · exact ⟨rfl, .failed hfail e rfl⟩
    refine Prog.Post.bind ((post_listFor hnonSystem).mono ?_)
    rintro _ _ ⟨rfl, ⟨firstIDs, rfl, hfirst⟩ | ⟨hfail, e, rfl⟩⟩
    swap
    · exact ⟨rfl, .failed hfail e rfl⟩
    refine Prog.Post.bind ((post_retry hnonSystem hfirst).mono ?_)
    rintro _ db ⟨rfl, ⟨candidateIDs, rfl, hids⟩ | ⟨hfail, e, rfl⟩⟩
    swap
    · exact ⟨rfl, .failed hfail e rfl⟩
    dsimp only
    by_cases hcandidates : candidateIDs = []
    · rw [if_pos hcandidates]
      exact .ofExcept ⟨rfl, .default (hids.eq_nil.mp hcandidates) rfl⟩
    · rw [if_neg hcandidates]
      obtain ⟨t, ht, rfl⟩ := hids
      obtain ⟨r, hr, hid⟩ := List.mem_map.mp (pickDeterministically_mem requestID hcandidates)
      have hr' : r ∈ db.choosable previous := (mem_orderBy ..).mp hr
      obtain ⟨hstored, hactive, -, -⟩ := mem_candidates.mp hr'
      rw [← hid]
      refine Prog.Post.bind (Prog.Post.attempt ((post_getQuizQuestion hstored hactive).mono ?_))
      rintro _ _ ⟨rfl, rfl | ⟨hfail, e, rfl, hcode⟩⟩
      · exact .ret ⟨rfl, .stored t ht r hr' hid rfl⟩
      · dsimp only
        rw [hcode]
        exact .fail ⟨rfl, .failed (hfail.of_empty previous) e rfl⟩

/-- A question that `GetQuestion` returns, whatever fails: a choosable one, or one of
the default set if there is none. -/
theorem Serves.ok {A : OpTick → Prop} {db : Db} {requestID previous : String} {q : Question}
    (h : Serves io A db requestID previous (.ok q)) :
    (∃ r ∈ db.choosable previous, q = r.served db) ∨
      db.choosable previous = [] ∧ q ∈ defaultQuestions := by
  cases h with
  | stored t ht r hr hid hx => exact .inl ⟨r, hr, Except.ok.inj hx⟩
  | default hnone hx =>
      obtain ⟨q', hq', hok, -⟩ := selectDefaultQuestion_mem requestID previous
      rw [hok] at hx
      exact .inr ⟨hnone, Except.ok.inj hx ▸ hq'⟩
  | refused hinvalid e hx => cases hx
  | failed hfail e hx => cases hx

/-- When nothing fails, `GetQuestion` serves a choosable question, and without any one
of the default set. -/
theorem post_getQuestion_picked (io : UuidReaders) (db : Db) {previous : String}
    (hprevious : storable previous = true)
    (hvalid : previous = "" ∨ (io.parse previous).isSome) (requestID : String)
    {A : OpTick → Prop} (hA : ∀ t, A t → t.QuietStmt) :
    (getQuestion io requestID previous).Post (DbOp.exec io) A db fun x db' =>
      db' = db ∧ ((∃ t, A t ∧ ∃ r ∈ db.choosable previous,
          r.id.text = pickDeterministically requestID
            ((orderBy newestFirst t.first.scan (db.choosable previous)).map
              fun q => q.id.text) ∧
          x = .ok (r.served db)) ∨
        (db.choosable previous = [] ∧ x = selectDefaultQuestion requestID previous)) := by
  refine (post_getQuestion io _ db requestID previous).mono ?_
  rintro x db' ⟨hdb', hserves⟩
  refine ⟨hdb', ?_⟩
  cases hserves with
  | stored t ht r hr hid hx => exact .inl ⟨t, ht, r, hr, hid, hx⟩
  | default hnone hx => exact .inr ⟨hnone, hx⟩
  | refused hinvalid e hx =>
      rcases hvalid with rfl | hsome
      · exact absurd rfl hinvalid.1
      · simp [Option.isNone_iff_eq_none.mp hinvalid.2] at hsome
  | failed hfail e hx => exact absurd hfail (not_mayFail_quiet hA hprevious)

/-- When nothing fails, `GetQuestion` serves a stored question if one is on offer,
and else one of the default set. -/
theorem post_getQuestion_quiet (io : UuidReaders) (db : Db) {previous : String}
    (hprevious : storable previous = true)
    (hvalid : previous = "" ∨ (io.parse previous).isSome) (requestID : String) :
    (getQuestion io requestID previous).Post (DbOp.exec io) OpTick.QuietStmt db fun x db' =>
      db' = db ∧ ((db.Offers previous ∧
          ∃ r ∈ db.questions, r.deletedAt = none ∧ x = .ok (r.served db)) ∨
        (¬db.Offers previous ∧ x = selectDefaultQuestion requestID previous)) := by
  refine (post_getQuestion_picked io db hprevious hvalid requestID fun _ h => h).mono ?_
  rintro x _ ⟨rfl, ⟨t, -, r, hr, -, hx⟩ | ⟨hnil, hx⟩⟩
  · obtain ⟨hstored, hactive, -, -⟩ := mem_candidates.mp hr
    exact ⟨rfl, .inl ⟨(choosable_ne_nil _ _).mp (List.ne_nil_of_mem hr), r, hstored, hactive, hx⟩⟩
  · exact ⟨rfl, .inr ⟨fun h => (choosable_ne_nil _ _).mpr h hnil, hx⟩⟩

/-! ## Judging when nothing fails -/

/-- A tick on which a new attempt gets an id of its own. -/
structure OpTick.FreshAttempt (db : Db) (t : OpTick) : Prop where
  quiet : t.first.fault = false
  fresh : t.first.uuid.value ∉ db.attempts.map AttemptRow.id

/-- The user's row is there or is inserted. -/
theorem post_ensureUserExists_quiet {u : String} (hne : u ≠ "") (hu : storable u = true)
    {A : OpTick → Prop} (hA : ∀ t, A t → t.first.fault = false) (db : Db) :
    (UserRepository.ensureUserExists u).Post (DbOp.exec io) A db fun x db' =>
      x = .ok () ∧ (db' = db ∨ db'.toTables = db.addUser ⟨u⟩) ∧ u ∈ db'.users.map UserRow.id := by
  unfold UserRepository.ensureUserExists
  rw [if_neg hne]
  refine post_query ?_
  intro t ht
  obtain ⟨db', hexec, hdb', hmem⟩ : ∃ db', PoolStmt.exec io (.insertUser u) t.first db =
      (.ok (), db') ∧ (db' = db ∨ db'.toTables = db.addUser ⟨u⟩) ∧
        u ∈ db'.users.map UserRow.id := exec_insertUser (hA t ht) hu
  rw [hexec]
  exact .ret ⟨rfl, hdb', hmem⟩

/-- An attempt of a known user on a choice of the question is recorded. -/
theorem post_createAttempt_fresh {u : String} (hne : u ≠ "") (hu : storable u = true) {db : Db}
    (hmem : u ∈ db.users.map UserRow.id) {r : QuestionRow} (hr : r ∈ db.questions)
    {c : ChoiceRow} (hc : c ∈ db.choices) (hcq : c.questionId = r.id) (isCorrect : Bool)
    {A : OpTick → Prop} (hA : ∀ t, A t → OpTick.FreshAttempt db t) :
    (AttemptRepository.createAttempt u r.id.text c.id.text isCorrect).Post (DbOp.exec io) A db
      fun x _ => ∃ attemptID, x = .ok attemptID := by
  unfold AttemptRepository.createAttempt
  rw [if_neg hne, if_neg r.id.text_ne_empty, if_neg c.id.text_ne_empty]
  refine post_query ?_
  intro t ht
  obtain ⟨db₁, hexec⟩ : ∃ db₁, PoolStmt.exec io (.insertAttempt u r.id.text c.id.text isCorrect)
      t.first db = (.ok t.first.uuid.value.text, db₁) :=
    exec_insertAttempt (hA t ht).quiet hu hmem hr hc hcq (hA t ht).fresh _
  rw [hexec]
  exact .ret ⟨_, rfl⟩

/-- What `SubmitAnswer` does with a verdict. -/
def recordAnswer (userID questionID selectedChoiceID : String) (isCorrect : Bool)
    (correctChoiceID : String) : DbProg SubmitAnswerResult := do
  if userID = "" then return { isCorrect, correctChoiceID, attemptID := "" }
  else
    UserRepository.ensureUserExists userID
    let attemptID ← AttemptRepository.createAttempt userID questionID selectedChoiceID isCorrect
    return { isCorrect, correctChoiceID, attemptID }

/-- A verdict on a choice of the question is recorded for a user that can be stored. -/
theorem post_recordAnswer (io : UuidReaders) {db : Db} {r : QuestionRow}
    (hr : r ∈ db.questions) {c : ChoiceRow} (hc : c ∈ db.choices)
    (hcq : c.questionId = r.id) {u : String} (hu : storable u = true) (isCorrect : Bool)
    (correct : String) :
    (recordAnswer u r.id.text c.id.text isCorrect correct).Post (DbOp.exec io)
      (OpTick.FreshAttempt db) db fun x _ => ∃ attemptID, x =
        .ok ⟨isCorrect, correct, attemptID⟩ := by
  unfold recordAnswer
  by_cases hanonymous : u = ""
  · rw [if_pos hanonymous]
    exact .ret ⟨_, rfl⟩
  · rw [if_neg hanonymous]
    -- the user's row is there or is inserted, and then the attempt refers to it
    refine Prog.Post.bind
      ((post_ensureUserExists_quiet hanonymous hu (fun t ht => ht.quiet) db).mono ?_)
    rintro _ db' ⟨rfl, hdb', hmem⟩
    have hsame : db'.attempts = db.attempts ∧ db'.questions = db.questions ∧
        db'.choices = db.choices := by
      rcases hdb' with rfl | h
      · exact ⟨rfl, rfl, rfl⟩
      · rw [h]
        exact ⟨rfl, rfl, rfl⟩
    obtain ⟨hattempts, hquestions, hchoices⟩ := hsame
    refine Prog.Post.bind ((post_createAttempt_fresh hanonymous hu hmem (hquestions ▸ hr)
      (hchoices ▸ hc) hcq _ fun t ht => ⟨ht.quiet, hattempts ▸ ht.fresh⟩).mono ?_)
    rintro _ _ ⟨attemptID, rfl⟩
    exact .ret ⟨attemptID, rfl⟩

/-- A choice of a question with a key is judged by the key. -/
theorem post_submitAnswer_stored {db : Db} {r : QuestionRow} (hr : r ∈ db.questions)
    {k : AnswerKeyRow} (hk : k ∈ db.answerKeys) (hkq : k.questionId = r.id) {c : ChoiceRow}
    (hc : c ∈ db.choices) (hcq : c.questionId = r.id) {u : String} (hu : storable u = true) :
    (submitAnswer io u r.id.text c.id.text).Post (DbOp.exec io) (OpTick.FreshAttempt db) db
      fun x _ => ∃ attemptID, x =
        .ok ⟨c.id.text == k.correctChoiceId.text, k.correctChoiceId.text, attemptID⟩ := by
  unfold submitAnswer
  rw [if_neg r.id.text_ne_empty, if_neg c.id.text_ne_empty, if_neg (by simp), if_neg (by simp)]
  have hkey : (getCorrectChoiceID r.id.text).Post (DbOp.exec io) (OpTick.FreshAttempt db) db
      fun x db' => x = .ok k.correctChoiceId.text ∧ db' = db := by
    intro τ hτ
    rw [run_getCorrectChoiceID (fun n => (hτ n).quiet) hk (by rw [io.cast_text, hkq])]
    exact ⟨rfl, rfl⟩
  refine Prog.Post.bind (Prog.Post.attempt (hkey.mono ?_))
  rintro _ db ⟨rfl, rfl⟩
  refine Prog.Post.bind (post_query ?_)
  intro t ht
  have hbelongs : existsChoice io db r.id.text c.id.text = .ok true := by
    simp only [existsChoice, withUuid, io.cast_text]
    rw [Except.ok.injEq, List.any_eq_true]
    exact ⟨c, hc, by simp [hcq]⟩
  rw [PoolStmt.exec, Tick.guard_quiet ht.quiet, hbelongs]
  refine .ret ?_
  dsimp only
  rw [if_neg (by simp)]
  exact post_recordAnswer io hr hc hcq hu _ _

/-- A question without a stored key is judged by the default set. -/
theorem post_submitAnswer_default {db : Db} {i : Uuid}
    (hnone : i ∉ db.answerKeys.map AnswerKeyRow.questionId) {correct : String}
    (hlookup : defaultCorrectChoiceIDByQuestionID.lookup i.text = some correct) (u : String)
    (d : Uuid) : (submitAnswer io u i.text d.text).Post (DbOp.exec io) OpTick.QuietStmt db
      fun x _ => x = .ok ⟨d.text == correct, correct, ""⟩ := by
  unfold submitAnswer
  rw [if_neg i.text_ne_empty, if_neg d.text_ne_empty, if_neg (by simp), if_neg (by simp)]
  have hmissing : (getCorrectChoiceID i.text).Post (DbOp.exec io) OpTick.QuietStmt db
      fun x _ => x = .error (notFound "正解情報が見つかりません") := by
    refine post_query ?_
    intro t ht
    rw [exec_selectCorrectChoiceID_none ht (io.cast_text i) hnone]
    exact .fail rfl
  refine Prog.Post.bind (Prog.Post.attempt (hmissing.mono ?_))
  rintro _ db' rfl
  dsimp only
  rw [hlookup]
  exact .ret rfl

end HistoryQuiz
