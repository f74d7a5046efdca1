import HistoryQuiz.Theorems.Selection

/-!
# The previous question

A client names the question it has just shown, and `GetQuestion` leaves it out. The
UUID parser accepts several spellings of an id, but the candidate query compares
texts: in any other spelling than the one that PostgreSQL prints the question stays a
candidate, and the position that the request id picks decides whether it is served again
(`getQuestion_avoids_previous_iff`).
-/

namespace HistoryQuiz

open Relational Effect QuizUsecase

variable {io : UuidReaders}

/-- In every run in which nothing fails, a question other than `u` is served after `previous`. -/
def AvoidsPrevious (io : UuidReaders) (db : Db) (requestID previous : String) (u : Uuid) : Prop :=
  ∀ τ, QuietStmts τ → ∃ q,
    ((Call.getQuestion requestID previous).perform io τ db).1 = .ok (.question q) ∧
      io.parse q.id ≠ some u

/-- The candidate can be at the position that the request id picks: no more candidates are newer,
and enough are not older. -/
def CanBePicked (requestID : String) (candidates : List QuestionRow) (r : QuestionRow) : Prop :=
  (candidates.countP fun s => r.createdAt < s.createdAt) ≤
      pickPosition requestID candidates.length ∧
    pickPosition requestID candidates.length <
      candidates.countP fun s => r.createdAt ≤ s.createdAt

instance (requestID : String) (candidates : List QuestionRow) (r : QuestionRow) :
    Decidable (CanBePicked requestID candidates r) :=
  inferInstanceAs (Decidable (_ ∧ _))

section Candidates

variable {db : Db} {requestID previous : String} {u : Uuid}

/-- It can, exactly when it is there in one of the orders that the query permits. -/
theorem canBePicked_iff {r : QuestionRow} (hr : r ∈ db.choosable previous) :
    CanBePicked requestID (db.choosable previous) r ↔
      ∃ scan, (orderBy newestFirst scan (db.choosable previous))[pickPosition requestID
        (db.choosable previous).length]? = some r := by
  rw [exists_getElem?_orderBy_iff (choosable_nodup db previous) hr, countP_newer]
  rfl

/-- Another question is stored than the one that `previous` denotes, so there is a candidate. -/
theorem choosable_ne_nil_of_other (hparse : io.parse previous = some u)
    (hother : ∃ r ∈ db.questions, r.deletedAt = none ∧ r.id ≠ u) : db.choosable previous ≠ [] := by
  obtain ⟨r, hr, hactive, hne⟩ := hother
  have htext : r.id.text ≠ previous := by
    rintro rfl
    rw [io.parse_text, Option.some.injEq] at hparse
    exact hne hparse
  have hcons := candidates_mode_ne_nil hr hactive htext
  rw [Db.choosable, Db.excluded, if_neg hcons]
  exact hcons

/-- The canonical spelling leaves the question out. -/
theorem not_mem_choosable_text (hother : ∃ r ∈ db.questions, r.deletedAt = none ∧ r.id ≠ u)
    (io : UuidReaders) : ∀ r ∈ db.choosable u.text, r.id ≠ u := by
  have hcons : db.candidates (db.mode u.text) u.text ≠ [] := by
    obtain ⟨r, hr, hactive, hne⟩ := hother
    exact candidates_mode_ne_nil hr hactive fun h => hne (io.text_injective h)
  intro r hr hid
  rw [Db.choosable, Db.excluded, if_neg hcons] at hr
  obtain ⟨-, -, -, hempty | hne⟩ := mem_candidates.mp hr
  · exact u.text_ne_empty hempty
  · exact hne (congrArg Uuid.text hid)

/-- For every database, request id and text that `uuid.Parse` accepts, while another question is
stored than the one that the text denotes. That one is not repeated, whatever the orders are in
which the queries return their rows, exactly when PostgreSQL takes the text and the question is no
candidate at the position of the request id. So it is for the text that PostgreSQL prints. -/
theorem getQuestion_avoids_previous_iff (db : Db) (requestID : String)
    (hparse : io.parse previous = some u)
    (hother : ∃ r ∈ db.questions, r.deletedAt = none ∧ r.id ≠ u) :
    (AvoidsPrevious io db requestID previous u ↔ storable previous = true ∧
      ∀ r ∈ db.choosable previous, r.id = u →
        ¬CanBePicked requestID (db.choosable previous) r) ∧
    (previous = u.text → AvoidsPrevious io db requestID previous u) := by
  have hcons := choosable_ne_nil_of_other hparse hother
  have hvalid : (io.parse previous).isSome := by
    rw [hparse]
    rfl
  have havoids : storable previous = true → (∀ r ∈ db.choosable previous, r.id = u →
      ¬CanBePicked requestID (db.choosable previous) r) →
        AvoidsPrevious io db requestID previous u := by
    intro hstorable hnot τ hquiet
    rw [perform_getQuestion]
    obtain ⟨-, ⟨t, -, r, hr, hid, hx⟩ | ⟨hnil, -⟩⟩ := post_getQuestion_picked io db hstorable
      (.inr hvalid) requestID (fun _ h => h) τ hquiet
    · refine ⟨r.served db, by rw [hx]; rfl, ?_⟩
      rw [QuestionRow.served, io.parse_text, ne_eq, Option.some.injEq]
      intro hu
      exact hnot r hr hu ((canBePicked_iff hr).mpr ⟨_, picked_getElem? io hr hid⟩)
    · exact absurd hnil hcons
  refine ⟨⟨?_, fun h => havoids h.1 h.2⟩, ?_⟩
  · intro h
    have hstorable : storable previous = true := by
      by_contra hnot
      obtain ⟨q, hq, -⟩ := h (scanning id) fun _ => rfl
      rw [perform_getQuestion] at hq
      cases hrun : ((getQuestion io requestID previous).run (DbOp.exec io) (scanning id) db).1 with
      | error e =>
          rw [hrun] at hq
          cases hq
      | ok q' =>
          exact post_getQuestion_unstorable (by simpa using hnot) requestID (scanning id)
            (fun _ => rfl) q' hrun
    refine ⟨hstorable, ?_⟩
    rintro r hr rfl hpick
    -- a run in an order with the question at the position serves it
    obtain ⟨scan, hscan⟩ := (canBePicked_iff hr).mp hpick
    obtain ⟨s, -, hat, hx⟩ := run_scanning io hcons hstorable (.inr hvalid) requestID scan
    obtain rfl : r = s := Option.some.inj (hscan.symm.trans hat)
    obtain ⟨q, hq, hne⟩ := h (scanning scan) fun _ => rfl
    rw [perform_getQuestion, hx] at hq
    cases hq
    exact hne (io.parse_text _)
  · rintro rfl
    exact havoids u.storable_text fun r hr hid =>
      absurd hid (not_mem_choosable_text hother io r hr)

end Candidates

/-- The third seeded question is served again after its own id without hyphens. -/
theorem getQuestion_repeats_previous :
    Reachable documentedReaders (seeded 0) ∧
      documentedReaders.parse "00000000000000000000000000000003" = some 0x3 ∧
      QuietStmts (calm 1 0) ∧ (∃ r ∈ (seeded 0).questions, r.deletedAt = none ∧ r.id ≠ 0x3) ∧
      ∃ q, ((Call.getQuestion "request" "00000000000000000000000000000003").perform
        documentedReaders (calm 1 0) (seeded 0)).1 = .ok (.question q) ∧
        documentedReaders.parse q.id = some 0x3 := by
  have hserved : servedID ((Call.getQuestion "request" "00000000000000000000000000000003").perform
      documentedReaders (calm 1 0) (seeded 0)).1 = some (Uuid.text 0x3) := by decide +kernel
  obtain ⟨q, hq, hid⟩ := servedID_eq_some.mp hserved
  refine ⟨⟨0, .refl⟩, by decide +kernel, fun _ => rfl, by decide +kernel, q, hq, ?_⟩
  rw [hid, documentedReaders.parse_text]

/-- With a newer question of Alice there, the same request id picks hers: the first seeded question
is a candidate after its id without hyphens, and it is not repeated. -/
theorem getQuestion_avoids_previous_iff_newer :
    (∃ r ∈ createdStore.choosable "00000000000000000000000000000001", r.id = 0x1) ∧
      AvoidsPrevious documentedReaders createdStore "request" "00000000000000000000000000000001"
        0x1 := by
  refine ⟨by decide +kernel, (getQuestion_avoids_previous_iff createdStore "request"
    (by decide +kernel) (by decide +kernel)).1.mpr ⟨by decide +kernel, by decide +kernel⟩⟩

end HistoryQuiz
