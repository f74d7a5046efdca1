import HistoryQuiz.Postgres.Migration
import Mathlib

/-!
# Applying the migrations again

On an empty database the script succeeds and leaves the rows `seeded`
(`applyDbMigrations_empty`).

`CREATE TRIGGER questions_set_updated_at` has no `IF NOT EXISTS` and nothing
drops the trigger, so the first file fails on every database it has been applied
to, and with it the script (`applyDbMigrations_again`).
-/

namespace HistoryQuiz

open Effect

/-- The script succeeds on an empty database and leaves the seeded rows. -/
theorem applyDbMigrations_empty (clock : ℕ → Timestamp) :
    (applyDbMigrations migrationFiles clock Cluster.empty).1 = .ok () ∧
      (applyDbMigrations migrationFiles clock Cluster.empty).2.db = seeded (clock 0) := by
  refine ⟨by cbv, Db.eq_of_tables ?_⟩
  cbv

/-! ## Folds that can fail -/

/-- What every successful step of a fold preserves, a successful fold preserves. -/
theorem foldlM_invariant {α β ε : Type} {f : β → α → Except ε β} {I : β → Prop} {l : List α}
    (step : ∀ a ∈ l, ∀ b b', I b → f b a = .ok b' → I b') {b b' : β} (hb : I b)
    (h : l.foldlM f b = .ok b') : I b' := by
  induction l generalizing b with
  | nil =>
      rw [List.foldlM_nil] at h
      cases h
      exact hb
  | cons a l ih =>
      rw [List.foldlM_cons] at h
      cases hstep : f b a with
      | error e =>
          rw [hstep] at h
          cases h
      | ok b₁ =>
          rw [hstep] at h
          exact ih (fun a ha => step a (List.mem_cons_of_mem _ ha))
            (step a List.mem_cons_self b b₁ hb hstep) h

/-- A successful fold over two lists succeeds over each. -/
theorem foldlM_append_ok {α β ε : Type} {f : β → α → Except ε β} {l l' : List α} {b b' : β}
    (h : (l ++ l').foldlM f b = .ok b') :
    ∃ b₁, l.foldlM f b = .ok b₁ ∧ l'.foldlM f b₁ = .ok b' := by
  rw [List.foldlM_append] at h
  cases hl : l.foldlM f b with
  | error e =>
      rw [hl] at h
      cases h
  | ok b₁ =>
      rw [hl] at h
      exact ⟨b₁, rfl, h⟩

theorem foldlM_cons_ok {α β ε : Type} {f : β → α → Except ε β} {a : α} {l : List α} {b b' : β}
    (h : (a :: l).foldlM f b = .ok b') : ∃ b₁, f b a = .ok b₁ ∧ l.foldlM f b₁ = .ok b' := by
  rw [List.foldlM_cons] at h
  cases ha : f b a with
  | error e =>
      rw [ha] at h
      cases h
  | ok b₁ =>
      rw [ha] at h
      exact ⟨b₁, rfl, h⟩

/-! ## The trigger of the first file -/

/-- The trigger `questions_set_updated_at` is there. -/
def Catalog.HasUpdatedAtTrigger (c : Catalog) : Prop :=
  ("questions", "questions_set_updated_at") ∈ c.triggers.map Prod.fst

/-- The statements before the trigger, the trigger, and the statements after it. -/
theorem initStatements_split : ∃ earlier later, initStatements =
    earlier ++ .createTrigger "questions" "questions_set_updated_at" "BEFORE UPDATE FOR EACH ROW"
      "set_updated_at" :: later ∧
    (∀ st ∈ earlier, st ≠ .dropTrigger "questions" "questions_set_updated_at") ∧
    ∀ st ∈ later, st ≠ .dropTrigger "questions" "questions_set_updated_at" :=
  ⟨initStatements.take 4, initStatements.drop 5, rfl, by decide, by decide⟩

variable {s s' : MigrationState}

theorem onTable_eq_ok {table : String} {next : Except MigrationError MigrationState} :
    s.onTable table next = .ok s' ↔ table ∈ s.catalog.tables.map Prod.fst ∧ next = .ok s' := by
  unfold MigrationState.onTable
  split_ifs with h <;> simp [h]

/-- The seed inserts leave the schema objects alone. -/
theorem insertRow_catalog {taken : Bool} {row : Except SqlError Db} {events : List Uuid}
    (h : s.insertRow taken row events = .ok s') : s'.catalog = s.catalog := by
  unfold MigrationState.insertRow at h
  split_ifs at h
  · cases h
    rfl
  · split at h
    · cases h
      rfl
    · cases h

/-- Only `DROP TRIGGER` takes a trigger away. -/
theorem exec_keeps_trigger {st : MigrationStmt}
    (hst : st ≠ .dropTrigger "questions" "questions_set_updated_at")
    (hs : s.catalog.HasUpdatedAtTrigger) (h : st.exec s = .ok s') :
    s'.catalog.HasUpdatedAtTrigger := by
  -- the inserts of rows, one after the other
  have hrows : ∀ {α : Type} {f : MigrationState → α → Except MigrationError MigrationState}
      (rows : List α), (∀ r s s', f s r = .ok s' → s'.catalog = s.catalog) →
      ∀ {s s'}, s.catalog.HasUpdatedAtTrigger → rows.foldlM f s = .ok s' →
        s'.catalog.HasUpdatedAtTrigger := by
    intro α f rows hf s s' hs hfold
    refine foldlM_invariant (I := fun s => s.catalog.HasUpdatedAtTrigger) ?_ hs hfold
    intro r _ s s' hs hr
    rwa [hf r s s' hr]
  cases st with
  | createExtension name =>
      simp only [MigrationStmt.exec] at h
      split_ifs at h <;> (cases h; exact hs)
  | replaceFunction name body =>
      simp only [MigrationStmt.exec] at h
      split_ifs at h <;> (cases h; exact hs)
  | createTable name columns =>
      simp only [MigrationStmt.exec] at h
      split_ifs at h <;> (cases h; exact hs)
  | createTrigger table name timing function =>
      simp only [MigrationStmt.exec, onTable_eq_ok] at h
      obtain ⟨-, h⟩ := h
      split_ifs at h
      cases h
      unfold Catalog.HasUpdatedAtTrigger at hs ⊢
      rw [List.map_append]
      exact List.mem_append_left _ hs
  | dropTrigger table name =>
      simp only [MigrationStmt.exec, onTable_eq_ok] at h
      obtain ⟨-, h⟩ := h
      cases h
      obtain ⟨t, ht, hname⟩ := List.mem_map.mp hs
      refine List.mem_map.mpr ⟨t, List.mem_filter.mpr ⟨ht, ?_⟩, hname⟩
      rw [hname]
      simp only [ne_eq, Prod.mk.injEq, decide_eq_true_eq]
      rintro ⟨rfl, rfl⟩
      exact hst rfl
  | createIndex name table definition =>
      simp only [MigrationStmt.exec, onTable_eq_ok] at h
      obtain ⟨-, h⟩ := h
      split_ifs at h <;> (cases h; exact hs)
  | addConstraint table name definition referenced =>
      simp only [MigrationStmt.exec, onTable_eq_ok] at h
      obtain ⟨-, -, h⟩ := h
      split_ifs at h
      cases h
      exact hs
  | addColumn table name definition =>
      simp only [MigrationStmt.exec, onTable_eq_ok] at h
      obtain ⟨-, h⟩ := h
      cases h
      exact hs
  | insertUsers rows =>
      simp only [MigrationStmt.exec, onTable_eq_ok] at h
      exact hrows rows (fun _ _ _ h => insertRow_catalog h) hs h.2
  | insertQuestions rows =>
      simp only [MigrationStmt.exec, onTable_eq_ok] at h
      exact hrows rows (fun _ _ _ h => insertRow_catalog h) hs h.2
  | insertChoices rows =>
      simp only [MigrationStmt.exec, onTable_eq_ok] at h
      exact hrows rows (fun _ _ _ h => insertRow_catalog h) hs h.2
  | insertAnswerKeys rows =>
      simp only [MigrationStmt.exec, onTable_eq_ok] at h
      exact hrows rows (fun _ _ _ h => insertRow_catalog h) hs h.2

/-- A trigger can only be created where there is none of its name. -/
theorem exec_createTrigger_ok {table name timing function : String}
    (h : (MigrationStmt.createTrigger table name timing function).exec s = .ok s') :
    (table, name) ∉ s.catalog.triggers.map Prod.fst ∧
      (table, name) ∈ s'.catalog.triggers.map Prod.fst := by
  simp only [MigrationStmt.exec, onTable_eq_ok] at h
  obtain ⟨-, h⟩ := h
  split_ifs at h with hfunction htrigger
  cases h
  exact ⟨htrigger, by simp⟩

/-- A run of the first file that succeeds found no trigger and leaves one. -/
theorem applyFile_init_ok {now : Timestamp} {c c' : Cluster}
    (h : applyFile now initStatements c = .ok c') :
    ¬c.catalog.HasUpdatedAtTrigger ∧ c'.catalog.HasUpdatedAtTrigger := by
  obtain ⟨earlier, later, hsplit, hearlier, hlater⟩ := initStatements_split
  unfold applyFile at h
  rw [hsplit] at h
  split at h
  · cases h
  · rename_i s' hfold
    obtain ⟨s₁, hfirst, hrest⟩ := foldlM_append_ok hfold
    obtain ⟨s₂, htrigger, hlast⟩ := foldlM_cons_ok hrest
    obtain ⟨habsent, hpresent⟩ := exec_createTrigger_ok htrigger
    split_ifs at h
    cases h
    refine ⟨fun hc => habsent ?_, ?_⟩
    · exact foldlM_invariant (I := fun s => s.catalog.HasUpdatedAtTrigger)
        (fun st hst s s' hs hstep => exec_keeps_trigger (hearlier st hst) hs hstep) hc hfirst
    · exact foldlM_invariant (I := fun s => s.catalog.HasUpdatedAtTrigger)
        (fun st hst s s' hs hstep => exec_keeps_trigger (hlater st hst) hs hstep) hpresent hlast

/-- The second file keeps the trigger. -/
theorem applyFile_addQuestionsDeletedAt_ok {now : Timestamp} {c c' : Cluster}
    (hc : c.catalog.HasUpdatedAtTrigger)
    (h : applyFile now addQuestionsDeletedAtStatements c = .ok c') :
    c'.catalog.HasUpdatedAtTrigger := by
  have hkeep : ∀ st ∈ addQuestionsDeletedAtStatements,
      st ≠ .dropTrigger "questions" "questions_set_updated_at" := by decide
  unfold applyFile at h
  split at h
  · cases h
  · rename_i s' hfold
    split_ifs at h
    cases h
    exact foldlM_invariant (I := fun s => s.catalog.HasUpdatedAtTrigger)
      (fun st hst s s' hs hstep => exec_keeps_trigger (hkeep st hst) hs hstep) hc hfold

/-- What a successful run of the script leaves. -/
theorem applyDbMigrations_trigger {clock : ℕ → Timestamp} {c c' : Cluster}
    (h : applyDbMigrations migrationFiles clock c = (.ok (), c')) :
    ¬c.catalog.HasUpdatedAtTrigger ∧ c'.catalog.HasUpdatedAtTrigger := by
  have hfiles : applyDbMigrations migrationFiles clock c = applyFiles migrationFiles clock c := by
    unfold applyDbMigrations
    rw [if_neg (by simp [migrationFiles]), if_pos (by decide)]
  rw [hfiles, migrationFiles, applyFiles] at h
  split at h
  · simp at h
  · rename_i c₁ hinit
    obtain ⟨habsent, hpresent⟩ := applyFile_init_ok hinit
    rw [applyFiles] at h
    split at h
    · simp at h
    · rename_i c₂ hsecond
      rw [applyFiles, Prod.mk.injEq] at h
      rw [← h.2]
      exact ⟨habsent, applyFile_addQuestionsDeletedAt_ok hpresent hsecond⟩

/-! ## Applying the script again -/

/-- After a successful run of the script, whatever the application has left in the
tables since, another run of the script fails. -/
theorem applyDbMigrations_again {clock : ℕ → Timestamp} {c c' : Cluster}
    (h : applyDbMigrations migrationFiles clock c = (.ok (), c')) (db : Db)
    (clock' : ℕ → Timestamp) :
    (applyDbMigrations migrationFiles clock' { c' with db := db }).1 ≠ .ok () := by
  intro hagain
  have hrun : applyDbMigrations migrationFiles clock' { c' with db := db } =
      (.ok (), (applyDbMigrations migrationFiles clock' { c' with db := db }).2) :=
    Prod.ext hagain rfl
  exact (applyDbMigrations_trigger hrun).1 (applyDbMigrations_trigger h).2

/-- On a fresh database, with no call in between. -/
theorem applyDbMigrations_again_empty :
    (applyDbMigrations migrationFiles (fun _ => 1)
      { (applyDbMigrations migrationFiles (fun _ => 0) Cluster.empty).2 with db := seeded 0 }).1 ≠
      .ok () := by
  have hfirst : applyDbMigrations migrationFiles (fun _ => 0) Cluster.empty =
      (.ok (), (applyDbMigrations migrationFiles (fun _ => 0) Cluster.empty).2) :=
    Prod.ext (applyDbMigrations_empty _).1 rfl
  exact applyDbMigrations_again hfirst (seeded 0) (fun _ => 1)

/-- The second run on a fresh database stops at the trigger. -/
theorem applyDbMigrations_twice_fails :
    (applyDbMigrations migrationFiles (fun _ => 0) Cluster.empty).1 = .ok () ∧
      (applyDbMigrations migrationFiles (fun _ => 1)
        (applyDbMigrations migrationFiles (fun _ => 0) Cluster.empty).2).1 =
        .error (.duplicateObject "questions_set_updated_at") := by
  refine ⟨(applyDbMigrations_empty _).1, ?_⟩
  decide

end HistoryQuiz
