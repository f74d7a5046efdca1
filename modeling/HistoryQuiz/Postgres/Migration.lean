import HistoryQuiz.Postgres.Statement

/-!
# The migrations

`scripts/apply_db_migrations.sh` checks the names of the migration files
(`scripts/verify_migration_files.sh`) and then runs every file, each in one
transaction that stops at its first error; nothing records which files have been
applied. This module gives the statements of the files a meaning on the schema
objects (`Catalog`) and the rows, and transcribes the two files.

The rows are a `Db` throughout. That is exact here because a row is only ever
inserted after the whole schema of the first file is in place.
-/

namespace HistoryQuiz

open Effect

/-! ## Schema objects -/

/-- The schema objects, each by its name, with its definition in the words of the
files. Triggers and constraints are named within their table. -/
structure Catalog where
  extensions : List String
  functions : List (String × String)
  tables : List (String × List (String × String))
  triggers : List ((String × String) × String)
  indexes : List (String × String)
  constraints : List ((String × String) × String)
deriving DecidableEq

def Catalog.empty : Catalog where
  extensions := []
  functions := []
  tables := []
  triggers := []
  indexes := []
  constraints := []

/-- The statements that occur in the files. -/
inductive MigrationStmt where
  /-- `CREATE EXTENSION IF NOT EXISTS`. -/
  | createExtension (name : String)
  /-- `CREATE OR REPLACE FUNCTION`. -/
  | replaceFunction (name body : String)
  /-- `CREATE TABLE IF NOT EXISTS`. -/
  | createTable (name : String) (columns : List (String × String))
  /-- `CREATE TRIGGER` and `CREATE CONSTRAINT TRIGGER`. -/
  | createTrigger (table name timing function : String)
  /-- `DROP TRIGGER IF EXISTS`. -/
  | dropTrigger (table name : String)
  /-- `CREATE [UNIQUE] INDEX IF NOT EXISTS`. -/
  | createIndex (name table definition : String)
  /-- `ALTER TABLE … ADD CONSTRAINT`. -/
  | addConstraint (table name definition referenced : String)
  /-- `ALTER TABLE … ADD COLUMN IF NOT EXISTS`. -/
  | addColumn (table name definition : String)
  /-- `INSERT INTO users (id) … ON CONFLICT (id) DO NOTHING`. -/
  | insertUsers (rows : List String)
  /-- `INSERT INTO questions (id, author_user_id, prompt, explanation) …
  ON CONFLICT (id) DO NOTHING`. -/
  | insertQuestions (rows : List (Uuid × String × String × String))
  /-- `INSERT INTO choices (id, question_id, label, ordinal) … ON CONFLICT (id) DO NOTHING`. -/
  | insertChoices (rows : List (Uuid × Uuid × String × ℤ))
  /-- `INSERT INTO answer_keys (question_id, correct_choice_id) …
  ON CONFLICT (question_id) DO NOTHING`. -/
  | insertAnswerKeys (rows : List (Uuid × Uuid))
deriving DecidableEq

inductive MigrationError where
  | noFiles
  | fileNames
  | duplicateObject (name : String)
  | undefinedTable (name : String)
  | undefinedFunction (name : String)
  | sql (error : SqlError)
deriving DecidableEq

/-- The database as the migrations see it. -/
structure Cluster where
  catalog : Catalog
  db : Db

/-- An open transaction of a migration file. -/
structure MigrationState where
  catalog : Catalog
  tx : TxState

namespace MigrationState

variable (s : MigrationState)

/-- A statement about a table needs the table. -/
def onTable (table : String) (next : Except MigrationError MigrationState) :
    Except MigrationError MigrationState :=
  if table ∈ s.catalog.tables.map Prod.fst then next else .error (.undefinedTable table)

/-- A row that is inserted, unless its key is taken. -/
def insertRow (taken : Bool) (row : Except SqlError Db) (events : List Uuid) :
    Except MigrationError MigrationState :=
  if taken then .ok s
  else
    match row with
    | .ok db => .ok { s with tx := { s.tx with db := db, pending := s.tx.pending ++ events } }
    | .error e => .error (.sql e)

/-- The row events that the four-choices trigger queues, if it is there. -/
def events (question : Uuid) : List Uuid :=
  if ("choices", "choices_enforce_four_per_question") ∈ s.catalog.triggers.map Prod.fst then
    [question]
  else []

def insertUser (id : String) : Except MigrationError MigrationState :=
  s.insertRow (id ∈ s.tx.db.users.map UserRow.id) (s.tx.db.insertUser ⟨id⟩) []

def insertQuestion (r : Uuid × String × String × String) : Except MigrationError MigrationState :=
  s.insertRow (r.1 ∈ s.tx.db.questions.map QuestionRow.id)
    (s.tx.db.insertQuestion
      { id := r.1
        authorUserId := r.2.1
        prompt := r.2.2.1
        explanation := some r.2.2.2
        createdAt := s.tx.now
        updatedAt := s.tx.now
        deletedAt := none }) []

def insertChoice (r : Uuid × Uuid × String × ℤ) : Except MigrationError MigrationState :=
  s.insertRow (r.1 ∈ s.tx.db.choices.map ChoiceRow.id)
    (s.tx.db.insertChoice ⟨r.1, r.2.1, r.2.2.1, r.2.2.2⟩) (s.events r.2.1)

def insertAnswerKey (r : Uuid × Uuid) : Except MigrationError MigrationState :=
  s.insertRow (r.1 ∈ s.tx.db.answerKeys.map AnswerKeyRow.questionId)
    (s.tx.db.upsertAnswerKey ⟨r.1, r.2⟩) []

end MigrationState

/-- The meaning of a statement. -/
def MigrationStmt.exec (s : MigrationState) : MigrationStmt → Except MigrationError MigrationState
  | createExtension name =>
      if name ∈ s.catalog.extensions then .ok s
      else .ok { s with catalog := { s.catalog with extensions := s.catalog.extensions ++ [name] } }
  | replaceFunction name body =>
      if name ∈ s.catalog.functions.map Prod.fst then
        .ok { s with catalog := { s.catalog with
          functions := s.catalog.functions.map fun f => if f.1 = name then (name, body) else f } }
      else
        .ok { s with catalog := { s.catalog with
          functions := s.catalog.functions ++ [(name, body)] } }
  | createTable name columns =>
      if name ∈ s.catalog.tables.map Prod.fst then .ok s
      else .ok { s with catalog := { s.catalog with
        tables := s.catalog.tables ++ [(name, columns)] } }
  | createTrigger table name timing function =>
      s.onTable table <|
        if function ∉ s.catalog.functions.map Prod.fst then .error (.undefinedFunction function)
        else if (table, name) ∈ s.catalog.triggers.map Prod.fst then .error (.duplicateObject name)
        else .ok { s with catalog := { s.catalog with
          triggers := s.catalog.triggers ++ [((table, name), timing)] } }
  | dropTrigger table name =>
      s.onTable table <|
        .ok { s with catalog := { s.catalog with
          triggers := s.catalog.triggers.filter fun t => t.1 ≠ (table, name) } }
  | createIndex name table definition =>
      s.onTable table <|
        if name ∈ s.catalog.indexes.map Prod.fst then .ok s
        else .ok { s with catalog := { s.catalog with
          indexes := s.catalog.indexes ++ [(name, definition)] } }
  | addConstraint table name definition referenced =>
      s.onTable table <| s.onTable referenced <|
        if (table, name) ∈ s.catalog.constraints.map Prod.fst then .error (.duplicateObject name)
        else .ok { s with catalog := { s.catalog with
          constraints := s.catalog.constraints ++ [((table, name), definition)] } }
  | addColumn table name definition =>
      s.onTable table <|
        .ok { s with catalog := { s.catalog with
          tables := s.catalog.tables.map fun t =>
            if t.1 = table ∧ name ∉ t.2.map Prod.fst then (t.1, t.2 ++ [(name, definition)])
            else t } }
  | insertUsers rows => s.onTable "users" <| rows.foldlM MigrationState.insertUser s
  | insertQuestions rows => s.onTable "questions" <| rows.foldlM MigrationState.insertQuestion s
  | insertChoices rows => s.onTable "choices" <| rows.foldlM MigrationState.insertChoice s
  | insertAnswerKeys rows => s.onTable "answer_keys" <| rows.foldlM MigrationState.insertAnswerKey s

/-! ## The scripts -/

/-- The name rule `^[0-9]{14}_[a-z0-9_]+\.sql$`. -/
def validFileName (name : String) : Bool :=
  let cs := name.toList
  let middle := (cs.drop 15).take (cs.length - 19)
  (cs.take 14).all Char.isDigit && (cs.take 14).length == 14 && cs[14]? == some '_' &&
    middle != [] && middle.all (fun c => c.isLower || c.isDigit || c == '_') &&
    cs.drop (cs.length - 4) == ".sql".toList

/-- The number that the first fourteen digits denote. -/
def fileTimestamp (name : String) : ℕ :=
  (name.toList.take 14).foldl (fun n c => n * 10 + (c.toNat - 48)) 0

/-- `verify_migration_files.sh` from a previous timestamp on. -/
def verifyFileNames : Option ℕ → List String → Bool
  | _, [] => true
  | previous, name :: names =>
      validFileName name && previous.all (fun p => p < fileTimestamp name) &&
        verifyFileNames (some (fileTimestamp name)) names

/-- `psql -v ON_ERROR_STOP=1 -1 -f`: a file in one transaction. -/
def applyFile (now : Timestamp) (statements : List MigrationStmt) (c : Cluster) :
    Except MigrationError Cluster :=
  match statements.foldlM MigrationStmt.exec
      { catalog := c.catalog, tx := { db := c.db, now := now, pending := [] } } with
  | .error e => .error e
  | .ok s =>
      if s.tx.fourChoices then .ok { catalog := s.catalog, db := s.tx.db }
      else .error (.sql .raisedByTrigger)

/-- The loop over the files: it stops at the first file that fails. -/
def applyFiles : List (String × List MigrationStmt) → (ℕ → Timestamp) → Cluster →
    Except MigrationError Unit × Cluster
  | [], _, c => (.ok (), c)
  | (_, statements) :: files, clock, c =>
      match applyFile (clock 0) statements c with
      | .error e => (.error e, c)
      | .ok c' => applyFiles files (later clock 1) c'

/-- `apply_db_migrations.sh` over the given files; `clock` gives the time at
each of them. -/
def applyDbMigrations (files : List (String × List MigrationStmt)) (clock : ℕ → Timestamp)
    (c : Cluster) : Except MigrationError Unit × Cluster :=
  if files = [] then (.error .noFiles, c)
  else if verifyFileNames none (files.map Prod.fst) then applyFiles files clock c
  else (.error .fileNames, c)

/-! ## The files -/

/-- `20251225233000_init.sql`. -/
def initStatements : List MigrationStmt := [
  .createExtension "pgcrypto",
  .replaceFunction "set_updated_at" "NEW.updated_at = NOW(); RETURN NEW;",
  .createTable "users" [
    ("id", "TEXT PRIMARY KEY"),
    ("created_at", "TIMESTAMPTZ NOT NULL DEFAULT NOW()")],
  .createTable "questions" [
    ("id", "UUID PRIMARY KEY DEFAULT gen_random_uuid()"),
    ("author_user_id", "TEXT NOT NULL REFERENCES users(id)"),
    ("prompt", "TEXT NOT NULL"),
    ("explanation", "TEXT"),
    ("created_at", "TIMESTAMPTZ NOT NULL DEFAULT NOW()"),
    ("updated_at", "TIMESTAMPTZ NOT NULL DEFAULT NOW()")],
  .createTrigger "questions" "questions_set_updated_at" "BEFORE UPDATE FOR EACH ROW"
    "set_updated_at",
  .createTable "choices" [
    ("id", "UUID PRIMARY KEY DEFAULT gen_random_uuid()"),
    ("question_id", "UUID NOT NULL REFERENCES questions(id) ON DELETE CASCADE"),
    ("label", "TEXT NOT NULL"),
    ("ordinal", "INT NOT NULL CHECK (ordinal >= 0 AND ordinal <= 3)"),
    ("created_at", "TIMESTAMPTZ NOT NULL DEFAULT NOW()")],
  .createIndex "choices_question_ordinal_unique" "choices" "UNIQUE (question_id, ordinal)",
  .createTable "answer_keys" [
    ("question_id", "UUID PRIMARY KEY REFERENCES questions(id) ON DELETE CASCADE"),
    ("correct_choice_id", "UUID NOT NULL"),
    ("created_at", "TIMESTAMPTZ NOT NULL DEFAULT NOW()")],
  .createIndex "choices_id_question_unique" "choices" "UNIQUE (id, question_id)",
  .addConstraint "answer_keys" "answer_keys_correct_choice_belongs_to_question"
    ("FOREIGN KEY (correct_choice_id, question_id) " ++
      "REFERENCES choices(id, question_id) ON DELETE CASCADE") "choices",
  .createTable "attempts" [
    ("id", "UUID PRIMARY KEY DEFAULT gen_random_uuid()"),
    ("user_id", "TEXT NOT NULL REFERENCES users(id)"),
    ("question_id", "UUID NOT NULL REFERENCES questions(id) ON DELETE CASCADE"),
    ("selected_choice_id", "UUID NOT NULL"),
    ("is_correct", "BOOLEAN NOT NULL"),
    ("answered_at", "TIMESTAMPTZ NOT NULL DEFAULT NOW()")],
  .addConstraint "attempts" "attempts_selected_choice_belongs_to_question"
    ("FOREIGN KEY (selected_choice_id, question_id) " ++
      "REFERENCES choices(id, question_id) ON DELETE RESTRICT") "choices",
  .createIndex "attempts_user_answered_at_idx" "attempts" "(user_id, answered_at DESC)",
  .replaceFunction "enforce_four_choices_per_question"
    ("qid := COALESCE(NEW.question_id, OLD.question_id); " ++
      "SELECT COUNT(*) INTO cnt FROM choices WHERE question_id = qid; " ++
      "IF cnt <> 4 THEN RAISE EXCEPTION"),
  .dropTrigger "choices" "choices_enforce_four_per_question",
  .createTrigger "choices" "choices_enforce_four_per_question"
    "AFTER INSERT OR UPDATE OR DELETE DEFERRABLE INITIALLY DEFERRED FOR EACH ROW"
    "enforce_four_choices_per_question",
  .insertUsers ["system"],
  .insertQuestions [
    (0x1, "system", "古代ローマの首都はどこ？", "ローマは古代ローマの中心都市として知られる。"),
    (0x2, "system", "中世ヨーロッパで十字軍が向かった主な目的地は？",
      "十字軍は主にエルサレムなど聖地の奪還を目的とした。"),
    (0x3, "system", "大航海時代にインド航路を開拓した人物は？",
      "ヴァスコ・ダ・ガマは喜望峰を回ってインドへ到達した。")],
  .insertChoices [
    (0x1001, 0x1, "ローマ", 0), (0x1002, 0x1, "アテネ", 1),
    (0x1003, 0x1, "カルタゴ", 2), (0x1004, 0x1, "アレクサンドリア", 3)],
  .insertAnswerKeys [(0x1, 0x1001)],
  .insertChoices [
    (0x2001, 0x2, "エルサレム（聖地）", 0), (0x2002, 0x2, "カイロ", 1),
    (0x2003, 0x2, "コンスタンティノープル", 2), (0x2004, 0x2, "ロンドン", 3)],
  .insertAnswerKeys [(0x2, 0x2001)],
  .insertChoices [
    (0x3001, 0x3, "コロンブス", 0), (0x3002, 0x3, "マゼラン", 1),
    (0x3003, 0x3, "ヴァスコ・ダ・ガマ", 2), (0x3004, 0x3, "クック", 3)],
  .insertAnswerKeys [(0x3, 0x3003)]]

/-- `20251226195500_add_questions_deleted_at.sql`. -/
def addQuestionsDeletedAtStatements : List MigrationStmt := [
  .addColumn "questions" "deleted_at" "TIMESTAMPTZ",
  .createIndex "questions_author_created_at_active_idx" "questions"
    "(author_user_id, created_at DESC) WHERE deleted_at IS NULL",
  .createIndex "questions_deleted_at_idx" "questions" "(deleted_at)"]

/-- `backend/db/migrations/*.sql`. -/
def migrationFiles : List (String × List MigrationStmt) := [
  ("20251225233000_init.sql", initStatements),
  ("20251226195500_add_questions_deleted_at.sql", addQuestionsDeletedAtStatements)]

/-! ## The migrated database -/

def seededChoices : List ChoiceRow := [
  ⟨0x1001, 0x1, "ローマ", 0⟩, ⟨0x1002, 0x1, "アテネ", 1⟩,
  ⟨0x1003, 0x1, "カルタゴ", 2⟩, ⟨0x1004, 0x1, "アレクサンドリア", 3⟩,
  ⟨0x2001, 0x2, "エルサレム（聖地）", 0⟩, ⟨0x2002, 0x2, "カイロ", 1⟩,
  ⟨0x2003, 0x2, "コンスタンティノープル", 2⟩, ⟨0x2004, 0x2, "ロンドン", 3⟩,
  ⟨0x3001, 0x3, "コロンブス", 0⟩, ⟨0x3002, 0x3, "マゼラン", 1⟩,
  ⟨0x3003, 0x3, "ヴァスコ・ダ・ガマ", 2⟩, ⟨0x3004, 0x3, "クック", 3⟩]

def seededAnswerKeys : List AnswerKeyRow := [⟨0x1, 0x1001⟩, ⟨0x2, 0x2001⟩, ⟨0x3, 0x3003⟩]

/-- The rows of the seed inserts. -/
def seededTables (now : Timestamp) : Tables where
  users := [⟨"system"⟩]
  questions := [
    { id := 0x1, authorUserId := "system", prompt := "古代ローマの首都はどこ？"
      explanation := some "ローマは古代ローマの中心都市として知られる。"
      createdAt := now, updatedAt := now, deletedAt := none },
    { id := 0x2, authorUserId := "system"
      prompt := "中世ヨーロッパで十字軍が向かった主な目的地は？"
      explanation := some "十字軍は主にエルサレムなど聖地の奪還を目的とした。"
      createdAt := now, updatedAt := now, deletedAt := none },
    { id := 0x3, authorUserId := "system", prompt := "大航海時代にインド航路を開拓した人物は？"
      explanation := some "ヴァスコ・ダ・ガマは喜望峰を回ってインドへ到達した。"
      createdAt := now, updatedAt := now, deletedAt := none }]
  choices := seededChoices
  answerKeys := seededAnswerKeys
  attempts := []

theorem seededTables_constraints (now : Timestamp) : Constraints (seededTables now) where
  usersPkey := show (["system"] : List String).Nodup by decide
  questionsPkey := show ([0x1, 0x2, 0x3] : List Uuid).Nodup by decide
  questionsAuthor := by simp [seededTables, Relational.Refers]
  choicesPkey := show Relational.Unique ChoiceRow.id seededChoices by decide
  choicesQuestion := by simp [seededTables, seededChoices, Relational.Refers]
  choicesOrdinal := show ∀ c ∈ seededChoices, 0 ≤ c.ordinal ∧ c.ordinal ≤ 3 by decide
  choicesQuestionOrdinal := show Relational.Unique ChoiceRow.questionOrdinal seededChoices by decide
  answerKeysPkey := show Relational.Unique AnswerKeyRow.questionId seededAnswerKeys by decide
  answerKeysQuestion := by simp [seededTables, seededAnswerKeys, Relational.Refers]
  answerKeysChoice := show Relational.Refers AnswerKeyRow.choiceRef seededAnswerKeys
    ChoiceRow.idQuestion seededChoices by decide
  attemptsPkey := Relational.Unique.nil _
  attemptsUser := Relational.Refers.nil
  attemptsQuestion := Relational.Refers.nil
  attemptsChoice := Relational.Refers.nil

/-- The rows after the migrations. -/
def seeded (now : Timestamp) : Db := ⟨seededTables now, seededTables_constraints now⟩

def Cluster.empty : Cluster := ⟨Catalog.empty, Db.empty⟩

end HistoryQuiz
