import Evolution.Database.Row

/-! The statements on the table of changesets, and those that make the tables. -/
namespace Evolution.Database

/-- The prepared queries. -/
inductive Query where
  | insert
  | select
  | selectForUpdate
  | list
  | updateStatus
  | lockStatus
  | claimStatus
  | ping
  deriving DecidableEq, Repr

def columnList : String :=
  ", ".intercalate (ChangesetColumn.all.map ChangesetColumn.name)

def Query.text : Query → String
  | insert =>
    "\n    INSERT INTO changesets (\n" ++
    "        id, scope, tenant_id, title, summary, module, desired_state,\n" ++
    "        sql, rollback_sql, impact_preview, checksum, validation_report, status, " ++
    "error_text,\n" ++
    "        created_by, created_at, updated_at\n    )\n" ++
    "    VALUES ($1, $2, $3, $4, $5, $6, $7, $8, $9, $10, $11, $12, $13, $14, $15, $16, $17)\n"
  | select => s!"SELECT {columnList} FROM changesets WHERE id = $1"
  | selectForUpdate => s!"SELECT {columnList} FROM changesets WHERE id = $1 FOR UPDATE"
  | list =>
    s!"SELECT {columnList} FROM changesets\n" ++
    "         WHERE ($1::text IS NULL OR module = $1)\n" ++
    "           AND ($2::text IS NULL OR status = $2)\n" ++
    "           AND ($3::uuid IS NULL OR tenant_id = $3)\n" ++
    "         ORDER BY created_at DESC\n         LIMIT $4"
  | updateStatus =>
    "\n    UPDATE changesets\n    SET status = $2,\n        error_text = $3,\n" ++
    "        validation_report = COALESCE($4, validation_report),\n        updated_at = $5\n" ++
    "    WHERE id = $1\n"
  | lockStatus => "SELECT status FROM changesets WHERE id = $1 FOR UPDATE"
  | claimStatus =>
    "\n    UPDATE changesets\n    SET status = $2, error_text = NULL, updated_at = $4\n" ++
    "    WHERE id = $1 AND status = $3\n"
  | ping => "SELECT 1"

/-- A statement that makes a table where there is none. -/
def createTable (table : String) (body : List String) : String :=
  s!"\n    CREATE TABLE IF NOT EXISTS {table} (\n        " ++
    ",\n        ".intercalate body ++ "\n    )\n"

def changesetsTable : String :=
  createTable "changesets"
    ["id UUID PRIMARY KEY", "scope TEXT NOT NULL DEFAULT 'global'", "tenant_id UUID",
      "title TEXT NOT NULL", "summary TEXT NOT NULL DEFAULT ''", "module TEXT NOT NULL",
      "desired_state JSONB NOT NULL", "sql JSONB NOT NULL", "rollback_sql JSONB NOT NULL",
      "impact_preview JSONB NOT NULL", "checksum TEXT NOT NULL", "validation_report JSONB",
      "status TEXT NOT NULL", "error_text TEXT", "created_by TEXT",
      "created_at TIMESTAMPTZ NOT NULL DEFAULT now()",
      "updated_at TIMESTAMPTZ NOT NULL DEFAULT now()"]

def changesetIndexes : List String :=
  ["CREATE INDEX IF NOT EXISTS idx_changesets_module ON changesets(module)",
    "CREATE INDEX IF NOT EXISTS idx_changesets_status ON changesets(status)",
    "CREATE INDEX IF NOT EXISTS idx_changesets_created_at ON changesets(created_at DESC)"]

/-- A table of scoped entries: each has an owner, and no two of one owner have the same `key`. -/
def createScopedTable (table key : String) (columns : List String) : String :=
  createTable table
    (["id BIGSERIAL PRIMARY KEY", "scope TEXT NOT NULL", "tenant_key TEXT NOT NULL DEFAULT ''",
        "tenant_id UUID", s!"{key} TEXT NOT NULL"] ++ columns ++
      ["updated_at TIMESTAMPTZ NOT NULL DEFAULT now()", s!"UNIQUE (scope, tenant_key, {key})"])

def settingsTable : String :=
  createScopedTable "public.app_settings" "key" ["value JSONB NOT NULL"]

def bucketsTable : String :=
  createScopedTable "public.storage_buckets" "name"
    ["public BOOLEAN NOT NULL DEFAULT false",
      "allowed_mime_types TEXT[] NOT NULL DEFAULT '\x7b\x7d'", "file_size_limit BIGINT"]

def remoteFunctionsTable : String :=
  createScopedTable "public.remote_function_registry" "name"
    ["route TEXT NOT NULL", "enabled BOOLEAN NOT NULL DEFAULT true",
      "version TEXT NOT NULL DEFAULT '1'"]

/-- The tables that upserts write to. -/
def targetTables : List String :=
  [settingsTable, bucketsTable, remoteFunctionsTable]

end Evolution.Database
