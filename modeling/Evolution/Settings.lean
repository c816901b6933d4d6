import Evolution.Address.Percent
import Evolution.Address.Url
import Evolution.Text.Blank
import Evolution.Text.Lowercase

/-! The settings of the service, out of variables that may be set or not. -/
namespace Evolution

open Address

/-- Where a database is, and how to reach it. -/
structure DatabaseSettings where
  host : String := "localhost"
  port : Nat := 5432
  user : String := "postgres"
  password : String := ""
  database : String := "postgres"
  maxConnections : Nat := 10
  requireTls : Bool := false
  deriving DecidableEq, Repr

/-- Where records are kept. -/
inductive StoreKind where
  | postgres
  | memory
  deriving DecidableEq, Repr

inductive SettingsError where
  | missingDatabaseUrl
  | unreadableUrl
  | unsupportedScheme (scheme : String)
  | missingHost
  | missingDatabase
  | unknownStore (given : String)
  deriving DecidableEq, Repr

namespace SettingsError

/-- A variable that has to be set, not one with a bad value. -/
def isMissing : SettingsError → Bool
  | missingDatabaseUrl => true
  | _ => false

def reason : SettingsError → String
  | missingDatabaseUrl => "DATABASE_URL (required when CHANGESET_STORE=postgres)"
  | unreadableUrl => "Invalid DATABASE_URL format (expected postgresql://...)"
  | unsupportedScheme scheme => s!"Unsupported DATABASE_URL scheme '{scheme}'"
  | missingHost => "Missing host in DATABASE_URL"
  | missingDatabase => "Missing database name in DATABASE_URL"
  | unknownStore given => s!"CHANGESET_STORE must be 'postgres' or 'memory', got '{given}'"

def message (e : SettingsError) : String :=
  if e.isMissing then s!"Missing required environment variable: {e.reason}"
  else s!"Invalid configuration value: {e.reason}"

end SettingsError

structure Settings where
  host : String := "0.0.0.0"
  port : Nat := 3000
  database : Option DatabaseSettings := none
  allowedOrigins : List String := ["http://localhost:3001"]
  store : StoreKind := .memory
  bootstrap : Bool := true
  deriving DecidableEq, Repr

def StoreKind.ofText (s : String) : Except SettingsError StoreKind :=
  match Text.lower (Text.trim s) with
  | "postgres" | "postgresql" => .ok .postgres
  | "memory" => .ok .memory
  | other => .error (.unknownStore other)

/-- Anything but these words is false. -/
def isTrueText (s : String) : Bool :=
  ["1", "true", "yes", "on"].contains (Text.lower (Text.trim s))

/-- An encrypted connection is asked for by name, or needed by the host. -/
def needsTls (u : Url) (host : String) : Bool :=
  (formPairs (u.query.getD "")).any (fun (name, value) =>
      name == "sslmode" && (value == "require" || value == "verify-full")) ||
    Text.endsWith host "neon.tech"

/-- Reads where the database is. User, password and name stay percent-encoded. -/
def DatabaseSettings.ofUrl (text : String) (maxConnections : Nat) :
    Except SettingsError DatabaseSettings := do
  let some u := Url.ofText? text | throw .unreadableUrl
  if u.scheme != "postgres" && u.scheme != "postgresql" then throw (.unsupportedScheme u.scheme)
  let some host := u.host | throw .missingHost
  let database := String.ofList (u.path.toList.dropWhile (· == '/'))
  if database.isEmpty then throw .missingDatabase
  pure { host, port := u.port.getD 5432, user := u.user, password := u.password, database,
         maxConnections, requireTls := needsTls u host }

namespace Settings

/-- Four octets as they are written. -/
def ipv4Text? (s : String) : Option String :=
  (octets? s.toList).map fun _ => s

/-- What is not set, or cannot be read as an address or a number, has its default. -/
def load (given : String → Option String) : Except SettingsError Settings := do
  let maxConnections :=
    ((given "DB_MAX_CONNECTIONS").bind (Text.unsigned? 0xFFFFFFFFFFFFFFFF)).getD 10
  let database ← match given "DATABASE_URL" with
    | some url => (DatabaseSettings.ofUrl url maxConnections).map some
    | none => .ok none
  let store ← match given "CHANGESET_STORE" with
    | some text => StoreKind.ofText text
    | none => .ok (if database.isSome then .postgres else .memory)
  if store = .postgres && database.isNone then throw .missingDatabaseUrl
  let origins := (given "ALLOWED_ORIGINS").map fun s =>
    (Text.splitAll ',' s).map Text.trim
  pure
    { host := ((given "HOST").bind ipv4Text?).getD "0.0.0.0"
      port := ((given "PORT").bind (Text.unsigned? 65535)).getD 3000
      database
      allowedOrigins := origins.getD ["http://localhost:3001"]
      store
      bootstrap := ((given "CHANGESET_BOOTSTRAP").map isTrueText).getD true }

end Settings
end Evolution
