import Evolution.Json.Value
import Evolution.Model.Scope
import Evolution.Text.Blank
import Evolution.Text.Search

/-! What a caller wants a database to have: tables, policies, triggers, functions, settings and
registrations. -/
namespace Evolution

structure Column where
  name : String := ""
  dataType : String := "text"
  nullable : Bool := true
  unique : Bool := false
  defaultValue : Option String := none
  referencesTable : Option String := none
  referencesColumn : Option String := none

structure TableIndex where
  name : String := ""
  /-- The list of columns, or an expression, as it stands inside the parentheses. -/
  expression : String := ""
  unique : Bool := false

/-- A table; its name may carry a schema. -/
structure Table where
  name : String := ""
  createIfMissing : Bool := false
  rowLevelSecurity : Bool := false
  columns : List Column := []
  indexes : List TableIndex := []

/-- The columns with a name; the others are passed over. -/
def Table.namedColumns (t : Table) : List Column :=
  t.columns.filter fun c => !(Text.trim c.name).isEmpty

inductive PolicyCommand where
  | select
  | insert
  | update
  | delete
  | all
  deriving DecidableEq, Repr

def PolicyCommand.text : PolicyCommand → String
  | .select => "select"
  | .insert => "insert"
  | .update => "update"
  | .delete => "delete"
  | .all => "all"

def PolicyCommand.named? : String → Option PolicyCommand
  | "select" => some .select
  | "insert" => some .insert
  | "update" => some .update
  | "delete" => some .delete
  | "all" => some .all
  | _ => none

/-- Which rows of a table the roles may see or write. -/
structure Policy where
  table : String := ""
  name : String := ""
  command : PolicyCommand := .all
  roles : List String := []
  usingExpr : String := ""
  checkExpr : String := ""

inductive TriggerTiming where
  | before
  | after
  deriving DecidableEq, Repr

def TriggerTiming.text : TriggerTiming → String
  | .before => "before"
  | .after => "after"

def TriggerTiming.sql : TriggerTiming → String
  | .before => "BEFORE"
  | .after => "AFTER"

def TriggerTiming.named? : String → Option TriggerTiming
  | "before" => some .before
  | "after" => some .after
  | _ => none

inductive TriggerEvent where
  | insert
  | update
  | delete
  deriving DecidableEq, Repr

def TriggerEvent.text : TriggerEvent → String
  | .insert => "insert"
  | .update => "update"
  | .delete => "delete"

def TriggerEvent.sql : TriggerEvent → String
  | .insert => "INSERT"
  | .update => "UPDATE"
  | .delete => "DELETE"

def TriggerEvent.named? : String → Option TriggerEvent
  | "insert" => some .insert
  | "update" => some .update
  | "delete" => some .delete
  | _ => none

structure Trigger where
  table : String := ""
  name : String := ""
  timing : TriggerTiming := .before
  events : List TriggerEvent := []
  functionName : String := ""

/-- The function a trigger calls, without an empty list of arguments at its end. -/
def Trigger.function (t : Trigger) : String :=
  let name := Text.trim t.functionName
  match Text.dropEnding? name "()" with
  | some bare => Text.trimEnd bare
  | none => name

/-- A function of the database; its signature is the name with the list of arguments. -/
structure Routine where
  signature : String := ""
  returns : String := "void"
  language : String := "plpgsql"
  securityDefiner : Bool := false
  body : String := ""

/-- The signature up to the list of arguments. -/
def Routine.name (r : Routine) : String :=
  let signature := Text.trim r.signature
  match Text.splitFirst '(' signature with
  | some (name, _) => Text.trim name
  | none => signature

/-- Each field that is there is one setting. -/
structure AuthSettings where
  siteUrl : Option String := none
  additionalRedirectUrls : Option (List String) := none
  jwtExpirySeconds : Option Nat := none
  enableSignup : Option Bool := none
  emailConfirmationRequired : Option Bool := none
  mfaEnabled : Option Bool := none
  deriving DecidableEq, Repr

def AuthSettings.isEmpty (s : AuthSettings) : Bool :=
  s == {}

/-- Each field that is there is one setting. -/
structure ApiSettings where
  exposedSchemas : Option (List String) := none
  extraSearchPath : Option (List String) := none
  maxRows : Option Nat := none
  corsAllowedOrigins : Option (List String) := none
  deriving DecidableEq, Repr

def ApiSettings.isEmpty (s : ApiSettings) : Bool :=
  s == {}

/-- A key of the caller's own with any value. -/
structure Preference where
  key : String := ""
  value : Json.Value := .null

structure Bucket where
  scope : Scope := .global
  tenantId : Option Uuid := none
  name : String := ""
  allowedMimeTypes : List String := []
  fileSizeLimitBytes : Option Int := none
  isPublic : Bool := false

structure RemoteFunction where
  scope : Scope := .global
  tenantId : Option Uuid := none
  name : String := ""
  route : String := ""
  enabled : Bool := true
  version : String := "1"

structure DesiredState where
  tables : List Table := []
  policies : List Policy := []
  triggers : List Trigger := []
  functions : List Routine := []
  authSettings : AuthSettings := {}
  buckets : List Bucket := []
  remoteFunctions : List RemoteFunction := []
  apiSettings : ApiSettings := {}
  preferences : List Preference := []

/-- Nothing in it that could ever become a statement. -/
def DesiredState.isEmpty (s : DesiredState) : Bool :=
  s.tables.isEmpty && s.policies.isEmpty && s.triggers.isEmpty && s.functions.isEmpty &&
    s.authSettings.isEmpty && s.buckets.isEmpty && s.remoteFunctions.isEmpty &&
    s.apiSettings.isEmpty && s.preferences.isEmpty

end Evolution
