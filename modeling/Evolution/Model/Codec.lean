import Evolution.Json.Record
import Evolution.Model.State

/-! The JSON form of a desired state. Every part may be left out, and unknown members are passed
over. -/
namespace Evolution

open Json

def Scope.json (s : Scope) : Value :=
  .string s.text

def Scope.decode : Decoder Scope :=
  decodeEnum Scope.named?

def encodeOptionalText : Option String → Value :=
  Value.ofOption .string

def decodeOptionalText : Decoder (Option String) :=
  decodeOption decodeString

def decodeTexts : Decoder (List String) :=
  decodeList decodeString

def encodeOptionalUuid : Option Uuid → Value :=
  Value.ofOption Uuid.json

def decodeOptionalUuid : Decoder (Option Uuid) :=
  decodeOption Uuid.decode

/-- A count of 32 bits. -/
def decodeCount : Decoder Nat :=
  fun depth t => (decodeInt 0 0xFFFFFFFF depth t).map Int.toNat

def encodeCount (n : Nat) : Value :=
  .int n

/-- A whole number of 64 bits with a sign. -/
def decodeLong : Decoder Int :=
  decodeInt (-0x8000000000000000) 0x7FFFFFFFFFFFFFFF

def Column.fields : List (RecordField Column) :=
  [(field "name" (·.name) (fun v c => { c with name := v }) .string decodeString).orDefault,
   (field "type" (·.dataType) (fun v c => { c with dataType := v }) .string decodeString).orDefault,
   (field "nullable" (·.nullable) (fun v c => { c with nullable := v }) .bool decodeBool).orDefault,
   (field "unique" (·.unique) (fun v c => { c with unique := v }) .bool decodeBool).orDefault,
   (field "defaultValue" (·.defaultValue) (fun v c => { c with defaultValue := v })
     encodeOptionalText decodeOptionalText).orDefault,
   (field "referencesTable" (·.referencesTable) (fun v c => { c with referencesTable := v })
     encodeOptionalText decodeOptionalText).orDefault,
   (field "referencesColumn" (·.referencesColumn) (fun v c => { c with referencesColumn := v })
     encodeOptionalText decodeOptionalText).orDefault]

def Column.json : Column → Value :=
  writeRecord fields

def Column.decode : Decoder Column :=
  decodeRecord fields {}

def TableIndex.fields : List (RecordField TableIndex) :=
  [(field "name" (·.name) (fun v i => { i with name := v }) .string decodeString).orDefault,
   (field "expression" (·.expression) (fun v i => { i with expression := v })
     .string decodeString).orDefault,
   (field "unique" (·.unique) (fun v i => { i with unique := v }) .bool decodeBool).orDefault]

def TableIndex.json : TableIndex → Value :=
  writeRecord fields

def TableIndex.decode : Decoder TableIndex :=
  decodeRecord fields {}

def Table.fields : List (RecordField Table) :=
  [(field "name" (·.name) (fun v t => { t with name := v }) .string decodeString).orDefault,
   (field "createIfMissing" (·.createIfMissing) (fun v t => { t with createIfMissing := v })
     .bool decodeBool).orDefault,
   (field "enableRowLevelSecurity" (·.rowLevelSecurity)
     (fun v t => { t with rowLevelSecurity := v }) .bool decodeBool).orDefault,
   (field "columns" (·.columns) (fun v t => { t with columns := v })
     (fun cs => .array (cs.map Column.json)) (decodeList Column.decode)).orDefault,
   (field "indexes" (·.indexes) (fun v t => { t with indexes := v })
     (fun is => .array (is.map TableIndex.json)) (decodeList TableIndex.decode)).orDefault]

def Table.json : Table → Value :=
  writeRecord fields

def Table.decode : Decoder Table :=
  decodeRecord fields {}

def Policy.fields : List (RecordField Policy) :=
  [(field "table" (·.table) (fun v p => { p with table := v }) .string decodeString).orDefault,
   (field "name" (·.name) (fun v p => { p with name := v }) .string decodeString).orDefault,
   (field "command" (·.command) (fun v p => { p with command := v })
     (fun c => .string c.text) (decodeEnum PolicyCommand.named?)).orDefault,
   (field "roles" (·.roles) (fun v p => { p with roles := v }) .strings decodeTexts).orDefault,
   (field "using" (·.usingExpr) (fun v p => { p with usingExpr := v })
     .string decodeString).orDefault,
   (field "withCheck" (·.checkExpr) (fun v p => { p with checkExpr := v })
     .string decodeString).orDefault]

def Policy.json : Policy → Value :=
  writeRecord fields

def Policy.decode : Decoder Policy :=
  decodeRecord fields {}

def Trigger.fields : List (RecordField Trigger) :=
  [(field "table" (·.table) (fun v t => { t with table := v }) .string decodeString).orDefault,
   (field "name" (·.name) (fun v t => { t with name := v }) .string decodeString).orDefault,
   (field "timing" (·.timing) (fun v t => { t with timing := v })
     (fun x => .string x.text) (decodeEnum TriggerTiming.named?)).orDefault,
   (field "events" (·.events) (fun v t => { t with events := v })
     (fun es => .array (es.map fun e => .string e.text))
     (decodeList (decodeEnum TriggerEvent.named?))).orDefault,
   (field "functionName" (·.functionName) (fun v t => { t with functionName := v })
     .string decodeString).orDefault]

def Trigger.json : Trigger → Value :=
  writeRecord fields

def Trigger.decode : Decoder Trigger :=
  decodeRecord fields {}

def Routine.fields : List (RecordField Routine) :=
  [(field "signature" (·.signature) (fun v r => { r with signature := v })
     .string decodeString).orDefault,
   (field "returns" (·.returns) (fun v r => { r with returns := v })
     .string decodeString).orDefault,
   (field "language" (·.language) (fun v r => { r with language := v })
     .string decodeString).orDefault,
   (field "securityDefiner" (·.securityDefiner) (fun v r => { r with securityDefiner := v })
     .bool decodeBool).orDefault,
   (field "body" (·.body) (fun v r => { r with body := v }) .string decodeString).orDefault]

def Routine.json : Routine → Value :=
  writeRecord fields

def Routine.decode : Decoder Routine :=
  decodeRecord fields {}

def encodeOptionalTexts : Option (List String) → Value :=
  Value.ofOption .strings

def AuthSettings.fields : List (RecordField AuthSettings) :=
  [(field "siteUrl" (·.siteUrl) (fun v s => { s with siteUrl := v })
     encodeOptionalText decodeOptionalText).orDefault,
   (field "additionalRedirectUrls" (·.additionalRedirectUrls)
     (fun v s => { s with additionalRedirectUrls := v })
     encodeOptionalTexts (decodeOption decodeTexts)).orDefault,
   (field "jwtExpirySeconds" (·.jwtExpirySeconds) (fun v s => { s with jwtExpirySeconds := v })
     (Value.ofOption encodeCount) (decodeOption decodeCount)).orDefault,
   (field "enableSignup" (·.enableSignup) (fun v s => { s with enableSignup := v })
     (Value.ofOption .bool) (decodeOption decodeBool)).orDefault,
   (field "emailConfirmationRequired" (·.emailConfirmationRequired)
     (fun v s => { s with emailConfirmationRequired := v })
     (Value.ofOption .bool) (decodeOption decodeBool)).orDefault,
   (field "mfaEnabled" (·.mfaEnabled) (fun v s => { s with mfaEnabled := v })
     (Value.ofOption .bool) (decodeOption decodeBool)).orDefault]

def AuthSettings.json : AuthSettings → Value :=
  writeRecord fields

def AuthSettings.decode : Decoder AuthSettings :=
  decodeRecord fields {}

def ApiSettings.fields : List (RecordField ApiSettings) :=
  [(field "exposedSchemas" (·.exposedSchemas) (fun v s => { s with exposedSchemas := v })
     encodeOptionalTexts (decodeOption decodeTexts)).orDefault,
   (field "extraSearchPath" (·.extraSearchPath) (fun v s => { s with extraSearchPath := v })
     encodeOptionalTexts (decodeOption decodeTexts)).orDefault,
   (field "maxRows" (·.maxRows) (fun v s => { s with maxRows := v })
     (Value.ofOption encodeCount) (decodeOption decodeCount)).orDefault,
   (field "corsAllowedOrigins" (·.corsAllowedOrigins)
     (fun v s => { s with corsAllowedOrigins := v })
     encodeOptionalTexts (decodeOption decodeTexts)).orDefault]

def ApiSettings.json : ApiSettings → Value :=
  writeRecord fields

def ApiSettings.decode : Decoder ApiSettings :=
  decodeRecord fields {}

def Preference.fields : List (RecordField Preference) :=
  [(field "key" (·.key) (fun v p => { p with key := v }) .string decodeString).orDefault,
   (field "value" (·.value) (fun v p => { p with value := v }) id decodeValue).orDefault]

def Preference.json : Preference → Value :=
  writeRecord fields

def Preference.decode : Decoder Preference :=
  decodeRecord fields {}

def Bucket.fields : List (RecordField Bucket) :=
  [(field "scope" (·.scope) (fun v b => { b with scope := v }) Scope.json Scope.decode).orDefault,
   (field "tenantId" (·.tenantId) (fun v b => { b with tenantId := v })
     encodeOptionalUuid decodeOptionalUuid).orDefault,
   (field "name" (·.name) (fun v b => { b with name := v }) .string decodeString).orDefault,
   (field "allowedMimeTypes" (·.allowedMimeTypes) (fun v b => { b with allowedMimeTypes := v })
     .strings decodeTexts).orDefault,
   (field "fileSizeLimitBytes" (·.fileSizeLimitBytes)
     (fun v b => { b with fileSizeLimitBytes := v })
     (Value.ofOption .int) (decodeOption decodeLong)).orDefault,
   (field "public" (·.isPublic) (fun v b => { b with isPublic := v }) .bool decodeBool).orDefault]

def Bucket.json : Bucket → Value :=
  writeRecord fields

def Bucket.decode : Decoder Bucket :=
  decodeRecord fields {}

def RemoteFunction.fields : List (RecordField RemoteFunction) :=
  [(field "scope" (·.scope) (fun v f => { f with scope := v }) Scope.json Scope.decode).orDefault,
   (field "tenantId" (·.tenantId) (fun v f => { f with tenantId := v })
     encodeOptionalUuid decodeOptionalUuid).orDefault,
   (field "name" (·.name) (fun v f => { f with name := v }) .string decodeString).orDefault,
   (field "route" (·.route) (fun v f => { f with route := v }) .string decodeString).orDefault,
   (field "enabled" (·.enabled) (fun v f => { f with enabled := v }) .bool decodeBool).orDefault,
   (field "version" (·.version) (fun v f => { f with version := v })
     .string decodeString).orDefault]

def RemoteFunction.json : RemoteFunction → Value :=
  writeRecord fields

def RemoteFunction.decode : Decoder RemoteFunction :=
  decodeRecord fields {}

def DesiredState.fields : List (RecordField DesiredState) :=
  [(field "tables" (·.tables) (fun v s => { s with tables := v })
     (fun xs => .array (xs.map Table.json)) (decodeList Table.decode)).orDefault,
   (field "policies" (·.policies) (fun v s => { s with policies := v })
     (fun xs => .array (xs.map Policy.json)) (decodeList Policy.decode)).orDefault,
   (field "triggers" (·.triggers) (fun v s => { s with triggers := v })
     (fun xs => .array (xs.map Trigger.json)) (decodeList Trigger.decode)).orDefault,
   (field "functions" (·.functions) (fun v s => { s with functions := v })
     (fun xs => .array (xs.map Routine.json)) (decodeList Routine.decode)).orDefault,
   (field "authSettings" (·.authSettings) (fun v s => { s with authSettings := v })
     AuthSettings.json AuthSettings.decode).orDefault,
   (field "storageBuckets" (·.buckets) (fun v s => { s with buckets := v })
     (fun xs => .array (xs.map Bucket.json)) (decodeList Bucket.decode)).orDefault,
   (field "remoteFunctions" (·.remoteFunctions) (fun v s => { s with remoteFunctions := v })
     (fun xs => .array (xs.map RemoteFunction.json)) (decodeList RemoteFunction.decode)).orDefault,
   (field "apiSettings" (·.apiSettings) (fun v s => { s with apiSettings := v })
     ApiSettings.json ApiSettings.decode).orDefault,
   (field "preferences" (·.preferences) (fun v s => { s with preferences := v })
     (fun xs => .array (xs.map Preference.json)) (decodeList Preference.decode)).orDefault]

def DesiredState.json : DesiredState → Value :=
  writeRecord fields

def DesiredState.decode : Decoder DesiredState :=
  decodeRecord fields {}

end Evolution
