import Evolution.Changeset.Codec

/-! What clients send: changesets to be made, and reasons to give one up. -/
namespace Evolution

open Json

/-- A field and what is wrong with it. -/
structure FieldError where
  field : String
  messages : List String
  deriving DecidableEq, Repr

/-- A line for each field with anything wrong. -/
def FieldError.report (errors : List FieldError) : String :=
  let line (e : FieldError) : String := e.field ++ ": " ++ ", ".intercalate e.messages
  "\n".intercalate (errors.map line)

/-- The messages whose conditions are not met. -/
def unmet (conditions : List (Bool × String)) : List String :=
  (conditions.filter fun (met, _) => !met).map (·.2)

def errorsOf (fields : List (String × List (Bool × String))) : List FieldError :=
  (fields.map fun (field, conditions) => ⟨field, unmet conditions⟩).filter fun e =>
    !e.messages.isEmpty

/-- The number of characters is in a range. -/
def hasLength (low high : Nat) (s : String) : Bool :=
  low ≤ s.length && s.length ≤ high

def isLowerLetter (c : Char) : Bool :=
  'a' ≤ c && c ≤ 'z'

/-- A small letter, then small letters, digits, underscores and hyphens. -/
def isModuleName (s : String) : Bool :=
  match s.toList with
  | [] => false
  | c :: rest =>
    isLowerLetter c && rest.all fun d => isLowerLetter d || d.isDigit || d = '_' || d = '-'

/-- A request with its author, as it was sent. -/
structure Submission where
  moduleName : String := ""
  title : String := ""
  summary : Option String := none
  scope : Scope := .global
  tenantId : Option Uuid := none
  desiredState : DesiredState := {}
  createdBy : Option String := none

namespace Submission

def fields : List (RecordField Submission) :=
  [field "module" (·.moduleName) (fun v s => { s with moduleName := v }) .string decodeString,
   field "title" (·.title) (fun v s => { s with title := v }) .string decodeString,
   (field "summary" (·.summary) (fun v s => { s with summary := v })
     encodeOptionalText decodeOptionalText).orAbsent,
   (field "scope" (·.scope) (fun v s => { s with scope := v }) Scope.json Scope.decode).orDefault,
   (field "tenantId" (·.tenantId) (fun v s => { s with tenantId := v })
     encodeOptionalUuid decodeOptionalUuid).orAbsent,
   (field "desiredState" (·.desiredState) (fun v s => { s with desiredState := v })
     DesiredState.json DesiredState.decode).orDefault,
   (field "createdBy" (·.createdBy) (fun v s => { s with createdBy := v })
     encodeOptionalText decodeOptionalText).orAbsent]

def decode : Decoder Submission :=
  decodeRecord fields {}

/-- What is wrong with a submission, by the names of the fields. -/
def errors (s : Submission) : List FieldError :=
  errorsOf
    [("module",
        [(hasLength 1 64 s.moduleName, "Module must be between 1 and 64 characters"),
          (isModuleName s.moduleName, "Module must start with a lowercase letter and contain " ++
            "only lowercase letters, digits, '_' or '-'")]),
      ("summary",
        [((s.summary.all (hasLength 0 2000)), "Summary must be at most 2000 characters")]),
      ("title", [(hasLength 1 200 s.title, "Title must be between 1 and 200 characters")])]

/-- The request to be compiled. A blank summary is none. -/
def request (s : Submission) : ChangeRequest where
  moduleName := s.moduleName
  title := s.title
  summary := s.summary.filter fun t => (Text.nonBlank? t).isSome
  scope := s.scope
  tenantId := s.tenantId
  desiredState := s.desiredState

end Submission

/-- Why a changeset is given up. -/
structure Abandonment where
  reason : String := ""

namespace Abandonment

def fields : List (RecordField Abandonment) :=
  [field "reason" (·.reason) (fun v a => { a with reason := v }) .string decodeString]

def decode : Decoder Abandonment :=
  decodeRecord fields {}

def errors (a : Abandonment) : List FieldError :=
  errorsOf [("reason", [(hasLength 1 2000 a.reason, "Reason is required")])]

end Abandonment
end Evolution
