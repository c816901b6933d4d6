import Evolution.Model.State
import Evolution.Text.Lowercase

/-! Checks on a desired state that need no database: names that are required, and columns that come
twice. -/
namespace Evolution

/-- What is wrong with a desired state. Positions count from one. -/
inductive ModelError where
  | tableUnnamed (table : Nat)
  | columnUnnamed (table : Nat) (tableName : String) (column : Nat)
  | columnRepeated (table : Nat) (tableName : String) (column : String)
  | policyIncomplete (policy : Nat)
  | triggerIncomplete (trigger : Nat)
  | functionUnsigned (function : Nat)
  deriving DecidableEq, Repr

/-- A table by its position, and by its name if it has one. -/
def tableLabel (position : Nat) (name : String) : String :=
  if name.isEmpty then s!"Table #{position}" else s!"Table #{position} ({name})"

def ModelError.message : ModelError → String
  | tableUnnamed n => s!"Table #{n}: name is required"
  | columnUnnamed n table column => s!"{tableLabel n table}: column #{column} name is required"
  | columnRepeated n table column =>
    s!"{tableLabel n table}: duplicate column name '{column}'"
  | policyIncomplete n => s!"Policy #{n}: table and policy name are required"
  | triggerIncomplete n => s!"Trigger #{n}: table, trigger name and function are required"
  | functionUnsigned n => s!"Function #{n}: signature is required when a body is provided"

def isBlankText (s : String) : Bool :=
  (Text.trim s).isEmpty

/-- Columns are the same if their trimmed names are, whatever the case. -/
def Column.key (c : Column) : String :=
  Text.lower (Text.trim c.name)

/-- Walks the columns from `position` on. `seen` holds the keys met so far and `reported` those that
have been found twice: a third column of a key adds nothing. -/
def columnErrors (table : Nat) (tableName : String) (position : Nat) (seen reported : List String) :
    List Column → List ModelError
  | [] => []
  | c :: rest =>
    if isBlankText c.name then
      .columnUnnamed table tableName position ::
        columnErrors table tableName (position + 1) seen reported rest
    else if !seen.contains c.key then
      columnErrors table tableName (position + 1) (c.key :: seen) reported rest
    else if !reported.contains c.key then
      .columnRepeated table tableName (Text.trim c.name) ::
        columnErrors table tableName (position + 1) seen (c.key :: reported) rest
    else columnErrors table tableName (position + 1) seen reported rest

def Table.errors (t : Table) (position : Nat) : List ModelError :=
  let name := Text.trim t.name
  (if name.isEmpty then [.tableUnnamed position] else []) ++
    columnErrors position name 1 [] [] t.columns

def Policy.errors (p : Policy) (position : Nat) : List ModelError :=
  if isBlankText p.table || isBlankText p.name then [.policyIncomplete position] else []

/-- A trigger without events is passed over. -/
def Trigger.errors (t : Trigger) (position : Nat) : List ModelError :=
  if t.events.isEmpty then []
  else if isBlankText t.table || isBlankText t.name || t.function.isEmpty then
    [.triggerIncomplete position]
  else []

def Routine.errors (r : Routine) (position : Nat) : List ModelError :=
  if !isBlankText r.body && isBlankText r.signature then [.functionUnsigned position] else []

/-- The errors of each item under its position, counted from one. -/
def positionedErrors {α : Type} (errors : α → Nat → List ModelError) (items : List α) :
    List ModelError :=
  (items.zipIdx 1).flatMap fun (item, position) => errors item position

def DesiredState.errors (s : DesiredState) : List ModelError :=
  positionedErrors Table.errors s.tables ++ positionedErrors Policy.errors s.policies ++
    positionedErrors Trigger.errors s.triggers ++ positionedErrors Routine.errors s.functions

end Evolution
