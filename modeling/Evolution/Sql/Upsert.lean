import Evolution.Sql.Quote

/-! Statements that write a row, or overwrite the one that has its key. -/
namespace Evolution.Sql

/-- A value in a list of values. -/
inductive Literal where
  | null
  | bool (b : Bool)
  | int (n : Int)
  | text (s : String)
  | uuid (s : String)
  | json (s : String)
  | texts (items : List String)
  deriving DecidableEq, Repr

def Literal.sql : Literal → String
  | .null => "null"
  | .bool b => if b then "true" else "false"
  | .int n => toString n
  | .text s => quoteLiteral s
  | .uuid s => quoteLiteral s ++ "::uuid"
  | .json s => quoteLiteral s ++ "::jsonb"
  | .texts items => "array[" ++ ", ".intercalate (items.map quoteLiteral) ++ "]::text[]"

/-- A row of a table: the columns of its key come first among the columns, and `payload` names those
that are overwritten. -/
structure Upsert where
  table : String
  columns : List String
  values : List Literal
  key : List String
  payload : List String
  deriving DecidableEq, Repr

def Upsert.sql (u : Upsert) : String :=
  let columns := ", ".intercalate u.columns
  let values := ", ".intercalate (u.values.map Literal.sql)
  let key := ", ".intercalate u.key
  let assignments := ", ".intercalate
    (u.payload.map (fun c => c ++ " = excluded." ++ c) ++ ["updated_at = now()"])
  s!"insert into {u.table} ({columns})\nvalues ({values})\n" ++
    s!"on conflict ({key}) do update set {assignments};"

end Evolution.Sql
