import Evolution.Text.Search

/-! Statements and how each is undone. Undoing goes backwards: the last statement is undone
first. -/
namespace Evolution

/-- How a statement is undone: not at all, by a statement, or by hand. -/
inductive Inverse where
  | nothing
  | statement (sql : String)
  | manual (object reason : String)
  deriving DecidableEq, Repr

namespace Inverse

/-- A change that has to be undone by hand leaves a comment of one line in the rollback. -/
def placeholder (object reason : String) : String :=
  "-- manual rollback required for function " ++ Text.replaceChar '\n' " " object ++ ": " ++ reason

def sql? : Inverse → Option String
  | nothing => none
  | statement sql => some sql
  | manual object reason => some (placeholder object reason)

end Inverse

/-- The statements that undo a sequence of changes. -/
def rollback (inverses : List Inverse) : List String :=
  (inverses.filterMap Inverse.sql?).reverse

/-- A forward statement with its inverse. -/
structure Change where
  forward : String
  inverse : Inverse
  deriving DecidableEq, Repr

end Evolution
