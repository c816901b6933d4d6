import Evolution.Text.Search

/-! Quoting of names and texts in SQL. A quoted name keeps only letters, digits and underscores of
ASCII, so nothing in it can end it. -/
namespace Evolution.Sql

def isNameChar (c : Char) : Bool :=
  c.isAlphanum || c == '_'

/-- What a name becomes between its quotes: never empty, and every other character an underscore. -/
def nameChars (cs : List Char) : List Char :=
  if cs.isEmpty then ['_'] else cs.map fun c => if isNameChar c then c else '_'

def quoteIdentifier (name : String) : String :=
  String.ofList ('"' :: nameChars name.toList ++ ['"'])

/-- Schema and object, when the first dot has something on both sides. -/
def schemaAndObject? (name : String) : Option (String × String) :=
  (Text.splitFirst '.' name).filter fun (schema, object) => !schema.isEmpty && !object.isEmpty

/-- A name that may carry its schema. Further dots belong to the object. -/
def quoteQualified (name : String) : String :=
  match schemaAndObject? name with
  | some (schema, object) => quoteIdentifier schema ++ "." ++ quoteIdentifier object
  | none => quoteIdentifier name

/-- The quoted schema of a name with its dot; nothing for a name without one. -/
def schemaQualifier (name : String) : String :=
  match schemaAndObject? name with
  | some (schema, _) => quoteIdentifier schema ++ "."
  | none => ""

/-- Every quote in the text is written twice. -/
def doubleQuotes : List Char → List Char
  | [] => []
  | c :: rest => if c = '\'' then '\'' :: '\'' :: doubleQuotes rest else c :: doubleQuotes rest

def quoteLiteral (text : String) : String :=
  String.ofList ('\'' :: doubleQuotes text.toList ++ ['\''])

end Evolution.Sql
