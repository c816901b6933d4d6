import Evolution.Proofs.Sql.StringToken
import Evolution.Sql.Upsert
import Mathlib.Data.List.Basic

/-! A statement that writes a row, as the database reads it: its table, the columns, one value for
each of them, and the columns that tell whether the row is there already. The reader knows nothing
of what was written; it goes on from where the last value ends, and a value that went on too far, or
not far enough, would leave it without the comma or the parenthesis it waits for. -/
namespace Evolution.Sql

/-! ## Words, names and lists -/

/-- What stands behind a word, if that is what comes first. -/
def readWord? (word cs : List Char) : Option (List Char) :=
  if word <+: cs then some (cs.drop word.length) else none

/-- As many characters of a kind as come first, but at least one. -/
def readWhile? (kind : Char → Bool) (cs : List Char) : Option (List Char × List Char) :=
  match cs.takeWhile kind with
  | [] => none
  | taken => some (taken, cs.dropWhile kind)

def readName? (cs : List Char) : Option (String × List Char) :=
  (readWhile? isNameChar cs).map fun (name, behind) => (.ofList name, behind)

/-- One item after the other, as long as a comma and a blank come next. -/
def readItems? {α : Type} (item : List Char → Option (α × List Char)) (cs : List Char) :
    Option (List α × List Char) :=
  match item cs with
  | none => none
  | some (x, ',' :: ' ' :: more) =>
    -- an item that takes nothing has no other behind it
    if more.length < cs.length then
      (readItems? item more).map fun (items, behind) => (x :: items, behind)
    else none
  | some (x, behind) => some ([x], behind)
termination_by cs.length

/-- What stands behind an item: a comma, or the end of the list. -/
inductive Stops : List Char → Prop where
  | comma (cs : List Char) : Stops (',' :: cs)
  | parenthesis (cs : List Char) : Stops (')' :: cs)
  | bracket (cs : List Char) : Stops (']' :: cs)

section items

variable {α : Type} {word cs ds behind : List Char}

theorem readWord?_append (word cs : List Char) : readWord? word (word ++ cs) = some cs := by
  rw [readWord?, if_pos (List.prefix_append word cs), List.drop_left]

theorem readWord?_eq_none {c : Char} (hw : word.head? = some c) (hc : cs.head? ≠ some c) :
    readWord? word cs = none := by
  refine if_neg ?_
  rintro ⟨behind, rfl⟩
  obtain ⟨rest, rfl⟩ := List.head?_eq_some_iff.mp hw
  exact hc rfl

theorem head?_append_ne {c d : Char} (hw : word.head? = some d) (hc : c ≠ d) :
    (word ++ behind).head? ≠ some c := by
  obtain ⟨rest, rfl⟩ := List.head?_eq_some_iff.mp hw
  exact fun h => hc (Option.some.inj h).symm

theorem readWhile?_append {kind : Char → Bool} {c : Char} (hne : ds ≠ [])
    (hds : ∀ d ∈ ds, kind d = true) (hc : kind c = false) (cs : List Char) :
    readWhile? kind (ds ++ c :: cs) = some (ds, c :: cs) := by
  have htake : (ds ++ c :: cs).takeWhile kind = ds := by
    rw [List.takeWhile_append_of_pos hds, List.takeWhile_cons_of_neg (by simp [hc]),
      List.append_nil]
  have hdrop : (ds ++ c :: cs).dropWhile kind = c :: cs := by
    rw [List.dropWhile_append_of_pos hds, List.dropWhile_cons_of_neg (by simp [hc])]
  rw [readWhile?, htake, hdrop]
  cases ds with
  | nil => exact absurd rfl hne
  | cons d ds => rfl

theorem Stops.not_name (h : Stops behind) : ∃ c cs, behind = c :: cs ∧ isNameChar c = false := by
  cases h <;> exact ⟨_, _, rfl, by decide⟩

theorem readItems?_last {item : List Char → Option (α × List Char)} {x : α}
    (h : item cs = some (x, behind)) (hc : behind.head? ≠ some ',') :
    readItems? item cs = some ([x], behind) := by
  rw [readItems?, h]
  split <;> rename_i heq <;> cases heq
  · exact absurd rfl hc
  · rfl

theorem readItems?_more {item : List Char → Option (α × List Char)} {x : α}
    (h : item cs = some (x, ',' :: ' ' :: behind)) (hl : behind.length < cs.length) :
    readItems? item cs =
      (readItems? item behind).map fun (items, behind) => (x :: items, behind) := by
  rw [readItems?, h]
  exact if_pos hl

/-- Items are read as they were written, if each one is read in front of what may follow it. -/
theorem readItems?_intercalate {item : List Char → Option (α × List Char)} {write : α → List Char}
    {items : List α} (hne : items ≠ [])
    (h : ∀ x ∈ items, ∀ behind, Stops behind → item (write x ++ behind) = some (x, behind))
    (hb : Stops behind) (hc : behind.head? ≠ some ',') :
    readItems? item (", ".toList.intercalate (items.map write) ++ behind) =
      some (items, behind) := by
  induction items with
  | nil => exact absurd rfl hne
  | cons x items ih =>
    obtain ⟨hx, h⟩ := List.forall_mem_cons.mp h
    cases items with
    | nil =>
      rw [List.map_singleton, List.intercalate_singleton]
      exact readItems?_last (hx behind hb) hc
    | cons y items =>
      have htext : ", ".toList.intercalate ((x :: y :: items).map write) ++ behind =
          write x ++ ',' :: ' ' ::
            (", ".toList.intercalate ((y :: items).map write) ++ behind) := by
        simp [List.intercalate_cons_cons]
      rw [htext, readItems?_more (hx _ (.comma _)) (by simp; omega),
        ih (List.cons_ne_nil y items) h]
      rfl

end items

/-! ## Values -/

def readNat? (cs : List Char) : Option (Nat × List Char) :=
  (readWhile? Char.isDigit cs).map fun (digits, behind) => (Nat.ofDigitChars 10 digits 0, behind)

def readInt? : List Char → Option (Int × List Char)
  | '-' :: cs => (readNat? cs).map fun (n, behind) => (-n, behind)
  | cs => (readNat? cs).map fun (n, behind) => (n, behind)

/-- A literal, and what it is cast to. -/
def readCast? (cs : List Char) : Option (Literal × List Char) := do
  let (text, cs) ← readText? cs
  match readWord? "::uuid".toList cs, readWord? "::jsonb".toList cs with
  | some behind, _ => some (.uuid text, behind)
  | none, some behind => some (.json text, behind)
  | none, none => some (.text text, cs)

def readTexts? (cs : List Char) : Option (Literal × List Char) := do
  let cs ← readWord? "array[".toList cs
  match readWord? "]::text[]".toList cs with
  | some behind => some (.texts [], behind)
  | none => do
    let (items, cs) ← readItems? readText? cs
    let behind ← readWord? "]::text[]".toList cs
    some (.texts items, behind)

def readValue? (cs : List Char) : Option (Literal × List Char) :=
  readCast? cs <|> readTexts? cs <|>
    ((readWord? "null".toList cs).map fun behind => (.null, behind)) <|>
    ((readWord? "true".toList cs).map fun behind => (.bool true, behind)) <|>
    ((readWord? "false".toList cs).map fun behind => (.bool false, behind)) <|>
    ((readInt? cs).map fun (n, behind) => (.int n, behind))

section values

variable {c : Char} {cs behind : List Char}

theorem Stops.head?_ne (hb : Stops behind) (hc : c ∉ [',', ')', ']']) : behind.head? ≠ some c := by
  intro h
  cases hb <;> cases h <;> simp at hc

theorem readCast?_eq_none (h : cs.head? ≠ some '\'') : readCast? cs = none := by
  have htext : readText? cs = none := by
    unfold readText?
    split
    · exact absurd rfl h
    · rfl
  rw [readCast?, htext]
  rfl

theorem readCast?_text (s : String) (hb : Stops behind) :
    readCast? ((quoteLiteral s).toList ++ behind) = some (.text s, behind) := by
  rw [readCast?, readText?_quoteLiteral s (hb.head?_ne (by decide))]
  have hcolon : behind.head? ≠ some ':' := hb.head?_ne (by decide)
  simp only [Option.bind_eq_bind, Option.bind_some]
  rw [readWord?_eq_none rfl hcolon, readWord?_eq_none rfl hcolon]

theorem readCast?_uuid (s : String) (behind : List Char) :
    readCast? ((quoteLiteral s).toList ++ ("::uuid".toList ++ behind)) =
      some (.uuid s, behind) := by
  rw [readCast?, readText?_quoteLiteral s (by simp)]
  simp only [Option.bind_eq_bind, Option.bind_some, readWord?_append]

theorem readCast?_json (s : String) (behind : List Char) :
    readCast? ((quoteLiteral s).toList ++ ("::jsonb".toList ++ behind)) =
      some (.json s, behind) := by
  have hu : readWord? "::uuid".toList ("::jsonb".toList ++ behind) = none := rfl
  rw [readCast?, readText?_quoteLiteral s (by simp)]
  simp only [Option.bind_eq_bind, Option.bind_some, readWord?_append, hu]

theorem readTexts?_eq_none (h : cs.head? ≠ some 'a') : readTexts? cs = none := by
  rw [readTexts?, readWord?_eq_none rfl h]
  rfl

theorem readTexts?_texts (items : List String) (behind : List Char) :
    readTexts? ((Literal.texts items).sql.toList ++ behind) = some (.texts items, behind) := by
  have hsql : (Literal.texts items).sql.toList ++ behind =
      "array[".toList ++ (", ".toList.intercalate (items.map fun s => (quoteLiteral s).toList) ++
        ("]::text[]".toList ++ behind)) := by
    simp [Literal.sql, String.toList_intercalate, Function.comp_def]
  rw [hsql, readTexts?, readWord?_append, Option.bind_eq_bind, Option.bind_some]
  cases items with
  | nil => rw [List.map_nil, List.intercalate_nil, List.nil_append, readWord?_append]
  | cons s items =>
    have hclosed : readWord? "]::text[]".toList
        (", ".toList.intercalate ((s :: items).map fun s => (quoteLiteral s).toList) ++
          ("]::text[]".toList ++ behind)) = none := by
      refine readWord?_eq_none (c := ']') rfl ?_
      cases items <;> simp [quoteLiteral, List.intercalate_cons_cons]
    have hitems : readItems? readText?
        (", ".toList.intercalate ((s :: items).map fun s => (quoteLiteral s).toList) ++
          ("]::text[]".toList ++ behind)) = some (s :: items, "]::text[]".toList ++ behind) :=
      readItems?_intercalate (List.cons_ne_nil s items)
        (fun x _ rest hrest => readText?_quoteLiteral x (hrest.head?_ne (by decide)))
        (.bracket _) (by simp)
    rw [hclosed]
    simp only [Option.bind_eq_bind, hitems, Option.bind_some, readWord?_append]

theorem isDigit_of_mem_toDigits {n : Nat} (h : c ∈ Nat.toDigits 10 n) : c.isDigit = true :=
  Nat.isDigit_of_mem_toDigits (by decide) (by decide) h

theorem head?_toDigits_ne (n : Nat) (hc : c.isDigit = false) :
    (Nat.toDigits 10 n ++ behind).head? ≠ some c := by
  rw [List.head?_append_of_ne_nil _ Nat.toDigits_ne_nil]
  intro h
  cases hc.symm.trans (isDigit_of_mem_toDigits (List.mem_of_head? h))

theorem toList_toString_negSucc (n : Nat) :
    (toString (Int.negSucc n)).toList = '-' :: Nat.toDigits 10 (n + 1) := by
  change ("-" ++ (n + 1).repr).toList = _
  rw [String.toList_append, Nat.toList_repr]
  rfl

/-- A number begins with a digit or its sign. -/
theorem head?_toString_ne (n : Int) (hc : c ≠ '-') (hd : c.isDigit = false) :
    ((toString n).toList ++ behind).head? ≠ some c := by
  cases n with
  | ofNat n =>
    have ht : (toString (Int.ofNat n)).toList = Nat.toDigits 10 n := Nat.toList_repr
    rw [ht]
    exact head?_toDigits_ne n hd
  | negSucc n =>
    rw [toList_toString_negSucc]
    rintro ⟨⟩
    exact hc rfl

theorem readNat?_toDigits (n : Nat) (hb : Stops behind) :
    readNat? (Nat.toDigits 10 n ++ behind) = some (n, behind) := by
  obtain ⟨c, cs, rfl, hc⟩ : ∃ c cs, behind = c :: cs ∧ c.isDigit = false := by
    cases hb <;> exact ⟨_, _, rfl, by decide⟩
  rw [readNat?, readWhile?_append Nat.toDigits_ne_nil (fun _ => isDigit_of_mem_toDigits) hc]
  simp only [Option.map_some, Nat.ofDigitChars_ten_toDigits]

theorem readInt?_unsigned (h : cs.head? ≠ some '-') :
    readInt? cs = (readNat? cs).map fun (n, behind) => (n, behind) := by
  unfold readInt?
  split
  · exact absurd rfl h
  · rfl

theorem readInt?_toString (n : Int) (hb : Stops behind) :
    readInt? ((toString n).toList ++ behind) = some (n, behind) := by
  cases n with
  | ofNat n =>
    have ht : (toString (Int.ofNat n)).toList = Nat.toDigits 10 n := Nat.toList_repr
    rw [ht, readInt?_unsigned (head?_toDigits_ne n (by decide)), readNat?_toDigits n hb]
    rfl
  | negSucc n =>
    rw [toList_toString_negSucc, List.cons_append, readInt?, readNat?_toDigits _ hb]
    rfl

/-- Every value is read as it was written, whatever its texts hold. -/
theorem readValue?_sql (l : Literal) (hb : Stops behind) :
    readValue? (l.sql.toList ++ behind) = some (l, behind) := by
  cases l with
  | text s =>
    rw [readValue?, Literal.sql, readCast?_text s hb]
    rfl
  | uuid s =>
    rw [readValue?, Literal.sql, String.toList_append, List.append_assoc, readCast?_uuid]
    rfl
  | json s =>
    rw [readValue?, Literal.sql, String.toList_append, List.append_assoc, readCast?_json]
    rfl
  | texts items =>
    have hcast : readCast? ((Literal.texts items).sql.toList ++ behind) = none :=
      readCast?_eq_none (by simp [Literal.sql])
    rw [readValue?, hcast, readTexts?_texts]
    rfl
  | null =>
    rw [readValue?, Literal.sql, readCast?_eq_none (head?_append_ne rfl (by decide)),
      readTexts?_eq_none (head?_append_ne rfl (by decide)), readWord?_append]
    rfl
  | bool b =>
    cases b with
    | true =>
      have hsql : (Literal.bool true).sql = "true" := rfl
      rw [readValue?, hsql, readCast?_eq_none (head?_append_ne rfl (by decide)),
        readTexts?_eq_none (head?_append_ne rfl (by decide)),
        readWord?_eq_none (c := 'n') rfl (head?_append_ne rfl (by decide)), readWord?_append]
      rfl
    | false =>
      have hsql : (Literal.bool false).sql = "false" := rfl
      rw [readValue?, hsql, readCast?_eq_none (head?_append_ne rfl (by decide)),
        readTexts?_eq_none (head?_append_ne rfl (by decide)),
        readWord?_eq_none (c := 'n') rfl (head?_append_ne rfl (by decide)),
        readWord?_eq_none (c := 't') rfl (head?_append_ne rfl (by decide)), readWord?_append]
      rfl
  | int n =>
    have hne (c : Char) (hc : c ≠ '-') (hd : c.isDigit = false) :
        ((Literal.int n).sql.toList ++ behind).head? ≠ some c :=
      head?_toString_ne n hc hd
    rw [readValue?, readCast?_eq_none (hne _ (by decide) (by decide)),
      readTexts?_eq_none (hne _ (by decide) (by decide)),
      readWord?_eq_none rfl (hne 'n' (by decide) (by decide)),
      readWord?_eq_none rfl (hne 't' (by decide) (by decide)),
      readWord?_eq_none rfl (hne 'f' (by decide) (by decide)), Literal.sql, readInt?_toString n hb]
    rfl

end values

/-! ## Rows -/

/-- What a statement writes, and where. -/
structure Insertion where
  table : String
  columns : List String
  values : List Literal
  /-- The columns that no two rows have in common. -/
  key : List String
  deriving DecidableEq, Repr

namespace Insertion

/-- The value that stands in the place of a column. -/
def value? (i : Insertion) (column : String) : Option Literal :=
  (i.columns.zip i.values).lookup column

/-- The row that is written, or written over: no other one has these values in the table. -/
def target (i : Insertion) : String × List (String × Option Literal) :=
  (i.table, i.key.map fun column => (column, i.value? column))

end Insertion

/-- The statement up to the columns of its key, and what it says of a row that is there already. -/
def readInsertion? (statement : String) : Option (Insertion × String) := do
  let cs ← readWord? "insert into ".toList statement.toList
  let (table, cs) ← readWhile? (fun c => isNameChar c || c == '.') cs
  let cs ← readWord? " (".toList cs
  let (columns, cs) ← readItems? readName? cs
  let cs ← readWord? ")\nvalues (".toList cs
  let (values, cs) ← readItems? readValue? cs
  guard (values.length = columns.length)
  let cs ← readWord? ")\non conflict (".toList cs
  let (key, cs) ← readItems? readName? cs
  let cs ← readWord? ")".toList cs
  pure (⟨.ofList table, columns, values, key⟩, .ofList cs)

/-- What a statement is made of, but for what becomes of a row that is there already. -/
def Upsert.insertion (u : Upsert) : Insertion :=
  ⟨u.table, u.columns, u.values, u.key⟩

/-- What becomes of a row that is there already. -/
def Upsert.update (u : Upsert) : String :=
  " do update set " ++ ", ".intercalate
    (u.payload.map (fun c => c ++ " = excluded." ++ c) ++ ["updated_at = now()"]) ++ ";"

def IsName (s : String) : Prop :=
  s.toList ≠ [] ∧ s.toList.all isNameChar = true

instance (s : String) : Decidable (IsName s) :=
  inferInstanceAs (Decidable (s.toList ≠ [] ∧ s.toList.all isNameChar = true))

/-- A name that may carry its schema. -/
def IsTableName (s : String) : Prop :=
  s.toList ≠ [] ∧ s.toList.all (fun c => isNameChar c || c == '.') = true

instance (s : String) : Decidable (IsTableName s) :=
  inferInstanceAs
    (Decidable (s.toList ≠ [] ∧ s.toList.all (fun c => isNameChar c || c == '.') = true))

def AreNames (names : List String) : Prop :=
  names ≠ [] ∧ ∀ name ∈ names, IsName name

instance (names : List String) : Decidable (AreNames names) :=
  inferInstanceAs (Decidable (names ≠ [] ∧ ∀ name ∈ names, IsName name))

/-- The names in a statement need no quotes, and every column has its value. -/
structure Upsert.IsBare (u : Upsert) : Prop where
  table : IsTableName u.table
  columns : AreNames u.columns
  key : AreNames u.key
  values : u.values.length = u.columns.length

theorem Upsert.IsBare.values_ne_nil {u : Upsert} (hu : u.IsBare) : u.values ≠ [] := by
  intro hnil
  have hcolumns : u.columns.length = 0 := by rw [← hu.values, hnil, List.length_nil]
  exact hu.columns.1 (List.length_eq_zero_iff.mp hcolumns)

section rows

variable {u : Upsert} {behind : List Char}

theorem readName?_toList {s : String} (hs : IsName s) (hb : Stops behind) :
    readName? (s.toList ++ behind) = some (s, behind) := by
  obtain ⟨c, cs, rfl, hc⟩ := hb.not_name
  rw [readName?, readWhile?_append hs.1 (List.all_eq_true.mp hs.2) hc]
  simp

theorem readNames?_intercalate {names : List String} (h : AreNames names) (cs : List Char) :
    readItems? readName? ((", ".intercalate names).toList ++ ')' :: cs) =
      some (names, ')' :: cs) := by
  rw [String.toList_intercalate]
  exact readItems?_intercalate h.1 (fun name hname _ hb => readName?_toList (h.2 name hname) hb)
    (.parenthesis cs) (by simp)

theorem readValues?_intercalate {values : List Literal} (hne : values ≠ []) (cs : List Char) :
    readItems? readValue? ((", ".intercalate (values.map Literal.sql)).toList ++ ')' :: cs) =
      some (values, ')' :: cs) := by
  rw [String.toList_intercalate, List.map_map]
  exact readItems?_intercalate hne (fun l _ _ hb => readValue?_sql l hb) (.parenthesis cs) (by simp)

/-- What a statement was made of is read from it, to the last value and not further. -/
theorem Upsert.readInsertion?_sql (hu : u.IsBare) :
    readInsertion? u.sql = some (u.insertion, u.update) := by
  have hsql : u.sql.toList =
      "insert into ".toList ++ (u.table.toList ++ (" (".toList ++
        ((", ".intercalate u.columns).toList ++ (")\nvalues (".toList ++
          ((", ".intercalate (u.values.map Literal.sql)).toList ++ (")\non conflict (".toList ++
            ((", ".intercalate u.key).toList ++ (")".toList ++ u.update.toList)))))))) := by
    unfold Upsert.sql Upsert.update
    dsimp only [toString]
    simp
  have htable (cs : List Char) : readWhile? (fun c => isNameChar c || c == '.')
      (u.table.toList ++ (" (".toList ++ cs)) = some (u.table.toList, " (".toList ++ cs) :=
    readWhile?_append hu.table.1 (List.all_eq_true.mp hu.table.2) (by decide) _
  have hcolumns (cs : List Char) :
      readItems? readName? ((", ".intercalate u.columns).toList ++ (")\nvalues (".toList ++ cs)) =
        some (u.columns, ")\nvalues (".toList ++ cs) :=
    readNames?_intercalate hu.columns _
  have hvalues (cs : List Char) :
      readItems? readValue? ((", ".intercalate (u.values.map Literal.sql)).toList ++
        (")\non conflict (".toList ++ cs)) = some (u.values, ")\non conflict (".toList ++ cs) :=
    readValues?_intercalate hu.values_ne_nil _
  have hkey (cs : List Char) :
      readItems? readName? ((", ".intercalate u.key).toList ++ (")".toList ++ cs)) =
        some (u.key, ")".toList ++ cs) :=
    readNames?_intercalate hu.key _
  rw [readInsertion?, hsql]
  simp only [readWord?_append, htable, hcolumns, hvalues, hkey, guard, if_pos hu.values,
    Option.bind_eq_bind, Option.bind_some, String.ofList_toList]
  rfl

end rows

end Evolution.Sql
