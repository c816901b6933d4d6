import Evolution.Proofs.Text.Split
import Evolution.Sql.Quote

/-! The texts of SQL as the database reads them. A literal stands between quotes, and a doubled
quote in it is one of its characters. Another way to write a text is between two equal tags of
dollars; there every character stands for itself, and the first tag after the opening one closes. -/
namespace Evolution.Sql

/-! ## Literals -/

/-- What a literal holds and what stands behind it, read from behind its opening quote. -/
def readQuoted : List Char → Option (List Char × List Char)
  | [] => none
  | '\'' :: '\'' :: rest => (readQuoted rest).map fun (text, behind) => ('\'' :: text, behind)
  | '\'' :: rest => some ([], rest)
  | c :: rest => (readQuoted rest).map fun (text, behind) => (c :: text, behind)

section readQuoted

variable {c : Char} {cs text behind : List Char}

@[simp]
theorem readQuoted_doubled (cs : List Char) :
    readQuoted ('\'' :: '\'' :: cs) =
      (readQuoted cs).map fun (text, behind) => ('\'' :: text, behind) :=
  rfl

theorem readQuoted_closed (h : cs.head? ≠ some '\'') : readQuoted ('\'' :: cs) = some ([], cs) := by
  cases cs with
  | nil => rfl
  | cons c cs =>
    have hc : c ≠ '\'' := by simpa using h
    rw [readQuoted]
    exact fun rest hcs => hc (List.cons.inj hcs).1

theorem readQuoted_plain (h : c ≠ '\'') (cs : List Char) :
    readQuoted (c :: cs) = (readQuoted cs).map fun (text, behind) => (c :: text, behind) := by
  rw [readQuoted]
  · exact fun _ hc _ => h hc
  · exact h

/-- What was written between the quotes is read, whatever it holds. -/
theorem readQuoted_doubleQuotes (text : List Char) (h : behind.head? ≠ some '\'') :
    readQuoted (doubleQuotes text ++ '\'' :: behind) = some (text, behind) := by
  induction text with
  | nil => exact readQuoted_closed h
  | cons c text ih =>
    rw [doubleQuotes]
    split
    · rename_i hc
      subst hc
      rw [List.cons_append, List.cons_append, readQuoted_doubled, ih]
      rfl
    · rename_i hc
      rw [List.cons_append, readQuoted_plain hc, ih]
      rfl

/-- A literal is read from its quotes and from nothing else. -/
theorem readQuoted_eq_some :
    readQuoted cs = some (text, behind) ↔
      cs = doubleQuotes text ++ '\'' :: behind ∧ behind.head? ≠ some '\'' := by
  constructor
  · intro h
    fun_induction readQuoted cs generalizing text with
    | case1 => cases h
    | case2 rest ih =>
      obtain ⟨⟨text, behind⟩, hrest, hread⟩ := Option.map_eq_some_iff.mp h
      cases hread
      obtain ⟨rfl, hbehind⟩ := ih hrest
      exact ⟨by simp [doubleQuotes], hbehind⟩
    | case3 rest hnot =>
      cases h
      refine ⟨rfl, fun hhead => ?_⟩
      obtain ⟨cs, rfl⟩ := List.head?_eq_some_iff.mp hhead
      exact hnot cs rfl
    | case4 c rest _ hc ih =>
      obtain ⟨⟨text, behind⟩, hrest, hread⟩ := Option.map_eq_some_iff.mp h
      cases hread
      obtain ⟨rfl, hbehind⟩ := ih hrest
      refine ⟨?_, hbehind⟩
      rw [doubleQuotes, if_neg hc]
      rfl
  · rintro ⟨rfl, h⟩
    exact readQuoted_doubleQuotes text h

end readQuoted

/-- The text of the literal at the beginning, and what stands behind it. -/
def readText? : List Char → Option (String × List Char)
  | '\'' :: cs => (readQuoted cs).map fun (text, behind) => (.ofList text, behind)
  | _ => none

theorem readText?_quoteLiteral {behind : List Char} (text : String) (h : behind.head? ≠ some '\'') :
    readText? ((quoteLiteral text).toList ++ behind) = some (text, behind) := by
  have ht : (quoteLiteral text).toList ++ behind =
      '\'' :: (doubleQuotes text.toList ++ '\'' :: behind) := by
    simp [quoteLiteral]
  rw [ht, readText?, readQuoted_eq_some.mpr ⟨rfl, h⟩]
  simp

/-! ## Tags -/

/-- What stands in front of the first `mark`, and what stands behind it. -/
def readTo (mark : List Char) : List Char → Option (List Char × List Char)
  | [] => none
  | c :: cs =>
    if mark <+: c :: cs then some ([], (c :: cs).drop mark.length)
    else (readTo mark cs).map fun (enclosed, behind) => (c :: enclosed, behind)

section readTo

variable {mark cs enclosed behind : List Char}

/-- What is read ends with the mark, and no mark begins earlier. -/
theorem readTo_eq_some (hm : mark ≠ []) :
    readTo mark cs = some (enclosed, behind) ↔
      cs = enclosed ++ (mark ++ behind) ∧
        ∀ front back, cs = front ++ (mark ++ back) → enclosed.length ≤ front.length := by
  induction cs generalizing enclosed with
  | nil => simp [readTo, hm]
  | cons c cs ih =>
    rw [readTo]
    split
    · rename_i hp
      obtain ⟨back, hback⟩ := hp
      rw [← hback, List.drop_left]
      constructor
      · rintro ⟨⟩
        exact ⟨rfl, fun _ _ _ => Nat.zero_le _⟩
      · rintro ⟨hcs, hfirst⟩
        have hnil : enclosed = [] := List.length_eq_zero_iff.mp
          (Nat.le_zero.mp (hfirst [] back rfl))
        subst hnil
        rw [List.append_cancel_left hcs]
    · rename_i hp
      constructor
      · intro h
        obtain ⟨⟨text, rest⟩, hread, heq⟩ := Option.map_eq_some_iff.mp h
        cases heq
        obtain ⟨rfl, hfirst⟩ := ih.mp hread
        refine ⟨rfl, fun front back h => ?_⟩
        cases front with
        | nil => exact absurd ⟨back, h.symm⟩ hp
        | cons d front => exact Nat.succ_le_succ (hfirst front back (List.cons.inj h).2)
      · rintro ⟨hcs, hfirst⟩
        cases enclosed with
        | nil => exact absurd ⟨behind, hcs.symm⟩ hp
        | cons d enclosed =>
          obtain ⟨rfl, hrest⟩ := List.cons.inj hcs
          have hread : readTo mark cs = some (enclosed, behind) :=
            ih.mpr ⟨hrest, fun front back h =>
              Nat.le_of_succ_le_succ (hfirst (c :: front) back (congrArg (c :: ·) h))⟩
          rw [hread]
          rfl

end readTo

/-! ## Both ways to write a text -/

inductive StringToken where
  | literal (text : String)
  | tagged (tag text : String)
  deriving DecidableEq, Repr

/-- The text at the beginning, and what stands behind it. -/
def readString? : List Char → Option (StringToken × List Char)
  | '$' :: cs => do
    let (name, cs) ← Text.splitFirstChars '$' cs
    let tag := '$' :: name ++ ['$']
    let (text, behind) ← readTo tag cs
    pure (.tagged (.ofList tag) (.ofList text), behind)
  | cs => (readText? cs).map fun (text, behind) => (.literal text, behind)

section readString?

variable {name tag cs text behind : List Char}

theorem readString?_tagged (ht : tag = '$' :: name ++ ['$']) (hn : '$' ∉ name)
    (h : readTo tag cs = some (text, behind)) :
    readString? (tag ++ cs) = some (.tagged (.ofList tag) (.ofList text), behind) := by
  have hcs : tag ++ cs = '$' :: (name ++ '$' :: cs) := by simp [ht]
  rw [hcs, readString?, Text.splitFirstChars_append hn]
  simp only [Option.bind_eq_bind, Option.bind_some, ← ht, h]
  rfl

theorem readString?_quoteLiteral (text : String) (h : behind.head? ≠ some '\'') :
    readString? ((quoteLiteral text).toList ++ behind) = some (.literal text, behind) := by
  have hread := readText?_quoteLiteral text h
  obtain ⟨cs, hcs⟩ : ∃ cs, (quoteLiteral text).toList = '\'' :: cs :=
    ⟨doubleQuotes text.toList ++ ['\''], String.toList_ofList⟩
  rw [hcs, List.cons_append] at hread ⊢
  rw [readString?, hread]
  · rfl
  · rintro rest ⟨⟩

/-- A piece of a tag closes nothing, and quotes count as little as other characters. -/
example : readString? "$fn$it's a $fn or fn$;$fn$;".toList =
    some (.tagged "$fn$" "it's a $fn or fn$;", [';']) := by
  decide

end readString?

end Evolution.Sql
