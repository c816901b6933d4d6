import Evolution.Proofs.Sql.Insertion

/-! Quoted names as the database reads them, alone or behind the name of a schema. Between quotes
there are only letters, digits and underscores of ASCII, so that a name ends where it was made to
end, and a dot behind it is one that was written between two names. -/
namespace Evolution.Sql

/-! ## Names -/

def inQuotes (name : String) : String :=
  "\"" ++ name ++ "\""

/-- What a name becomes between its quotes. -/
def clean (name : String) : String :=
  .ofList (nameChars name.toList)

section names

variable {name : String} {cs : List Char} {c : Char}

theorem isNameChar_of_mem_nameChars (h : c ∈ nameChars cs) : isNameChar c = true := by
  unfold nameChars at h
  split at h
  · rw [List.mem_singleton.mp h]
    decide
  · obtain ⟨d, -, rfl⟩ := List.mem_map.mp h
    split
    · assumption
    · decide

/-- There is a character for each one of the name, and at least one. -/
theorem length_nameChars (cs : List Char) : (nameChars cs).length = max 1 cs.length := by
  cases cs with
  | nil => rfl
  | cons c cs =>
    rw [nameChars, if_neg (by simp), List.length_map, List.length_cons]
    omega

theorem isName_clean (name : String) : IsName (clean name) := by
  rw [IsName, clean, String.toList_ofList]
  constructor
  · refine List.ne_nil_of_length_pos ?_
    rw [length_nameChars]
    omega
  · exact List.all_eq_true.mpr fun c hc => isNameChar_of_mem_nameChars hc

theorem length_clean (name : String) : (clean name).length = max 1 name.length := by
  rw [clean, String.length_ofList, length_nameChars, String.length_toList]

theorem quoteIdentifier_eq (name : String) : quoteIdentifier name = inQuotes (clean name) := by
  rw [← String.toList_inj]
  simp [quoteIdentifier, inQuotes, clean]

end names

/-! ## Schemas -/

/-- A name has a schema where there is something in front of its first dot, and behind it. -/
structure Splits (name schema object : String) : Prop where
  joined : name = schema ++ "." ++ object
  dotless : '.' ∉ schema.toList
  schema_ne : schema ≠ ""
  object_ne : object ≠ ""

/-- A thing in the database, and the schema that it is in if that is named. -/
structure Reference where
  schema : Option String
  name : String
  deriving DecidableEq, Repr

namespace Reference

def text (r : Reference) : String :=
  match r.schema with
  | some schema => inQuotes schema ++ "." ++ inQuotes r.name
  | none => inQuotes r.name

structure IsPlain (r : Reference) : Prop where
  schema : ∀ schema ∈ r.schema, IsName schema
  name : IsName r.name

end Reference

/-- What is referred to by a name that may carry its schema. -/
def reference (name : String) : Reference :=
  match schemaAndObject? name with
  | some (schema, object) => ⟨some (clean schema), clean object⟩
  | none => ⟨none, clean name⟩

section schemas

variable {name schema object : String}

theorem schemaAndObject?_eq_some :
    schemaAndObject? name = some (schema, object) ↔ Splits name schema object := by
  rw [schemaAndObject?, Option.filter_eq_some_iff, Text.splitFirst]
  constructor
  · rintro ⟨hsplit, hne⟩
    obtain ⟨⟨front, back⟩, hchars, hparts⟩ := Option.map_eq_some_iff.mp hsplit
    obtain ⟨rfl, rfl⟩ := Prod.mk.inj hparts
    have hsides : String.ofList front ≠ "" ∧ String.ofList back ≠ "" := by simpa using hne
    have hdot : '.' ∈ name.toList := by
      by_contra hn
      rw [Text.splitFirstChars_of_not_mem hn] at hchars
      cases hchars
    obtain ⟨ahead, behind, hname, hahead⟩ := List.eq_append_cons_of_mem hdot
    rw [hname, Text.splitFirstChars_append hahead] at hchars
    cases hchars
    refine ⟨?_, by simpa using hahead, hsides.1, hsides.2⟩
    rw [← String.toList_inj, hname]
    simp
  · rintro ⟨rfl, hdotless, hschema, hobject⟩
    have hchars : (schema ++ "." ++ object).toList = schema.toList ++ '.' :: object.toList := by
      simp
    rw [hchars, Text.splitFirstChars_append hdotless]
    simp [hschema, hobject]

theorem isPlain_reference (name : String) : (reference name).IsPlain := by
  unfold reference
  split
  · rename_i schema object _
    refine ⟨?_, isName_clean object⟩
    rintro _ ⟨⟩
    exact isName_clean schema
  · exact ⟨nofun, isName_clean name⟩

/-- Behind the qualifier of a name another one is in the same schema. -/
theorem schemaQualifier_append (name object : String) :
    schemaQualifier name ++ inQuotes object = Reference.text ⟨(reference name).schema, object⟩ := by
  unfold schemaQualifier reference
  cases schemaAndObject? name with
  | none => exact String.empty_append
  | some parts => simp only [Reference.text, quoteIdentifier_eq]

theorem quoteQualified_eq_append (name : String) :
    quoteQualified name = schemaQualifier name ++ inQuotes (reference name).name := by
  unfold quoteQualified schemaQualifier reference
  cases schemaAndObject? name with
  | none => simp only [quoteIdentifier_eq, String.empty_append]
  | some parts => simp only [quoteIdentifier_eq]

theorem quoteQualified_eq (name : String) : quoteQualified name = (reference name).text :=
  (quoteQualified_eq_append name).trans (schemaQualifier_append name _)

theorem schema_reference_ne_none_iff :
    (reference name).schema ≠ none ↔ ∃ schema object, Splits name schema object := by
  unfold reference
  split
  · rename_i schema object h
    exact iff_of_true (Option.some_ne_none _) ⟨schema, object, schemaAndObject?_eq_some.mp h⟩
  · rename_i h
    refine iff_of_false (fun hn => hn rfl) ?_
    rintro ⟨schema, object, hs⟩
    rw [schemaAndObject?_eq_some.mpr hs] at h
    cases h

end schemas

/-! ## Reading -/

def readQuotedName? (cs : List Char) : Option (String × List Char) := do
  let cs ← readWord? ['"'] cs
  let (name, cs) ← readName? cs
  let behind ← readWord? ['"'] cs
  some (name, behind)

/-- A name, or two with a dot between them. -/
def readReference? (cs : List Char) : Option (Reference × List Char) := do
  let (first, behind) ← readQuotedName? cs
  match readWord? ['.'] behind with
  | some cs => (readQuotedName? cs).map fun (second, behind) => (⟨some first, second⟩, behind)
  | none => some (⟨none, first⟩, behind)

section reading

variable {name : String} {r : Reference} {word cs behind : List Char}

theorem readWord?_eq_some : readWord? word cs = some behind ↔ cs = word ++ behind := by
  constructor
  · intro h
    rw [readWord?] at h
    split at h
    · rename_i hprefix
      cases h
      exact (List.prefix_iff_eq_append.mp hprefix).symm
    · cases h
  · rintro rfl
    exact readWord?_append word behind

theorem readQuotedName?_inQuotes (h : IsName name) (behind : List Char) :
    readQuotedName? ((inQuotes name).toList ++ behind) = some (name, behind) := by
  have hchars : (inQuotes name).toList ++ behind =
      ['"'] ++ (name.toList ++ '"' :: behind) := by
    simp [inQuotes]
  have hname : readName? (name.toList ++ '"' :: behind) = some (name, '"' :: behind) := by
    rw [readName?, readWhile?_append h.1 (List.all_eq_true.mp h.2) (by decide)]
    simp
  have hclose : readWord? ['"'] ('"' :: behind) = some behind := readWord?_append ['"'] behind
  rw [hchars, readQuotedName?, readWord?_append]
  simp only [Option.bind_eq_bind, Option.bind_some, hname, hclose]

/-- A reference is read as it was written, if no dot comes behind it. -/
theorem readReference?_text (h : r.IsPlain) (hb : behind.head? ≠ some '.') :
    readReference? (r.text.toList ++ behind) = some (r, behind) := by
  obtain ⟨schema, name⟩ := r
  cases schema with
  | none =>
    have hdot : readWord? ['.'] behind = none := readWord?_eq_none rfl hb
    rw [Reference.text, readReference?, readQuotedName?_inQuotes h.name]
    simp only [Option.bind_eq_bind, Option.bind_some, hdot]
  | some schema =>
    have hchars : (Reference.text ⟨some schema, name⟩).toList ++ behind =
        (inQuotes schema).toList ++ (['.'] ++ ((inQuotes name).toList ++ behind)) := by
      simp [Reference.text]
    rw [hchars, readReference?, readQuotedName?_inQuotes (h.schema schema rfl)]
    simp only [Option.bind_eq_bind, Option.bind_some, readWord?_append,
      readQuotedName?_inQuotes h.name, Option.map_some]

end reading
end Evolution.Sql
