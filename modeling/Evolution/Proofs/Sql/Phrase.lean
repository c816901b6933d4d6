import Evolution.Proofs.Sql.Reference
import Evolution.Proofs.Text.Wall

/-! Phrases in a statement: words in small letters with blanks. No phrase reaches into a quoted
name, and in a quoted text it is found only if it is in the text. -/
namespace Evolution.Sql

open Text

/-- Small letters and blanks, with at least one of each. -/
structure IsPhrase (q : String) : Prop where
  blank : ' ' ∈ q.toList
  letter : ∃ c ∈ q.toList, c ≠ ' '
  plain : ∀ c ∈ q.toList, c = ' ' ∨ c.isLower = true

variable {q : String}

instance : Decidable (IsPhrase q) :=
  decidable_of_iff
    (' ' ∈ q.toList ∧ q.toList.any (· != ' ') = true ∧
      q.toList.all (fun c => c == ' ' || c.isLower) = true)
    ⟨fun ⟨hb, hl, hp⟩ => ⟨hb, by simpa using hl, by simpa using hp⟩,
      fun h => ⟨h.blank, by simpa using h.letter, by simpa using h.plain⟩⟩

theorem IsPhrase.ne_empty (h : IsPhrase q) : q ≠ "" := by
  rintro rfl
  exact absurd h.blank List.not_mem_nil

theorem IsPhrase.lacks_blank (h : IsPhrase q) : Lacks q " " := by
  obtain ⟨c, hc, hne⟩ := h.letter
  exact lacks_of_not_mem hc (by simpa using hne)

/-- What is neither a blank nor a small letter is a wall. -/
theorem IsPhrase.isWall_mark (h : IsPhrase q) {w : String} {c : Char} (hw : w.toList = [c])
    (hb : c ≠ ' ') (hl : c.isLower = false) : IsWall q w := by
  refine isWall_char hw h.ne_empty fun hc => ?_
  obtain rfl | hc := h.plain c hc
  · exact hb rfl
  · rw [hl] at hc
    cases hc

theorem isWall_quoteIdentifier (h : IsPhrase q) (name : String) :
    IsWall q (quoteIdentifier name) := by
  have hname : Lacks q (clean name) := by
    refine lacks_of_not_mem h.blank fun hc => ?_
    have hblank : isNameChar ' ' = true := List.all_eq_true.mp (isName_clean name).2 _ hc
    cases hblank
  have hquote : IsWall q "\"" := h.isWall_mark rfl (by decide) (by decide)
  rw [quoteIdentifier_eq]
  exact hquote.between hname hquote

theorem isWall_quoteQualified (h : IsPhrase q) (name : String) :
    IsWall q (quoteQualified name) := by
  have hdot : IsWall q "." := h.isWall_mark rfl (by decide) (by decide)
  unfold quoteQualified
  split
  · rename_i schema object _
    exact ((isWall_quoteIdentifier h schema).append h.ne_empty hdot).append h.ne_empty
      (isWall_quoteIdentifier h object)
  · exact isWall_quoteIdentifier h name

/-- To write a quote twice makes no phrase. -/
theorem lacks_doubleQuotes (h : IsPhrase q) {front cs : List Char}
    (hl : Lacks q (String.ofList (front ++ cs))) :
    Lacks q (String.ofList (front ++ doubleQuotes cs)) := by
  have hquote : IsWall q "'" := h.isWall_mark rfl (by decide) (by decide)
  induction cs generalizing front with
  | nil => exact hl
  | cons c cs ih =>
    unfold doubleQuotes
    split
    · rename_i hc
      have hsplit (cs : List Char) : String.ofList (front ++ '\'' :: cs) =
          String.ofList front ++ "'" ++ String.ofList cs := by
        rw [← String.toList_inj]
        simp
      rw [hc, hsplit] at hl
      have hfront : Lacks q (String.ofList front) := hl.append_left.append_left
      have hrest : Lacks q (String.ofList ('\'' :: doubleQuotes cs)) := by
        have hempty : Lacks q (String.ofList ([] ++ cs)) := hl.append_right
        simpa using (ih hempty).behind hquote
      rw [hsplit]
      exact hfront.walled hquote hrest
    · rw [List.append_cons] at hl ⊢
      exact ih hl

/-- A phrase that is not in a text is not in the text in quotes. -/
theorem isWall_quoteLiteral (h : IsPhrase q) {text : String} (hl : Lacks q text) :
    IsWall q (quoteLiteral text) := by
  have hquote : IsWall q "'" := h.isWall_mark rfl (by decide) (by decide)
  have htext : Lacks q (String.ofList ([] ++ doubleQuotes text.toList)) :=
    lacks_doubleQuotes h (by simpa using hl)
  have hq : quoteLiteral text = "'" ++
      String.ofList ([] ++ doubleQuotes text.toList) ++ "'" := by
    rw [← String.toList_inj]
    simp [quoteLiteral]
  rw [hq]
  exact hquote.between htext hquote

end Evolution.Sql
