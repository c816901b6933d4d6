import Evolution.Text.Character
import Evolution.Text.Search
import Mathlib.Data.List.Basic

/-! Splitting at a separator and joining again, and numbers in decimal digits. -/
namespace Evolution.Text

section splitFirst

variable {sep : Char} {front back cs : List Char}

theorem splitFirstChars_append (h : sep ∉ front) (back : List Char) :
    splitFirstChars sep (front ++ sep :: back) = some (front, back) := by
  induction front with
  | nil => exact if_pos rfl
  | cons c front ih =>
    rw [List.mem_cons, not_or] at h
    rw [List.cons_append, splitFirstChars, if_neg (Ne.symm h.1), ih h.2]
    rfl

theorem splitFirstChars_of_not_mem (h : sep ∉ cs) : splitFirstChars sep cs = none := by
  induction cs with
  | nil => rfl
  | cons c cs ih =>
    rw [List.mem_cons, not_or] at h
    rw [splitFirstChars, if_neg (Ne.symm h.1), ih h.2]
    rfl

theorem splitLastChars_append (front : List Char) (h : sep ∉ back) :
    splitLastChars sep (front ++ sep :: back) = some (front, back) := by
  have hreverse : (front ++ sep :: back).reverse = back.reverse ++ sep :: front.reverse := by simp
  rw [splitLastChars, hreverse, splitFirstChars_append (mt List.mem_reverse.mp h)]
  simp

end splitFirst

section splitAll

variable {sep : Char} {cs : List Char}

theorem splitAllChars_ne_nil (sep : Char) (cs : List Char) : splitAllChars sep cs ≠ [] := by
  cases cs with
  | nil => exact List.cons_ne_nil _ _
  | cons c cs =>
    rw [splitAllChars]
    split
    · exact List.cons_ne_nil _ _
    · split <;> exact List.cons_ne_nil _ _

theorem splitAllChars_cons_sep (sep : Char) (cs : List Char) :
    splitAllChars sep (sep :: cs) = [] :: splitAllChars sep cs := by
  obtain ⟨piece, pieces, h⟩ := List.exists_cons_of_ne_nil (splitAllChars_ne_nil sep cs)
  simp only [splitAllChars, h, if_true]

theorem splitAllChars_append_sep (sep : Char) (cs ds : List Char) :
    splitAllChars sep (cs ++ sep :: ds) = splitAllChars sep cs ++ splitAllChars sep ds := by
  induction cs with
  | nil => exact splitAllChars_cons_sep sep ds
  | cons c cs ih =>
    obtain ⟨piece, pieces, h⟩ := List.exists_cons_of_ne_nil (splitAllChars_ne_nil sep cs)
    rw [List.cons_append, splitAllChars, splitAllChars, ih, h]
    by_cases hc : c = sep <;> simp [hc]

/-- The pieces with separators between them are the whole. -/
theorem intercalate_splitAllChars (sep : Char) (cs : List Char) :
    [sep].intercalate (splitAllChars sep cs) = cs := by
  induction cs with
  | nil => rfl
  | cons c cs ih =>
    obtain ⟨piece, pieces, h⟩ := List.exists_cons_of_ne_nil (splitAllChars_ne_nil sep cs)
    rw [h] at ih
    by_cases hc : c = sep
    · subst hc
      rw [splitAllChars_cons_sep, h, List.intercalate_cons_cons, ih]
      rfl
    · simp only [splitAllChars, h, if_neg hc]
      cases pieces with
      | nil =>
        rw [List.intercalate_singleton] at ih ⊢
        rw [ih]
      | cons next pieces =>
        rw [List.intercalate_cons_cons] at ih ⊢
        rw [← ih]
        rfl

theorem intercalate_splitAll (s : String) : "/".intercalate (splitAll '/' s) = s := by
  rw [← String.toList_inj, String.toList_intercalate, splitAll, List.map_map]
  refine (congrArg _ ?_).trans (intercalate_splitAllChars '/' s.toList)
  exact (List.map_congr_left fun cs _ => String.toList_ofList).trans (List.map_id _)

theorem splitAll_append_sep (s t : String) :
    splitAll '/' (s ++ "/" ++ t) = splitAll '/' s ++ splitAll '/' t := by
  have hchars : (s ++ "/" ++ t).toList = s.toList ++ '/' :: t.toList := by simp
  rw [splitAll, hchars, splitAllChars_append_sep, List.map_append]
  rfl

theorem exists_splitAll_eq_cons (s : String) :
    ∃ piece pieces, splitAll '/' s = piece :: pieces := by
  refine List.exists_cons_of_ne_nil fun h => ?_
  exact splitAllChars_ne_nil '/' s.toList (List.map_eq_nil_iff.mp h)

theorem mem_of_mem_splitAllChars {piece : List Char} {c : Char} (h : piece ∈ splitAllChars sep cs)
    (hc : c ∈ piece) : c ∈ cs := by
  induction cs generalizing piece with
  | nil =>
    cases List.mem_singleton.mp h
    cases hc
  | cons d cs ih =>
    obtain ⟨first, pieces, hp⟩ := List.exists_cons_of_ne_nil (splitAllChars_ne_nil sep cs)
    by_cases hd : d = sep
    · subst hd
      rw [splitAllChars_cons_sep, List.mem_cons] at h
      rcases h with rfl | h
      · cases hc
      · exact .tail _ (ih h hc)
    · simp only [splitAllChars, hp, if_neg hd, List.mem_cons] at h
      rw [hp] at ih
      rcases h with rfl | h
      · rcases List.mem_cons.mp hc with rfl | hc
        · exact .head _
        · exact .tail _ (ih List.mem_cons_self hc)
      · exact .tail _ (ih (.tail _ h) hc)

end splitAll

section digits

theorem isDecimalDigit_of_mem_toDigits {n : Nat} {c : Char} (h : c ∈ Nat.toDigits 10 n) :
    isDecimalDigit c = true := by
  have hc := Nat.isDigit_of_mem_toDigits (by decide) (by decide) h
  simpa [isDecimalDigit, Char.isDigit, Char.le_def] using hc

/-- Digits are read back. -/
theorem decimalValue_toDigits (n : Nat) : decimalValue (Nat.toDigits 10 n) = n := by
  have hvalue (ds : List Char) : decimalValue ds = Nat.ofDigitChars 10 ds 0 := by
    simp only [decimalValue, Nat.ofDigitChars, Nat.mul_comm]
    rfl
  rw [hvalue, Nat.ofDigitChars_toDigits (by decide) (by decide)]

end digits
end Evolution.Text
