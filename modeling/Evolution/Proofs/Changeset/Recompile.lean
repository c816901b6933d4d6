import Evolution.Proofs.Changeset.Owner
import Evolution.Proofs.Changeset.Statement

/-! A changeset asks for itself: compiled from what it says of itself, it comes out as it is. -/
namespace Evolution

open Text (trim trimChars dropBlankEnd nonBlank? isBlank)

section trim

variable {s t : String} {c : Char} {cs : List Char}

theorem isBlank_head?_dropWhile (h : c ∈ (cs.dropWhile isBlank).head?) : isBlank c = false := by
  have hn := List.head?_dropWhile_not isBlank cs
  rw [h] at hn
  exact hn

theorem isBlank_getLast?_trimChars (h : c ∈ (trimChars cs).getLast?) : isBlank c = false := by
  rw [trimChars, dropBlankEnd, List.getLast?_reverse] at h
  exact isBlank_head?_dropWhile h

theorem isBlank_head?_trimChars (h : c ∈ (trimChars cs).head?) : isBlank c = false := by
  rw [trimChars] at h
  cases hd : cs.dropWhile isBlank with
  | nil =>
    rw [hd] at h
    cases h
  | cons d ds =>
    have hb : isBlank d = false := isBlank_head?_dropWhile (by rw [hd]; rfl)
    rw [hd, dropBlankEnd_cons hb] at h
    cases h
    exact hb

theorem trim_trim (s : String) : trim (trim s) = trim s := by
  have h : trimChars (trimChars s.toList) = trimChars s.toList :=
    trimChars_eq_self (fun _ => isBlank_head?_trimChars) (fun _ => isBlank_getLast?_trimChars)
  rw [trim, trim, String.toList_ofList, h]

theorem nonBlank?_of_trim_eq (h : trim s = s) (hs : s ≠ "") : nonBlank? s = some s := by
  simp [nonBlank?, h, hs]

theorem nonBlank?_nonBlank? (h : nonBlank? s = some t) : nonBlank? t = some t := by
  simp only [nonBlank?] at h
  split at h
  · cases h
  · rename_i hn
    obtain rfl := Option.some.inj h
    exact nonBlank?_of_trim_eq (trim_trim s) (by simpa using hn)

theorem isBlank_of_isDigit (h : c.isDigit = true) : isBlank c = false := by
  have hn : 48 ≤ c.toNat ∧ c.toNat ≤ 57 := by
    simpa [Char.isDigit, UInt32.le_iff_toNat_le] using h
  simp only [isBlank, Bool.or_eq_false_iff, Bool.and_eq_false_iff, decide_eq_false_iff_not,
    beq_eq_false_iff_ne]
  omega

end trim

/-- The summary that is made where none is given begins with a number and ends with a bracket. -/
theorem Impact.nonBlank?_summary (i : Impact) : nonBlank? i.summary = some i.summary := by
  obtain ⟨rest, hr⟩ : ∃ rest, i.summary = Nat.repr i.tables.size ++ rest := by
    unfold Impact.summary
    simp only [String.append_assoc]
    exact ⟨_, rfl⟩
  obtain ⟨front, hf⟩ : ∃ front, i.summary = front ++ " remote function(s)" := by
    unfold Impact.summary
    simp only [← String.append_assoc]
    exact ⟨_, rfl⟩
  obtain ⟨c, cs, hc⟩ :=
    List.exists_cons_of_ne_nil (Nat.toDigits_ne_nil (n := i.tables.size) (b := 10))
  have hd : c.isDigit = true :=
    Nat.isDigit_of_mem_toDigits (by decide) (by decide) (hc ▸ List.mem_cons_self)
  have hhead : i.summary.toList.head? = some c := by
    rw [hr, String.toList_append, Nat.toList_repr, hc]
    rfl
  have hlast : i.summary.toList.getLast? = some ')' := hf ▸ getLast?_append front rfl
  have ht : trimChars i.summary.toList = i.summary.toList := by
    refine trimChars_eq_self ?_ ?_
    · rw [hhead]
      rintro _ ⟨⟩
      exact isBlank_of_isDigit hd
    · rw [hlast]
      rintro _ ⟨⟩
      rfl
  refine nonBlank?_of_trim_eq ?_ ?_
  · rw [trim, ht, String.ofList_toList]
  · intro he
    rw [he] at hhead
    cases hhead

/-- What a changeset says of itself, as a request. -/
def Changeset.request (c : Changeset) : ChangeRequest where
  moduleName := c.moduleName
  title := c.title
  summary := some c.summary
  scope := c.scope
  tenantId := c.tenantId
  desiredState := c.desiredState

namespace ChangeRequest

variable {r : ChangeRequest}

/-- The summary of a changeset is as it would be given. -/
theorem nonBlank?_compile_summary (r : ChangeRequest) :
    nonBlank? r.compile.summary = some r.compile.summary := by
  have h {given : Option String} {made : String} (hg : ∀ t ∈ given, nonBlank? t = some t)
      (hm : nonBlank? made = some made) :
      nonBlank? (given.getD made) = some (given.getD made) := by
    cases given with
    | none => exact hm
    | some t => exact hg t rfl
  refine h (fun t ht => ?_) r.impact.nonBlank?_summary
  obtain ⟨s, -, hs⟩ := Option.bind_eq_some_iff.mp ht
  exact nonBlank?_nonBlank? hs

end ChangeRequest
end Evolution
