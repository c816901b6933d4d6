import Evolution.Api.Submission
import Evolution.Proofs.Changeset.Summary

/-! What becomes of the bounds that a submission was found to keep. Its module's name and its
summary still keep them when it has been compiled. Its title is measured first and trimmed
afterwards, so a blank title is in order and is lost. -/
namespace Evolution

open Text (trim isBlank nonBlank?)

section errors

/-- Nothing is wrong where every condition on every field is met. -/
theorem errorsOf_eq_nil {fields : List (String × List (Bool × String))} :
    errorsOf fields = [] ↔ ∀ field ∈ fields, ∀ condition ∈ field.2, condition.1 = true := by
  have hunmet (conditions : List (Bool × String)) :
      unmet conditions = [] ↔ ∀ condition ∈ conditions, condition.1 = true := by
    simp [unmet, List.filter_eq_nil_iff]
  rw [errorsOf, List.filter_eq_nil_iff, List.forall_mem_map]
  constructor
  · intro h field hf
    simpa [hunmet] using h field hf
  · intro h field hf
    simpa [hunmet] using h field hf

theorem hasLength_iff {low high : Nat} {s : String} :
    hasLength low high s = true ↔ low ≤ s.length ∧ s.length ≤ high := by
  simp [hasLength]

end errors

section names

variable {s : String} {c : Char}

theorem isBlank_of_isLowerLetter (h : isLowerLetter c = true) : isBlank c = false := by
  have hlower : c.isLower = true := h
  apply isBlank_of_isAlpha
  change (c.isUpper || c.isLower) = true
  rw [hlower, Bool.or_true]

/-- No character of a module's name is white space. -/
theorem isBlank_of_isModuleName (h : isModuleName s = true) :
    ∀ c ∈ s.toList, isBlank c = false := by
  unfold isModuleName at h
  split at h
  · cases h
  · rename_i first rest hs
    rw [Bool.and_eq_true, List.all_eq_true] at h
    rw [hs]
    refine List.forall_mem_cons.mpr ⟨isBlank_of_isLowerLetter h.1, ?_⟩
    intro c hc
    have hchar := h.2 c hc
    simp only [Bool.or_eq_true, decide_eq_true_iff] at hchar
    rcases hchar with ((hl | hd) | rfl) | rfl
    · exact isBlank_of_isLowerLetter hl
    · exact isBlank_of_isDigit hd
    · rfl
    · rfl

theorem trim_of_isModuleName (h : isModuleName s = true) : trim s = s := by
  have hblank := isBlank_of_isModuleName h
  rw [trim, trimChars_eq_self, String.ofList_toList]
  · intro c hc
    exact hblank c (List.mem_of_mem_head? hc)
  · intro c hc
    exact hblank c (List.mem_of_getLast? hc)

theorem one_le_length_trim_iff : 1 ≤ (trim s).length ↔ isBlankText s = false := by
  rw [Nat.one_le_iff_ne_zero, ne_eq, String.length_eq_zero_iff, isBlankText,
    String.isEmpty_eq_false_iff]

end names

namespace Submission

variable {s : Submission}

/-- What is in order. -/
theorem errors_eq_nil_iff : s.errors = [] ↔
    (1 ≤ s.moduleName.length ∧ s.moduleName.length ≤ 64 ∧ isModuleName s.moduleName = true) ∧
      (∀ t ∈ s.summary, t.length ≤ 2000) ∧ 1 ≤ s.title.length ∧ s.title.length ≤ 200 := by
  have hsummary : s.summary.all (hasLength 0 2000) = true ↔ ∀ t ∈ s.summary, t.length ≤ 2000 := by
    cases s.summary <;> simp [hasLength]
  simp only [errors, errorsOf_eq_nil, List.forall_mem_cons, List.not_mem_nil, false_imp_iff,
    implies_true, and_true, hasLength_iff, hsummary, and_assoc]

/-- A submission that is in order is compiled to a changeset of its module, whose name is as it was
sent, with a summary of one to two thousand characters, be it given or made, as long as the entities
can be counted by a word of 64 bits. Its title has two hundred characters at most, and at least one
exactly where the title that was sent is not blank. -/
theorem compiled_within_bounds (h : s.errors = [])
    (hc : s.desiredState.entityCount < 2 ^ 64) :
    let c := s.request.compile
    (c.moduleName = s.moduleName ∧ 1 ≤ c.moduleName.length ∧ c.moduleName.length ≤ 64 ∧
        isModuleName c.moduleName = true) ∧
      (c.title.length ≤ 200 ∧ (1 ≤ c.title.length ↔ isBlankText s.title = false)) ∧
      1 ≤ c.summary.length ∧ c.summary.length ≤ 2000 := by
  intro c
  obtain ⟨⟨hone, hmodule, hname⟩, hsummary, -, htitle⟩ := errors_eq_nil_iff.mp h
  have hsame : c.moduleName = s.moduleName := trim_of_isModuleName hname
  refine ⟨⟨hsame, ?_⟩, ⟨(length_trim_le s.title).trans htitle, one_le_length_trim_iff⟩, ?_, ?_⟩
  · rw [hsame]
    exact ⟨hone, hmodule, hname⟩
  · have hne : c.summary ≠ "" := by
      intro he
      have hs := s.request.nonBlank?_compile_summary
      change nonBlank? c.summary = some c.summary at hs
      rw [he] at hs
      cases hs
    rw [Nat.one_le_iff_ne_zero, ne_eq, String.length_eq_zero_iff]
    exact hne
  · apply ChangeRequest.length_compile_summary_le
    · intro t ht
      obtain ⟨ht, -⟩ := Option.mem_filter_iff.mp ht
      exact hsummary t ht
    · -- 21 digits hold twice as many entities as there can be
      have hcount (kind : EntityKind) : (s.request.impact.names kind).size < 10 ^ 21 := by
        have hsize := s.request.size_names_le kind
        have hstate : s.request.desiredState.entityCount < 2 ^ 64 := hc
        omega
      rw [ChangeRequest.impact_summary_eq]
      exact (length_summaryOf_le (by decide) hcount).trans (by decide)

/-- A submission with blanks around its title and a summary of nothing but a blank. -/
def airy : Submission where
  moduleName := "notes"
  title := " Add notes "
  summary := some " "
  desiredState := { tables := [{ name := "notes", rowLevelSecurity := true }] }

theorem compiled_within_bounds_airy :
    airy.errors = [] ∧ airy.desiredState.entityCount < 2 ^ 64 ∧
      airy.request.compile.moduleName = "notes" ∧ 1 ≤ airy.request.compile.title.length ∧
      airy.request.compile.title.length ≤ 200 ∧ 1 ≤ airy.request.compile.summary.length ∧
      airy.request.compile.summary.length ≤ 2000 := by
  have herrors : airy.errors = [] := by decide +kernel
  have hcount : airy.desiredState.entityCount < 2 ^ 64 := by decide
  obtain ⟨⟨hname, -⟩, ⟨htitle, hblank⟩, hsummary⟩ := compiled_within_bounds herrors hcount
  exact ⟨herrors, hcount, hname, hblank.mpr (by decide), htitle, hsummary⟩

/-- A blank title is in order, and nothing is left of it. -/
theorem blank_title_compiled_away :
    ¬ ∀ s : Submission, s.errors = [] → s.desiredState.entityCount < 2 ^ 64 →
      let c := s.request.compile
      (c.moduleName = s.moduleName ∧ 1 ≤ c.moduleName.length ∧ c.moduleName.length ≤ 64 ∧
          isModuleName c.moduleName = true) ∧
        (1 ≤ c.title.length ∧ c.title.length ≤ 200) ∧
        1 ≤ c.summary.length ∧ c.summary.length ≤ 2000 := by
  intro h
  let blank : Submission := { moduleName := "notes", title := " " }
  have htitle := (h blank (by decide +kernel) (by decide)).2.1.1
  revert htitle
  decide +kernel

end Submission
end Evolution
