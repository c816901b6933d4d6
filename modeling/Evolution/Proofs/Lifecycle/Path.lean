import Evolution.Lifecycle.Status
import Mathlib.Data.List.Destutter

/-! The paths that a changeset can take through its statuses. None is longer than three steps. -/
namespace Evolution.Status

variable {s t : Status} {path seen : List Status}

/-- Each status is reached from the one before by a step of those there are. -/
def IsPath (path : List Status) : Prop :=
  path.IsChain fun s t => s.canMoveTo t = true

/-- Statuses as they were seen one after the other, each told only where it changes. -/
def trail (seen : List Status) : List Status :=
  seen.destutter (· ≠ ·)

/-- The most steps that can lead to a status. -/
def rank : Status → Nat
  | draft => 0
  | validated => 1
  | applied | failed => 2
  | reverted => 3

theorem rank_lt_of_canMoveTo (h : s.canMoveTo t = true) : s.rank < t.rank := by
  cases s <;> cases t <;> simp_all [canMoveTo, rank]

theorem not_final_of_canMoveTo (h : s.canMoveTo t = true) : s ≠ .failed ∧ s ≠ .reverted := by
  cases s <;> cases t <;> simp_all [canMoveTo]

theorem IsPath.length_add_rank_le (h : IsPath (s :: path)) : path.length + s.rank ≤ 3 := by
  induction path generalizing s with
  | nil => cases s <;> simp [rank]
  | cons t path ih =>
    obtain ⟨hc, ht⟩ := List.isChain_cons_cons.mp h
    have hr := rank_lt_of_canMoveTo hc
    have hl := ih ht
    simp only [List.length_cons]
    omega

theorem IsPath.length_le (h : IsPath path) : path.length ≤ 4 := by
  cases path with
  | nil => simp
  | cons s path =>
    have hl := h.length_add_rank_le
    simp only [List.length_cons]
    omega

/-- Only the last status of a path can be final. -/
theorem IsPath.not_final (h : IsPath path) (hs : s ∈ path.dropLast) :
    s ≠ .failed ∧ s ≠ .reverted := by
  induction path with
  | nil => simp at hs
  | cons r path ih =>
    cases path with
    | nil => simp at hs
    | cons t path =>
      obtain ⟨hc, ht⟩ := List.isChain_cons_cons.mp h
      rw [List.dropLast_cons_cons] at hs
      rcases List.mem_cons.mp hs with rfl | hs
      · exact not_final_of_canMoveTo hc
      · exact ih ht hs

/-- What is told after `s` follows on `s`, and also on any status before it. -/
theorem isPath_destutter (h : (s :: seen).IsChain fun s t => s = t ∨ s.canMoveTo t = true) :
    IsPath (seen.destutter' (· ≠ ·) s) ∧
      ∀ r, r.canMoveTo s = true → IsPath (r :: seen.destutter' (· ≠ ·) s) := by
  induction seen generalizing s with
  | nil =>
    refine ⟨List.isChain_singleton s, ?_⟩
    intro r hr
    exact List.isChain_pair.mpr hr
  | cons t seen ih =>
    obtain ⟨hst, ht⟩ := List.isChain_cons_cons.mp h
    by_cases hs : s = t
    · subst hs
      rw [List.destutter'_cons_neg _ (by simp)]
      exact ih ht
    · have hc := hst.resolve_left hs
      have hp := (ih ht).2 s hc
      rw [List.destutter'_cons_pos _ hs]
      refine ⟨hp, ?_⟩
      intro r hr
      exact List.isChain_cons_cons.mpr ⟨hr, hp⟩

theorem isPath_trail (h : seen.IsChain fun s t => s = t ∨ s.canMoveTo t = true) :
    IsPath (trail seen) := by
  cases seen with
  | nil => exact List.isChain_nil
  | cons s seen => exact (isPath_destutter h).1

end Evolution.Status
