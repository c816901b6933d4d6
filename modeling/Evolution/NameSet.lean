/-! Sets of names, kept in ascending order. -/
namespace Evolution

/-- Puts a name at its place in an ascending list, unless it is there already. -/
def insertName (name : String) : List String → List String
  | [] => [name]
  | n :: rest =>
    if name < n then name :: n :: rest
    else if name = n then n :: rest
    else n :: insertName name rest

theorem mem_insertName {x name : String} {names : List String} :
    x ∈ insertName name names ↔ x = name ∨ x ∈ names := by
  induction names with
  | nil => simp [insertName]
  | cons n rest ih =>
    simp only [insertName]
    split
    · simp
    · split
      · simp_all
      · simp [ih]
        grind

theorem pairwise_insertName {name : String} {names : List String}
    (h : names.Pairwise (· < ·)) : (insertName name names).Pairwise (· < ·) := by
  induction names with
  | nil => simp [insertName]
  | cons n rest ih =>
    rw [List.pairwise_cons] at h
    simp only [insertName]
    split
    · rename_i hlt
      refine List.pairwise_cons.2 ⟨fun x hx => ?_, List.pairwise_cons.2 h⟩
      rcases List.mem_cons.1 hx with rfl | hx
      · exact hlt
      · exact String.lt_trans hlt (h.1 x hx)
    · split
      · exact List.pairwise_cons.2 h
      · rename_i hge hne
        refine List.pairwise_cons.2 ⟨fun x hx => ?_, ih h.2⟩
        rcases mem_insertName.1 hx with rfl | hx
        · exact Decidable.byContradiction fun hnot =>
            hne (String.le_antisymm (String.not_lt.1 hnot) (String.not_lt.1 hge))
        · exact h.1 x hx

/-- Distinct names in ascending order. -/
structure NameSet where
  toList : List String
  ascending : toList.Pairwise (· < ·)
  deriving DecidableEq

namespace NameSet

def empty : NameSet :=
  ⟨[], .nil⟩

def insert (names : NameSet) (name : String) : NameSet :=
  ⟨insertName name names.toList, pairwise_insertName names.ascending⟩

def ofList (names : List String) : NameSet :=
  names.foldl insert empty

def size (names : NameSet) : Nat :=
  names.toList.length

instance : Membership String NameSet :=
  ⟨fun names name => name ∈ names.toList⟩

@[simp]
theorem mem_insert {x name : String} {names : NameSet} :
    x ∈ names.insert name ↔ x = name ∨ x ∈ names :=
  mem_insertName

end NameSet
end Evolution
