import Evolution.Proofs.Text.Search

/-! Texts into which no occurrence of a pattern reaches, whatever stands around them. Where such
walls stand between the other pieces of a text, the pattern occurs in the text only if it occurs in
one of the pieces. -/
namespace Evolution.Text

/-- The pattern occurs nowhere in the text. -/
def Lacks (q s : String) : Prop :=
  contains s q = false

instance {q s : String} : Decidable (Lacks q s) :=
  inferInstanceAs (Decidable (contains s q = false))

/-- An occurrence of the pattern is in front of the text or behind it. -/
def IsWall (q w : String) : Prop :=
  ∀ x y : String, contains (x ++ w ++ y) q = true → contains x q = true ∨ contains y q = true

/-- However they are laid one over the other, the two differ somewhere. -/
def Apart (q w : List Char) : Prop :=
  (∀ c ∈ w.tails, c ≠ [] → ¬ (q <+: c ∨ c <+: q)) ∧
    ∀ c ∈ q.tails, c ≠ [] → ¬ (c <+: w ∨ w <+: c)

instance {q w : List Char} : Decidable (Apart q w) :=
  inferInstanceAs (Decidable (_ ∧ _))

section wall

variable {q s t u v w x y : String} {c : Char}

theorem contains_append_left (h : contains x q = true) (y : String) :
    contains (x ++ y) q = true := by
  rw [contains_iff_within, String.toList_append]
  exact List.infix_append_of_infix_left (contains_iff_within.mp h)

theorem contains_append_right (x : String) (h : contains y q = true) :
    contains (x ++ y) q = true := by
  rw [contains_iff_within, String.toList_append]
  exact List.infix_append_of_infix_right (contains_iff_within.mp h)

theorem lacks_iff : Lacks q s ↔ ¬ contains s q = true :=
  (Bool.not_eq_true _).symm.to_iff

/-- A pattern is not found where one of its characters is missing. -/
theorem lacks_of_not_mem (hq : c ∈ q.toList) (hs : c ∉ s.toList) : Lacks q s :=
  lacks_iff.mpr fun h => hs ((contains_iff_within.mp h).subset hq)

/-- What lacks a pattern lacks every pattern that it is a part of. -/
theorem Lacks.of_contains (h : Lacks q s) (hp : contains t q = true) : Lacks t s := by
  rw [lacks_iff] at h ⊢
  rw [contains_iff_within] at h hp ⊢
  exact fun ht => h (hp.trans ht)

theorem isWall_of_apart (h : Apart q.toList w.toList) : IsWall q w := by
  intro x y hc
  simp only [contains_iff_within] at hc ⊢
  obtain ⟨front, behind, hc⟩ := hc
  rw [String.toList_append, String.toList_append, List.append_assoc, List.append_assoc] at hc
  obtain ⟨a, hx, hq⟩ | ⟨a, -, hw⟩ := List.append_eq_append_iff.mp hc
  · -- the pattern begins in front of the wall
    obtain ⟨b, rfl, -⟩ | ⟨b, hb, hwy⟩ := List.append_eq_append_iff.mp hq
    · exact .inl ⟨front, b, by rw [hx, List.append_assoc]⟩
    · by_cases hnil : b = []
      · rw [hnil, List.append_nil] at hb
        exact .inl ⟨front, [], by rw [hx, hb, List.append_nil]⟩
      · have hsuffix : b ∈ q.toList.tails := (List.mem_tails _ _).mpr ⟨a, hb.symm⟩
        have hprefix : b <+: w.toList ++ y.toList := ⟨behind, hwy.symm⟩
        exact absurd (List.prefix_or_prefix_of_prefix hprefix (List.prefix_append _ _))
          (h.2 b hsuffix hnil)
  · -- it begins in the wall or behind it
    obtain ⟨b, -, hy⟩ | ⟨b, hb, hqy⟩ := List.append_eq_append_iff.mp hw
    · exact .inr ⟨b, behind, by rw [hy, List.append_assoc]⟩
    · by_cases hnil : b = []
      · rw [hnil, List.nil_append] at hqy
        exact .inr ⟨[], behind, by rw [← hqy, List.nil_append]⟩
      · have hsuffix : b ∈ w.toList.tails := (List.mem_tails _ _).mpr ⟨a, hb.symm⟩
        have hprefix : b <+: q.toList ++ behind := ⟨y.toList, hqy.symm⟩
        exact absurd (List.prefix_or_prefix_of_prefix (List.prefix_append _ _) hprefix)
          (h.1 b hsuffix hnil)

theorem Lacks.append_left (h : Lacks q (x ++ y)) : Lacks q x := by
  rw [lacks_iff] at h ⊢
  exact fun hc => h (contains_append_left hc y)

theorem Lacks.append_right (h : Lacks q (x ++ y)) : Lacks q y := by
  rw [lacks_iff] at h ⊢
  exact fun hc => h (contains_append_right x hc)

theorem isWall_char (hw : w.toList = [c]) (hq : q ≠ "") (hc : c ∉ q.toList) : IsWall q w := by
  have hmem {cs : List Char} (hne : cs ≠ []) (h : cs <+: [c] ∨ [c] <+: cs) : c ∈ cs := by
    obtain h | h := h
    · cases cs with
      | nil => exact absurd rfl hne
      | cons d cs => exact (List.cons_prefix_cons.mp h).1 ▸ List.mem_cons_self
    · exact h.subset List.mem_cons_self
  refine isWall_of_apart (hw ▸ ⟨fun cs hs hne h => ?_, fun cs hs hne h => ?_⟩)
  · obtain rfl : cs = [c] :=
      (List.suffix_cons_iff.mp ((List.mem_tails _ _).mp hs)).resolve_right (by simpa using hne)
    exact hc (hmem (by simpa using hq) h)
  · exact hc (((List.mem_tails _ _).mp hs).subset (hmem hne h))

theorem lacks_empty (hq : q ≠ "") : Lacks q "" := by
  rw [lacks_iff, contains_iff_within]
  simpa using hq

/-- To the left of a wall and to the right of it there must be nothing of the pattern. -/
theorem Lacks.walled (hx : Lacks q x) (hw : IsWall q w) (hy : Lacks q y) :
    Lacks q (x ++ w ++ y) := by
  rw [lacks_iff] at hx hy ⊢
  exact fun hc => (hw x y hc).elim hx hy

theorem Lacks.ne_empty (h : Lacks q x) : q ≠ "" := by
  rintro rfl
  exact lacks_iff.mp h (contains_iff_within.mpr List.nil_infix)

theorem Lacks.empty (h : Lacks q x) : Lacks q "" :=
  lacks_empty h.ne_empty

theorem Lacks.wall (hx : Lacks q x) (hw : IsWall q w) : Lacks q (x ++ w) := by
  have h := hx.walled hw hx.empty
  rwa [String.append_empty] at h

/-- What is left out or is a wall may follow. -/
theorem Lacks.wall? (hx : Lacks q x) (hw : w = "" ∨ IsWall q w) : Lacks q (x ++ w) := by
  obtain rfl | hw := hw
  · rwa [String.append_empty]
  · exact hx.wall hw

theorem Lacks.behind (hy : Lacks q y) (hw : IsWall q w) : Lacks q (w ++ y) := by
  have h := hy.empty.walled hw hy
  rwa [String.empty_append] at h

theorem IsWall.lacks (hw : IsWall q w) (hq : q ≠ "") : Lacks q w := by
  have h := (lacks_empty hq).wall hw
  rwa [String.empty_append] at h

/-- A blank behind a text ends no occurrence of a pattern that does not end with one. -/
theorem Lacks.blank_behind (hx : Lacks q x) (hq : q.toList.getLast? ≠ some ' ') :
    Lacks q (x ++ " ") := by
  have hne : q ≠ "" := hx.ne_empty
  rw [lacks_iff, contains_iff_within] at hx ⊢
  have hblank : (x ++ " ").toList = x.toList ++ [' '] := String.toList_append
  rw [hblank, List.infix_concat_iff, List.suffix_concat_iff]
  rintro ((hnil | ⟨front, hfront, -⟩) | h)
  · exact hne (String.toList_eq_nil_iff.mp hnil)
  · exact hq (by simp [hfront])
  · exact hx h

/-- A blank in front of a text begins no occurrence of a pattern that does not begin with one. -/
theorem Lacks.blank_in_front (hx : Lacks q x) (hq : q.toList.head? ≠ some ' ') :
    Lacks q (" " ++ x) := by
  have hne : q ≠ "" := hx.ne_empty
  rw [lacks_iff, contains_iff_within] at hx ⊢
  have hblank : (" " ++ x).toList = ' ' :: x.toList := String.toList_append
  rw [hblank, List.infix_cons_iff, List.prefix_cons_iff]
  rintro ((hnil | ⟨behind, hbehind, -⟩) | h)
  · exact hne (String.toList_eq_nil_iff.mp hnil)
  · exact hq (by simp [hbehind])
  · exact hx h

/-- What lacks the pattern may stand between two walls. -/
theorem IsWall.between (hu : IsWall q u) (hm : Lacks q s) (hv : IsWall q v) :
    IsWall q (u ++ s ++ v) := by
  intro x y hc
  have hassoc : x ++ (u ++ s ++ v) ++ y = x ++ u ++ (s ++ v ++ y) := by
    simp only [String.append_assoc]
  rw [hassoc] at hc
  refine (hu _ _ hc).imp_right fun hc => (hv _ _ hc).resolve_left ?_
  rwa [← lacks_iff]

theorem IsWall.append (hu : IsWall q u) (hq : q ≠ "") (hv : IsWall q v) : IsWall q (u ++ v) := by
  have h := hu.between (lacks_empty hq) hv
  rwa [String.append_empty] at h

theorem lacks_intercalate {items : List String} (hw : IsWall q w) (hq : q ≠ "")
    (h : ∀ s ∈ items, Lacks q s) : Lacks q (w.intercalate items) := by
  induction items with
  | nil => exact lacks_empty hq
  | cons s items ih =>
    obtain ⟨hs, hitems⟩ := List.forall_mem_cons.mp h
    cases items with
    | nil => rwa [String.intercalate_singleton]
    | cons t items =>
      rw [String.intercalate_cons_cons]
      exact hs.walled hw (ih hitems)

theorem isWall_intercalate {items : List String} (hw : IsWall q w) (hq : q ≠ "") (hne : items ≠ [])
    (h : ∀ s ∈ items, IsWall q s) : IsWall q (w.intercalate items) := by
  induction items with
  | nil => exact absurd rfl hne
  | cons s items ih =>
    obtain ⟨hs, hitems⟩ := List.forall_mem_cons.mp h
    cases items with
    | nil => rwa [String.intercalate_singleton]
    | cons t items =>
      rw [String.intercalate_cons_cons]
      exact (hs.append hq hw).append hq (ih (List.cons_ne_nil t items) hitems)

end wall
end Evolution.Text
