import Evolution.Proofs.Json.Numeral
import Mathlib.Data.List.Perm.Basic

/-! The order of the members of objects. A value that was read has them in the order of their keys,
and this value is read in whatever order they are written. -/
namespace Evolution.Json

section members

variable {α : Type} {key : String} {x : α} {m : String × α} {ms ns acc : List (String × α)}

/-- In the order of their keys, each key once. -/
def Ascending (ms : List (String × α)) : Prop :=
  ms.Pairwise fun m n => m.1 < n.1

theorem Ascending.ne (h : Ascending ms) : ms.Pairwise fun m n => m.1 ≠ n.1 := by
  refine List.Pairwise.imp ?_ h
  intro m n hlt he
  rw [he] at hlt
  exact String.lt_irrefl _ hlt

theorem mem_insertMember (h : m ∈ insertMember key x ms) : m = (key, x) ∨ m ∈ ms := by
  induction ms with
  | nil => exact .inl (List.mem_singleton.mp h)
  | cons n ms ih =>
    rw [insertMember] at h
    split at h
    · exact List.mem_cons.mp h
    · split at h
      · exact (List.mem_cons.mp h).imp_right (List.mem_cons_of_mem _)
      · rcases List.mem_cons.mp h with rfl | h
        · exact .inr List.mem_cons_self
        · exact (ih h).imp_right (List.mem_cons_of_mem _)

theorem Ascending.insertMember (h : Ascending ms) : Ascending (insertMember key x ms) := by
  induction ms with
  | nil => exact List.pairwise_singleton _ _
  | cons n ms ih =>
    obtain ⟨hn, hms⟩ := List.pairwise_cons.mp h
    rw [Json.insertMember]
    split
    · rename_i hlt
      refine List.pairwise_cons.mpr ⟨fun m hm => ?_, h⟩
      rcases List.mem_cons.mp hm with rfl | hm
      · exact hlt
      · exact String.lt_trans hlt (hn m hm)
    · split
      · rename_i he
        exact List.pairwise_cons.mpr ⟨fun m hm => he ▸ hn m hm, hms⟩
      · rename_i hge hne
        refine List.pairwise_cons.mpr ⟨fun m hm => ?_, ih hms⟩
        rcases mem_insertMember hm with rfl | hm
        · exact Decidable.byContradiction fun hnot =>
            hne (String.le_antisymm (String.not_lt.1 hnot) (String.not_lt.1 hge))
        · exact hn m hm

theorem insertMember_perm (h : ∀ m ∈ ms, m.1 ≠ key) :
    (insertMember key x ms).Perm ((key, x) :: ms) := by
  induction ms with
  | nil => exact .refl _
  | cons n ms ih =>
    have hne : key ≠ n.1 := (h n List.mem_cons_self).symm
    rw [insertMember, if_neg hne]
    split
    · exact .refl _
    · exact ((ih fun m hm => h m (List.mem_cons_of_mem _ hm)).cons _).trans (.swap _ _ _)

/-- Puts members into a sorted list, one after the other. -/
def insertMembers (ms acc : List (String × α)) : List (String × α) :=
  ms.foldl (fun sorted m => insertMember m.1 m.2 sorted) acc

theorem Ascending.insertMembers (h : Ascending acc) : Ascending (insertMembers ms acc) := by
  induction ms generalizing acc with
  | nil => exact h
  | cons m ms ih => exact ih h.insertMember

theorem mem_insertMembers (h : m ∈ insertMembers ms acc) : m ∈ ms ∨ m ∈ acc := by
  induction ms generalizing acc with
  | nil => exact .inr h
  | cons n ms ih =>
    rcases ih h with hm | hm
    · exact .inl (List.mem_cons_of_mem _ hm)
    · rcases mem_insertMember hm with rfl | hm
      · exact .inl List.mem_cons_self
      · exact .inr hm

theorem insertMembers_perm (h : (acc ++ ms).Pairwise fun m n => m.1 ≠ n.1) :
    (insertMembers ms acc).Perm (acc ++ ms) := by
  induction ms generalizing acc with
  | nil => rw [List.append_nil]; exact .refl _
  | cons n ms ih =>
    have hn : ∀ m ∈ acc, m.1 ≠ n.1 := fun m hm =>
      (List.pairwise_append.mp h).2.2 m hm n List.mem_cons_self
    have hp : (insertMember n.1 n.2 acc ++ ms).Perm (acc ++ n :: ms) :=
      ((insertMember_perm hn).append_right ms).trans List.perm_middle.symm
    exact (ih (hp.symm.pairwise h fun hne => hne.symm)).trans hp

/-- Members are put in the order of their keys, whatever their order was. -/
theorem insertMembers_of_perm (h : Ascending ms) (hp : ns.Perm ms) : insertMembers ns [] = ms := by
  have hne : ns.Pairwise fun m n => m.1 ≠ n.1 := hp.symm.pairwise h.ne fun hne => hne.symm
  have ha : Ascending (insertMembers ns []) := Ascending.insertMembers List.Pairwise.nil
  refine List.Perm.eq_of_pairwise (fun m n _ _ hmn hnm => ?_) ha h
    ((insertMembers_perm hne).trans hp)
  exact (String.lt_irrefl _ (String.lt_trans hmn hnm)).elim

end members

section values

variable {v w : Value} {vs ws : List Value} {ms ns : List (String × Value)} {depth : Nat}

theorem Value.ofMembers_eq (ms : List (String × Value)) :
    ofMembers ms = .object (insertMembers ms []) := rfl

theorem itemsReadable_iff : ItemsReadable vs ↔ ∀ v ∈ vs, v.Readable := by
  induction vs with
  | nil => simp [ItemsReadable]
  | cons v vs ih => simp [ItemsReadable, ih]

theorem membersReadable_iff : MembersReadable ms ↔ ∀ m ∈ ms, m.2.Readable := by
  induction ms with
  | nil => simp [MembersReadable]
  | cons m ms ih => simp [MembersReadable, ih]

/-- All objects in a value have their members in the order of their keys. -/
inductive Value.Ordered : Value → Prop where
  | null : Ordered .null
  | bool {b : Bool} : Ordered (.bool b)
  | number {n : Number} : Ordered (.number n)
  | string {s : String} : Ordered (.string s)
  | array {items : List Value} (h : ∀ v ∈ items, Ordered v) : Ordered (.array items)
  | object {members : List (String × Value)} (ha : Ascending members)
      (h : ∀ m ∈ members, Ordered m.2) : Ordered (.object members)

/-- All numbers in a value are whole, and have 64 bits with a sign or without one. -/
inductive Value.Integral : Value → Prop where
  | null : Integral .null
  | bool {b : Bool} : Integral (.bool b)
  | int {n : Int} (hl : -0x8000000000000000 ≤ n) (hh : n ≤ 0xFFFFFFFFFFFFFFFF) : Integral (.int n)
  | string {s : String} : Integral (.string s)
  | array {items : List Value} (h : ∀ v ∈ items, Integral v) : Integral (.array items)
  | object {members : List (String × Value)} (h : ∀ m ∈ members, Integral m.2) :
      Integral (.object members)

theorem Value.Integral.readable (h : v.Integral) : v.Readable := by
  induction h with
  | null | bool | string => trivial
  | int hl hh => exact Number.readable_int hl hh
  | array _ ih =>
    rw [Value.Readable]
    exact itemsReadable_iff.mpr ih
  | object _ ih =>
    rw [Value.Readable]
    exact membersReadable_iff.mpr ih

mutual

/-- How many arrays and objects stand in one another at most. -/
def Value.nesting : Value → Nat
  | .array items => itemsNesting items + 1
  | .object members => membersNesting members + 1
  | .null | .bool _ | .number _ | .string _ => 0

def itemsNesting : List Value → Nat
  | [] => 0
  | v :: rest => max v.nesting (itemsNesting rest)

def membersNesting : List (String × Value) → Nat
  | [] => 0
  | (_, v) :: rest => max v.nesting (membersNesting rest)

end

mutual

/-- The second value is the first one with the members of its objects in whatever order. -/
inductive Reordered : Value → Value → Prop where
  | null : Reordered .null .null
  | bool {b : Bool} : Reordered (.bool b) (.bool b)
  | number {n : Number} : Reordered (.number n) (.number n)
  | string {s : String} : Reordered (.string s) (.string s)
  | array {vs ws : List Value} (h : ItemsReordered vs ws) : Reordered (.array vs) (.array ws)
  | object {ms ns os : List (String × Value)} (h : MembersReordered ms ns) (hp : os.Perm ns) :
      Reordered (.object ms) (.object os)

inductive ItemsReordered : List Value → List Value → Prop where
  | nil : ItemsReordered [] []
  | cons {v w : Value} {vs ws : List Value} (h : Reordered v w) (hr : ItemsReordered vs ws) :
      ItemsReordered (v :: vs) (w :: ws)

inductive MembersReordered : List (String × Value) → List (String × Value) → Prop where
  | nil : MembersReordered [] []
  | cons {key : String} {v w : Value} {ms ns : List (String × Value)} (h : Reordered v w)
      (hr : MembersReordered ms ns) : MembersReordered ((key, v) :: ms) ((key, w) :: ns)

end

mutual

theorem Reordered.refl (v : Value) : Reordered v v := by
  cases v with
  | null => exact .null
  | bool b => exact .bool
  | number n => exact .number
  | string s => exact .string
  | array items => exact .array (ItemsReordered.refl items)
  | object members => exact .object (MembersReordered.refl members) (.refl _)

theorem ItemsReordered.refl (vs : List Value) : ItemsReordered vs vs := by
  cases vs with
  | nil => exact .nil
  | cons v vs => exact .cons (Reordered.refl v) (ItemsReordered.refl vs)

theorem MembersReordered.refl (ms : List (String × Value)) : MembersReordered ms ms := by
  cases ms with
  | nil => exact .nil
  | cons m ms => exact .cons (Reordered.refl m.2) (MembersReordered.refl ms)

end

theorem Reordered.tree_ne_null (h : Reordered v w) (hn : v ≠ .null) : w.tree ≠ .null := by
  cases h <;> simp_all [Value.tree]

mutual

/-- A value is as readable in one order as in the other. -/
theorem Reordered.readable {v w : Value} (h : Reordered v w) (hv : v.Readable) :
    w.Readable := by
  cases h with
  | null | bool | number | string => exact hv
  | array h =>
    rw [Value.Readable] at hv ⊢
    exact h.readable hv
  | object h hp =>
    rw [Value.Readable] at hv ⊢
    have hn := membersReadable_iff.mp (h.readable hv)
    exact membersReadable_iff.mpr fun m hm => hn m (hp.subset hm)

theorem ItemsReordered.readable {vs ws : List Value} (h : ItemsReordered vs ws)
    (hv : ItemsReadable vs) : ItemsReadable ws := by
  cases h with
  | nil => trivial
  | cons h hr => exact ⟨h.readable hv.1, hr.readable hv.2⟩

theorem MembersReordered.readable {ms ns : List (String × Value)} (h : MembersReordered ms ns)
    (hv : MembersReadable ms) : MembersReadable ns := by
  cases h with
  | nil => trivial
  | cons h hr => exact ⟨h.readable hv.1, hr.readable hv.2⟩

end

/-- A member is read with its key and this value. -/
def ReadsMember (depth : Nat) (n m : String × Value) : Prop :=
  n.1 = m.1 ∧ decodeValue depth n.2.tree = .ok m.2

theorem decodePairs_of_forall₂ (h : List.Forall₂ (ReadsMember depth) ns ms) :
    decodePairs depth (memberTreesOf ns) = .ok ms := by
  induction h with
  | nil => rfl
  | @cons n m ns ms hm _ ih =>
    obtain ⟨k, w⟩ := n
    obtain ⟨rfl, hw⟩ := hm
    rw [memberTreesOf, decodePairs, hw, ih]
    rfl

mutual

/-- In whatever order the members of objects are written, they are read in the order of their
keys. -/
theorem Reordered.decodeValue {v w : Value} {depth : Nat} (h : Reordered v w) (ho : v.Ordered)
    (hn : v.nesting ≤ depth) : decodeValue depth w.tree = .ok v := by
  cases h with
  | null | bool | number | string => rfl
  | array h =>
    obtain - | - | - | - | ho := ho
    rw [Value.nesting] at hn
    obtain ⟨d, rfl⟩ : ∃ d, depth = d + 1 := ⟨depth - 1, by omega⟩
    rw [Value.tree, Json.decodeValue, h.decodeValues ho (Nat.le_of_succ_le_succ hn)]
    rfl
  | object h hp =>
    obtain - | - | - | - | - | ⟨ha, ho⟩ := ho
    rw [Value.nesting] at hn
    obtain ⟨d, rfl⟩ : ∃ d, depth = d + 1 := ⟨depth - 1, by omega⟩
    -- the members are read in the order in which they are written, and only then put in order
    have hread := h.readsMembers ho (Nat.le_of_succ_le_succ hn)
    obtain ⟨ps, hps, hperm⟩ := List.perm_comp_forall₂ hp hread
    rw [Value.tree, Json.decodeValue, decodePairs_of_forall₂ hps]
    change Except.ok (Value.ofMembers ps) = _
    rw [Value.ofMembers_eq, insertMembers_of_perm ha hperm]

theorem ItemsReordered.decodeValues {vs ws : List Value} {depth : Nat} (h : ItemsReordered vs ws)
    (ho : ∀ v ∈ vs, v.Ordered) (hn : itemsNesting vs ≤ depth) :
    decodeValues depth (treesOf ws) = .ok vs := by
  cases h with
  | nil => rfl
  | cons h hr =>
    rw [itemsNesting, Nat.max_le] at hn
    have hv := h.decodeValue (ho _ List.mem_cons_self) hn.1
    have hvs := hr.decodeValues (fun v hm => ho v (List.mem_cons_of_mem _ hm)) hn.2
    rw [treesOf, Json.decodeValues, hv, hvs]
    rfl

theorem MembersReordered.readsMembers {ms ns : List (String × Value)} {depth : Nat}
    (h : MembersReordered ms ns) (ho : ∀ m ∈ ms, m.2.Ordered) (hn : membersNesting ms ≤ depth) :
    List.Forall₂ (ReadsMember depth) ns ms := by
  cases h with
  | nil => exact .nil
  | cons h hr =>
    rw [membersNesting, Nat.max_le] at hn
    have hv := h.decodeValue (ho _ List.mem_cons_self) hn.1
    have hms := hr.readsMembers (fun m hm => ho m (List.mem_cons_of_mem _ hm)) hn.2
    exact .cons ⟨rfl, hv⟩ hms

end

/-- A value that can be read where so many arrays and objects may be opened. -/
structure Value.Fits (v : Value) (depth : Nat) : Prop where
  ordered : v.Ordered
  nesting : v.nesting ≤ depth

end values
end Evolution.Json
