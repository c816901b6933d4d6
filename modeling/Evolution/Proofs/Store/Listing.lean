import Evolution.Proofs.Lifecycle.Detached
import Mathlib.Data.List.Induction
import Mathlib.Data.Prod.Lex

/-! What a store in memory lists: the newest of the records that match a filter, whatever the order
in which they are kept. Identifiers settle the order of records that were created at one instant. -/
namespace Evolution

open Time (Instant)

/-- The record has what the filter asks for, of each thing that it asks for. -/
structure Filter.Matches (f : Filter) (r : Record) : Prop where
  moduleName : ∀ m ∈ f.moduleName, r.moduleName = m
  status : ∀ s ∈ f.status, r.status = s
  tenantId : ∀ t ∈ f.tenantId, r.tenantId = some t

theorem Filter.admits_iff {f : Filter} {r : Record} : f.admits r = true ↔ f.Matches r := by
  obtain ⟨moduleName, status, tenantId, limit⟩ := f
  constructor
  · intro h
    simp only [admits, Bool.and_eq_true, Option.all_eq_true, beq_iff_eq] at h
    exact ⟨fun m hm => (h.1.1 m hm).symm, fun s hs => (h.1.2 s hs).symm, h.2⟩
  · intro h
    simp only [admits, Bool.and_eq_true, Option.all_eq_true, beq_iff_eq]
    exact ⟨⟨fun m hm => (h.moduleName m hm).symm, fun s hs => (h.status s hs).symm⟩, h.tenantId⟩

namespace Record

variable {a b : Record}

/-- What records are sorted by: the time of their creation, and then their identifiers. -/
def key (r : Record) : Int ×ₗ Nat ×ₗ Nat :=
  toLex (r.createdAt.seconds, toLex (r.createdAt.nanos, r.id.bits.toNat))

theorem newer_iff : a.newer b = true ↔ b.key < a.key := by
  have htime : a.createdAt = b.createdAt ↔
      a.createdAt.seconds = b.createdAt.seconds ∧ a.createdAt.nanos = b.createdAt.nanos := by
    cases a.createdAt
    cases b.createdAt
    simp
  simp only [newer, Instant.before, Bool.or_eq_true, Bool.and_eq_true, decide_eq_true_iff,
    beq_iff_eq, htime, key, Prod.Lex.toLex_lt_toLex]
  omega

theorem key_ne (h : a.id ≠ b.id) : a.key ≠ b.key := by
  intro hk
  have hbits : a.id.bits.toNat = b.id.bits.toNat := congrArg (fun k => (ofLex (ofLex k).2).2) hk
  exact h (congrArg Uuid.mk (BitVec.eq_of_toNat_eq hbits))

theorem nodup_of_newestFirst {xs : List Record} (h : xs.Pairwise fun a b => b.key < a.key) :
    xs.Nodup := by
  apply h.imp
  intro a b hab he
  exact lt_irrefl b.key (he ▸ hab)

/-- Lists in strict order are the same as soon as they have the same elements. -/
theorem eq_of_newestFirst {xs ys : List Record} (hx : xs.Pairwise fun a b => b.key < a.key)
    (hy : ys.Pairwise fun a b => b.key < a.key) (hm : ∀ a, a ∈ xs ↔ a ∈ ys) : xs = ys := by
  apply List.Perm.eq_of_pairwise (fun a b _ _ hab hba => (lt_asymm hab hba).elim) hx hy
  exact (List.perm_ext_iff_of_nodup (nodup_of_newestFirst hx) (nodup_of_newestFirst hy)).mpr hm

end Record

namespace MemoryStore

variable {s s' t : MemoryStore} {f : Filter} {r : Record} {found found' : List Record}

/-- A store that was empty, and to which records were added and in which they were moved. -/
inductive Built : MemoryStore → Prop where
  | empty : Built {}
  | inserted {s s' : MemoryStore} {r : Record} (hs : Built s) (h : s.insert r = .ok s') : Built s'
  | moved {s s' : MemoryStore} {id : Uuid} {u : StatusUpdate} {now : Instant} {r : Record}
      (hs : Built s) (h : s.updateStatus id u now = .ok (r, s')) : Built s'

theorem ids_updateStatus {id : Uuid} {u : StatusUpdate} {now : Instant}
    (h : s.updateStatus id u now = .ok (r, s')) :
    s'.records.map Record.id = s.records.map Record.id := by
  obtain ⟨x, hx, -⟩ := updateStatus_ok h
  rw [records_updateStatus hx h, List.map_map]
  apply List.map_congr_left
  intro y _
  simp only [Function.comp_apply]
  split
  · rename_i hy
    exact (find?_id hx).trans (beq_iff_eq.mp hy).symm
  · rfl

/-- The stores that can be built are those in which no two records have one identifier. -/
theorem built_iff : s.Built ↔ (s.records.map Record.id).Nodup := by
  constructor
  · intro h
    induction h with
    | empty => exact List.nodup_nil
    | inserted _ h ih =>
      obtain ⟨hn, hs⟩ := records_insert h
      rw [hs]
      exact (nodup_ids_append _ _).mpr ⟨hn, ih⟩
    | moved _ h ih => rwa [ids_updateStatus h]
  · obtain ⟨rs⟩ := s
    -- the records are inserted one after the other
    induction rs using List.reverseRecOn with
    | nil => exact fun _ => .empty
    | append_singleton rs r ih =>
      intro hd
      obtain ⟨hn, hd⟩ := (nodup_ids_append rs r).mp hd
      have hnone : find? ⟨rs⟩ r.id = none := by
        apply List.find?_eq_none.mpr
        intro x hx he
        exact hn x hx (beq_iff_eq.mp he)
      refine .inserted (ih hd) (r := r) ?_
      rw [insert, hnone]

/-- A list of the newest records that match a filter, the newest first. Any that is left out is
older than all in the list, and is left out for the limit only. -/
structure Lists (s : MemoryStore) (f : Filter) (found : List Record) : Prop where
  stored : ∀ r ∈ found, r ∈ s.records ∧ f.Matches r
  newestFirst : found.Pairwise fun a b => b.key < a.key
  within : ∀ n ∈ f.limit, found.length ≤ n
  leftOut : ∀ r ∈ s.records, f.Matches r → r ∉ found →
    f.limit = some found.length ∧ ∀ x ∈ found, r.key < x.key

/-- The limit cuts off the list without one. -/
theorem list_eq_take {n : Nat} (h : f.limit = some n) :
    s.list f = (s.list { f with limit := none }).take n := by
  unfold list
  rw [h]
  rfl

theorem list_of_unlimited (h : f.limit = none) : s.list f = s.list { f with limit := none } := by
  unfold list
  rw [h]
  rfl

theorem mem_list_unlimited :
    r ∈ s.list { f with limit := none } ↔ r ∈ s.records ∧ f.Matches r := by
  rw [← Filter.admits_iff]
  exact List.mem_mergeSort.trans List.mem_filter

theorem newestFirst_list_unlimited (hs : s.Built) :
    (s.list { f with limit := none }).Pairwise fun a b => b.key < a.key := by
  let le (a b : Record) : Bool := !b.newer a
  have hle {a b : Record} : le a b = true ↔ b.key ≤ a.key := by
    rw [Bool.not_eq_true', Bool.eq_false_iff, ne_eq, Record.newer_iff, not_lt]
  have hsorted : (s.list { f with limit := none }).Pairwise fun a b => le a b = true := by
    apply List.pairwise_mergeSort
    · intro a b c hab hbc
      exact hle.mpr ((hle.mp hbc).trans (hle.mp hab))
    · intro a b
      rw [Bool.or_eq_true, hle, hle]
      exact le_total b.key a.key
  have hids : (s.list { f with limit := none }).Pairwise fun a b => a.id ≠ b.id := by
    refine List.Perm.pairwise (List.mergeSort_perm _ _).symm ?_ fun h => h.symm
    exact (List.pairwise_map.mp (built_iff.mp hs)).filter _
  refine (hsorted.and hids).imp ?_
  rintro a b ⟨hab, hid⟩
  exact lt_of_le_of_ne (hle.mp hab) (Record.key_ne hid).symm

/-- The store lists what it should. -/
theorem lists_list (f : Filter) (hs : s.Built) : s.Lists f (s.list f) := by
  have hsorted := newestFirst_list_unlimited (f := f) hs
  cases hlimit : f.limit with
  | none =>
    rw [list_of_unlimited hlimit]
    refine ⟨fun r hr => mem_list_unlimited.mp hr, hsorted, ?_, ?_⟩
    · intro n hn
      rw [hlimit] at hn
      cases hn
    · intro r hr ha hn
      exact absurd (mem_list_unlimited.mpr ⟨hr, ha⟩) hn
  | some n =>
    rw [list_eq_take hlimit]
    generalize hall : s.list { f with limit := none } = all at hsorted
    have hmem (r : Record) : r ∈ all ↔ r ∈ s.records ∧ f.Matches r := hall ▸ mem_list_unlimited
    -- whatever is left out stands behind the limit, where all is older
    rw [← List.take_append_drop n all] at hsorted
    obtain ⟨hfront, -, hacross⟩ := List.pairwise_append.mp hsorted
    refine ⟨fun r hr => (hmem r).mp (List.mem_of_mem_take hr), hfront, ?_, ?_⟩
    · intro m hm
      rw [hlimit, Option.mem_some_iff] at hm
      exact hm ▸ List.length_take_le n all
    · intro r hr ha hn
      have hback : r ∈ all.drop n := by
        have hr := (hmem r).mpr ⟨hr, ha⟩
        rw [← List.take_append_drop n all, List.mem_append] at hr
        exact hr.resolve_left hn
      have hlength := List.length_pos_of_mem hback
      rw [List.length_drop] at hlength
      refine ⟨?_, fun x hx => hacross x hx r hback⟩
      rw [hlimit, List.length_take_of_le (by omega)]

/-- What is listed is the front of all that could be. -/
theorem Lists.exists_append (hs : s.Built) (h : s.Lists f found) :
    ∃ rest, found ++ rest = s.list { f with limit := none } ∧ ∀ r ∈ rest, r ∉ found := by
  classical
  -- what is left out, in its order, completes the list
  refine ⟨(s.list { f with limit := none }).filter (· ∉ found), ?_, ?_⟩
  · apply Record.eq_of_newestFirst
    · refine List.pairwise_append.mpr ⟨h.newestFirst, (newestFirst_list_unlimited hs).filter _, ?_⟩
      intro x hx r hr
      obtain ⟨hr, hn⟩ := List.mem_filter.mp hr
      obtain ⟨hr, ha⟩ := mem_list_unlimited.mp hr
      exact (h.leftOut r hr ha (by simpa using hn)).2 x hx
    · exact newestFirst_list_unlimited hs
    · intro r
      rw [List.mem_append, List.mem_filter, decide_eq_true_iff]
      constructor
      · rintro (hr | ⟨hr, -⟩)
        · exact mem_list_unlimited.mpr (h.stored r hr)
        · exact hr
      · intro hr
        by_cases hf : r ∈ found
        · exact .inl hf
        · exact .inr ⟨hr, hf⟩
  · intro r hr
    simpa using (List.mem_filter.mp hr).2

/-- There is one such list only. -/
theorem Lists.eq_list (hs : s.Built) (h : s.Lists f found) : found = s.list f := by
  obtain ⟨rest, hall, hrest⟩ := h.exists_append hs
  cases rest with
  | nil =>
    rw [List.append_nil] at hall
    cases hlimit : f.limit with
    | none => rw [list_of_unlimited hlimit, ← hall]
    | some n => rw [list_eq_take hlimit, ← hall, List.take_of_length_le (h.within n hlimit)]
  | cons r rest =>
    have hr : r ∈ s.list { f with limit := none } := by
      rw [← hall]
      exact List.mem_append_right _ List.mem_cons_self
    obtain ⟨hr, ha⟩ := mem_list_unlimited.mp hr
    have hlimit := (h.leftOut r hr ha (hrest r List.mem_cons_self)).1
    rw [list_eq_take hlimit, ← hall, List.take_left]

theorem Built.of_perm (hs : s.Built) (h : t.records.Perm s.records) : t.Built :=
  built_iff.mpr ((h.map Record.id).nodup_iff.mpr (built_iff.mp hs))

/-- The order in which records are kept makes no difference. -/
theorem list_eq_of_perm (f : Filter) (hs : s.Built) (h : t.records.Perm s.records) :
    t.list f = s.list f := by
  have ht := lists_list f (hs.of_perm h)
  refine Lists.eq_list hs ⟨?_, ht.newestFirst, ht.within, ?_⟩
  · intro r hr
    exact ⟨h.mem_iff.mp (ht.stored r hr).1, (ht.stored r hr).2⟩
  · intro r hr
    exact ht.leftOut r (h.mem_iff.mpr hr)

/-- A smaller limit gives a front of what a greater one gives; no limit is the greatest. -/
theorem list_prefix (f : Filter) {limit limit' : Option Nat}
    (h : ∀ m ∈ limit', ∃ n ∈ limit, n ≤ m) :
    s.list { f with limit := limit } <+: s.list { f with limit := limit' } := by
  cases limit' with
  | none =>
    cases limit with
    | none => exact List.prefix_rfl
    | some n =>
      rw [list_eq_take (f := { f with limit := some n }) rfl]
      exact List.take_prefix _ _
  | some m =>
    obtain ⟨n, hn, hle⟩ := h m rfl
    cases hn
    rw [list_eq_take (f := { f with limit := some n }) rfl,
      list_eq_take (f := { f with limit := some m }) rfl]
    exact List.take_prefix_take_left hle

end MemoryStore

/-- The backend lists what a store in memory does, and nothing is changed by it. -/
def Backend.ListsFrom {σ : Type} (b : Backend σ) (view : σ → MemoryStore) : Prop :=
  ∀ f w, Action.Ends (b.list f) w (.ok ((view w).list f)) w

theorem Backend.detached_listsFrom : Backend.detached.ListsFrom fun s => s :=
  fun f s => s.ends_listAction f

end Evolution
