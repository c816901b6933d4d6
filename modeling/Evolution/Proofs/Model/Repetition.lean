import Evolution.Proofs.Model.Column
import Mathlib.Data.List.Induction

/-! What is said of the columns of a table, column by column. A column is judged by its own name and
by the columns in front of it: it is reported where it has no name, and where it is the second one
of its key. A third one adds nothing, and no other table counts. -/
namespace Evolution

open Text (trim)

/-- The column has a name, and its key is `key`. -/
def Column.bears (c : Column) (key : String) : Bool :=
  !isBlankText c.name && c.key == key

/-- How many of the columns that have a name have `key`. -/
def bearers (key : String) (columns : List Column) : Nat :=
  columns.countP (·.bears key)

/-- The column at `position`, counted from zero, has a name and is the second one of its key. -/
def isSecond (columns : List Column) (c : Column) (position : Nat) : Bool :=
  !isBlankText c.name && bearers c.key (columns.take position) == 1

/-- What is said of the column at `position`, counted from zero. -/
def complaint? (label : String) (columns : List Column) (c : Column) (position : Nat) :
    Option String :=
  if isBlankText c.name then some s!"{label}: column #{position + 1} name is required"
  else if isSecond columns c position then some s!"{label}: duplicate column name '{trim c.name}'"
  else none

section bearers

variable {columns before rest : List Column} {c d : Column} {key : String} {i j : Nat}

theorem bearers_append_singleton :
    bearers key (before ++ [c]) = bearers key before + if c.bears key then 1 else 0 := by
  simp [bearers, List.countP_append, List.countP_cons]

theorem bearers_take_le_bearers_take (h : i ≤ j) :
    bearers key (columns.take i) ≤ bearers key (columns.take j) :=
  (List.take_sublist_take_left h).countP_le

theorem bearers_take_succ (hc : columns[j]? = some c) :
    bearers key (columns.take (j + 1)) =
      bearers key (columns.take j) + if c.bears key then 1 else 0 := by
  rw [List.take_add_one, hc, Option.toList_some, bearers_append_singleton]

theorem Column.bears_iff : c.bears key = true ↔ isBlankText c.name = false ∧ c.key = key := by
  simp [bears]

/-- A second column has another one of its key in front of it, so there is no second one behind. -/
theorem le_of_isSecond (hc : columns[i]? = some c) (hs : isSecond columns c i = true)
    (ht : isSecond columns d j = true) (hk : c.key = d.key) : j ≤ i := by
  simp only [isSecond, Bool.and_eq_true, Bool.not_eq_true', beq_iff_eq] at hs ht
  by_contra hlt
  have hbears : c.bears c.key = true := Column.bears_iff.mpr ⟨hs.1, rfl⟩
  have htwo : bearers c.key (columns.take (i + 1)) = 2 := by
    rw [bearers_take_succ hc, hs.2, if_pos hbears]
  have hone : bearers c.key (columns.take j) = 1 := by
    rw [hk]
    exact ht.2
  have hle : bearers c.key (columns.take (i + 1)) ≤ bearers c.key (columns.take j) :=
    bearers_take_le_bearers_take (by omega)
  omega

/-- Where a key comes twice, one column is the second of it. -/
theorem exists_isSecond (h : 2 ≤ bearers key columns) :
    ∃ c j, columns[j]? = some c ∧ c.key = key ∧ isSecond columns c j = true := by
  induction columns using List.reverseRecOn with
  | nil => simp [bearers] at h
  | append_singleton columns c ih =>
    by_cases hle : 2 ≤ bearers key columns
    · obtain ⟨d, j, hd, hk, hs⟩ := ih hle
      have hj : j < columns.length := (List.getElem?_eq_some_iff.mp hd).1
      refine ⟨d, j, by rw [List.getElem?_append_left hj, hd], hk, ?_⟩
      rwa [isSecond, List.take_append_of_le_length (Nat.le_of_lt hj)]
    · rw [bearers_append_singleton] at h
      have hbears : c.bears key = true := by
        by_contra hn
        rw [if_neg hn] at h
        omega
      obtain ⟨hn, rfl⟩ := Column.bears_iff.mp hbears
      rw [if_pos hbears] at h
      refine ⟨c, columns.length, by simp, rfl, ?_⟩
      rw [isSecond, hn, List.take_left, beq_iff_eq.mpr (show bearers c.key columns = 1 by omega)]
      rfl

theorem two_le_bearers_of_isSecond (hc : columns[j]? = some c)
    (hs : isSecond columns c j = true) : 2 ≤ bearers c.key columns := by
  simp only [isSecond, Bool.and_eq_true, Bool.not_eq_true', beq_iff_eq] at hs
  have htwo : bearers c.key (columns.take (j + 1)) = 2 := by
    rw [bearers_take_succ hc, hs.2, if_pos (Column.bears_iff.mpr ⟨hs.1, rfl⟩)]
  rw [← htwo]
  exact (List.take_sublist _ _).countP_le

/-- Each key that comes twice or more has one second column, and no other key has any. -/
theorem existsUnique_isSecond_iff :
    (∃! p : Column × Nat, p ∈ columns.zipIdx ∧ p.1.key = key ∧ isSecond columns p.1 p.2 = true) ↔
      2 ≤ bearers key columns := by
  constructor
  · rintro ⟨⟨c, j⟩, ⟨hp, rfl, hs⟩, -⟩
    exact two_le_bearers_of_isSecond (List.mk_mem_zipIdx_iff_getElem?.mp hp) hs
  · intro h
    obtain ⟨c, j, hc, hk, hs⟩ := exists_isSecond h
    refine ⟨(c, j), ⟨List.mk_mem_zipIdx_iff_getElem?.mpr hc, hk, hs⟩, ?_⟩
    rintro ⟨d, i⟩ ⟨hp, hk', ht⟩
    have hd := List.mk_mem_zipIdx_iff_getElem?.mp hp
    have hle := le_of_isSecond hc hs ht (hk.trans hk'.symm)
    have hge := le_of_isSecond hd ht hs (hk'.trans hk.symm)
    obtain rfl : i = j := by omega
    obtain rfl : d = c := Option.some.inj (hd.symm.trans hc)
    rfl

end bearers

section walk

variable {before rest : List Column} {c : Column} {seen reported : List String} {table : Nat}
  {name key : String}

/-- The keys in front of a column, as the walk remembers them: those met, and those met twice. -/
structure Remembers (seen reported : List String) (before : List Column) : Prop where
  seen : ∀ key, key ∈ seen ↔ 1 ≤ bearers key before
  reported : ∀ key, key ∈ reported ↔ 2 ≤ bearers key before

theorem Remembers.blank (h : Remembers seen reported before) (hc : isBlankText c.name = true) :
    Remembers seen reported (before ++ [c]) := by
  have hb (key : String) : bearers key (before ++ [c]) = bearers key before := by
    simp [bearers_append_singleton, Column.bears, hc]
  exact ⟨fun key => hb key ▸ h.seen key, fun key => hb key ▸ h.reported key⟩

theorem bearers_append_named (hc : isBlankText c.name = false) :
    bearers key (before ++ [c]) = bearers key before + if key = c.key then 1 else 0 := by
  have hb : c.bears key = true ↔ key = c.key := by
    rw [Column.bears_iff, hc, eq_comm (a := key)]
    simp
  rw [bearers_append_singleton]
  simp only [hb]

theorem Remembers.first (h : Remembers seen reported before) (hc : isBlankText c.name = false)
    (hs : c.key ∉ seen) : Remembers (c.key :: seen) reported (before ++ [c]) := by
  have hzero : bearers c.key before = 0 := by
    have := mt (h.seen c.key).mpr hs
    omega
  constructor <;> intro key <;> rw [bearers_append_named hc]
  · rw [List.mem_cons, h.seen]
    split <;> simp_all
  · rw [h.reported]
    split
    · simp_all
    · rfl

theorem Remembers.second (h : Remembers seen reported before) (hc : isBlankText c.name = false)
    (hs : c.key ∈ seen) : Remembers seen (c.key :: reported) (before ++ [c]) := by
  have hone := (h.seen c.key).mp hs
  constructor <;> intro key <;> rw [bearers_append_named hc]
  · rw [h.seen]
    split
    · simp_all
    · rfl
  · rw [List.mem_cons, h.reported]
    split <;> simp_all

theorem Remembers.later (h : Remembers seen reported before) (hc : isBlankText c.name = false)
    (hr : c.key ∈ reported) : Remembers seen reported (before ++ [c]) := by
  have htwo := (h.reported c.key).mp hr
  constructor <;> intro key <;> rw [bearers_append_named hc]
  · rw [h.seen]
    split
    · subst key
      omega
    · rfl
  · rw [h.reported]
    split
    · subst key
      omega
    · rfl

/-- From any column on, the walk says of each column what the columns in front of it give rise
to. -/
theorem map_message_columnErrors (h : Remembers seen reported before) :
    (columnErrors table name (before.length + 1) seen reported rest).map ModelError.message =
      (rest.zipIdx before.length).filterMap fun p =>
        complaint? (tableLabel table name) (before ++ rest) p.1 p.2 := by
  induction rest generalizing before seen reported with
  | nil => rfl
  | cons c rest ih =>
    have hlength : before.length + 1 = (before ++ [c]).length := by simp
    have hwhole : before ++ c :: rest = before ++ [c] ++ rest := by simp
    have htake : (before ++ c :: rest).take before.length = before := List.take_left
    have hhere : complaint? (tableLabel table name) (before ++ c :: rest) c before.length =
        if isBlankText c.name then
          some (ModelError.columnUnnamed table name (before.length + 1)).message
        else if bearers c.key before = 1 then
          some (ModelError.columnRepeated table name (trim c.name)).message
        else none := by
      rw [complaint?, isSecond, htake]
      split
      · rfl
      · rename_i hc
        simp only [hc, Bool.not_false, Bool.true_and, beq_iff_eq]
        rfl
    rw [columnErrors, List.zipIdx_cons, List.filterMap_cons, hhere]
    cases hc : isBlankText c.name with
    | true =>
      simp only [if_true, List.map_cons]
      rw [hlength, ih (h.blank hc), hwhole]
    | false =>
      simp only [Bool.false_eq_true, if_false]
      by_cases hs : c.key ∈ seen
      · by_cases hr : c.key ∈ reported
        · have htwo := (h.reported c.key).mp hr
          rw [if_neg (by simpa using hs), if_neg (by simpa using hr),
            if_neg (show bearers c.key before ≠ 1 by omega)]
          simp only
          rw [hlength, ih (h.later hc hr), hwhole]
        · have hone : bearers c.key before = 1 := by
            have := (h.seen c.key).mp hs
            have := mt (h.reported c.key).mpr hr
            omega
          rw [if_neg (by simpa using hs), if_pos (by simpa using hr), if_pos hone]
          simp only [List.map_cons]
          rw [hlength, ih (h.second hc hs), hwhole]
      · have hzero := mt (h.seen c.key).mpr hs
        rw [if_pos (by simpa using hs), if_neg (show bearers c.key before ≠ 1 by omega)]
        simp only
        rw [hlength, ih (h.first hc hs), hwhole]

end walk

section state

variable {α β : Type} {items : List α} {x : α} {i k : Nat}

/-- Of a list of items with their positions, only one gives rise to anything. -/
theorem flatMap_zipIdx_of_getElem? {f : α → Nat → List β} (hx : items[i]? = some x)
    (hf : ∀ y n, n ≠ i + k → f y n = []) :
    ((items.zipIdx k).flatMap fun p => f p.1 p.2) = f x (i + k) := by
  induction items generalizing i k with
  | nil => cases hx
  | cons y items ih =>
    rw [List.zipIdx_cons, List.flatMap_cons]
    cases i with
    | zero =>
      obtain rfl := Option.some.inj hx
      have hrest : ((items.zipIdx (k + 1)).flatMap fun p => f p.1 p.2) = [] := by
        refine List.flatMap_eq_nil_iff.mpr fun p hp => ?_
        have hle := List.le_snd_of_mem_zipIdx hp
        exact hf p.1 p.2 (by omega)
      rw [hrest, List.append_nil, Nat.zero_add]
    | succ i =>
      have hstep : i + 1 + k = i + (k + 1) := by omega
      rw [hstep] at hf ⊢
      rw [hf y k (by omega), List.nil_append]
      exact ih hx hf

/-- The table whose column an error is about. -/
def ModelError.columnOf? : ModelError → Option Nat
  | columnUnnamed n _ _ | columnRepeated n _ _ => some n
  | _ => none

variable {e : ModelError} {table position : Nat} {name : String} {seen reported : List String}
  {columns : List Column}

theorem columnOf?_of_mem_columnErrors
    (h : e ∈ columnErrors table name position seen reported columns) :
    e.columnOf? = some table := by
  fun_induction columnErrors table name position seen reported columns with
  | case1 => cases h
  | case2 position seen reported c rest hc ih =>
    rcases List.mem_cons.mp h with rfl | h
    · rfl
    · exact ih h
  | case3 position seen reported c rest hc hs ih => exact ih h
  | case4 position seen reported c rest hc hs hr ih =>
    rcases List.mem_cons.mp h with rfl | h
    · rfl
    · exact ih h
  | case5 position seen reported c rest hc hs hr ih => exact ih h

theorem filter_errors_of_table (t : Table) (n : Nat) :
    (t.errors n).filter (fun e => e.columnOf? = some n) =
      columnErrors n (trim t.name) 1 [] [] t.columns := by
  have hunnamed : (if (trim t.name).isEmpty then [ModelError.tableUnnamed n] else []).filter
      (fun e => e.columnOf? = some n) = [] := by
    split <;> rfl
  have hall : (columnErrors n (trim t.name) 1 [] [] t.columns).filter
      (fun e => e.columnOf? = some n) = columnErrors n (trim t.name) 1 [] [] t.columns :=
    List.filter_eq_self.mpr fun e he => decide_eq_true (columnOf?_of_mem_columnErrors he)
  rw [Table.errors, List.filter_append, hunnamed, hall, List.nil_append]

theorem filter_errors_of_other_table (t : Table) {n m : Nat} (h : n ≠ m) :
    (t.errors n).filter (fun e => e.columnOf? = some m) = [] := by
  rw [List.filter_eq_nil_iff]
  intro e he
  simp only [Table.errors, List.mem_append, List.mem_ite_nil_right, List.mem_singleton] at he
  rcases he with ⟨-, rfl⟩ | he
  · simp [ModelError.columnOf?]
  · simpa [columnOf?_of_mem_columnErrors he] using h

/-- The errors of a state that are about a column of one of its tables are those of that table. -/
theorem DesiredState.filter_errors {s : DesiredState} {t : Table} (ht : s.tables[i]? = some t) :
    s.errors.filter (fun e => e.columnOf? = some (i + 1)) =
      columnErrors (i + 1) (trim t.name) 1 [] [] t.columns := by
  have hother {α : Type} {errors : α → Nat → List ModelError} {items : List α}
      (h : ∀ x n, ∀ e ∈ errors x n, e.columnOf? = none) :
      (positionedErrors errors items).filter (fun e => e.columnOf? = some (i + 1)) = [] := by
    rw [List.filter_eq_nil_iff]
    intro e he
    obtain ⟨⟨x, n⟩, -, he⟩ := List.mem_flatMap.mp he
    simp [h x n e he]
  have hpolicies (p : Policy) (n : Nat) : ∀ e ∈ p.errors n, e.columnOf? = none := by
    intro e he
    simp only [Policy.errors, List.mem_ite_nil_right, List.mem_singleton] at he
    rw [he.2]
    rfl
  have htriggers (t : Trigger) (n : Nat) : ∀ e ∈ t.errors n, e.columnOf? = none := by
    intro e he
    simp only [Trigger.errors, List.mem_ite_nil_left, List.mem_ite_nil_right,
      List.mem_singleton] at he
    rw [he.2.2]
    rfl
  have hfunctions (f : Routine) (n : Nat) : ∀ e ∈ f.errors n, e.columnOf? = none := by
    intro e he
    simp only [Routine.errors, List.mem_ite_nil_right, List.mem_singleton] at he
    rw [he.2]
    rfl
  have htables : (positionedErrors Table.errors s.tables).filter
      (fun e => e.columnOf? = some (i + 1)) =
        columnErrors (i + 1) (trim t.name) 1 [] [] t.columns := by
    have hothers (y : Table) (n : Nat) (hn : n ≠ i + 1) :
        (y.errors n).filter (fun e => e.columnOf? = some (i + 1)) = [] :=
      filter_errors_of_other_table y hn
    rw [positionedErrors, List.filter_flatMap]
    exact (flatMap_zipIdx_of_getElem? ht hothers).trans (filter_errors_of_table t (i + 1))
  rw [errors, List.filter_append, List.filter_append, List.filter_append, htables,
    hother hpolicies, hother htriggers, hother hfunctions]
  simp

theorem DesiredState.map_message_filter_errors {s : DesiredState} {t : Table}
    (ht : s.tables[i]? = some t) :
    (s.errors.filter fun e => e.columnOf? = some (i + 1)).map ModelError.message =
      t.columns.zipIdx.filterMap fun p =>
        complaint? (tableLabel (i + 1) (trim t.name)) t.columns p.1 p.2 := by
  have hnone : Remembers [] [] [] := ⟨by simp [bearers], by simp [bearers]⟩
  rw [filter_errors ht]
  exact map_message_columnErrors hnone

end state

/-- What a state is told of the columns of one of its tables: column by column, that a name is
missing, or that a column is the second one of its key. Each key that comes more than once has one
second column, however often it comes. Nothing is said where all columns have names and no two of
them have the same key, whatever the other tables hold. -/
theorem columns_told_in_order {s : DesiredState} {t : Table} {i : Nat}
    (ht : s.tables[i]? = some t) :
    let label := tableLabel (i + 1) (trim t.name)
    let told := (s.errors.filter fun e => e.columnOf? = some (i + 1)).map ModelError.message
    told = t.columns.zipIdx.filterMap (fun p => complaint? label t.columns p.1 p.2) ∧
    (∀ key, (∃! p : Column × Nat, p ∈ t.columns.zipIdx ∧ p.1.key = key ∧
      isSecond t.columns p.1 p.2 = true) ↔ 2 ≤ bearers key t.columns) ∧
    (∀ p ∈ t.columns.zipIdx, isSecond t.columns p.1 p.2 = true →
      2 ≤ bearers p.1.key t.columns) ∧
    (told = [] ↔ (∀ c ∈ t.columns, isBlankText c.name = false) ∧
      (t.columns.map Column.key).Nodup) := by
  intro label told
  refine ⟨DesiredState.map_message_filter_errors ht, fun key => existsUnique_isSecond_iff, ?_, ?_⟩
  · rintro ⟨c, j⟩ hp hs
    exact two_le_bearers_of_isSecond (List.mk_mem_zipIdx_iff_getElem?.mp hp) hs
  · rw [List.map_eq_nil_iff, DesiredState.filter_errors ht, columnErrors_eq_nil_iff]
    simp

/-- Three spellings of one key and two of another one, among columns without a name. -/
def misspelt : Table where
  name := " notes"
  columns := [{ name := "Id" }, { name := " " }, { name := "id " }, { name := "Ärger" },
    { name := "ID" }, { name := "" }, { name := "ärger" }]

/-- The second spelling is reported, the third is not; the table in front has a column of that name
as well. -/
theorem columns_told_in_order_misspelt :
    let s : DesiredState := { tables := [{ name := "t", columns := [{ name := "id" }] }, misspelt] }
    s.tables[1]? = some misspelt ∧
      (s.errors.filter fun e => e.columnOf? = some 2).map ModelError.message =
        ["Table #2 (notes): column #2 name is required",
          "Table #2 (notes): duplicate column name 'id'",
          "Table #2 (notes): column #6 name is required",
          "Table #2 (notes): duplicate column name 'ärger'"] ∧
      (∃! p : Column × Nat, p ∈ misspelt.columns.zipIdx ∧ p.1.key = "id" ∧
        isSecond misspelt.columns p.1 p.2 = true) := by
  intro s
  have hs : s.tables[1]? = some misspelt := rfl
  obtain ⟨htold, hsecond, -, -⟩ := columns_told_in_order hs
  exact ⟨hs, htold.trans (by decide +kernel), (hsecond "id").mpr (by decide +kernel)⟩

end Evolution
