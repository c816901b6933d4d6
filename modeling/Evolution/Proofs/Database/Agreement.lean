import Evolution.Proofs.Changeset.Codec
import Evolution.Proofs.Database.Readback
import Evolution.Proofs.Database.Service

/-! The store in memory and the store in a table answer alike. Both are followed call by call by a
list of what they keep, of which the one has the records and the other the rows; only the times at
which records were moved are each store's own. -/
namespace Evolution

open Evolution.Action Database
open Time (Instant)

/-- What can be asked of a store. -/
inductive StoreCall where
  | insert (r : Record)
  | get (id : Uuid)
  | updateStatus (id : Uuid) (u : StatusUpdate)
  | list (f : Filter)

def StoreCall.act {σ : Type} (b : Backend σ) (now : Instant) : StoreCall → Action σ Answer
  | insert r => do return .record (← b.insert r)
  | get id => do return .record (← b.get id)
  | updateStatus id u => do return .record (← b.updateStatus id u now)
  | list f => do return .records (← b.list f)

/-- The answers to calls one after the other. The clock tells the time of a call by the number of
those that are still to come. -/
def Backend.answers {σ : Type} (b : Backend σ) (clock : Nat → Instant) :
    List StoreCall → σ → List (Except Fault Answer)
  | [], _ => []
  | c :: calls, w =>
    answer (c.act b (clock calls.length)) w ::
      b.answers clock calls (after (c.act b (clock calls.length)) w)

/-- The record without the time at which it was moved. -/
def Record.untimed (r : Record) : Record :=
  { r with updatedAt := ⟨0, 0⟩ }

def Answer.untimed : Answer → Answer
  | record r => .record r.untimed
  | records rs => .records (rs.map Record.untimed)
  | preview p => .preview p

/-- What is inserted by these calls can be kept in a table: desired states are read as they were
written, and times are within those that can be told. Times of creation are whole microseconds and
tell the records apart, and limits are signed numbers of 64 bits. -/
structure Tabular (calls : List StoreCall) : Prop where
  state {r} : .insert r ∈ calls →
    Cell.json? DesiredState.decode (.json r.desiredState.json) = some r.desiredState
  created {r} : .insert r ∈ calls → r.createdAt.IsWhole
  updated {r} : .insert r ∈ calls → r.updatedAt.Legible
  distinct {r r'} : .insert r ∈ calls → .insert r' ∈ calls → r.createdAt = r'.createdAt →
    r.id = r'.id
  limit {f n} : .list f ∈ calls → f.limit = some n → n < 0x8000000000000000

/-- A record that both stores keep, with the time at which the table has moved it. -/
structure Kept where
  record : Record
  time : Instant

namespace Kept

variable {k l : Kept} {u : StatusUpdate} {now now' : Instant} {f : Filter}

def row (k : Kept) : Row :=
  .ofRecord { k.record with updatedAt := k.time }

def moved (u : StatusUpdate) (now now' : Instant) (k : Kept) : Kept :=
  ⟨k.record.moved u now, now'⟩

theorem row_moved (k : Kept) : (k.moved u now now').row = k.row.moved u now' := by
  refine congrArg Row.mk (funext fun c => ?_)
  rcases u with ⟨status, errorText, _ | report⟩ <;> cases c <;> rfl

theorem hasId_row (k : Kept) (id : Uuid) : k.row.hasId id = (k.record.id == id) := by
  have h : k.row.hasId id = (some k.record.id == some id) := rfl
  rw [h, Option.some_beq_some]

/-- A row is admitted as its record is. -/
theorem meets_row (k : Kept) (f : Filter) : k.row.meets f = f.admits k.record := by
  have hname (m : String) :
      ((k.row.cell .moduleName).text? == some m) = (m == k.record.moduleName) := by
    have h : (k.row.cell .moduleName).text? = some k.record.moduleName := rfl
    rw [h, Option.some_beq_some, Bool.beq_comm]
  have hstatus (s : Status) :
      ((k.row.cell .status).text? == some s.text) = (s == k.record.status) := by
    have h : (k.row.cell .status).text? = some k.record.status.text := rfl
    rw [h, Option.some_beq_some, Bool.eq_iff_iff, beq_iff_eq, beq_iff_eq]
    exact ⟨fun ht => Status.text_inj ht.symm, fun he => congrArg Status.text he.symm⟩
  have htenant : (k.row.cell .tenantId).uuid? = k.record.tenantId := by
    have h : k.row.cell .tenantId = .ofOption .uuid k.record.tenantId := rfl
    rw [h]
    cases k.record.tenantId <;> rfl
  simp only [Row.meets, Filter.admits, hname, hstatus, htenant]

/-- Of two records created at different times, the later one has the newer row. -/
theorem newer_row {k l : Kept} (hk : k.record.createdAt.IsWhole) (hl : l.record.createdAt.IsWhole)
    (h : k.record.createdAt = l.record.createdAt → k.record.id = l.record.id) :
    k.row.newer l.row = k.record.newer l.record := by
  have hrow : k.row.newer l.row =
      decide (l.record.createdAt.microseconds < k.record.createdAt.microseconds) := rfl
  have hid : (k.record.createdAt == l.record.createdAt &&
      l.record.id.bits.toNat < k.record.id.bits.toNat) = false := by
    rw [Bool.and_eq_false_imp]
    intro he
    rw [h (eq_of_beq he)]
    simp
  rw [hrow, Record.newer, hid, Bool.or_false, Bool.eq_iff_iff, decide_eq_true_iff, hl.before_iff hk]

end Kept

/-- Both stores keep the same: the one the records, and the other the rows. -/
structure Alike {φ δ : Type} (server : Server φ δ) (calls : List StoreCall) (s : MemoryStore)
    (db : Database φ δ) (ks : List Kept) : Prop where
  records : s.records = ks.map Kept.record
  rows : db.rows = ks.map Kept.row
  service : InService server db
  unique : (ks.map (·.record.id)).Nodup
  /-- Nothing is kept that was not inserted, and what was inserted keeps its time. -/
  origin : ∀ k ∈ ks, ∃ r, .insert r ∈ calls ∧ k.record.id = r.id ∧
    k.record.createdAt = r.createdAt ∧ k.record.desiredState = r.desiredState
  time : ∀ k ∈ ks, k.time.Legible

/-- A call has the same answer from both stores, but for the times of moves, and what they keep
stays the same. -/
def StoreCall.Agrees {φ δ : Type} (server : Server φ δ) (calls : List StoreCall) (c : StoreCall)
    (now now' : Instant) (s : MemoryStore) (db : Database φ δ) : Prop :=
  ∃ x x' s' db' ks, Ends (c.act Backend.detached now) s x s' ∧
    Ends (c.act (hosted server) now') db x' db' ∧
    x.map Answer.untimed = x'.map Answer.untimed ∧ Alike server calls s' db' ks

namespace Alike

variable {φ δ : Type} {server : Server φ δ} {calls : List StoreCall} {s : MemoryStore}
  {db db' : Database φ δ} {ks ls : List Kept} {k : Kept} {r : Record} {id : Uuid}
  {u : StatusUpdate} {now now' : Instant} {f : Filter}

theorem whole (h : Alike server calls s db ks) (ht : Tabular calls) (hk : k ∈ ks) :
    k.record.createdAt.IsWhole := by
  obtain ⟨r, hr, -, hc, -⟩ := h.origin k hk
  exact hc ▸ ht.created hr

/-- What is kept can be read from the table, up to the time at which it was moved. -/
theorem reads (h : Alike server calls s db ks) (ht : Tabular calls) (hk : k ∈ ks) :
    ∃ r, k.row.record = .ok r ∧ r.status = k.record.status ∧ r.untimed = k.record.untimed := by
  obtain ⟨r, hr, -, -, hd⟩ := h.origin k hk
  obtain ⟨t, htime⟩ := h.time k hk
  have hstate : Cell.json? DesiredState.decode (.json k.record.desiredState.json) =
      some k.record.desiredState := by
    rw [hd]
    exact ht.state hr
  have hreads := Row.reads_ofRecord (r := { k.record with updatedAt := k.time }) hstate
    (h.whole ht hk).instant? htime
  exact ⟨_, hreads.record, rfl, rfl⟩

theorem find? (h : Alike server calls s db ks) (id : Uuid) :
    s.find? id = (ks.find? (·.record.id == id)).map Kept.record := by
  rw [MemoryStore.find?, h.records, List.find?_map]
  rfl

theorem rowOf (h : Alike server calls s db ks) (id : Uuid) :
    rowOf db.rows id = (ks.find? (·.record.id == id)).map Kept.row := by
  have hid : (·.hasId id) ∘ Kept.row = fun k : Kept => k.record.id == id :=
    funext fun k => k.hasId_row id
  rw [Database.rowOf, h.rows, List.find?_map, hid]

/-- The table can be replaced by another one that is in service and has the same rows. -/
theorem served (h : Alike server calls s db ks) (hs : InService server db')
    (hr : db'.rows = db.rows) : Alike server calls s db' ks :=
  ⟨h.records, hr.trans h.rows, hs, h.unique, h.origin, h.time⟩

theorem inserted (h : Alike server calls s db ks) (ht : Tabular calls)
    (hr : .insert r ∈ calls) (hn : ks.find? (·.record.id == r.id) = none)
    (hs : InService server db') (hrows : db'.rows = db.rows ++ [.ofRecord r]) :
    Alike server calls { s with records := s.records ++ [r] } db' (ks ++ [⟨r, r.updatedAt⟩]) where
  records := by simp [h.records]
  rows := by
    rw [hrows, h.rows, List.map_append]
    rfl
  service := hs
  unique := by
    have hnew : ∀ k ∈ ks, k.record.id ≠ r.id := by simpa using hn
    rw [List.map_append, List.nodup_append]
    refine ⟨h.unique, List.nodup_singleton _, ?_⟩
    simpa using hnew
  origin := by
    intro k hk
    rcases List.mem_append.mp hk with hk | hk
    · exact h.origin k hk
    · obtain rfl := List.mem_singleton.mp hk
      exact ⟨r, hr, rfl, rfl, rfl⟩
  time := by
    intro k hk
    rcases List.mem_append.mp hk with hk | hk
    · exact h.time k hk
    · obtain rfl := List.mem_singleton.mp hk
      exact ht.updated hr

theorem insert (now now' : Instant) (h : Alike server calls s db ks) (ht : Tabular calls)
    (hr : .insert r ∈ calls) : (StoreCall.insert r).Agrees server calls now now' s db := by
  have hfind := h.find? r.id
  have hrow := h.rowOf r.id
  cases hk : ks.find? (·.record.id == r.id) with
  | none =>
    rw [hk] at hfind hrow
    obtain ⟨db', he, hs, hrows⟩ := h.service.insert hrow
    have hi : s.insert r = .ok { s with records := s.records ++ [r] } := by
      rw [MemoryStore.insert, hfind]
      rfl
    exact ⟨_, _, _, db', _, ends_bind_pure.mpr ⟨_, MemoryStore.ends_insertAction hi, rfl⟩,
      ends_bind_pure.mpr ⟨_, he, rfl⟩, rfl, h.inserted ht hr hk hs hrows⟩
  | some k =>
    rw [hk] at hfind hrow
    obtain ⟨db', he, hs, hrows⟩ := h.service.insert_duplicate hrow
    have hi : s.insert r = .error (.duplicateChangeset r.id) := by
      rw [MemoryStore.insert, hfind]
      rfl
    exact ⟨_, _, s, db', ks, ends_bind_pure.mpr ⟨_, MemoryStore.ends_insertAction_error hi, rfl⟩,
      ends_bind_pure.mpr ⟨_, he, rfl⟩, rfl, h.served hs hrows⟩

theorem get (now now' : Instant) (h : Alike server calls s db ks) (ht : Tabular calls) :
    (StoreCall.get id).Agrees server calls now now' s db := by
  have hfind := h.find? id
  have hrow := h.rowOf id
  have hget := MemoryStore.ends_getAction s id
  cases hk : ks.find? (·.record.id == id) with
  | none =>
    rw [hk] at hfind hrow
    obtain ⟨db', he, hs, hrows⟩ := h.service.get_unknown hrow
    rw [MemoryStore.get, hfind] at hget
    exact ⟨_, _, s, db', ks, ends_bind_pure.mpr ⟨_, hget, rfl⟩, ends_bind_pure.mpr ⟨_, he, rfl⟩,
      rfl, h.served hs hrows⟩
  | some k =>
    rw [hk] at hfind hrow
    obtain ⟨r, hr, -, hu⟩ := h.reads ht (List.mem_of_find?_eq_some hk)
    obtain ⟨db', he, hs, hrows⟩ := h.service.get hrow hr
    rw [MemoryStore.get, hfind] at hget
    refine ⟨_, _, s, db', ks, ends_bind_pure.mpr ⟨_, hget, rfl⟩, ends_bind_pure.mpr ⟨_, he, rfl⟩,
      ?_, h.served hs hrows⟩
    exact congrArg (fun r => Except.ok (Answer.record r)) hu.symm

/-- What is kept after the record of an identifier has been moved. -/
def movedIn (ks : List Kept) (id : Uuid) (u : StatusUpdate) (now now' : Instant) : List Kept :=
  ks.map fun k => if k.record.id == id then k.moved u now now' else k

theorem mem_movedIn (hk : k ∈ movedIn ks id u now now') :
    ∃ l ∈ ks, (k = l ∨ k = l.moved u now now') := by
  obtain ⟨l, hl, rfl⟩ := List.mem_map.mp hk
  refine ⟨l, hl, ?_⟩
  split
  · exact .inr rfl
  · exact .inl rfl

/-- The one record of an identifier is moved in memory, and its row in the table. -/
theorem moved (h : Alike server calls s db ks) (hn : now'.Legible) (hk : k ∈ ks)
    (hid : k.record.id = id) (hs : InService server db')
    (hrows : db'.rows = db.rows.map fun x => if x.hasId id then x.moved u now' else x) :
    Alike server calls
      { s with records := s.records.map fun x => if x.id == id then k.record.moved u now else x }
      db' (movedIn ks id u now now') where
  records := by
    rw [movedIn, h.records, List.map_map, List.map_map]
    refine List.map_congr_left fun l hl => ?_
    simp only [Function.comp]
    split
    · rename_i he
      obtain rfl : l = k :=
        List.inj_on_of_nodup_map h.unique hl hk ((eq_of_beq he).trans hid.symm)
      rfl
    · rfl
  rows := by
    rw [movedIn, hrows, h.rows, List.map_map, List.map_map]
    refine List.map_congr_left fun l _ => ?_
    simp only [Function.comp, Kept.hasId_row]
    split
    · exact l.row_moved.symm
    · rfl
  service := hs
  unique := by
    have hids : (movedIn ks id u now now').map (·.record.id) = ks.map (·.record.id) := by
      rw [movedIn, List.map_map]
      refine List.map_congr_left fun l _ => ?_
      simp only [Function.comp]
      split <;> rfl
    rw [hids]
    exact h.unique
  origin := by
    intro x hx
    obtain ⟨l, hl, rfl | rfl⟩ := mem_movedIn hx
    · exact h.origin x hl
    · exact h.origin l hl
  time := by
    intro x hx
    obtain ⟨l, hl, rfl | rfl⟩ := mem_movedIn hx
    · exact h.time x hl
    · exact hn

theorem updateStatus (now : Instant) (h : Alike server calls s db ks) (ht : Tabular calls)
    (hn : now'.Legible) : (StoreCall.updateStatus id u).Agrees server calls now now' s db := by
  have hfind := h.find? id
  have hrow := h.rowOf id
  cases hk : ks.find? (·.record.id == id) with
  | none =>
    rw [hk] at hfind hrow
    obtain ⟨db', he, hs, hrows⟩ := h.service.updateStatus_unknown (u := u) now' hrow
    have hu : s.updateStatus id u now = .error (.unknownChangeset id) := by
      rw [MemoryStore.updateStatus, MemoryStore.get, hfind]
      rfl
    exact ⟨_, _, s, db', ks,
      ends_bind_pure.mpr ⟨_, MemoryStore.ends_updateStatusAction_error hu, rfl⟩,
      ends_bind_pure.mpr ⟨_, he, rfl⟩, rfl, h.served hs hrows⟩
  | some k =>
    rw [hk] at hfind hrow
    have hmem := List.mem_of_find?_eq_some hk
    have hid : k.record.id = id := by simpa using List.find?_some hk
    obtain ⟨r, hr, hstatus, huntimed⟩ := h.reads ht hmem
    cases hc : k.record.status.canMoveTo u.status with
    | false =>
      obtain ⟨db', he, hs, hrows⟩ :=
        h.service.updateStatus_refused (u := u) now' hrow hr (by rw [hstatus, hc])
      have hu : s.updateStatus id u now =
          .error (.invalidTransition id k.record.status u.status) := by
        rw [MemoryStore.updateStatus, MemoryStore.get, hfind]
        exact if_neg (by rw [hc]; decide)
      rw [hstatus] at he
      exact ⟨_, _, s, db', ks,
        ends_bind_pure.mpr ⟨_, MemoryStore.ends_updateStatusAction_error hu, rfl⟩,
        ends_bind_pure.mpr ⟨_, he, rfl⟩, rfl, h.served hs hrows⟩
    | true =>
      obtain ⟨db', he, hs, hrows⟩ :=
        h.service.updateStatus (u := u) now' hrow hr (by rw [hstatus, hc])
      have hu : s.updateStatus id u now = .ok (k.record.moved u now,
          { s with records := s.records.map fun x =>
              if x.id == id then k.record.moved u now else x }) := by
        rw [MemoryStore.updateStatus, MemoryStore.get, hfind]
        exact if_pos hc
      refine ⟨_, _, _, db', _,
        ends_bind_pure.mpr ⟨_, MemoryStore.ends_updateStatusAction hu, rfl⟩,
        ends_bind_pure.mpr ⟨_, he, rfl⟩, ?_, h.moved hn hmem hid hs hrows⟩
      have hmoved : (r.moved u now').untimed = (k.record.moved u now).untimed :=
        congrArg (Record.moved · u ⟨0, 0⟩) huntimed
      exact congrArg (fun r => Except.ok (Answer.record r)) hmoved.symm

/-- The records and the rows that are found are those of one list. -/
theorem selected (h : Alike server calls s db ks) (ht : Tabular calls) (hf : .list f ∈ calls) :
    ∃ ls, ls ⊆ ks ∧ s.list f = ls.map Kept.record ∧
      selectRows f db.rows = .ok (ls.map Kept.row) := by
  -- both stores sort by the records, as long as no two of these were created at one time
  let admitted := ks.filter fun k => f.admits k.record
  let sorted := admitted.mergeSort fun k l => !l.record.newer k.record
  have hsub : sorted ⊆ ks := fun k hk =>
    (List.mem_filter.mp (List.mem_mergeSort.mp hk)).1
  have hrecords : (s.records.filter f.admits).mergeSort (fun a b => !b.newer a) =
      sorted.map Kept.record := by
    rw [h.records, List.filter_map]
    exact (List.map_mergeSort (r := fun k l : Kept => !l.record.newer k.record)
      fun _ _ _ _ => rfl).symm
  have hrows : (db.rows.filter (·.meets f)).mergeSort (fun a b => !b.newer a) =
      sorted.map Kept.row := by
    have hmeets : (·.meets f) ∘ Kept.row = fun k : Kept => f.admits k.record :=
      funext fun k => k.meets_row f
    rw [h.rows, List.filter_map, hmeets, List.map_mergeSort]
    intro k hk l hl
    have hk := (List.mem_filter.mp hk).1
    have hl := (List.mem_filter.mp hl).1
    rw [Kept.newer_row (h.whole ht hl) (h.whole ht hk)]
    intro hc
    obtain ⟨r, hr, hrid, hrc, -⟩ := h.origin k hk
    obtain ⟨r', hr', hrid', hrc', -⟩ := h.origin l hl
    rw [hrid, hrid', ht.distinct hr' hr (by rw [← hrc, ← hrc', hc])]
  cases hlimit : f.limit with
  | none =>
    refine ⟨sorted, hsub, ?_, ?_⟩
    · simp only [MemoryStore.list, hlimit, hrecords]
    · simp only [selectRows, hlimit, hrows]
  | some n =>
    refine ⟨sorted.take n, fun k hk => hsub (List.mem_of_mem_take hk), ?_, ?_⟩
    · simp only [MemoryStore.list, hlimit, hrecords, List.map_take]
    · simp only [selectRows, hlimit, hrows, List.map_take, if_pos (ht.limit hf hlimit)]

/-- A list of rows is read record by record. -/
theorem mapM_reads (h : Alike server calls s db ks) (ht : Tabular calls) (hl : ls ⊆ ks) :
    ∃ rs, (ls.map Kept.row).mapM Row.record = .ok rs ∧
      rs.map Record.untimed = ls.map (·.record.untimed) := by
  induction ls with
  | nil => exact ⟨[], rfl, rfl⟩
  | cons k ls ih =>
    obtain ⟨r, hr, -, hu⟩ := h.reads ht (hl List.mem_cons_self)
    obtain ⟨rs, hrs, hus⟩ := ih fun l hm => hl (List.mem_cons_of_mem _ hm)
    refine ⟨r :: rs, ?_, by simp [hu, hus]⟩
    rw [List.map_cons, List.mapM_cons, hr, hrs]
    rfl

theorem list (now now' : Instant) (h : Alike server calls s db ks) (ht : Tabular calls)
    (hf : .list f ∈ calls) : (StoreCall.list f).Agrees server calls now now' s db := by
  obtain ⟨ls, hl, hlist, hselect⟩ := h.selected ht hf
  obtain ⟨rs, hrs, hu⟩ := h.mapM_reads ht hl
  obtain ⟨db', he, hs, hrows⟩ := h.service.list hselect
  rw [hrs] at he
  refine ⟨_, _, s, db', ks, ends_bind_pure.mpr ⟨_, MemoryStore.ends_listAction s f, rfl⟩,
    ends_bind_pure.mpr ⟨_, he, rfl⟩, ?_, h.served hs hrows⟩
  have huntimed : (s.list f).map Record.untimed = rs.map Record.untimed := by
    rw [hlist, hu, List.map_map]
    rfl
  exact congrArg (fun rs => Except.ok (Answer.records rs)) huntimed

theorem act {c : StoreCall} (now : Instant) (h : Alike server calls s db ks) (ht : Tabular calls)
    (hc : c ∈ calls) (hn : now'.Legible) : c.Agrees server calls now now' s db := by
  cases c with
  | insert r => exact h.insert now now' ht hc
  | get id => exact h.get now now' ht
  | updateStatus id u => exact h.updateStatus now ht hn
  | list f => exact h.list now now' ht hc

theorem answers {clock clock' : Nat → Instant} {rest : List StoreCall}
    (h : Alike server calls s db ks) (ht : Tabular calls) (hn : ∀ n, (clock' n).Legible)
    (hr : rest ⊆ calls) :
    (Backend.detached.answers clock rest s).map (Except.map Answer.untimed) =
      ((hosted server).answers clock' rest db).map (Except.map Answer.untimed) := by
  induction rest generalizing s db ks with
  | nil => rfl
  | cons c rest ih =>
    obtain ⟨x, x', s', db', ks', hs, hdb, hx, hm⟩ :=
      h.act (clock rest.length) ht (hr List.mem_cons_self) (hn rest.length)
    have hrest := ih hm fun d hd => hr (List.mem_cons_of_mem _ hd)
    unfold Backend.answers
    rw [hs.answer_eq, hs.after_eq, hdb.answer_eq, hdb.after_eq, List.map_cons, List.map_cons, hx,
      hrest]

end Alike

/-- Started empty, the store in memory and the store in a table give the same answers to the same
calls: the same faults, the same lists in the same order, and records that differ at most in the
time at which they were moved, whatever each store's clock says. -/
theorem stores_agree {φ δ : Type} {server : Server φ δ} {db : Database φ δ}
    {calls : List StoreCall} (clock : Nat → Instant) {clock' : Nat → Instant}
    (hs : InService server db) (he : db.rows = []) (ht : Tabular calls)
    (hn : ∀ n, (clock' n).Legible) :
    (Backend.detached.answers clock calls {}).map (Except.map Answer.untimed) =
      ((hosted server).answers clock' calls db).map (Except.map Answer.untimed) := by
  have h : Alike server calls {} db [] := ⟨rfl, he, hs, List.nodup_nil, by simp, by simp⟩
  exact h.answers ht hn (List.Subset.refl calls)

/-- A record of the first second of 2020. -/
def firstRecord : Record :=
  { id := ⟨1⟩, createdAt := ⟨1577836800, 0⟩, updatedAt := ⟨1577836800, 0⟩ }

def secondRecord : Record :=
  { firstRecord with id := ⟨2⟩, createdAt := ⟨1577836801, 5000⟩ }

/-- The first record is inserted twice, and moved along a step and along none. -/
def sevenCalls : List StoreCall :=
  [.insert firstRecord, .insert firstRecord, .insert secondRecord,
    .updateStatus ⟨1⟩ { status := .validated }, .updateStatus ⟨1⟩ { status := .draft }, .get ⟨3⟩,
    .list { limit := some 1 }]

theorem inserted_sevenCalls {r : Record} (h : .insert r ∈ sevenCalls) :
    r = firstRecord ∨ r = secondRecord := by
  simp only [sevenCalls, List.mem_cons, StoreCall.insert.injEq, reduceCtorEq, List.not_mem_nil,
    or_false] at h
  tauto

theorem tabular_sevenCalls : Tabular sevenCalls where
  state := by
    intro r hr
    have hempty : Cell.json? DesiredState.decode (.json ({} : DesiredState).json) = some {} :=
      Cell.json?_json (DesiredState.proper_empty.restores fun p hp => by cases hp)
    rcases inserted_sevenCalls hr with rfl | rfl <;> exact hempty
  created := by
    intro r hr
    rcases inserted_sevenCalls hr with rfl | rfl <;> exact ⟨by decide, by decide, by decide⟩
  updated := by
    intro r hr
    rcases inserted_sevenCalls hr with rfl | rfl <;>
      exact Instant.legible (by decide) (by decide) (by decide)
  distinct := by
    intro r r' hr hr'
    rcases inserted_sevenCalls hr with rfl | rfl <;>
      rcases inserted_sevenCalls hr' with rfl | rfl <;> decide
  limit := by
    intro f n hf hn
    simp only [sevenCalls, List.mem_cons, StoreCall.list.injEq, reduceCtorEq, List.not_mem_nil,
      or_false, false_or] at hf
    subst hf
    cases hn
    decide

theorem stores_agree_sevenCalls :
    (Backend.detached.answers (fun _ => ⟨1577836900, 0⟩) sevenCalls {}).map
        (Except.map Answer.untimed) =
      ((hosted unfailing).answers (fun _ => ⟨1577836950, 7⟩) sevenCalls
        { others := [], failures := () }).map
        (Except.map Answer.untimed) :=
  stores_agree _ inService_unfailing rfl tabular_sevenCalls fun _ =>
    Instant.legible (by decide) (by decide) (by decide)

end Evolution
