import Evolution.Proofs.Database.Row
import Evolution.Proofs.Database.Session

/-! What the calls of the store of changesets make of the table, wherever they fail. -/
namespace Evolution.Database

open Evolution.Action
open Time (Instant)

variable {φ δ : Type} {server : Server φ δ} {db db' : Database φ δ} {stored : Stored δ} {id : Uuid}
  {u : StatusUpdate} {now : Instant}

/-- A row is added, or the rows are left alone. -/
inductive Inserts (r : Record) (stored : Stored δ) :
    Except Fault Record → Database φ δ → Prop where
  | failed {e : Fault} {db' : Database φ δ} (h : Holds none stored db') :
      Inserts r stored (.error e) db'
  | inserted {rows : List Row} {db' : Database φ δ}
      (hi : insertRow (.ofRecord r) stored.rows = .ok ((), rows))
      (h : Holds none { stored with rows } db') : Inserts r stored (.ok r) db'

theorem Holds.insert {r : Record} {x : Except Fault Record} (h : Holds none stored db)
    (he : Ends (insert server r) db x db') : Inserts r stored x db' := by
  obtain ⟨_, db₁, hm, hn⟩ | ⟨e, hm, rfl⟩ := ends_bind.mp he
  · have h₁ := h.connect (connects_of_ends server hm)
    obtain ⟨y, db₂, hy, hn⟩ := ends_observing_bind.mp hn
    obtain ⟨z, hz, rfl⟩ := ends_ask.mp hy
    cases (h₁.within.query hz).1 with
    | answered hi h₂ =>
      obtain ⟨rfl, rfl⟩ := ends_pure.mp hn
      exact .inserted hi h₂
    | failed h₂ =>
      have ht (e : Fault) (he : Ends (throw e : Action (Database φ δ) Record) db₂ x db') :
          Inserts r stored x db' := by
        obtain ⟨rfl, rfl⟩ := ends_throw.mp he
        exact .failed h₂.outside
      split at hn
      · rename_i heq
        cases heq
      · split at hn
        · exact ht _ hn
        · exact ht _ hn
      · exact ht _ hn
  · exact .failed (h.connect (connects_of_ends server hm))

theorem quiet_insert {r : Record} {x : Except Fault Record}
    (he : Ends (Database.insert server r) db x db') : Quiet server db db' := by
  obtain ⟨_, db₁, hm, hn⟩ | ⟨e, hm, rfl⟩ := ends_bind.mp he
  · obtain ⟨y, db₂, hy, hn⟩ := ends_observing_bind.mp hn
    obtain ⟨z, hz, -⟩ := ends_ask.mp hy
    have hq := (connects_of_ends server hm).quiet.trans (Holds.refl.within.query hz).2
    have ht (e : Fault) (he : Ends (throw e : Action (Database φ δ) Record) db₂ x db') :
        Quiet server db db' := by
      obtain ⟨-, rfl⟩ := ends_throw.mp he
      exact hq
    split at hn
    · obtain ⟨-, rfl⟩ := ends_pure.mp hn
      exact hq
    · split at hn
      · exact ht _ hn
      · exact ht _ hn
    · exact ht _ hn
  · exact (connects_of_ends server hm).quiet

theorem readRow_ok {row : Option Row} {r : Record}
    (he : Ends (readRow id row : Action (Database φ δ) Record) db (.ok r) db') :
    ∃ y, row = some y ∧ y.record = .ok r := by
  cases row with
  | none => cases he
  | some y => exact ⟨y, rfl, (ends_mk.mp he).1.symm⟩

theorem readRow_after {row : Option Row} {x : Except Fault Record}
    (he : Ends (readRow id row : Action (Database φ δ) Record) db x db') : db' = db := by
  cases row <;> cases he <;> rfl

/-- A row that cannot be read is no refusal. -/
theorem failsIn_readRow {P : Fault → Prop} {row : Option Row} (hu : P (.unknownChangeset id))
    (hc : ∀ i, P (.database (.unreadableColumn i))) (hw : ∀ message, P (.internal message)) :
    FailsIn P (readRow id row : Action (Database φ δ) Record) := by
  cases row with
  | none => exact .throw hu
  | some y => exact .mk (Row.errorsIn_record hc hw)

theorem Holds.get {x : Except Fault Record} (h : Holds none stored db)
    (he : Ends (get server id) db x db') : Holds none stored db' := by
  cases h.asks he with
  | failed _ h₁ => exact h₁.outside
  | answered _ h₁ _ hn =>
    obtain rfl := readRow_after hn
    exact h₁

/-- A record that is found is that of a row. -/
theorem row_of_get {r : Record} (he : Ends (get server id) db (.ok r) db') :
    ∃ row, rowOf db.rows id = some row ∧ row.record = .ok r := by
  cases Holds.refl.asks he with
  | answered hf _ _ hn =>
    obtain rfl := readRow_after hn
    obtain ⟨row, rfl, hr⟩ := readRow_ok hn
    exact ⟨row, rowOf_of_rowWithId hf, hr⟩

theorem quiet_get {x : Except Fault Record} (he : Ends (get server id) db x db') :
    Quiet server db db' := by
  cases Holds.refl.asks he with
  | failed _ _ hq => exact hq
  | answered _ _ hq hn =>
    obtain rfl := readRow_after hn
    exact hq

theorem Holds.list {f : Filter} {x : Except Fault (List Record)} (h : Holds none stored db)
    (he : Ends (list server f) db x db') : Holds none stored db' := by
  cases h.asks he with
  | failed _ h₁ => exact h₁.outside
  | answered _ h₁ _ hr =>
    obtain ⟨-, rfl⟩ := ends_mk.mp hr
    exact h₁

theorem quiet_list {f : Filter} {x : Except Fault (List Record)}
    (he : Ends (Database.list server f) db x db') : Quiet server db db' := by
  cases Holds.refl.asks he with
  | failed _ _ hq => exact hq
  | answered _ _ hq hr =>
    obtain ⟨-, rfl⟩ := ends_mk.mp hr
    exact hq

/-- The row of an identifier is moved along a step of its life, or not; a refusal names the status
that stands. -/
inductive Moves (id : Uuid) (u : StatusUpdate) (now : Instant) (rows : List Row)
    (unmoved : Database φ δ → Prop) (moved : List Row → Database φ δ → Prop) :
    Except Fault Record → Database φ δ → Prop where
  | failed {e : Fault} {db' : Database φ δ} (h : unmoved db')
      (hn : ∀ i source target, e ≠ .invalidTransition i source target) :
      Moves id u now rows unmoved moved (.error e) db'
  | refused {row : Row} {r : Record} {db' : Database φ δ} (h : unmoved db')
      (hf : rowWithId id rows = .ok (some row)) (hr : row.record = .ok r) :
      Moves id u now rows unmoved moved (.error (.invalidTransition id r.status u.status)) db'
  | moved {row : Row} {r : Record} {db' : Database φ δ} (hf : rowWithId id rows = .ok (some row))
      (hr : row.record = .ok r) (hc : r.status.canMoveTo u.status = true)
      (h : moved (rows.map fun x => if x.hasId id then x.moved u now else x) db') :
      Moves id u now rows unmoved moved (.ok (r.moved u now)) db'

/-- What is done with a row that has been locked. -/
def moveRow (server : Server φ δ) (id : Uuid) (u : StatusUpdate) (now : Instant) (r : Record) :
    Action (Database φ δ) Record := do
  if r.status.canMoveTo u.status then
    ask (query server .updateStatus fun rows =>
      .ok ((), rows.map fun x => if x.hasId id then x.moved u now else x))
    pure (r.moved u now)
  else throw (.invalidTransition id r.status u.status)

theorem Holds.moveRow {row : Row} {r : Record} {x : Except Fault Record}
    (h : Holds (some stored) stored db) (hf : rowWithId id stored.rows = .ok (some row))
    (hr : row.record = .ok r) (he : Ends (moveRow server id u now r) db x db') :
    Moves id u now stored.rows (Within (some stored) stored)
      (fun rows => Holds (some stored) { stored with rows }) x db' := by
  unfold Database.moveRow at he
  split at he
  · rename_i hc
    obtain ⟨_, db₁, hm, hn⟩ | ⟨e, hm, rfl⟩ := ends_bind.mp he
    · obtain ⟨y, hy, hx⟩ := ends_ask.mp hm
      cases (h.within.query hy).1 with
      | failed => cases hx
      | answered hq h₁ =>
        cases hq
        obtain ⟨rfl, rfl⟩ := ends_pure.mp hn
        exact .moved hf hr hc h₁
    · obtain ⟨y, hy, hx⟩ := ends_ask.mp hm
      cases (h.within.query hy).1 with
      | answered => cases hx
      | failed h₁ =>
        cases hx
        exact .failed h₁ (by intros; nofun)
  · obtain ⟨rfl, rfl⟩ := ends_throw.mp he
    exact .refused (.holds h) hf hr

theorem Holds.lockAndMove {x : Except Fault Record} (h : Holds (some stored) stored db)
    (he : Ends (do
      let found ← ask (look server .selectForUpdate (rowWithId id))
      let r ← readRow id found
      Database.moveRow server id u now r) db x db') :
    Moves id u now stored.rows (Within (some stored) stored)
      (fun rows => Holds (some stored) { stored with rows }) x db' := by
  cases h.within.asks he with
  | failed hs h₁ =>
    refine .failed h₁ ?_
    rintro _ _ _ rfl
    cases hs
  | answered hf h₁ _ hn =>
    obtain ⟨r, db₂, hm, hu⟩ | ⟨e, hm, rfl⟩ := ends_bind.mp hn
    · obtain rfl := readRow_after hm
      obtain ⟨row, rfl, hr⟩ := readRow_ok hm
      exact h₁.moveRow hf hr hu
    · obtain rfl := readRow_after hm
      refine .failed (.holds h₁) ?_
      intro i source target
      refine FailsIn.ends (P := fun e => e ≠ .invalidTransition i source target) ?_ hm
      exact failsIn_readRow (by simp [Fault.unknownChangeset]) (by simp) (by simp)

theorem Holds.updateStatus {x : Except Fault Record} (h : Holds none stored db)
    (he : Ends (updateStatus server id u now) db x db') :
    Moves id u now stored.rows (Holds none stored)
      (fun rows => Holds none { stored with rows }) x db' := by
  cases transacts_of_ends he with
  | unopened hs h₁ =>
    refine .failed (h₁ _ h) ?_
    rintro _ _ _ rfl
    cases hs
  | broken h₁ _ hb =>
    cases (h₁ _ h).lockAndMove hb with
    | failed h₂ hn => exact .failed h₂.giveUp.1 hn
    | refused h₂ hf hr => exact .refused h₂.giveUp.1 hf hr
  | finished h₁ _ hb hf =>
    cases (h₁ _ h).lockAndMove hb with
    | moved hr hs hc h₂ =>
      obtain ⟨_, db₁, hm, hn⟩ | ⟨e, hm, rfl⟩ := ends_bind.mp hf
      · obtain ⟨y, hy, hx⟩ := ends_ask.mp hm
        cases h₂.within.commit hy with
        | undone => cases hx
        | kept h₃ =>
          obtain ⟨rfl, rfl⟩ := ends_pure.mp hn
          exact .moved hr hs hc h₃
      · obtain ⟨y, hy, hx⟩ := ends_ask.mp hm
        cases h₂.within.commit hy with
        | kept => cases hx
        | undone h₃ =>
          cases hx
          exact .failed h₃ (by simp)

end Evolution.Database
