import Evolution.Proofs.Database.Transcript

/-! A table in service: the server can be reached, and nothing fails there but statements. Every
call of the store then has one answer, which the rows alone decide, and one effect on the rows. -/
namespace Evolution.Database

open Evolution.Action
open Time (Instant)

variable {φ δ α β : Type} {fails : FailureSource φ} {server : Server φ δ}
  {db db₁ db' : Database φ δ} {f : φ} {c : Command} {rows : List Row} {row : Row} {r : Record}
  {id : Uuid} {u : StatusUpdate} {now : Instant}

/-- From here on nothing fails but statements. -/
def Calm (fails : FailureSource φ) (f : φ) : Prop :=
  ∀ cs c, c.batch? = none → (fails (spent fails f cs) c).1 = none

theorem Calm.befalls (h : Calm fails f) (hc : c.batch? = none) : (fails f c).1 = none :=
  h [] c hc

theorem Calm.next (h : Calm fails f) : Calm fails (fails f c).2 :=
  fun cs => h (c :: cs)

/-- No transaction is open, a connection can be had, nothing fails but statements, and no two rows
have one identifier. -/
structure InService (server : Server φ δ) (db : Database φ δ) : Prop where
  idle : db.saved = none
  pool : db.poolClosed = false
  reachable : db.connected = true ∨ db.refusing = false
  calm : Calm server.fails db.failures
  unique : ∀ id, db.rows.countP (·.hasId id) ≤ 1

/-- The connection is open, and nothing but statements fails. -/
structure Attends (server : Server φ δ) (db : Database φ δ) : Prop where
  connected : db.connected = true
  calm : Calm server.fails db.failures

theorem Attends.befalls (h : Attends server db) (hc : c.batch? = none) :
    (server.fails db.failures c).1 = none :=
  h.calm.befalls hc

theorem Attends.noted (h : Attends server db) (c : Command) : Attends server (db.noted server c) :=
  ⟨h.connected, h.calm.next⟩

/-- The same with an open connection. -/
def opened (db : Database φ δ) : Database φ δ :=
  { db with connected := true }

theorem InService.opened (h : InService server db) :
    Attends server db.opened ∧ Ends connect db (.ok ()) db.opened :=
  ⟨⟨rfl, h.calm⟩, ends_connect h.pool h.reachable⟩

section rows

theorem rowWithId_of_unique (h : rows.countP (·.hasId id) ≤ 1) :
    rowWithId id rows = .ok (rowOf rows id) := by
  rw [List.countP_eq_length_filter] at h
  unfold rowWithId rowOf
  rw [← List.head?_filter]
  split
  · rename_i hf
    rw [hf]
    rfl
  · rename_i hf
    rw [hf]
    rfl
  · rename_i hnil hone
    cases hf : rows.filter (·.hasId id) with
    | nil => exact (hnil hf).elim
    | cons x rest =>
      cases rest with
      | nil => exact (hone x hf).elim
      | cons y rest =>
        rw [hf, List.length_cons, List.length_cons] at h
        omega

theorem insertRow_of_new (h : rowOf rows r.id = none) :
    insertRow (.ofRecord r) rows = .ok ((), rows ++ [.ofRecord r]) := by
  unfold insertRow
  rw [if_neg]
  rw [rowOf, List.find?_eq_none] at h
  simpa [Row.hasId, Row.ofRecord, Cell.uuid?] using h

theorem insertRow_of_known (h : rowOf rows r.id = some row) :
    insertRow (.ofRecord r) rows =
      .error (.refused "duplicate key value violates unique constraint" uniqueViolation) := by
  unfold insertRow
  rw [if_pos]
  exact List.any_eq_true.mpr ⟨row, List.mem_of_find?_eq_some h, rowOf_hasId h⟩

theorem countP_hasId_append (h : ∀ id, rows.countP (·.hasId id) ≤ 1)
    (hn : rowOf rows r.id = none) (id : Uuid) :
    (rows ++ [Row.ofRecord r]).countP (·.hasId id) ≤ 1 := by
  rw [List.countP_append, List.countP_singleton, Row.hasId_ofRecord]
  split
  · rename_i hid
    obtain rfl := Option.some.inj (eq_of_beq hid)
    have hnone := List.countP_eq_zero.mpr (List.find?_eq_none.mp hn)
    exact Nat.le_of_eq (congrArg (· + 1) hnone)
  · exact h id

theorem countP_hasId_moved (stands : Row → Bool) (id : Uuid) :
    (rows.map fun x => if stands x then x.moved u now else x).countP (·.hasId id) =
      rows.countP (·.hasId id) := by
  rw [List.countP_map]
  congr 1
  funext x
  simp only [Function.comp]
  split
  · exact Row.hasId_moved id
  · rfl

end rows

section calls

theorem InService.insert (h : InService server db) (hn : rowOf db.rows r.id = none) :
    ∃ db', Ends (insert server r) db (.ok r) db' ∧ InService server db' ∧
      db'.rows = db.rows ++ [.ofRecord r] := by
  obtain ⟨ho, hconnect⟩ := h.opened
  let db' := { db.opened.noted server (.query .insert) with rows := db.rows ++ [Row.ofRecord r] }
  have hquery : Ends (query server .insert (insertRow (.ofRecord r))) db.opened (.ok ()) db' :=
    ends_query ho.connected (ho.befalls rfl) (insertRow_of_new hn)
  refine ⟨db', ?_, ?_, rfl⟩
  · refine (ends_bind_of hconnect).mpr ?_
    refine ends_observing_bind.mpr ⟨_, _, ends_ask_ok.mpr hquery, ?_⟩
    exact ends_pure.mpr ⟨rfl, rfl⟩
  · exact ⟨h.idle, h.pool, .inl rfl, h.calm.next, countP_hasId_append h.unique hn⟩

/-- A query that is refused changes no row. -/
theorem Attends.query_error {q : Query} {effect : List Row → Except DatabaseError (α × List Row)}
    {e : DatabaseError} (h : Attends server db) (he : effect db.rows = .error e) :
    Ends (query server q effect) db (.error e) (db.noted server (.query q)) := by
  have hsend := ends_send h.connected (h.befalls (c := .query q) rfl)
  refine ends_bind.mpr (.inl ⟨_, _, hsend, ends_getThe_bind.mpr ?_⟩)
  rw [show (db.noted server (.query q)).rows = db.rows from rfl, he]
  exact ends_throw.mpr ⟨rfl, rfl⟩

theorem InService.insert_duplicate (h : InService server db)
    (hf : rowOf db.rows r.id = some row) :
    ∃ db', Ends (Database.insert server r) db (.error (.duplicateChangeset r.id)) db' ∧
      InService server db' ∧ db'.rows = db.rows := by
  obtain ⟨ho, hconnect⟩ := h.opened
  refine ⟨db.opened.noted server (.query .insert), ?_, ?_, rfl⟩
  · refine (ends_bind_of hconnect).mpr ?_
    refine ends_observing_bind.mpr
      ⟨_, _, ends_ask.mpr ⟨_, ho.query_error (insertRow_of_known hf), rfl⟩, ?_⟩
    dsimp only [Except.mapError]
    rw [if_pos rfl]
    exact ends_throw.mpr ⟨rfl, rfl⟩
  · exact ⟨h.idle, h.pool, .inl rfl, h.calm.next, h.unique⟩

/-- The row of an identifier is looked up, if there is one. -/
theorem InService.get_reads {x : Except Fault Record} (h : InService server db)
    (hr : Ends (readRow id (rowOf db.rows id) : Action (Database φ δ) Record)
      (db.opened.noted server (.query .select)) x (db.opened.noted server (.query .select))) :
    ∃ db', Ends (get server id) db x db' ∧ InService server db' ∧ db'.rows = db.rows := by
  obtain ⟨ho, hconnect⟩ := h.opened
  have hlook := ends_look ho.connected (ho.befalls (c := .query .select) rfl)
    (rowWithId_of_unique (h.unique id))
  refine ⟨db.opened.noted server (.query .select), ?_,
    ⟨h.idle, h.pool, .inl rfl, h.calm.next, h.unique⟩, rfl⟩
  refine (ends_bind_of hconnect).mpr ?_
  exact (ends_bind_of (ends_ask_ok.mpr hlook)).mpr hr

theorem InService.get (h : InService server db) (hf : rowOf db.rows id = some row)
    (hr : row.record = .ok r) :
    ∃ db', Ends (get server id) db (.ok r) db' ∧ InService server db' ∧ db'.rows = db.rows := by
  refine h.get_reads ?_
  rw [hf]
  exact ends_mk.mpr ⟨hr.symm, rfl⟩

theorem InService.get_unknown (h : InService server db) (hn : rowOf db.rows id = none) :
    ∃ db', Ends (Database.get server id) db (.error (.unknownChangeset id)) db' ∧
      InService server db' ∧ db'.rows = db.rows := by
  refine h.get_reads ?_
  rw [hn]
  exact ends_throw.mpr ⟨rfl, rfl⟩

theorem InService.list {filter : Filter} {found : List Row} (h : InService server db)
    (hf : selectRows filter db.rows = .ok found) :
    ∃ db', Ends (list server filter) db (found.mapM Row.record) db' ∧ InService server db' ∧
      db'.rows = db.rows := by
  obtain ⟨ho, hconnect⟩ := h.opened
  have hlook := ends_look ho.connected (ho.befalls (c := .query .list) rfl) hf
  refine ⟨db.opened.noted server (.query .list), ?_,
    ⟨h.idle, h.pool, .inl rfl, h.calm.next, h.unique⟩, rfl⟩
  refine (ends_bind_of hconnect).mpr ?_
  refine (ends_bind_of (ends_ask_ok.mpr hlook)).mpr ?_
  exact ends_mk.mpr ⟨rfl, rfl⟩

end calls

section transactions

/-- The same in a new transaction. -/
def begun (server : Server φ δ) (db : Database φ δ) : Database φ δ :=
  { db.opened.noted server .begin with saved := some db.toStored }

theorem InService.attends_begun (h : InService server db) : Attends server (db.begun server) :=
  ⟨rfl, h.calm.next⟩

theorem InService.inTransaction {body : Action (Database φ δ) α}
    {finish : α → Action (Database φ δ) β} {a : α} {x : Except Fault β} (h : InService server db)
    (hb : Ends body (db.begun server) (.ok a) db₁) (hf : Ends (finish a) db₁ x db') :
    Ends (inTransaction server body finish) db x db' := by
  obtain ⟨ho, hconnect⟩ := h.opened
  have hbegin : Ends (begin server) db.opened (.ok ()) (db.begun server) :=
    ends_begin ho.connected (ho.befalls rfl)
  refine (ends_bind_of hconnect).mpr ?_
  refine (ends_bind_of (ends_ask_ok.mpr hbegin)).mpr ?_
  exact ends_observing_bind.mpr ⟨_, _, hb, hf⟩

/-- A transaction that fails is given up, and leaves the rows as they were. -/
theorem InService.inTransaction_error {body : Action (Database φ δ) α}
    {finish : α → Action (Database φ δ) β} {e : Fault} (h : InService server db)
    (hb : Ends body (db.begun server) (.error e) db₁) (ha : Attends server db₁)
    (hs : db₁.saved = some db.toStored) (hp : db₁.poolClosed = false) :
    ∃ db', Ends (Database.inTransaction server body finish) db (.error e) db' ∧
      InService server db' ∧ db'.rows = db.rows := by
  obtain ⟨ho, hconnect⟩ := h.opened
  have hbegin : Ends (begin server) db.opened (.ok ()) (db.begun server) :=
    ends_begin ho.connected (ho.befalls rfl)
  have hgiveUp : giveUp server db₁ = (db₁.noted server .rollback).restored :=
    congrArg restored (ends_send ha.connected (ha.befalls rfl)).after_eq
  have hrows : (giveUp server db₁).rows = db.rows := by
    rw [hgiveUp]
    exact congrArg (fun saved => (saved.getD db₁.toStored).rows) hs
  refine ⟨giveUp server db₁, ?_, ?_, hrows⟩
  · refine (ends_bind_of hconnect).mpr ?_
    refine (ends_bind_of (ends_ask_ok.mpr hbegin)).mpr ?_
    refine ends_observing_bind.mpr ⟨_, _, hb, ends_modify_bind.mpr ?_⟩
    exact ends_throw.mpr ⟨rfl, rfl⟩
  · refine ⟨?_, ?_, ?_, ?_, ?_⟩
    · rw [hgiveUp]
      rfl
    · rw [hgiveUp]
      exact hp
    · rw [hgiveUp]
      exact .inl ha.connected
    · rw [hgiveUp]
      exact ha.calm.next
    · rw [hrows]
      exact h.unique

/-- The world after the row of an identifier has been locked. -/
def locked (server : Server φ δ) (db : Database φ δ) : Database φ δ :=
  (db.begun server).noted server (.query .selectForUpdate)

theorem InService.attends_locked (h : InService server db) : Attends server (db.locked server) :=
  h.attends_begun.noted _

theorem InService.ends_lock (h : InService server db) (id : Uuid) :
    Ends (ask (look server .selectForUpdate (rowWithId id))) (db.begun server)
      (.ok (rowOf db.rows id)) (db.locked server) := by
  have hb := h.attends_begun
  exact ends_ask_ok.mpr
    (ends_look hb.connected (hb.befalls rfl) (rowWithId_of_unique (h.unique id)))

theorem InService.updateStatus (now : Instant) (h : InService server db)
    (hf : rowOf db.rows id = some row) (hr : row.record = .ok r)
    (hc : r.status.canMoveTo u.status = true) :
    ∃ db', Ends (updateStatus server id u now) db (.ok (r.moved u now)) db' ∧
      InService server db' ∧
      db'.rows = db.rows.map fun x => if x.hasId id then x.moved u now else x := by
  let rows' := db.rows.map fun x => if x.hasId id then x.moved u now else x
  let db₁ := { (db.locked server).noted server (.query .updateStatus) with rows := rows' }
  have hl := h.attends_locked
  have h₁ : Attends server db₁ := ⟨rfl, hl.calm.next⟩
  have hmove : Ends (moveRow server id u now r) (db.locked server) (.ok (r.moved u now)) db₁ := by
    have hquery : Ends (query server .updateStatus fun rows =>
        .ok ((), rows.map fun x => if x.hasId id then x.moved u now else x))
        (db.locked server) (.ok ()) db₁ :=
      ends_query hl.connected (hl.befalls rfl) rfl
    unfold moveRow
    rw [if_pos hc]
    refine (ends_bind_of (ends_ask_ok.mpr hquery)).mpr ?_
    exact ends_pure.mpr ⟨rfl, rfl⟩
  have hcommit := ends_commit h₁.connected (h₁.befalls (c := .commit) rfl)
  have hfinish : Ends (do ask (commit server); pure (r.moved u now)) db₁ (.ok (r.moved u now))
      { db₁.noted server .commit with saved := none } :=
    (ends_bind_of (ends_ask_ok.mpr hcommit)).mpr (ends_pure.mpr ⟨rfl, rfl⟩)
  refine ⟨_, h.inTransaction ?_ hfinish, ?_, rfl⟩
  · refine (ends_bind_of (h.ends_lock id)).mpr ?_
    rw [hf]
    have hread : Ends (readRow id (some row) : Action (Database φ δ) Record) (db.locked server)
        (.ok r) (db.locked server) :=
      ends_mk.mpr ⟨hr.symm, rfl⟩
    exact (ends_bind_of hread).mpr hmove
  · refine ⟨rfl, h.pool, .inl rfl, h₁.calm.next, fun j => ?_⟩
    exact Nat.le_trans (Nat.le_of_eq (countP_hasId_moved (·.hasId id) j)) (h.unique j)

theorem InService.updateStatus_unknown (now : Instant) (h : InService server db)
    (hn : rowOf db.rows id = none) :
    ∃ db', Ends (Database.updateStatus server id u now) db (.error (.unknownChangeset id)) db' ∧
      InService server db' ∧ db'.rows = db.rows := by
  refine h.inTransaction_error ?_ h.attends_locked rfl h.pool
  refine (ends_bind_of (h.ends_lock id)).mpr ?_
  rw [hn]
  exact ends_bind.mpr (.inr ⟨_, ends_throw.mpr ⟨rfl, rfl⟩, rfl⟩)

theorem InService.updateStatus_refused (now : Instant) (h : InService server db)
    (hf : rowOf db.rows id = some row) (hr : row.record = .ok r)
    (hc : r.status.canMoveTo u.status = false) :
    ∃ db', Ends (Database.updateStatus server id u now) db
        (.error (.invalidTransition id r.status u.status)) db' ∧
      InService server db' ∧ db'.rows = db.rows := by
  refine h.inTransaction_error ?_ h.attends_locked rfl h.pool
  refine (ends_bind_of (h.ends_lock id)).mpr ?_
  rw [hf]
  have hread : Ends (readRow id (some row) : Action (Database φ δ) Record) (db.locked server)
      (.ok r)
      (db.locked server) :=
    ends_mk.mpr ⟨hr.symm, rfl⟩
  refine (ends_bind_of hread).mpr ?_
  rw [if_neg (by rw [hc]; decide)]
  exact ends_throw.mpr ⟨rfl, rfl⟩

end transactions

/-- Nothing ever fails, and all statements are stored. -/
def unfailing : Server Unit (List String) where
  fails := fun f _ => (none, f)
  effect := scripted.effect

theorem inService_unfailing : InService unfailing { others := [], failures := () } :=
  ⟨rfl, rfl, .inr rfl, fun _ _ _ => rfl, fun _ => Nat.zero_le 1⟩

end Evolution.Database
