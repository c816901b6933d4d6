import Evolution.Proofs.Database.Commits
import Evolution.Proofs.Database.Program

/-! Any number of managers over one database, each with a connection and pending statuses of its
own. Their visits come in any order; nothing but the rows is shared. -/
namespace Evolution.Database

open Evolution.Action

variable {ι φ δ : Type} {server : Server φ δ}

/-- A run of a changeset that was committed, with all that was sent for it. -/
structure Commit where
  id : Uuid
  target : Status
  sent : List Command

/-- The run that this visit committed, if it did. -/
def Visit.commit? (server : Server φ δ) (db db' : Database φ δ) : Visit → Option Commit
  | execute id _ _ target _ =>
    if Committed server db db' then some ⟨id, target, sentSince db db'⟩ else none
  | _ => none

/-- All that was sent is what running the changeset's own statements towards the target sends. -/
def Commit.IsRun (rows : List Row) (x : Commit) : Prop :=
  (statementsIn rows x.id x.target).map (fun statements => transcript true (sendable statements)) =
    some x.sent

/-- The targets of the committed runs of a changeset, in order. -/
def targetsOf (commits : List Commit) (id : Uuid) : List Status :=
  (commits.filter (·.id == id)).map Commit.target

def statusIn (rows : List Row) (id : Uuid) : Option Status :=
  (rowOf rows id).bind Row.status?

structure Cluster (ι φ δ : Type) where
  stored : Stored δ
  /-- What an instance has seen last of what is stored is of no consequence. -/
  instances : ι → Manager (Database φ δ)
  /-- The operations under way, each with the instance that was asked for it. -/
  calls : List (ι × Program Answer) := []
  /-- All runs that were committed, in order. -/
  commits : List Commit := []

/-- One thing that can happen. The locks of an instance only forbid some of the orders that are
possible here. -/
inductive Act (ι : Type) where
  | request (i : ι) (op : Operation)
  /-- The next visit of an operation is made. -/
  | visit (n : Nat)
  /-- An operation has been answered, or was given up. -/
  | leave (n : Nat)
  /-- The way to the database changes. -/
  | interrupt (i : ι) (connected refusing poolClosed : Bool)

namespace Cluster

variable [DecidableEq ι]

/-- What an instance finds when it comes to the database. -/
def arrived (c : Cluster ι φ δ) (i : ι) : Manager (Database φ δ) :=
  let m := c.instances i
  { m with world := { m.world with toStored := c.stored } }

/-- After a visit, and with what comes next in the operation. -/
def visited (server : Server φ δ) (c : Cluster ι φ δ) (n : Nat) (i : ι) (v : Visit)
    (rest : Except Fault v.Found → Program Answer) : Cluster ι φ δ :=
  let m := c.arrived i
  let m' := after (v.act server) m
  { stored := m'.world.toStored
    instances := Function.update c.instances i m'
    calls := c.calls.set n (i, rest (answer (v.act server) m))
    commits := c.commits ++ (v.commit? server m.world m'.world).toList }

def step (server : Server φ δ) (c : Cluster ι φ δ) : Act ι → Cluster ι φ δ
  | .request i op => { c with calls := c.calls ++ [(i, op.program)] }
  | .visit n =>
    match c.calls[n]? with
    | some (i, .visit v rest) => c.visited server n i v rest
    | _ => c
  | .leave n => { c with calls := c.calls.eraseIdx n }
  | .interrupt i connected refusing poolClosed =>
    let m := c.instances i
    { c with
      instances := Function.update c.instances i
        { m with world := { m.world with connected, refusing, poolClosed } } }

def run (server : Server φ δ) (acts : List (Act ι)) (c : Cluster ι φ δ) : Cluster ι φ δ :=
  acts.foldl (step server) c

/-- Nothing is under way or pending, and no changeset has been run. -/
structure Fresh (c : Cluster ι φ δ) : Prop where
  idle : ∀ i, (c.instances i).world.saved = none
  settled : ∀ i, (c.instances i).pending = []
  calls : c.calls = []
  commits : c.commits = []
  unexecuted :
    ∀ id s, statusIn c.stored.rows id = some s → s = .draft ∨ s = .validated ∨ s = .failed

end Cluster

section Outlasts

variable {rows rows₁ rows' : List Row} {stored : Stored δ} {db db' : Database φ δ} {id : Uuid}
  {u : StatusUpdate} {now : Time.Instant}

/-- The statements of a changeset never change, though its status does. -/
def Outlasts (rows rows' : List Row) : Prop :=
  ∀ ⦃id target statements⦄, statementsIn rows id target = some statements →
    statementsIn rows' id target = some statements

theorem Outlasts.refl : Outlasts rows rows :=
  fun _ _ _ h => h

theorem Outlasts.trans (h : Outlasts rows rows₁) (h' : Outlasts rows₁ rows') :
    Outlasts rows rows' :=
  fun _ _ _ hs => h' (h hs)

theorem outlasts_insertRow {r : Record} (h : insertRow (.ofRecord r) rows = .ok ((), rows')) :
    Outlasts rows rows' := by
  obtain ⟨hn, hu⟩ := rowOf_insertRow h
  intro id target statements hs
  rw [statementsIn, hu]
  by_cases hid : id = r.id
  · rw [statementsIn, hid, hn] at hs
    cases hs
  · rw [Function.update_of_ne hid]
    exact hs

theorem outlasts_moved (h : (Archive.inTable φ δ).Moved db id u now db') :
    Outlasts db.rows db'.rows := by
  obtain ⟨x, s, hx, -, -, he⟩ := h
  replace hx : rowOf db.rows id = some x := hx
  replace he : rowOf db'.rows = Function.update (rowOf db.rows) id (some (x.moved u now)) := he
  intro j target statements hs
  rw [statementsIn, he]
  by_cases hj : j = id
  · subst hj
    rw [statementsIn, hx] at hs
    rw [Function.update_self, Option.bind_some, Row.statements?_moved]
    exact hs
  · rw [Function.update_of_ne hj]
    exact hs

/-- A move changes the one status, from one that it can come from. -/
theorem statusIn_moved (h : (Archive.inTable φ δ).Moved db id u now db') :
    ∃ s, statusIn db.rows id = some s ∧ s.canMoveTo u.status = true ∧
      statusIn db'.rows = Function.update (statusIn db.rows) id (some u.status) := by
  obtain ⟨x, s, hx, hs, hc, he⟩ := h
  replace he : rowOf db'.rows = Function.update (rowOf db.rows) id (some (x.moved u now)) := he
  refine ⟨s, Option.bind_eq_some_iff.mpr ⟨x, hx, hs⟩, hc, ?_⟩
  rw [Function.eq_update_iff]
  refine ⟨?_, fun j hj => ?_⟩
  · rw [statusIn, he, Function.update_self, Option.bind_some, Row.status?_moved]
  · rw [statusIn, he, Function.update_of_ne hj, statusIn]

theorem statusIn_insertRow {r : Record} (h : insertRow (.ofRecord r) rows = .ok ((), rows')) :
    statusIn rows r.id = none ∧
      statusIn rows' = Function.update (statusIn rows) r.id (some r.status) := by
  obtain ⟨hn, hu⟩ := rowOf_insertRow h
  refine ⟨by rw [statusIn, hn, Option.bind_none], ?_⟩
  rw [Function.eq_update_iff]
  refine ⟨?_, fun j hj => ?_⟩
  · rw [statusIn, hu, Function.update_self, Option.bind_some, Row.status?_ofRecord]
  · rw [statusIn, hu, Function.update_of_ne hj, statusIn]

theorem Commit.IsRun.mono {x : Commit} (h : x.IsRun rows) (ho : Outlasts rows rows') :
    x.IsRun rows' := by
  obtain ⟨statements, hs, hx⟩ := Option.map_eq_some_iff.mp h
  rw [IsRun, ho hs, Option.map_some, hx]

end Outlasts

/-- Nothing that this visit stores tells of a run that it does not make, and what it runs are the
changeset's own statements. -/
def Visit.Safe (rows : List Row) : Visit → Prop
  | insert r => r.status = .draft ∨ r.status = .validated ∨ r.status = .failed
  | updateStatus _ u _ => u.status = .validated ∨ u.status = .failed
  | execute id statements source target _ =>
    (source = .validated ∧ target = .applied ∨ source = .applied ∧ target = .reverted) ∧
      statementsIn rows id target = some statements
  | setPending _ _ => False
  | _ => True

/-- What can be found while nothing is pending: what is stored of a changeset, and that a run that
succeeds has recorded its status. -/
def Visit.Allows (rows : List Row) : (v : Visit) → Except Fault v.Found → Prop
  | get id, r => ∀ found, r = .ok found → statementsIn rows id = found.statements?
  | pendingStatus _, r => r = .ok none
  | execute .., r => ∀ o, r = .ok o → o.ok = true → o.statusRecorded = true
  | _, _ => True

theorem Visit.Safe.mono {rows rows' : List Row} {v : Visit} (h : v.Safe rows)
    (ho : Outlasts rows rows') : v.Safe rows' := by
  cases v with
  | execute => exact ⟨h.1, ho h.2⟩
  | _ => exact h

namespace Program

variable {α β : Type} {rows rows' : List Row}

/-- All visits are safe, whatever is found on the way, and whatever is stored by others. -/
def Safe (rows : List Row) : Program α → Prop
  | done _ => True
  | visit v rest =>
    v.Safe rows ∧ ∀ r rows', Outlasts rows rows' → v.Allows rows' r → (rest r).Safe rows'

theorem Safe.mono {p : Program α} (h : p.Safe rows) (ho : Outlasts rows rows') : p.Safe rows' := by
  cases p with
  | done => trivial
  | visit v rest => exact ⟨h.1.mono ho, fun r rows₁ ho₁ => h.2 r rows₁ (ho.trans ho₁)⟩

theorem Safe.bind {p : Program α} {f : α → Program β} (hp : p.Safe rows)
    (hf : ∀ a rows', Outlasts rows rows' → (f a).Safe rows') : (p >>= f).Safe rows := by
  induction p generalizing rows with
  | done answer =>
    cases answer with
    | error => trivial
    | ok a => exact hf a rows .refl
  | visit v rest ih =>
    refine ⟨hp.1, fun r rows₁ ho hr => ih r (hp.2 r rows₁ ho hr) fun a rows₂ ho₂ => ?_⟩
    exact hf a rows₂ (ho.trans ho₂)

theorem Safe.call {v : Visit} (hv : v.Safe rows) : (call v).Safe rows :=
  ⟨hv, fun _ _ _ _ => trivial⟩

/-- What is found can be used for what comes next. -/
theorem Safe.call_bind {v : Visit} {f : v.Found → Program β} (hv : v.Safe rows)
    (hf : ∀ a rows', Outlasts rows rows' → v.Allows rows' (.ok a) → (f a).Safe rows') :
    (Program.call v >>= f).Safe rows := by
  refine ⟨hv, ?_⟩
  intro r rows' ho hr
  cases r with
  | error => trivial
  | ok a => exact hf a rows' ho hr

theorem safe_settle (id : Uuid) (now : Time.Instant) : (settle id now).Safe rows := by
  refine .call_bind trivial ?_
  rintro _ _ - ⟨⟩
  trivial

theorem safe_ready (id : Uuid) (isReady : Status → Bool) (target : Status) :
    (ready id isReady target).Safe rows := by
  refine .bind (.call trivial) fun r _ _ => ?_
  split <;> trivial

theorem safe_execute {id : Uuid} {statements : Record → List String} {source target : Status}
    {now : Time.Instant}
    (h : source = .validated ∧ target = .applied ∨ source = .applied ∧ target = .reverted)
    (hst : ∀ r : Record, r.statements? target = some (statements r)) :
    (execute id statements source target now).Safe rows := by
  refine .bind (safe_settle id now) fun _ _ _ => .bind (safe_ready _ _ _) fun _ _ _ =>
    .call_bind trivial fun r _ _ hr => .call_bind ⟨h, ?_⟩ fun outcome _ _ ho => ?_
  · rw [hr r rfl, hst]
  · split
    · trivial
    · rename_i hok
      rw [ho outcome rfl (by simpa using hok)]
      exact .call trivial

theorem safe_validate (id : Uuid) (now : Time.Instant) : (validate id now).Safe rows := by
  refine .bind (safe_settle id now) fun _ _ _ => .bind (safe_ready _ _ _) fun _ _ _ =>
    .bind (.call trivial) fun report _ _ => .call ?_
  cases h : report.ok <;> simp [Visit.Safe, Manager.updateOfReport, h]

theorem safe_createDraft (request : ChangeRequest) (createdBy : Option String) (stamp : Stamp) :
    (createDraft request createdBy stamp).Safe rows := by
  refine .bind trivial fun c _ _ => .bind (.call trivial) fun report _ _ => .call ?_
  cases h : report.ok <;> simp [Visit.Safe, Record.ofChangeset]

theorem safe_program (op : Operation) : op.program.Safe rows := by
  cases op with
  | createDraft => exact .bind (safe_createDraft _ _ _) fun _ _ _ => trivial
  | saveDraft =>
    exact .bind (.bind trivial fun _ _ _ => .call (Or.inl rfl)) fun _ _ _ => trivial
  | preview => trivial
  | get => exact .bind (.call trivial) fun _ _ _ => trivial
  | list => exact .bind (.call trivial) fun _ _ _ => trivial
  | validate => exact .bind (safe_validate _ _) fun _ _ _ => trivial
  | apply =>
    exact .bind (safe_execute (Or.inl ⟨rfl, rfl⟩) fun _ => rfl) fun _ _ _ => trivial
  | revert =>
    exact .bind (safe_execute (Or.inr ⟨rfl, rfl⟩) fun _ => rfl) fun _ _ _ => trivial
  | abandon =>
    refine .bind (.bind (safe_settle _ _) fun _ _ _ => .bind (safe_ready _ _ _) fun _ _ _ => ?_)
      fun _ _ _ => trivial
    exact .call (Or.inr rfl)

end Program

section Told

variable {t : Status} {commits : List Commit} {x : Commit} {rows rows' : List Row}
  {db db' : Database φ δ} {id : Uuid} {u : StatusUpdate} {now : Time.Instant}

/-- The status of every row tells of its committed runs. -/
def Told (rows : List Row) (commits : List Commit) : Prop :=
  ∀ id, Status.Tells (statusIn rows id) (targetsOf commits id)

theorem targetsOf_append (commits : List Commit) (x : Commit) (j : Uuid) :
    targetsOf (commits ++ [x]) j = targetsOf commits j ++ if j = x.id then [x.target] else [] := by
  by_cases hj : j = x.id
  · simp [targetsOf, hj]
  · simp [targetsOf, hj, Ne.symm hj]

/-- A status is changed, and perhaps a run is committed with it. -/
theorem Told.update {s : Status} {commits' : List Commit} (h : Told rows commits)
    (he : statusIn rows' = Function.update (statusIn rows) id (some s))
    (hs : Status.Tells (some s) (targetsOf commits' id))
    (hc : ∀ j, j ≠ id → targetsOf commits' j = targetsOf commits j) : Told rows' commits' := by
  rw [Told, he]
  refine (Function.forall_update_iff _ fun j s => Status.Tells s (targetsOf commits' j)).mpr ?_
  exact ⟨hs, fun j hj => hc j hj ▸ h j⟩

theorem Told.insert {r : Record} (h : Told rows commits)
    (hi : insertRow (.ofRecord r) rows = .ok ((), rows'))
    (hr : r.status = .draft ∨ r.status = .validated ∨ r.status = .failed) :
    Told rows' commits := by
  obtain ⟨hn, he⟩ := statusIn_insertRow hi
  have hc : targetsOf commits r.id = [] := (h r.id).otherwise.mp (Or.inl hn)
  exact h.update he (hc ▸ Status.tells_nil hr) fun _ _ => rfl

theorem Told.check (h : Told db.rows commits) (hm : (Archive.inTable φ δ).Moved db id u now db')
    (hu : u.status = .validated ∨ u.status = .failed) : Told db'.rows commits := by
  obtain ⟨s, hs, hc, he⟩ := statusIn_moved hm
  exact h.update he ((hs ▸ h id).of_check hc hu) fun _ _ => rfl

theorem Told.run (h : Told db.rows commits)
    (hm : (Archive.inTable φ δ).Moved db x.id { status := x.target } now db')
    (ht : x.target.IsRun) : Told db'.rows (commits ++ [x]) := by
  obtain ⟨s, hs, hc, he⟩ := statusIn_moved hm
  refine h.update he ?_ fun j hj => ?_
  · rw [targetsOf_append, if_pos rfl]
    exact (hs ▸ h x.id).of_run hc ht
  · rw [targetsOf_append, if_neg hj, List.append_nil]

end Told

/-- What a visit leaves behind when it is safe and nothing was pending. -/
structure Leaves (server : Server φ δ) (v : Visit) (commits : List Commit) (db : Database φ δ)
    (r : Except Fault v.Found) (m : Manager (Database φ δ)) : Prop where
  idle : m.world.saved = none
  settled : m.pending = []
  allowed : v.Allows db.rows r
  outlasts : Outlasts db.rows m.world.rows
  runs : ∀ x, v.commit? server db m.world = some x → x.IsRun db.rows
  told : Told m.world.rows (commits ++ (v.commit? server db m.world).toList)

section visits

variable {m m' : Manager (Database φ δ)} {commits : List Commit}

/-- A visit that only reads. -/
theorem Told.leaves {v : Visit} {r : Except Fault v.Found} {db : Database φ δ}
    (ht : Told m.world.rows commits) (hp : m.pending = []) (ha : v.Allows m.world.rows r)
    (hc : v.commit? server m.world db = none) (h : Holds none m.world.toStored db) :
    Leaves server v commits m.world r { m with world := db } := by
  refine ⟨h.saved, hp, ha, ?_, ?_, ?_⟩
  · change Outlasts m.world.rows db.rows
    rw [h.rows]
    exact .refl
  · intro x hx
    cases hc.symm.trans hx
  · change Told db.rows (commits ++ (v.commit? server m.world db).toList)
    rw [hc, Option.toList_none, List.append_nil, h.rows]
    exact ht

theorem leaves_updateStatus {id : Uuid} {u : StatusUpdate} {now : Time.Instant}
    {r : Except Fault Record} (hv : u.status = .validated ∨ u.status = .failed)
    (hs : m.world.saved = none) (hp : m.pending = []) (ht : Told m.world.rows commits)
    (he : Ends ((Visit.updateStatus id u now).act server) m r m') :
    Leaves server (.updateStatus id u now) commits m.world r m' := by
  obtain ⟨db, hd, rfl⟩ := Manager.ends_inWorld.mp he
  cases (holds_of_sound hs).updateStatus hd with
  | failed h => exact ht.leaves hp trivial rfl h
  | refused h => exact ht.leaves hp trivial rfl h
  | moved hf hr hc h =>
    have hm := inTable_moved hf hr hc h
    refine ⟨h.saved, hp, trivial, outlasts_moved hm, nofun, ?_⟩
    simpa [Visit.commit?] using ht.check hm hv

theorem leaves_execute (hserver : server.Tame) {id : Uuid} {statements : List String}
    {source target : Status} {now : Time.Instant} {r : Except Fault Outcome}
    (hv : (Visit.execute id statements source target now).Safe m.world.rows)
    (hs : m.world.saved = none) (hp : m.pending = []) (ht : Told m.world.rows commits)
    (he : Ends ((Visit.execute id statements source target now).act server) m r m') :
    Leaves server (.execute id statements source target now) commits m.world r m' := by
  obtain ⟨db, hd, rfl⟩ := Manager.ends_inWorld.mp he
  obtain ⟨hv, hst⟩ := hv
  have hm : source.canMoveTo target = true := by
    rcases hv with ⟨rfl, rfl⟩ | ⟨rfl, rfl⟩ <;> rfl
  have hr : target.IsRun := by
    rcases hv with ⟨-, rfl⟩ | ⟨-, rfl⟩
    · exact Or.inl rfl
    · exact Or.inr rfl
  have hx := (holds_of_sound hs).execute (fun s _ => hserver s) hd
  have hclose := closes_of_ends .refl hd
  have ha : (Visit.execute id statements source target now).Allows m.world.rows r := by
    rintro o rfl ho
    exact hclose.statusRecorded ho
  have hn (hno : ¬ Committed server m.world db) :
      (Visit.execute id statements source target now).commit? server m.world db = none :=
    if_neg hno
  cases hx with
  | raised h => exact ht.leaves hp ha (hn fun hc => nomatch hclose.success_iff.mpr hc) h
  | @refused o _ ho h =>
    refine ht.leaves hp ha (hn fun hc => ?_) h
    obtain ⟨_, ⟨⟩, hok⟩ := hclose.success_iff.mpr hc
    rw [ho] at hok
    cases hok
  | unrecorded hn => cases hn
  | recorded _ hsource hc h =>
    have hcommit : Committed server m.world db := hclose.success_iff.mp ⟨_, rfl, rfl⟩
    have hmoved := inTable_claimed hsource hc hm h
    have hsent := (sent_execute hd rfl).sentSince
    have hsome : (Visit.execute id statements source target now).commit? server m.world db =
        some ⟨id, target, transcript true (sendable statements)⟩ := by
      rw [Visit.commit?, if_pos hcommit, hsent]
    refine ⟨h.saved, hp, ha, outlasts_moved hmoved, ?_, ?_⟩
    · intro x hx
      obtain rfl := Option.some.inj (hsome.symm.trans hx)
      rw [Commit.IsRun, hst, Option.map_some]
    · change Told db.rows (commits ++ (Visit.commit? server m.world db _).toList)
      rw [hsome]
      exact ht.run hmoved hr

/-- No visit of a safe operation leaves a status that does not tell of the runs. -/
theorem Visit.Safe.leaves (hserver : server.Tame) {v : Visit} {r : Except Fault v.Found}
    (hv : v.Safe m.world.rows) (hs : m.world.saved = none) (hp : m.pending = [])
    (ht : Told m.world.rows commits) (he : Ends (v.act server) m r m') :
    Leaves server v commits m.world r m' := by
  cases v with
  | insert =>
    obtain ⟨db, hd, rfl⟩ := Manager.ends_inWorld.mp he
    cases (holds_of_sound hs).insert hd with
    | failed h => exact ht.leaves hp trivial rfl h
    | inserted hi h =>
      have hrows : db.rows = _ := h.rows
      refine ⟨h.saved, hp, trivial, ?_, ?_, ?_⟩
      · change Outlasts m.world.rows db.rows
        rw [hrows]
        exact outlasts_insertRow hi
      · intro x hx
        cases hx
      · have hins := ht.insert hi hv
        simpa [Visit.commit?, hrows] using hins
  | get id =>
    obtain ⟨db, hd, rfl⟩ := Manager.ends_inWorld.mp he
    refine ht.leaves hp ?_ rfl ((holds_of_sound hs).get hd)
    rintro found rfl
    obtain ⟨row, hrow, hr⟩ := row_of_get hd
    funext target
    rw [statementsIn, hrow, Option.bind_some, Row.statements?_of_record hr]
  | list =>
    obtain ⟨db, hd, rfl⟩ := Manager.ends_inWorld.mp he
    exact ht.leaves hp trivial rfl ((holds_of_sound hs).list hd)
  | updateStatus => exact leaves_updateStatus hv hs hp ht he
  | dryRun =>
    obtain ⟨db, hd, rfl⟩ := Manager.ends_inWorld.mp he
    have hk := (holds_of_sound hs).dryRun (fun s _ => (hserver s).keepsOpen) hd
    exact ht.leaves hp trivial rfl hk
  | execute => exact leaves_execute hserver hv hs hp ht he
  | pendingStatus id =>
    replace he := ends_getThe_bind.mp he
    obtain ⟨rfl, rfl⟩ := ends_pure.mp he
    refine ht.leaves hp ?_ rfl (holds_of_sound hs)
    change Except.ok (m'.pending.lookup id) = .ok none
    rw [hp, List.lookup_nil]
  | setPending => cases hv
  | clearPending id =>
    obtain ⟨-, rfl⟩ := ends_modify.mp he
    refine ⟨hs, ?_, trivial, .refl, ?_, ?_⟩
    · rw [Manager.withoutPending, hp, List.filter_nil]
    · intro x hx
      cases hx
    · have hworld : (m.withoutPending id).world = m.world := rfl
      simpa [Visit.commit?, hworld] using ht

/-- A visit writes down what it sends, and is the same to a server that can only be tame. -/
theorem Visit.act_mirrors (v : Visit) :
    Mirrors (fun m => m.world.log) server.SparesBy (v.act server) (v.act server.tamed) := by
  have hquiet {α : Type} {a : Action (Database φ δ) α}
      (h : ∀ {db x db'}, Ends a db x db' → Quiet server db db') :
      Mirrors (fun m => m.world.log) server.SparesBy (Manager.inWorld a) (Manager.inWorld a) :=
    Manager.mirrors_inWorld (mirrors_quiet h)
  cases v with
  | insert => exact hquiet quiet_insert
  | get => exact hquiet quiet_get
  | list => exact hquiet quiet_list
  | updateStatus => exact Manager.mirrors_inWorld mirrors_updateStatus
  | dryRun => exact Manager.mirrors_inWorld mirrors_dryRun
  | execute => exact Manager.mirrors_inWorld mirrors_execute
  | pendingStatus => exact .getThe_bind fun _ => .pure
  | setPending => exact .silent fun he => congrArg (·.world.log) (ends_modify.mp he).2
  | clearPending => exact .silent fun he => congrArg (·.world.log) (ends_modify.mp he).2

end visits

namespace Cluster

variable {c : Cluster ι φ δ}

/-- What holds between any two visits. -/
structure Sound (c : Cluster ι φ δ) : Prop where
  idle : ∀ i, (c.instances i).world.saved = none
  settled : ∀ i, (c.instances i).pending = []
  calls : ∀ call ∈ c.calls, call.2.Safe c.stored.rows
  runs : ∀ x ∈ c.commits, x.IsRun c.stored.rows
  told : Told c.stored.rows c.commits

theorem Fresh.sound (h : c.Fresh) : c.Sound := by
  refine ⟨h.idle, h.settled, ?_, ?_, ?_⟩
  · rw [h.calls]
    intro call hc
    cases hc
  · rw [h.commits]
    intro x hx
    cases hx
  · intro id
    rw [h.commits]
    cases hs : statusIn c.stored.rows id with
    | none => constructor <;> simp [targetsOf]
    | some s => exact Status.tells_nil (h.unexecuted id s hs)

variable [DecidableEq ι]

theorem Sound.visited (hserver : server.Tame) {n : Nat} {i : ι} {v : Visit}
    {rest : Except Fault v.Found → Program Answer} (h : c.Sound)
    (hn : c.calls[n]? = some (i, .visit v rest)) : (c.visited server n i v rest).Sound := by
  have hsafe : (Program.visit v rest).Safe c.stored.rows :=
    h.calls _ (List.mem_of_getElem? hn)
  have ht : Told (c.arrived i).world.rows c.commits := h.told
  have hs : (c.arrived i).world.saved = none := h.idle i
  have hl := hsafe.1.leaves hserver hs (h.settled i) ht
    (ends_answer_after (v.act server) (c.arrived i))
  have ho : Outlasts c.stored.rows (c.visited server n i v rest).stored.rows := hl.outlasts
  constructor
  · exact (Function.forall_update_iff c.instances fun _ m => m.world.saved = none).mpr
      ⟨hl.idle, fun j _ => h.idle j⟩
  · exact (Function.forall_update_iff c.instances fun _ m => m.pending = []).mpr
      ⟨hl.settled, fun j _ => h.settled j⟩
  · intro call hc
    obtain hc | rfl := List.mem_or_eq_of_mem_set hc
    · exact (h.calls call hc).mono ho
    · exact (hsafe.2 _ _ .refl hl.allowed).mono ho
  · intro x hx
    obtain hx | hx := List.mem_append.mp hx
    · exact (h.runs x hx).mono ho
    · exact (hl.runs x (Option.mem_toList.mp hx)).mono ho
  · exact hl.told

theorem Sound.step (hserver : server.Tame) (h : c.Sound) (a : Act ι) : (c.step server a).Sound := by
  cases a with
  | request i op =>
    refine ⟨h.idle, h.settled, ?_, h.runs, h.told⟩
    intro call hc
    obtain hc | hc := List.mem_append.mp hc
    · exact h.calls call hc
    · obtain rfl := List.mem_singleton.mp hc
      exact Program.safe_program op
  | visit n =>
    rw [Cluster.step]
    split
    · rename_i hn
      exact h.visited hserver hn
    · exact h
  | leave n =>
    refine ⟨h.idle, h.settled, ?_, h.runs, h.told⟩
    intro call hc
    exact h.calls call (List.mem_of_mem_eraseIdx hc)
  | interrupt i =>
    refine ⟨?_, ?_, h.calls, h.runs, h.told⟩
    · exact (Function.forall_update_iff c.instances fun _ m => m.world.saved = none).mpr
        ⟨h.idle i, fun j _ => h.idle j⟩
    · exact (Function.forall_update_iff c.instances fun _ m => m.pending = []).mpr
        ⟨h.settled i, fun j _ => h.settled j⟩

theorem Sound.run (hserver : server.Tame) (h : c.Sound) (acts : List (Act ι)) :
    (c.run server acts).Sound := by
  induction acts generalizing c with
  | nil => exact h
  | cons a acts ih => exact ih (h.step hserver a)

theorem run_nil (server : Server φ δ) (c : Cluster ι φ δ) : c.run server [] = c :=
  rfl

theorem run_cons (server : Server φ δ) (c : Cluster ι φ δ) (a : Act ι) (acts : List (Act ι)) :
    c.run server (a :: acts) = (c.step server a).run server acts :=
  rfl

/-- What an instance has sent. -/
def logOf (c : Cluster ι φ δ) (i : ι) : List Command :=
  (c.instances i).world.log

theorem logOf_visited {n : Nat} {i j : ι} {v : Visit}
    {rest : Except Fault v.Found → Program Answer} :
    (c.visited server n i v rest).logOf j =
      if j = i then (after (v.act server) (c.arrived i)).world.log else c.logOf j := by
  split
  · rename_i hj
    subst hj
    simp [Cluster.visited, logOf]
  · rename_i hj
    simp [Cluster.visited, logOf, Function.update_of_ne hj]

/-- What has been sent stays sent, and as long as it all spares the table the next act is the same
on a server that can only be tame. -/
theorem step_mirrors (server : Server φ δ) (c : Cluster ι φ δ) (a : Act ι) :
    ∃ new : ι → List Command, (∀ i, (c.step server a).logOf i = c.logOf i ++ new i) ∧
      ((∀ i, ∀ command ∈ new i, server.SparesBy command) →
        c.step server.tamed a = c.step server a) := by
  have hsame {c' : Cluster ι φ δ} (h : ∀ i, c'.logOf i = c.logOf i) :
      ∃ new : ι → List Command, (∀ i, c'.logOf i = c.logOf i ++ new i) ∧
        ((∀ i, ∀ command ∈ new i, server.SparesBy command) → c' = c') :=
    ⟨fun _ => [], fun i => (h i).trans (List.append_nil _).symm, fun _ => rfl⟩
  cases a with
  | request => exact hsame fun _ => rfl
  | leave => exact hsame fun _ => rfl
  | interrupt i =>
    refine hsame fun j => ?_
    by_cases hj : j = i
    · subst hj
      simp [Cluster.step, logOf]
    · simp [Cluster.step, logOf, Function.update_of_ne hj]
  | visit n =>
    rw [Cluster.step, Cluster.step]
    split
    · rename_i i v rest hn
      obtain ⟨new, hnew, hv⟩ := v.act_mirrors (ends_answer_after (v.act server) (c.arrived i))
      refine ⟨Function.update (fun _ => []) i new, ?_, fun hg => ?_⟩
      · intro j
        by_cases hj : j = i
        · subst hj
          rw [logOf_visited, if_pos rfl, Function.update_self]
          exact hnew
        · rw [logOf_visited, if_neg hj, Function.update_of_ne hj, List.append_nil]
      · have hg := hg i
        rw [Function.update_self] at hg
        have he := hv hg
        have ha : answer (v.act server.tamed) (c.arrived i) = answer (v.act server) (c.arrived i) :=
          he.answer_eq
        have hm : after (v.act server.tamed) (c.arrived i) = after (v.act server) (c.arrived i) :=
          he.after_eq
        unfold Cluster.visited
        dsimp only
        rw [ha, hm]
        rfl
    · exact hsame fun _ => rfl

theorem run_mirrors (server : Server φ δ) (c : Cluster ι φ δ) (acts : List (Act ι)) :
    ∃ new : ι → List Command, (∀ i, (c.run server acts).logOf i = c.logOf i ++ new i) ∧
      ((∀ i, ∀ command ∈ new i, server.SparesBy command) →
        c.run server.tamed acts = c.run server acts) := by
  induction acts generalizing c with
  | nil =>
    refine ⟨fun _ => [], fun i => ?_, fun _ => ?_⟩
    · rw [run_nil, List.append_nil]
    · rw [run_nil, run_nil]
  | cons a acts ih =>
    obtain ⟨new, hn, hs⟩ := step_mirrors server c a
    obtain ⟨new', hn', hs'⟩ := ih (c.step server a)
    refine ⟨fun i => new i ++ new' i, fun i => ?_, fun hg => ?_⟩
    · rw [run_cons, hn', hn, List.append_assoc]
    · have hstep := hs fun i command hc => hg i command (List.mem_append_left _ hc)
      have hrun := hs' fun i command hc => hg i command (List.mem_append_right _ hc)
      rw [run_cons, run_cons, hstep, hrun]

/-- However the visits of the managers come in between each other, every transaction that an
executor committed has sent the changeset's own forward statements or its own rollback; the forward
ones were committed at most once, and the rollback at most once and after them; of a changeset that
has failed nothing was committed. The statements must leave the table of changesets alone. -/
theorem commits_in_order (server : Server φ δ) (h : c.Fresh) (acts : List (Act ι))
    (hs : ∀ i, server.SparesSince (c.instances i).world ((c.run server acts).instances i).world) :
    (∀ x ∈ (c.run server acts).commits, x.IsRun (c.run server acts).stored.rows) ∧
      ∀ id, targetsOf (c.run server acts).commits id <+: [.applied, .reverted] ∧
        (statusIn (c.run server acts).stored.rows id = some .failed →
          targetsOf (c.run server acts).commits id = []) := by
  obtain ⟨new, hn, htamed⟩ := run_mirrors server c acts
  have hnew : ∀ i, ∀ command ∈ new i, server.SparesBy command := by
    intro i command hc text ht
    refine hs i text ?_
    rw [statementsSince, sentSince, show ((c.run server acts).instances i).world.log = _ from hn i,
      logOf, List.drop_left]
    exact List.mem_filterMap.mpr ⟨command, hc, ht⟩
  have hsound := h.sound.run server.tame_tamed acts
  rw [htamed hnew] at hsound
  exact ⟨hsound.runs, fun id => (hsound.told id).in_order⟩

/-- Two instances over one validated changeset. -/
def pair : Cluster Bool (List ScriptedFailure) (List String) where
  stored := { rows := [validatedRow], others := [] }
  instances := fun _ => ⟨{ others := [], failures := [] }, []⟩

/-- Both instances have read the changeset when one applies it; later the other reverts it. -/
def overtaken : List (Act Bool) :=
  [.request true (.apply .nil ⟨1, 0⟩), .request false (.apply .nil ⟨2, 0⟩), .visit 0, .visit 0,
    .visit 0, .visit 1, .visit 1, .visit 1, .visit 0, .visit 1,
    .request false (.revert .nil ⟨3, 0⟩), .visit 2, .visit 2, .visit 2, .visit 2]

theorem commits_in_order_overtaken :
    pair.Fresh ∧ (pair.run scripted overtaken).stored.others =
        ["create table notes()", "drop table notes"] ∧
      targetsOf (pair.run scripted overtaken).commits .nil = [.applied, .reverted] ∧
      ∀ x ∈ (pair.run scripted overtaken).commits,
        x.IsRun (pair.run scripted overtaken).stored.rows := by
  have hf : pair.Fresh := by
    refine ⟨fun _ => rfl, fun _ => rfl, rfl, rfl, ?_⟩
    intro id s hs
    obtain ⟨x, hx, hs⟩ := Option.bind_eq_some_iff.mp hs
    obtain rfl := List.mem_singleton.mp (List.mem_of_find?_eq_some hx)
    exact Or.inr (Or.inl (Option.some.inj (hs.symm.trans status?_validatedRow)))
  have h := commits_in_order scripted hf overtaken fun _ text _ => tame_scripted text
  refine ⟨hf, ?_, ?_, h.1⟩
  · decide +kernel
  · decide +kernel

end Cluster
end Evolution.Database
