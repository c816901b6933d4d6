import Evolution.Api.Service
import Evolution.Proofs.Api.Route
import Evolution.Proofs.Lifecycle.Detached

/-! What the service does to its records where it keeps them in memory and has no database, over all
exchanges of requests and responses. Nothing is written before a request has been read and found in
order, and nothing is written for an answer that is no success. -/
namespace Evolution

open Evolution.Action Http

theorem Fault.failure_status (f : Fault) : f.failure.status ≠ 200 := by
  cases f <;> simp [failure]

namespace Api

theorem Rejection.response_status (r : Rejection) : r.response.status ≠ 200 := by
  cases r <;> decide

/-- What a command asks of the manager, if anything. -/
def Command.operation? (stamp : Stamp) : Command → Option Evolution.Operation
  | health | preview _ => none
  | create p => some (.createDraft p.request p.createdBy stamp)
  | saveDraft p => some (.saveDraft p.request p.createdBy stamp)
  | list f => some (.list f)
  | get id => some (.get id)
  | validate id => some (.validate id stamp.now)
  | apply id => some (.apply id stamp.now)
  | revert id => some (.revert id stamp.now)
  | abandon id a => some (.abandon id a.reason stamp.now)

section Ran

variable {σ : Type} {s : Service σ} {stamp : Stamp} {c : Command} {m m' : Manager σ}
  {x : Except Fault Json.Value}

/-- A command was refused for what was sent with it, or asked nothing of the manager, or what it
asked failed or was done. -/
inductive Command.Ran (s : Service σ) (stamp : Stamp) (c : Command) (m : Manager σ) :
    Except Fault Json.Value → Manager σ → Prop where
  | refused {e} : Ran s stamp c m (.error e) m
  | shown {v} (h : c.operation? stamp = none) : Ran s stamp c m (.ok v) m
  | failed {op e m'} (h : c.operation? stamp = some op)
      (he : Ends (op.act s.backend) m (.error e) m') : Ran s stamp c m (.error e) m'
  | done {op y v m'} (h : c.operation? stamp = some op)
      (he : Ends (op.act s.backend) m (.ok y) m') : Ran s stamp c m (.ok v) m'

theorem Command.ran_of_ends {α : Type} {a : Action (Manager σ) α} {f : α → Json.Value}
    {g : α → Answer} {op : Evolution.Operation} (h : c.operation? stamp = some op)
    (ha : op.act s.backend = do return g (← a))
    (he : Ends (do
      let r ← a
      pure (f r)) m x m') : c.Ran s stamp m x m' := by
  obtain ⟨y, hy, rfl⟩ := ends_bind_pure.mp he
  have hop : Ends (op.act s.backend) m (y.map g) m' := ha ▸ ends_bind_pure.mpr ⟨y, hy, rfl⟩
  cases y with
  | error => exact .failed h hop
  | ok => exact .done h hop

/-- What was sent is looked at first. -/
theorem ends_check {errors : List FieldError} {rest : Action (Manager σ) Json.Value}
    (he : Ends (do
      ExceptT.mk (pure (check errors))
      rest) m x m') : (∃ e, x = .error e ∧ m' = m) ∨ Ends rest m x m' := by
  obtain ⟨_, _, hc, hr⟩ | ⟨e, hc, rfl⟩ := ends_bind.mp he
  · obtain ⟨-, rfl⟩ := ends_mk.mp hc
    exact .inr hr
  · obtain ⟨-, rfl⟩ := ends_mk.mp hc
    exact .inl ⟨e, rfl, rfl⟩

theorem Command.run_cases (he : Ends (c.run s stamp) m x m') : c.Ran s stamp m x m' := by
  cases c with
  | health =>
    obtain ⟨rfl, rfl⟩ := ends_pure.mp he
    exact .shown rfl
  | preview p =>
    obtain ⟨_, rfl, rfl⟩ | hr := ends_check he
    · exact .refused
    · obtain ⟨rfl, rfl⟩ := ends_pure.mp hr
      exact .shown rfl
  | create p =>
    obtain ⟨_, rfl, rfl⟩ | hr := ends_check he
    · exact .refused
    · exact ran_of_ends rfl rfl hr
  | saveDraft p =>
    obtain ⟨_, rfl, rfl⟩ | hr := ends_check he
    · exact .refused
    · exact ran_of_ends rfl rfl hr
  | abandon id a =>
    obtain ⟨_, rfl, rfl⟩ | hr := ends_check he
    · exact .refused
    · exact ran_of_ends rfl rfl hr
  | list | get | validate | apply | revert => exact ran_of_ends rfl rfl he

end Ran

section Serves

variable {σ : Type} (s : Service σ) (stamp : Stamp) (q : Http.Request) (m : Manager σ)

/-- A page was told what it may do, or a request was not carried out, or a command ran. The status
tells a success from the others. -/
inductive Service.Serves : Nat → Manager σ → Prop where
  | permitted (h : q.method = "OPTIONS") : Serves 200 m
  | refused {status : Nat} (h : status ≠ 200) : Serves status m
  | failed {c : Command} {e : Fault} {m' : Manager σ} (hs : c.Ran s stamp m (.error e) m') :
      Serves e.failure.status m'
  | done {resource : Resource} {operation : Operation} {c : Command} {v : Json.Value}
      {m' : Manager σ} (hp : Resource.ofPath? q.target.path = some resource)
      (ho : resource.operation? q.method = some operation)
      (hc : Command.read q operation = .ok c) (hs : c.Ran s stamp m (.ok v) m') : Serves 200 m'

/-- The answer before it gets its headers. -/
def Service.respond : Response × Manager σ :=
  match Resource.ofPath? q.target.path with
  | none => (⟨404, [], .empty⟩, m)
  | some resource => answerResource s stamp q resource m

theorem Service.serves_respond :
    s.Serves stamp q m (s.respond stamp q m).1.status (s.respond stamp q m).2 := by
  unfold respond
  split
  · exact .refused (by simp)
  · rename_i resource hp
    unfold answerResource
    split
    · exact .refused (by simp)
    · rename_i operation ho
      split
      · rename_i rejection _
        exact .refused rejection.response_status
      · rename_i c hc
        have hran := Command.run_cases (ends_answer_after (c.run s stamp) m)
        change s.Serves stamp q m (answered (answer (c.run s stamp) m)).status
          (after (c.run s stamp) m)
        cases hx : answer (c.run s stamp) m with
        | error e => exact .failed (hx ▸ hran)
        | ok v => exact .done hp ho hc (hx ▸ hran)

theorem compress_status (r : Response) : r.compress.status = r.status := by
  unfold Response.compress
  split <;> rfl

/-- What is done to the answer afterwards changes neither its status nor the records. -/
theorem Service.serve_eq_respond (h : q.method ≠ "OPTIONS") :
    (s.serve stamp q m).1.status = (s.respond stamp q m).1.status ∧
      (s.serve stamp q m).2 = (s.respond stamp q m).2 := by
  have hm : ¬ (q.method == "OPTIONS") = true := fun hm => h (beq_iff_eq.mp hm)
  rw [serve, if_neg hm, respond]
  refine ⟨?_, rfl⟩
  dsimp only [Response.withHeaders]
  split
  · rw [compress_status]
    split <;> rfl
  · split <;> rfl

theorem Service.serves_serve :
    s.Serves stamp q m (s.serve stamp q m).1.status (s.serve stamp q m).2 := by
  by_cases h : q.method = "OPTIONS"
  · have hm : (q.method == "OPTIONS") = true := beq_iff_eq.mpr h
    rw [serve, if_pos hm]
    exact .permitted h
  · obtain ⟨hstatus, hm⟩ := s.serve_eq_respond stamp q m h
    rw [hstatus, hm]
    exact s.serves_respond stamp q m

end Serves

/-- The service with its records in memory and no database. -/
def Service.inMemory (cors : CorsPolicy) : Service MemoryStore :=
  ⟨.detached, "memory", cors⟩

/-- What an operation of the service does to the records when it is answered as a success. -/
def Operation.Changes (stamp : Stamp) : Operation → MemoryStore → MemoryStore → Prop
  | create, s, s' | saveDraft, s, s' => s.Gains stamp.id s'
  | step .validate id, s, s' | step .abandon id, s, s' =>
    ∃ uuid, readId id = .ok uuid ∧ s.MovesOn uuid stamp.now s'
  | _, s, s' => s' = s

section inMemory

variable {cors : CorsPolicy} {stamp : Stamp} {q : Http.Request} {m m' : Manager MemoryStore}
  {c : Command} {operation : Operation}

theorem exists_of_map_eq_ok {ε α β : Type} {x : Except ε α} {f : α → β} {b : β}
    (h : x.map f = .ok b) : ∃ a, x = .ok a ∧ b = f a := by
  cases x with
  | error => cases h
  | ok a =>
    cases h
    exact ⟨a, rfl, rfl⟩

theorem Command.Ran.calm {x : Except Fault Json.Value}
    (h : c.Ran (.inMemory cors) stamp m x m') (hm : m.Calm) : m'.Calm := by
  cases h with
  | refused | shown => exact hm
  | failed _ he | done _ he => exact (Operation.act_detached hm he).calm hm

theorem Command.Ran.error {e : Fault} (h : c.Ran (.inMemory cors) stamp m (.error e) m')
    (hm : m.Calm) : m' = m := by
  cases h with
  | refused => rfl
  | failed _ he =>
    cases Operation.act_detached hm he with
    | failed => rfl

/-- A command that has run has changed what the operation that it asked for changes, or nothing. -/
theorem Command.Ran.changed {v : Json.Value} (h : c.Ran (.inMemory cors) stamp m (.ok v) m')
    (hm : m.Calm) :
    (c.operation? stamp = none → m'.world = m.world) ∧
      ∀ op, c.operation? stamp = some op → op.Changes m.world m'.world := by
  cases h with
  | shown hn =>
    refine ⟨fun _ => rfl, ?_⟩
    intro op ho
    cases hn.symm.trans ho
  | done ho he =>
    refine ⟨fun hn => ?_, ?_⟩
    · cases hn.symm.trans ho
    · intro op ho'
      obtain rfl := Option.some.inj (ho.symm.trans ho')
      cases Operation.act_detached hm he with
      | done hs => exact hs

/-- What was read is carried out as the operation that it was read for. -/
theorem Command.Ran.changes {v : Json.Value} (h : c.Ran (.inMemory cors) stamp m (.ok v) m')
    (hm : m.Calm) (hc : Command.read q operation = .ok c) :
    operation.Changes stamp m.world m'.world := by
  obtain ⟨hnone, hsome⟩ := h.changed hm
  cases operation with
  | health =>
    cases hc
    exact hnone rfl
  | preview =>
    obtain ⟨p, -, rfl⟩ := exists_of_map_eq_ok hc
    exact hnone rfl
  | create | saveDraft | list | get =>
    obtain ⟨p, -, rfl⟩ := exists_of_map_eq_ok hc
    exact hsome _ rfl
  | step s id =>
    cases s with
    | validate =>
      obtain ⟨uuid, hid, rfl⟩ := exists_of_map_eq_ok hc
      exact ⟨uuid, hid, hsome _ rfl⟩
    | apply | revert =>
      obtain ⟨uuid, -, rfl⟩ := exists_of_map_eq_ok hc
      exact hsome _ rfl
    | abandon =>
      obtain ⟨uuid, hid, hc⟩ := bind_eq_ok.mp hc
      obtain ⟨a, -, hc⟩ := bind_eq_ok.mp hc
      cases hc
      exact ⟨uuid, hid, hsome _ rfl⟩

variable {status : Nat}

theorem Service.Serves.calm (h : (Service.inMemory cors).Serves stamp q m status m')
    (hm : m.Calm) : m'.Calm := by
  cases h with
  | permitted | refused => exact hm
  | failed hs | done _ _ _ hs => exact hs.calm hm

theorem Service.Serves.unchanged (h : (Service.inMemory cors).Serves stamp q m status m')
    (hm : m.Calm) (hs : status ≠ 200) : m' = m := by
  cases h with
  | permitted | refused => rfl
  | failed hran => exact hran.error hm
  | done => exact absurd rfl hs

/-- A success is that of a page that was told what it may do, or of an operation that has done its
part. -/
theorem Service.Serves.changed (h : (Service.inMemory cors).Serves stamp q m 200 m') (hm : m.Calm) :
    q.method = "OPTIONS" ∧ m' = m ∨ ∃ resource operation,
      Resource.ofPath? q.target.path = some resource ∧
      resource.operation? q.method = some operation ∧ operation.Changes stamp m.world m'.world := by
  generalize hstatus : 200 = status at h
  cases h with
  | permitted h => exact .inl ⟨h, rfl⟩
  | refused h => exact absurd hstatus.symm h
  | @failed _ e => exact absurd hstatus.symm e.failure_status
  | done hp ho hc hs => exact .inr ⟨_, _, hp, ho, hs.changes hm hc⟩

/-- The manager after some exchanges. -/
def Service.served {σ : Type} (s : Service σ) (m : Manager σ)
    (exchanges : List (Stamp × Http.Request)) : Manager σ :=
  exchanges.foldl (fun m exchange => (s.serve exchange.1 exchange.2 m).2) m

theorem Service.served_calm (exchanges : List (Stamp × Http.Request)) (hm : m.Calm) :
    ((Service.inMemory cors).served m exchanges).Calm := by
  induction exchanges generalizing m with
  | nil => exact hm
  | cons exchange rest ih =>
    exact ih (((Service.inMemory cors).serves_serve exchange.1 exchange.2 m).calm hm)

theorem calm_empty : ({ world := {} } : Manager MemoryStore).Calm :=
  ⟨rfl, List.nodup_nil, List.forall_mem_nil _⟩

end inMemory

/-- A request to make a changeset. -/
def AsksForDraft (q : Http.Request) : Prop :=
  q.method = "POST" ∧
    (q.target.path = "/api/changesets" ∨ q.target.path = "/api/changesets/drafts")

/-- A request to have a changeset checked, or to give it up. -/
def AsksForMove (q : Http.Request) (id : String) : Prop :=
  q.method = "POST" ∧ (q.target.path = "/api/changesets/" ++ id ++ "/validate" ∨
    q.target.path = "/api/changesets/" ++ id ++ "/abandon")

section asks

variable {stamp : Stamp} {q : Http.Request} {resource : Resource} {operation : Operation}
  {s s' : MemoryStore} {id : String}

theorem path_validate (id : String) :
    (Resource.step .validate id).path = "/api/changesets/" ++ id ++ "/validate" := by
  change "/api/changesets/" ++ id ++ "/" ++ "validate" =
    "/api/changesets/" ++ id ++ ("/" ++ "validate")
  exact String.append_assoc

theorem path_abandon (id : String) :
    (Resource.step .abandon id).path = "/api/changesets/" ++ id ++ "/abandon" := by
  change "/api/changesets/" ++ id ++ "/" ++ "abandon" =
    "/api/changesets/" ++ id ++ ("/" ++ "abandon")
  exact String.append_assoc

theorem gains_of_asksForDraft (hp : Resource.ofPath? q.target.path = some resource)
    (ho : resource.operation? q.method = some operation) (hq : AsksForDraft q)
    (h : operation.Changes stamp s s') : s.Gains stamp.id s' := by
  obtain ⟨hm, hpath⟩ := hq
  rw [hm] at ho
  rcases hpath with hpath | hpath <;> rw [hpath] at hp <;> cases hp <;> cases ho <;> exact h

theorem movesOn_of_asksForMove (hp : Resource.ofPath? q.target.path = some resource)
    (ho : resource.operation? q.method = some operation) (hq : AsksForMove q id)
    (h : operation.Changes stamp s s') :
    ∃ uuid, readId id = .ok uuid ∧ s.MovesOn uuid stamp.now s' := by
  obtain ⟨hm, hpath⟩ := hq
  rw [hm] at ho
  rcases hpath with hpath | hpath
  · rw [hpath, ← path_validate] at hp
    obtain rfl := Resource.eq_step hp
    cases ho
    exact h
  · rw [hpath, ← path_abandon] at hp
    obtain rfl := Resource.eq_step hp
    cases ho
    exact h

/-- Nothing else changes the records. -/
theorem eq_of_asksForNeither (hp : Resource.ofPath? q.target.path = some resource)
    (ho : resource.operation? q.method = some operation) (hd : ¬ AsksForDraft q)
    (hq : ∀ id, ¬ AsksForMove q id) (h : operation.Changes stamp s s') : s' = s := by
  have hpath := Resource.eq_path hp
  cases operation with
  | health | preview | list | get => exact h
  | create =>
    obtain ⟨hm, rfl⟩ := Resource.method_of_operation? ho rfl
    exact absurd ⟨hm, .inl hpath⟩ hd
  | saveDraft =>
    obtain ⟨hm, rfl⟩ := Resource.method_of_operation? ho rfl
    exact absurd ⟨hm, .inr hpath⟩ hd
  | step s id =>
    obtain ⟨hm, rfl⟩ := Resource.method_of_operation? ho rfl
    cases s with
    | validate => exact absurd ⟨hm, .inl (hpath.trans (path_validate id))⟩ (hq id)
    | apply | revert => exact h
    | abandon => exact absurd ⟨hm, .inr (hpath.trans (path_abandon id))⟩ (hq id)

theorem readId_eq_ok {uuid : Uuid} (h : readId id = .ok uuid) :
    (Address.decode? id.toList).bind Uuid.ofText? = some uuid := by
  unfold readId at h
  split at h
  · cases h
    assumption
  · cases h

end asks

/-- The records after some exchanges, from the beginning. -/
def stored (cors : CorsPolicy) (exchanges : List (Stamp × Http.Request)) : MemoryStore :=
  ((Service.inMemory cors).served { world := {} } exchanges).world

/-- The status of the answer to one more request. -/
def nextStatus (cors : CorsPolicy) (exchanges : List (Stamp × Http.Request)) (stamp : Stamp)
    (q : Http.Request) : Nat :=
  ((Service.inMemory cors).serve stamp q
    ((Service.inMemory cors).served { world := {} } exchanges)).1.status

/-- After any exchanges at all, a request that is not answered as a success leaves the records
alone. One that is has made one more of them if it is for a draft, and has moved the one that it
names if it is to check a changeset or to give it up; any other has changed none. No statements are
ever run. -/
theorem exchanges_frame (cors : CorsPolicy) (earlier : List (Stamp × Http.Request)) (stamp : Stamp)
    (q : Http.Request) :
    (nextStatus cors earlier stamp q ≠ 200 →
      stored cors (earlier ++ [(stamp, q)]) = stored cors earlier) ∧
    (nextStatus cors earlier stamp q = 200 →
      (AsksForDraft q →
        (stored cors earlier).Gains stamp.id (stored cors (earlier ++ [(stamp, q)]))) ∧
      (∀ id, AsksForMove q id → ∃ uuid,
        (Address.decode? id.toList).bind Uuid.ofText? = some uuid ∧
          (stored cors earlier).MovesOn uuid stamp.now (stored cors (earlier ++ [(stamp, q)]))) ∧
      (¬ AsksForDraft q → (∀ id, ¬ AsksForMove q id) →
        stored cors (earlier ++ [(stamp, q)]) = stored cors earlier)) ∧
    ∀ r ∈ (stored cors earlier).records, r.status ≠ .applied ∧ r.status ≠ .reverted := by
  have hm : ((Service.inMemory cors).served { world := {} } earlier).Calm :=
    Service.served_calm earlier calm_empty
  have hserves := (Service.inMemory cors).serves_serve stamp q
    ((Service.inMemory cors).served { world := {} } earlier)
  have hlater : stored cors (earlier ++ [(stamp, q)]) = ((Service.inMemory cors).serve stamp q
      ((Service.inMemory cors).served { world := {} } earlier)).2.world := by
    rw [stored, Service.served, List.foldl_append]
    rfl
  refine ⟨fun hs => ?_, fun hs => ?_, fun r hr => ?_⟩
  · rw [hlater, hserves.unchanged hm hs]
    rfl
  · rw [nextStatus] at hs
    rw [hs] at hserves
    rw [hlater]
    rcases hserves.changed hm with ⟨hoptions, hsame⟩ | ⟨resource, operation, hp, ho, hc⟩
    · have hpost : q.method ≠ "POST" := by
        rw [hoptions]
        decide
      exact ⟨fun hq => absurd hq.1 hpost, fun _ hq => absurd hq.1 hpost,
        fun _ _ => congrArg Manager.world hsame⟩
    · refine ⟨fun hq => gains_of_asksForDraft hp ho hq hc, fun id hq => ?_,
        fun hd hq => eq_of_asksForNeither hp ho hd hq hc⟩
      obtain ⟨uuid, hid, hmoves⟩ := movesOn_of_asksForMove hp ho hq hc
      exact ⟨uuid, readId_eq_ok hid, hmoves⟩
  · have hrun := hm.unexecuted r hr
    exact ⟨fun h => hrun (.inl h), fun h => hrun (.inr h)⟩

/-- What is posted in a second, which is also the identifier of a record to be made. -/
def posted (second : Nat) (path body : String) : Stamp × Http.Request :=
  (⟨⟨second⟩, ⟨second, 0⟩⟩,
    { method := "POST", target := ⟨path, none⟩, headers := [("content-type", "application/json")],
      body := body.toUTF8 })

/-- A table with one column is to be kept as a draft. -/
def draftPosted : Stamp × Http.Request :=
  posted 1 "/api/changesets/drafts" ("\x7b\"module\":\"m\",\"title\":\"t\",\"desiredState\":" ++
    "\x7b\"tables\":[\x7b\"name\":\"t\",\"columns\":[\x7b\"name\":\"a\"\x7d]\x7d]\x7d\x7d")

/-- The draft is to be checked. -/
def checkPosted : Stamp × Http.Request :=
  posted 2 ("/api/changesets/" ++ "00000000-0000-0000-0000-000000000001" ++ "/validate") ""

/-- Its statements are to be run. -/
def runPosted : Stamp × Http.Request :=
  posted 3 ("/api/changesets/" ++ "00000000-0000-0000-0000-000000000001" ++ "/apply") ""

/-- A draft is stored and checked, and is not run. -/
theorem exchanges_frame_draftPosted :
    nextStatus .anyone [] draftPosted.1 draftPosted.2 = 200 ∧ AsksForDraft draftPosted.2 ∧
    (stored .anyone []).Gains ⟨1⟩ (stored .anyone [draftPosted]) ∧
    nextStatus .anyone [draftPosted] checkPosted.1 checkPosted.2 = 200 ∧
    AsksForMove checkPosted.2 "00000000-0000-0000-0000-000000000001" ∧
    (stored .anyone [draftPosted]).MovesOn ⟨1⟩ ⟨2, 0⟩ (stored .anyone [draftPosted, checkPosted]) ∧
    nextStatus .anyone [draftPosted, checkPosted] runPosted.1 runPosted.2 = 502 ∧
    stored .anyone [draftPosted, checkPosted, runPosted] =
      stored .anyone [draftPosted, checkPosted] := by
  have hdraft : nextStatus .anyone [] draftPosted.1 draftPosted.2 = 200 := by decide +kernel
  have hcheck : nextStatus .anyone [draftPosted] checkPosted.1 checkPosted.2 = 200 := by
    decide +kernel
  have hrun : nextStatus .anyone [draftPosted, checkPosted] runPosted.1 runPosted.2 = 502 := by
    decide +kernel
  have hasks : AsksForDraft draftPosted.2 := ⟨rfl, .inr rfl⟩
  have hmoves : AsksForMove checkPosted.2 "00000000-0000-0000-0000-000000000001" := ⟨rfl, .inl rfl⟩
  have hgains := ((exchanges_frame .anyone [] draftPosted.1 draftPosted.2).2.1 hdraft).1 hasks
  obtain ⟨uuid, hid, hmoved⟩ := ((exchanges_frame .anyone [draftPosted] checkPosted.1
    checkPosted.2).2.1 hcheck).2.1 _ hmoves
  have huuid : (Address.decode? "00000000-0000-0000-0000-000000000001".toList).bind Uuid.ofText? =
      some ⟨1⟩ := by
    decide +kernel
  obtain rfl : ⟨1⟩ = uuid := Option.some.inj (huuid.symm.trans hid)
  have hsame := (exchanges_frame .anyone [draftPosted, checkPosted] runPosted.1 runPosted.2).1
    (by rw [hrun]; decide)
  exact ⟨hdraft, hasks, hgains, hcheck, hmoves, hmoved, hrun, hsame⟩

end Api
end Evolution
