import Evolution.Proofs.Lifecycle.Drafting

/-! A draft can be checked at once, or saved and checked later. Where the store does what it is
asked and the check gives the same report, both ways ask it once about the same statements, and end
in records that differ in their identity and their times alone. -/
namespace Evolution

open Evolution.Action Manager
open Time (Instant)

section checks

variable {σ : Type} {w : Watched σ} {e : Event σ}

/-- The statements that a call asks to be checked. -/
def Call.statements? : Call → Option (List String)
  | validate statements => some statements
  | _ => none

/-- The statements of all checks so far. -/
def Watched.checks (w : Watched σ) : List (List String) :=
  w.past.filterMap (·.call.statements?)

theorem Watched.note_checks : (w.note e).checks = w.checks ++ e.call.statements?.toList := by
  rw [checks, note, List.filterMap_append, checks]
  cases h : e.call.statements? <;> simp [h]

end checks

namespace Record

variable {r : Record} {report : Report}

/-- Equal in everything but identity and times. -/
def Alike (x y : Record) : Prop :=
  y = { x with id := y.id, createdAt := y.createdAt, updatedAt := y.updatedAt }

/-- What a report makes of a record. -/
def judged (r : Record) (report : Report) : Record :=
  { r with
    status := statusOf report
    report := some report
    errorText := report.errorText }

theorem Alike.judged {x y : Record} (h : x.Alike y) :
    (x.judged report).Alike (y.judged report) := by
  unfold Alike at h ⊢
  rw [h]
  rfl

theorem alike_updatedAt (t : Instant) : r.Alike { r with updatedAt := t } := rfl

theorem Alike.trans {x y z : Record} (h : x.Alike y) (h' : y.Alike z) : x.Alike z := by
  unfold Alike at h h' ⊢
  rw [h', h]

/-- There is no error text in a report that passes, so that it does not matter that the update of a
draft does not ask for it then. -/
theorem moved_updateOfReport (now : Instant) :
    r.moved (updateOfReport report) now = { r.judged report with updatedAt := now } := by
  unfold updateOfReport
  cases h : report.ok with
  | true => simp [moved, judged, statusOf, Report.errorText, h]
  | false => simp [moved, judged, statusOf, h]

end Record

section draft

/-- The record of a request that is saved as a draft. -/
def ChangeRequest.draft (r : ChangeRequest) (createdBy : Option String) (stamp : Stamp) : Record :=
  .ofChangeset r.preview.changeset .draft none createdBy stamp

variable {r : ChangeRequest} {report : Report} {createdBy : Option String} {stamp stamp' : Stamp}

theorem ChangeRequest.alike_draft : (r.draft createdBy stamp).Alike (r.draft createdBy stamp') :=
  rfl

/-- The record of a draft that is checked at once is that of a saved one with the report. -/
theorem ChangeRequest.judged_draft :
    .ofChangeset r.preview.changeset (statusOf report) (some report) createdBy stamp =
      (r.draft createdBy stamp).judged report := rfl

end draft

/-- A store that does what it is asked wherever the entry can be read, with a check that answers
`report`. All this leads from `Up` to `Up`. -/
structure Backend.Obliges {σ ρ : Type} (b : Backend σ) (A : Archive σ ρ)
    (read : ρ → Except Fault Record) (report : Report) (Up : σ → Prop) : Prop where
  insert {r w} : Up w → A.entry w r.id = none →
    ∃ w', Ends (b.insert r) w (.ok r) w' ∧ Up w' ∧ A.entry w' r.id = some (A.ofRecord r)
  get {id x r w} : Up w → A.entry w id = some x → read x = .ok r →
    ∃ w', Ends (b.get id) w (.ok r) w' ∧ Up w' ∧ A.entry w' = A.entry w
  updateStatus {id u x r w} (now) : Up w → A.entry w id = some x → read x = .ok r →
    r.status.canMoveTo u.status = true →
    ∃ w', Ends (b.updateStatus id u now) w (.ok (r.moved u now)) w' ∧
      A.entry w' id = some (A.moved u now x)
  validate {w} (statements) : Up w →
    ∃ w', Ends (b.validate statements) w (.ok report) w' ∧ Up w' ∧ A.entry w' = A.entry w

section Obliges

variable {σ ρ : Type} {b : Backend σ} {A : Archive σ ρ} {read : ρ → Except Fault Record}
  {report : Report} {Up : σ → Prop} {r : ChangeRequest} {createdBy : Option String}
  {stamp stamp' : Stamp} {now : Instant} {m k : Manager (Watched σ)}
  {twins : σ → Uuid → σ → Uuid → Prop}

/-- A manager after a call that led to the world `w`. -/
def Manager.called (m : Manager (Watched σ)) (call : Call) (reply : Reply) (w : σ) :
    Manager (Watched σ) :=
  { m with world := m.world.note ⟨call, reply, m.world.world, w⟩ }

theorem Manager.called_checks {call : Call} {reply : Reply} {w : σ} :
    (m.called call reply w).world.checks = m.world.checks ++ call.statements?.toList :=
  Watched.note_checks

theorem ends_called {α : Type} {call : Call} {reply : Except Fault α → Reply} {a : Action σ α}
    {x : Except Fault α} {w : σ} (h : Ends a m.world.world x w) :
    Ends (inWorld (watch call reply a)) m x (m.called call (reply x) w) :=
  ends_inWorld.mpr ⟨_, ends_watch.mpr ⟨w, h, rfl⟩, rfl⟩

/-- A draft that is checked at once. -/
theorem Backend.Obliges.createDraft (createdBy : Option String)
    (hb : b.Obliges A read report Up) (hm : Up m.world.world)
    (hn : A.entry m.world.world stamp.id = none)
    (hc : r.compileChecked = .ok r.preview.changeset) :
    ∃ x m', Ends (Operation.act b.watched (.createDraft r createdBy stamp)) m (.ok (.record x)) m' ∧
      m'.world.checks = m.world.checks ++ [r.preview.changeset.sql] ∧
      A.entry m'.world.world stamp.id =
        some (A.ofRecord ((r.draft createdBy stamp).judged report)) := by
  let statements := r.preview.changeset.sql
  let d := (r.draft createdBy stamp).judged report
  obtain ⟨w, hv, hw, he⟩ := hb.validate statements hm
  obtain ⟨v, hi, -, hx⟩ := hb.insert (r := d) hw ((congrFun he _).trans hn)
  let m₁ := m.called (.validate statements) (.report (.ok report)) w
  have hends : Ends (Manager.createDraft b.watched r createdBy stamp) m (.ok d)
      (m₁.called (.insert d) (.record (.ok d)) v) := by
    refine (ends_bind_of (ends_mk.mpr ⟨hc.symm, rfl⟩)).mpr ?_
    refine (ends_bind_of (ends_called hv)).mpr ?_
    change Ends (inWorld (b.watched.insert
      (.ofChangeset _ (statusOf report) (some report) createdBy stamp))) m₁ _ _
    rw [ChangeRequest.judged_draft]
    exact ends_called hi
  refine ⟨d, _, ends_bind_pure.mpr ⟨.ok d, hends, rfl⟩, ?_, hx⟩
  rw [called_checks, called_checks, List.append_assoc]
  rfl

/-- A draft that is saved is not checked. -/
theorem Backend.Obliges.saveDraft (createdBy : Option String)
    (hb : b.Obliges A read report Up) (hm : Up m.world.world)
    (hn : A.entry m.world.world stamp.id = none)
    (hc : r.compileChecked = .ok r.preview.changeset) :
    ∃ x m', Ends (Operation.act b.watched (.saveDraft r createdBy stamp)) m (.ok (.record x)) m' ∧
      m'.pending = m.pending ∧ m'.world.checks = m.world.checks ∧ Up m'.world.world ∧
      A.entry m'.world.world stamp.id = some (A.ofRecord (r.draft createdBy stamp)) := by
  let d := r.draft createdBy stamp
  obtain ⟨w, hi, hw, hx⟩ := hb.insert (r := d) hm hn
  have hends : Ends (Manager.saveDraft b.watched r createdBy stamp) m (.ok d)
      (m.called (.insert d) (.record (.ok d)) w) := by
    refine (ends_bind_of (ends_mk.mpr ⟨hc.symm, rfl⟩)).mpr ?_
    exact ends_called hi
  refine ⟨d, _, ends_bind_pure.mpr ⟨.ok d, hends, rfl⟩, rfl, ?_, hw, hx⟩
  rw [called_checks]
  exact List.append_nil _

/-- A saved draft that is checked. -/
theorem Backend.Obliges.validateDraft {id : Uuid} {x : ρ} {d : Record} (now : Instant)
    (hb : b.Obliges A read report Up) (hm : Up m.world.world) (hp : m.pendingStatus? id = none)
    (hx : A.entry m.world.world id = some x) (hr : read x = .ok d) (hd : d.status = .draft) :
    ∃ y m', Ends (Operation.act b.watched (.validate id now)) m (.ok (.record y)) m' ∧
      m'.world.checks = m.world.checks ++ [d.sql] ∧
      A.entry m'.world.world id = some (A.moved (updateOfReport report) now x) := by
  have hmove : d.status.canMoveTo (updateOfReport report).status = true := by
    rw [hd]
    unfold updateOfReport
    cases report.ok <;> rfl
  let u := updateOfReport report
  obtain ⟨w, hg, hw, hwe⟩ := hb.get hm hx hr
  obtain ⟨v, hv, hv', hve⟩ := hb.validate d.sql hw
  obtain ⟨w', hu, hux⟩ := hb.updateStatus now hv' (by rw [hve, hwe, hx]) hr hmove
  let m₁ := m.called (.get id) (.record (.ok d)) w
  let m₂ := m₁.called (.validate d.sql) (.report (.ok report)) v
  have hsettle : Ends (settle b.watched id now) m (.ok ()) m := by
    refine ends_getThe_bind.mpr ?_
    rw [hp]
    exact ends_pure.mpr ⟨rfl, rfl⟩
  have hready : Ends (ready b.watched id (· == .draft) .validated) m (.ok d) m₁ := by
    refine (ends_bind_of (ends_called hg)).mpr ?_
    rw [if_pos (by rw [hd]; rfl)]
    exact ends_pure.mpr ⟨rfl, rfl⟩
  have hends : Ends (Manager.validate b.watched id now) m (.ok (d.moved u now))
      (m₂.called (.updateStatus id u now) (.record (.ok (d.moved u now))) w') := by
    refine (ends_bind_of hsettle).mpr ?_
    refine (ends_bind_of hready).mpr ?_
    refine (ends_bind_of (ends_called hv)).mpr ?_
    exact ends_called hu
  refine ⟨_, _, ends_bind_pure.mpr ⟨.ok _, hends, rfl⟩, ?_, hux⟩
  simp only [m₁, m₂, called_checks, Call.statements?, Option.toList_none, Option.toList_some,
    List.append_nil]

/-- The two ways agree: the request is refused on both with one fault and without a trace, or both
have its statements checked once and leave twins behind. -/
inductive Backend.Agrees (b : Backend σ) (twins : σ → Uuid → σ → Uuid → Prop) (r : ChangeRequest)
    (createdBy : Option String) (stamp stamp' : Stamp) (now : Instant)
    (m k : Manager (Watched σ)) : Prop where
  | refused {e : Fault} (h : r.Refused e)
      (hm : Ends (Operation.act b.watched (.createDraft r createdBy stamp)) m (.error e) m)
      (hk : Ends (Operation.act b.watched (.saveDraft r createdBy stamp')) k (.error e) k)
  | stored {x draft y : Record} {m' k' k'' : Manager (Watched σ)}
      (hm : Ends (Operation.act b.watched (.createDraft r createdBy stamp)) m (.ok (.record x)) m')
      (hk : Ends (Operation.act b.watched (.saveDraft r createdBy stamp')) k
        (.ok (.record draft)) k')
      (hk' : Ends (Operation.act b.watched (.validate stamp'.id now)) k' (.ok (.record y)) k'')
      (hmc : m'.world.checks = m.world.checks ++ [r.preview.changeset.sql])
      (hkc : k''.world.checks = k.world.checks ++ [r.preview.changeset.sql])
      (h : twins m'.world.world stamp.id k''.world.world stamp'.id)

/-- The ways agree where the saved draft can be read, if twins is what the entries are that a report
and an update by it lead to. -/
theorem Backend.Obliges.agrees (hb : b.Obliges A read report Up) (hm : Up m.world.world)
    (hk : Up k.world.world) (hmn : A.entry m.world.world stamp.id = none)
    (hkn : A.entry k.world.world stamp'.id = none) (hp : k.pendingStatus? stamp'.id = none)
    (hread : ∃ d, read (A.ofRecord (r.draft createdBy stamp')) = .ok d ∧
      d.sql = r.preview.changeset.sql ∧ d.status = .draft)
    (htwins : ∀ w w',
      A.entry w stamp.id = some (A.ofRecord ((r.draft createdBy stamp).judged report)) →
      A.entry w' stamp'.id =
        some (A.moved (updateOfReport report) now (A.ofRecord (r.draft createdBy stamp'))) →
      twins w stamp.id w' stamp'.id) :
    b.Agrees twins r createdBy stamp stamp' now m k := by
  cases hx : r.compileChecked with
  | error e =>
    have hr := ChangeRequest.compileChecked_error_iff.mp hx
    exact .refused hr (Operation.Makes.created.stops_iff.mpr hr)
      (Operation.Makes.saved.stops_iff.mpr hr)
  | ok c =>
    obtain ⟨rfl, -⟩ := ChangeRequest.compileChecked_ok hx
    obtain ⟨x, m', hcreate, hmc, hme⟩ := hb.createDraft createdBy hm hmn hx
    obtain ⟨draft, k', hsave, hpend, hkc, hk', hke⟩ :=
      hb.saveDraft createdBy hk hkn hx
    obtain ⟨d, hd, hsql, hdraft⟩ := hread
    have hp' : k'.pendingStatus? stamp'.id = none := by
      rw [pendingStatus?, hpend]
      exact hp
    obtain ⟨y, k'', hvalidate, hkc', hke'⟩ :=
      hb.validateDraft now hk' hp' hke hd hdraft
    refine .stored hcreate hsave hvalidate hmc ?_ (htwins _ _ hme hke')
    rw [hkc', hkc, hsql]

end Obliges

section memory

variable {σ : Type} {b : Backend σ} {view : σ → MemoryStore} {report : Report}

/-- Records are kept in memory, where no write is lost, and every check gives this report. -/
structure Backend.Remembers (b : Backend σ) (view : σ → MemoryStore) (report : Report) : Prop where
  insert {r x w w'} : Ends (b.insert r) w x w' → MemoryStore.Inserts r (view w) x (view w')
  get {id x w w'} : Ends (b.get id) w x w' → x = (view w).get id ∧ view w' = view w
  updateStatus {id u now x w w'} : Ends (b.updateStatus id u now) w x w' →
    MemoryStore.Updates id u now (view w) x (view w')
  validate {statements x w w'} : Ends (b.validate statements) w x w' →
    x = .ok report ∧ view w' = view w

theorem Backend.Remembers.obliges (h : b.Remembers view report) :
    b.Obliges (.inMemory view fun _ => True) .ok report fun _ => True := by
  constructor
  case insert =>
    intro r w _ hn
    obtain ⟨x, w', he⟩ : ∃ x w', Ends (b.insert r) w x w' := ⟨_, _, rfl⟩
    cases x with
    | ok y =>
      have hi := h.insert he
      have hr : y = r := by cases hi; rfl
      obtain rfl := hr
      refine ⟨w', he, trivial, ?_⟩
      exact (congrFun (MemoryStore.find?_insert hi.ok).2 _).trans (Function.update_self ..)
    | error e =>
      have hi := h.insert he
      generalize view w' = s' at hi
      have hi : (view w).insert r = .error e := by
        cases hi with
        | refused hi => exact hi
      unfold MemoryStore.insert at hi
      rw [show (view w).find? r.id = none from hn] at hi
      cases hi
  case get =>
    intro id x r w _ hx hr
    obtain rfl : r = x := (Except.ok.inj hr).symm
    obtain ⟨y, w', he⟩ : ∃ y w', Ends (b.get id) w y w' := ⟨_, _, rfl⟩
    obtain ⟨rfl, hv⟩ := h.get he
    have hg : (view w).get id = .ok r := by
      rw [MemoryStore.get, show (view w).find? id = some r from hx]
    rw [hg] at he
    exact ⟨w', he, trivial, congrArg MemoryStore.find? hv⟩
  case updateStatus =>
    intro id u x r w now _ hx hr hc
    obtain rfl : r = x := (Except.ok.inj hr).symm
    obtain ⟨y, w', he⟩ : ∃ y w', Ends (b.updateStatus id u now) w y w' := ⟨_, _, rfl⟩
    obtain ⟨s, hs⟩ := MemoryStore.updateStatus_of_canMoveTo now hx hc
    cases y with
    | ok y =>
      obtain ⟨rfl, hv⟩ := Prod.mk.inj (Except.ok.inj ((h.updateStatus he).ok.symm.trans hs))
      obtain ⟨z, hz, -, -, hz'⟩ := MemoryStore.updateStatus_ok (h.updateStatus he).ok
      obtain rfl : r = z := Option.some.inj (hx.symm.trans hz)
      exact ⟨w', he, (congrFun hz' id).trans (Function.update_self ..)⟩
    | error e => cases (h.updateStatus he).error.1.symm.trans hs
  case validate =>
    intro w statements _
    obtain ⟨y, w', he⟩ : ∃ y w', Ends (b.validate statements) w y w' := ⟨_, _, rfl⟩
    obtain ⟨rfl, hv⟩ := h.validate he
    exact ⟨w', he, trivial, congrArg MemoryStore.find? hv⟩

/-- The records of two identifiers differ in their identity and their times alone. -/
def MemoryStore.Twins (s : MemoryStore) (id : Uuid) (s' : MemoryStore) (id' : Uuid) : Prop :=
  ∃ x y, s.find? id = some x ∧ s'.find? id' = some y ∧ x.Alike y

theorem Backend.Remembers.agrees {r : ChangeRequest} {createdBy : Option String}
    {stamp stamp' : Stamp} {now : Instant} {m k : Manager (Watched σ)}
    (h : b.Remembers view report) (hm : (view m.world.world).find? stamp.id = none)
    (hk : (view k.world.world).find? stamp'.id = none) (hp : k.pendingStatus? stamp'.id = none) :
    b.Agrees (fun w id w' id' => (view w).Twins id (view w') id') r createdBy stamp stamp' now m
      k := by
  refine h.obliges.agrees trivial trivial hm hk hp ⟨_, rfl, rfl, rfl⟩ ?_
  intro w w' hw hw'
  refine ⟨_, _, hw, hw', ?_⟩
  change Record.Alike _ (Record.moved _ _ _)
  rw [Record.moved_updateOfReport]
  exact ChangeRequest.alike_draft.judged.trans (Record.alike_updatedAt now)

end memory
end Evolution
