import Evolution.Proofs.Lifecycle.Page
import Evolution.Proofs.Lifecycle.Path

/-! What becomes of a changeset in all the worlds that operations of a manager and direct calls of
its store lead through. It is never removed, keeps its content and goes a path of statuses. -/
namespace Evolution

open Evolution.Action
open Time (Instant)

/-- The worlds before and after every call, and the present one. -/
def Watched.worlds {σ : Type} (w : Watched σ) : List σ :=
  w.past.flatMap (fun e => [e.before, e.after]) ++ [w.world]

theorem Watched.worlds_note {σ : Type} {w : Watched σ} {e : Event σ} (h : e.before = w.world) :
    (w.note e).worlds = w.worlds ++ [e.after, e.after] := by
  simp [worlds, h]

namespace Archive

section Follows

variable {σ ρ κ : Type} {A : Archive σ ρ} {w w' : σ} {e : Event σ} {id : Uuid} {content : ρ → κ}

/-- What a call can make of one entry. -/
inductive Takes (A : Archive σ ρ) : Option ρ → Option ρ → Prop where
  | kept {x} : Takes A x x
  | inserted {r} : Takes A none (some (A.ofRecord r))
  | moved {x s u now} (hs : A.status x = some s) (hc : s.canMoveTo u.status = true) :
      Takes A (some x) (some (A.moved u now x))

theorem Takes.status {x y : Option ρ} {s : Status} (h : A.Takes x y)
    (hs : x.bind A.status = some s) :
    ∃ t, y.bind A.status = some t ∧ (s = t ∨ s.canMoveTo t = true) := by
  cases h with
  | kept => exact ⟨s, hs, Or.inl rfl⟩
  | inserted => cases hs
  | moved hr hc =>
    obtain rfl := Option.some.inj (hs.symm.trans hr)
    exact ⟨_, A.status_moved .., Or.inr hc⟩

def Follows (A : Archive σ ρ) (w w' : σ) : Prop :=
  ∀ id, A.Takes (A.entry w id) (A.entry w' id)

theorem Follows.of_eq (h : A.entry w' = A.entry w) : A.Follows w w' := by
  intro id
  rw [h]
  exact .kept

/-- An event adds a changeset, moves one, or changes none; only `insert` adds. -/
inductive Does (A : Archive σ ρ) : Event σ → Prop where
  | nothing {c y w w'} (h : A.entry w' = A.entry w) : Does A ⟨c, y, w, w'⟩
  | inserts {r y w w'} (hn : A.entry w r.id = none)
      (h : A.entry w' = Function.update (A.entry w) r.id (some (A.ofRecord r))) :
      Does A ⟨.insert r, y, w, w'⟩
  | moves {c y id u now w w'} (h : A.Moved w id u now w') : Does A ⟨c, y, w, w'⟩

theorem Does.follows (h : A.Does e) : A.Follows e.before e.after := by
  cases h with
  | nothing h => exact .of_eq h
  | @inserts r y w w' hn h =>
    intro id
    by_cases hi : id = r.id
    · subst hi
      simp only [h, hn, Function.update_self]
      exact .inserted
    · simp only [h, Function.update_of_ne hi]
      exact .kept
  | @moves c y i u now w w' h =>
    intro id
    by_cases hi : id = i
    · subst hi
      obtain ⟨x, s, hx, hs, hc, he⟩ := h.self
      simp only [hx, he]
      exact .moved hs hc
    · simp only [h.other hi]
      exact .kept

theorem Does.of_none (h : A.Does e) (hn : A.entry e.before id = none) :
    A.entry e.after id = none ∨
      ∃ r, e.call = .insert r ∧ A.entry e.after id = some (A.ofRecord r) := by
  cases h with
  | nothing h =>
    left
    rw [h]
    exact hn
  | @inserts r y w w' _ h =>
    by_cases hi : id = r.id
    · subst hi
      right
      exact ⟨r, rfl, by simp only [h, Function.update_self]⟩
    · left
      simp only [h, Function.update_of_ne hi]
      exact hn
  | @moves c y i u now w w' h =>
    left
    by_cases hi : id = i
    · subst hi
      obtain ⟨x, _, hx, _, _, _⟩ := h.self
      cases hx.symm.trans hn
    · simp only [h.other hi]
      exact hn

/-- A changeset that is in the one world is in the other too, with the same content. -/
def Stays (A : Archive σ ρ) (content : ρ → κ) (id : Uuid) (w w' : σ) : Prop :=
  ∀ x, A.entry w id = some x → ∃ y, A.entry w' id = some y ∧ content y = content x

instance : Trans (A.Stays content id) (A.Stays content id) (A.Stays content id) where
  trans h h' x hx := by
    obtain ⟨y, hy, hxy⟩ := h x hx
    obtain ⟨z, hz, hyz⟩ := h' y hy
    exact ⟨z, hz, hyz.trans hxy⟩

theorem Follows.stays (hc : ∀ u now x, content (A.moved u now x) = content x)
    (h : A.Follows w w') (id : Uuid) : A.Stays content id w w' := by
  intro x hx
  have ht := h id
  rw [hx] at ht
  cases hy : A.entry w' id with
  | none =>
    rw [hy] at ht
    cases ht
  | some y =>
    rw [hy] at ht
    cases ht with
    | kept => exact ⟨_, rfl, rfl⟩
    | moved => exact ⟨_, rfl, hc ..⟩

end Follows

section Lasts

variable {σ ρ κ : Type} {A : Archive σ ρ} {id : Uuid} {content : ρ → κ} {worlds : List σ}

/-- The statuses that a changeset passes through. -/
def trail (A : Archive σ ρ) (worlds : List σ) (id : Uuid) : List Status :=
  Status.trail (worlds.filterMap (A.statusOf · id))

/-- A changeset stays as long as there are worlds, and its statuses are a path. -/
structure Lasts (A : Archive σ ρ) (content : ρ → κ) (worlds : List σ) (id : Uuid) : Prop where
  stays : worlds.Pairwise (A.Stays content id)
  path : Status.IsPath (A.trail worlds id)
  changes : (A.trail worlds id).length ≤ 4
  final : ∀ s ∈ (A.trail worlds id).dropLast, s ≠ .failed ∧ s ≠ .reverted

theorem isChain_statuses (h : worlds.IsChain A.Follows) :
    (worlds.filterMap (A.statusOf · id)).IsChain fun s t => s = t ∨ s.canMoveTo t = true := by
  induction worlds with
  | nil => exact List.isChain_nil
  | cons w worlds ih =>
    have hrest := ih h.tail
    cases hs : A.statusOf w id with
    | none => rwa [List.filterMap_cons_none (f := (A.statusOf · id)) hs]
    | some s =>
      rw [List.filterMap_cons_some (f := (A.statusOf · id)) hs]
      cases worlds with
      | nil => exact List.isChain_singleton s
      | cons v worlds =>
        -- the next world has a status too, so no other comes between
        obtain ⟨t, ht, hst⟩ := ((List.isChain_cons_cons.mp h).1 id).status hs
        rw [List.filterMap_cons_some (f := (A.statusOf · id)) ht] at hrest ⊢
        exact List.isChain_cons_cons.mpr ⟨hst, hrest⟩

theorem lasts (hc : ∀ u now x, content (A.moved u now x) = content x)
    (h : worlds.IsChain A.Follows) (id : Uuid) : A.Lasts content worlds id := by
  have hp : Status.IsPath (A.trail worlds id) := Status.isPath_trail (isChain_statuses h)
  exact
    { stays := (h.imp fun _ _ hf => hf.stays hc id).pairwise
      path := hp
      changes := hp.length_le
      final := fun _ hs => hp.not_final hs }

end Lasts
end Archive

/-- What can be asked of a manager, or of its store directly. -/
inductive Request where
  | operation (op : Operation)
  | insert (r : Record)
  | updateStatus (id : Uuid) (u : StatusUpdate) (now : Instant)

def Request.act {σ : Type} (b : Backend σ) : Request → Action (Manager σ) Answer
  | operation op => op.act b
  | insert r => do return .record (← Manager.inWorld (b.insert r))
  | updateStatus id u now => do return .record (← Manager.inWorld (b.updateStatus id u now))

theorem Request.act_keeps {σ : Type} {b : Backend σ} {P : σ → Prop} {m m' : Manager σ}
    {x : Except Fault Answer} (h : b.Keeps P) (request : Request) (hp : P m.world)
    (he : Ends (request.act b) m x m') : P m'.world := by
  cases request with
  | operation op => exact op.act_keeps h hp he
  | insert =>
    obtain ⟨_, hc, -⟩ := ends_bind_pure.mp he
    exact Manager.inWorld_keeps h.insert hp hc
  | updateStatus =>
    obtain ⟨_, hc, -⟩ := ends_bind_pure.mp he
    exact Manager.inWorld_keeps h.updateStatus hp hc

/-- The operations that make a changeset. -/
def Operation.drafts : Operation → Bool
  | createDraft .. => true
  | saveDraft .. => true
  | _ => false

/-- Whatever is called, and wherever the changesets stand, their store stays in order. -/
structure Orderly {σ ρ : Type} (b : Backend σ) (A : Archive σ ρ) : Prop where
  sound : b.Keeps A.Sound
  does {e} : b.Occurs e → A.Sound e.before → A.Does e

/-- Where the store does what it answers, an executor has to move changesets at most. -/
theorem Storing.orderly {σ ρ : Type} {b : Backend σ} {A : Archive σ ρ} (h : Storing b A)
    (ha : ∀ {id now x w w'}, A.Sound w → Ends (b.apply id now) w x w' →
      A.entry w' = A.entry w ∨ ∃ u t, A.Moved w id u t w')
    (hr : ∀ {id now x w w'}, A.Sound w → Ends (b.revert id now) w x w' →
      A.entry w' = A.entry w ∨ ∃ u t, A.Moved w id u t w') : Orderly b A := by
  refine ⟨h.sound, ?_⟩
  intro e ho hs
  cases ho with
  | @insert r x w w' he =>
    cases x with
    | error => exact .nothing (h.insert_error hs he)
    | ok =>
      obtain ⟨hn, hi⟩ := h.insert_ok hs he
      exact .inserts hn hi
  | get he => exact .nothing (h.get hs he)
  | list he => exact .nothing (h.list hs he)
  | @updateStatus id u now x w w' he =>
    cases x with
    | error => exact .nothing (h.updateStatus_error hs he)
    | ok => exact .moves (h.updateStatus_ok hs he)
  | validate he => exact .nothing (h.validate hs he)
  | apply he =>
    rcases ha hs he with hk | ⟨_, _, hm⟩
    · exact .nothing hk
    · exact .moves hm
  | revert he =>
    rcases hr hs he with hk | ⟨_, _, hm⟩
    · exact .nothing hk
    · exact .moves hm

section Orderly

variable {σ ρ κ : Type} {b : Backend σ} {A : Archive σ ρ} {l m m' : Manager (Watched σ)} {id : Uuid}
  {content : ρ → κ}

/-- The history up to now has no breaks. -/
def Archive.Unbroken (A : Archive σ ρ) (w : Watched σ) : Prop :=
  A.Sound w.world ∧ w.worlds.IsChain A.Follows

theorem Archive.Unbroken.note {w : Watched σ} {e : Event σ} (h : A.Unbroken w)
    (hb : e.before = w.world) (hs : A.Sound e.after) (hf : A.Follows e.before e.after) :
    A.Unbroken (w.note e) := by
  refine ⟨hs, ?_⟩
  rw [Watched.worlds_note hb, List.isChain_append]
  refine ⟨h.2, List.isChain_pair.mpr (.of_eq rfl), ?_⟩
  intro v hv v' hv'
  obtain rfl : w.world = v := by simpa [Watched.worlds] using hv
  obtain rfl : e.after = v' := by simpa using hv'
  exact hb ▸ hf

/-- What leaves the changesets alone can replace the present world. -/
theorem Archive.Unbroken.replaced {w : Watched σ} {v : σ} (h : A.Unbroken w) (hs : A.Sound v)
    (he : A.entry v = A.entry w.world) : A.Unbroken { w with world := v } := by
  obtain ⟨hp, -, hl⟩ := List.isChain_append.mp h.2
  refine ⟨hs, List.isChain_append.mpr ⟨hp, List.isChain_singleton v, ?_⟩⟩
  intro u hu v' hv'
  obtain rfl : v = v' := by simpa using hv'
  have hf := hl u hu w.world rfl
  intro id
  rw [he]
  exact hf id

theorem Leads.kept {P : Watched σ → Prop} (hk : b.watched.Keeps P)
    (hr : ∀ {w v}, P w → A.Sound v → A.entry v = A.entry w.world → P { w with world := v })
    (hp : P l.world) (hl : Leads A (Request.act b.watched) l m) : P m.world :=
  hl.keeps (fun {request m} hm => request.act_keeps hk hm (ends_answer_after _ m)) hr hp

theorem Leads.unbroken {w : σ} (h : Orderly b A) (hs : A.Sound w)
    (hl : Leads A (Request.act b.watched) (.started w) m) : A.Unbroken m.world := by
  have hk : b.watched.Keeps A.Unbroken := by
    refine Backend.watched_keeps ?_
    intro w e hw ho hb
    have hs : A.Sound e.before := hb ▸ hw.1
    exact hw.note hb (h.sound.occurs ho hs) (h.does ho hs).follows
  have hw : A.Unbroken ⟨w, []⟩ := ⟨hs, List.isChain_singleton w⟩
  exact hl.kept hk (fun hm hv he => hm.replaced hv he) hw

/-- Wherever requests lead, a changeset that was there is there with its content. -/
theorem Leads.stays (h : Orderly b A) (hc : ∀ u now x, content (A.moved u now x) = content x)
    (hs : A.Sound l.world.world) (hl : Leads A (Request.act b.watched) l m) (id : Uuid) :
    A.Sound m.world.world ∧ A.Stays content id l.world.world m.world.world := by
  have hk :
      b.watched.Keeps fun w => A.Sound w.world ∧ A.Stays content id l.world.world w.world := by
    refine Backend.watched_keeps ?_
    rintro w e ⟨hs, hw⟩ ho hb
    rw [← hb] at hs hw
    exact ⟨h.sound.occurs ho hs, Trans.trans hw ((h.does ho hs).follows.stays hc id)⟩
  refine hl.kept hk ?_ ⟨hs, fun x hx => ⟨x, hx, rfl⟩⟩
  rintro w v ⟨-, hw⟩ hv he
  exact ⟨hv, Trans.trans hw (Archive.Follows.of_eq he |>.stays hc id)⟩

/-- The entry of a changeset has the content of a record as a manager makes it. -/
def Archive.IsNew (A : Archive σ ρ) (content : ρ → κ) (w : σ) (id : Uuid) : Prop :=
  ∃ x r, A.entry w id = some x ∧ r.IsNew ∧ content x = content (A.ofRecord r)

theorem Archive.IsNew.stays {w w' : σ} (h : A.IsNew content w id) (hs : A.Stays content id w w') :
    A.IsNew content w' id := by
  obtain ⟨x, r, hx, hr, hc⟩ := h
  obtain ⟨y, hy, hyx⟩ := hs x hx
  exact ⟨y, r, hy, hr, hyx.trans hc⟩

theorem validate_none {statements : List String} {x : Except Fault Report} {w w' : Watched σ}
    (h : Orderly b A) (hs : A.Sound w.world) (hn : A.entry w.world id = none)
    (he : Ends (b.watched.validate statements) w x w') : A.entry w'.world id = none := by
  obtain ⟨v, hv, rfl⟩ := ends_watch.mp he
  rcases (h.does (.validate hv) hs).of_none hn with hn | ⟨_, hc, -⟩
  · exact hn
  · cases hc

theorem insert_new {r : Record} {x : Except Fault Record} {w w' : Watched σ} (h : Orderly b A)
    (hs : A.Sound w.world) (hn : A.entry w.world id = none) (hr : r.IsNew)
    (he : Ends (b.watched.insert r) w x w') :
    A.entry w'.world id = none ∨ A.IsNew content w'.world id := by
  obtain ⟨v, hv, rfl⟩ := ends_watch.mp he
  rcases (h.does (.insert hv) hs).of_none hn with hn | ⟨_, hc, hi⟩
  · exact Or.inl hn
  · cases hc
    exact Or.inr ⟨_, r, hi, hr, rfl⟩

/-- An operation that makes changesets makes only new ones. -/
theorem Operation.act_new {x : Except Fault Answer} {op : Operation} (h : Orderly b A)
    (hs : A.Sound m.world.world) (hn : A.entry m.world.world id = none) (ho : op.drafts = true)
    (he : Ends (op.act b.watched) m x m') :
    A.entry m'.world.world id = none ∨ A.IsNew content m'.world.world id := by
  cases op with
  | createDraft =>
    obtain ⟨_, hc, -⟩ := ends_bind_pure.mp he
    cases Manager.createDraft_cases hc with
    | rejected => exact Or.inl hn
    | unchecked _ hv => exact Or.inl (validate_none h hs hn hv)
    | inserted _ hv hi =>
      have hs' := h.sound.watched.validate hs hv
      exact insert_new h hs' (validate_none h hs hn hv) (.checked ..) hi
  | saveDraft =>
    obtain ⟨_, hc, -⟩ := ends_bind_pure.mp he
    cases Manager.saveDraft_cases hc with
    | rejected => exact Or.inl hn
    | inserted _ hi => exact insert_new h hs hn (.draft ..) hi
  | _ => cases ho

/-- A changeset that was made by an operation on the way from `l` to `m`. -/
def Drafted (b : Backend σ) (A : Archive σ ρ) (l m : Manager (Watched σ)) (id : Uuid) : Prop :=
  ∃ (op : Operation) (k : Manager (Watched σ)), op.drafts = true ∧
    Leads A (Request.act b.watched) l k ∧ A.entry k.world.world id = none ∧
    A.entry (after (op.act b.watched) k).world.world id ≠ none ∧
    Leads A (Request.act b.watched) (after (op.act b.watched) k) m

theorem Drafted.isNew (h : Orderly b A)
    (hc : ∀ u now x, content (A.moved u now x) = content x) (hs : A.Sound l.world.world)
    (hd : Drafted b A l m id) : A.IsNew content m.world.world id := by
  obtain ⟨op, k, ho, hk, hn, hi, hm⟩ := hd
  have hks : A.Sound k.world.world := (hk.stays h hc hs id).1
  have hms := op.act_keeps h.sound.watched hks (ends_answer_after _ k)
  have hmn : A.IsNew content (after (op.act b.watched) k).world.world id :=
    (op.act_new h hks hn ho (ends_answer_after _ k)).resolve_left hi
  exact hmn.stays (hm.stays h hc hms id).2

/-- All through a history, a changeset that was made on the way has the content it was given. -/
theorem Archive.Lasts.isNew {w : Watched σ} {v : σ} {x : ρ} (h : A.Lasts content w.worlds id)
    (hn : A.IsNew content w.world id) (hv : v ∈ w.worlds) (hx : A.entry v id = some x) :
    ∃ r, r.IsNew ∧ content x = content (A.ofRecord r) := by
  obtain ⟨y, r, hy, hr, hc⟩ := hn
  rcases List.mem_append.mp hv with hp | hl
  · obtain ⟨z, hz, hzx⟩ := (List.pairwise_append.mp h.stays).2.2 v hp w.world (by simp) x hx
    obtain rfl := Option.some.inj (hy.symm.trans hz)
    exact ⟨r, hr, hzx.symm.trans hc⟩
  · obtain rfl := List.mem_singleton.mp hl
    obtain rfl := Option.some.inj (hy.symm.trans hx)
    exact ⟨r, hr, hc⟩

/-- What happens to a changeset while its content is known is known of all that happens to it. -/
theorem Leads.past_forall {good : Event σ → Prop} {k : κ} (h : Orderly b A)
    (hc : ∀ u now x, content (A.moved u now x) = content x)
    (hg : ∀ e, b.Occurs e → A.Sound e.before → (A.entry e.before id).map content = some k → good e)
    (hs : A.Sound l.world.world) (hx : (A.entry l.world.world id).map content = some k)
    (hl : Leads A (Request.act b.watched) l m) :
    ∃ later, m.world.past = l.world.past ++ later ∧ ∀ e ∈ later, good e := by
  have stays {w w' : σ} (hf : A.Follows w w') (hw : (A.entry w id).map content = some k) :
      (A.entry w' id).map content = some k := by
    obtain ⟨x, hwx, hxk⟩ := Option.map_eq_some_iff.mp hw
    obtain ⟨y, hy, hyx⟩ := hf.stays hc id x hwx
    rw [hy, Option.map_some, hyx, hxk]
  have hk : b.watched.Keeps fun w => A.Sound w.world ∧ (A.entry w.world id).map content = some k ∧
      ∃ later, w.past = l.world.past ++ later ∧ ∀ e ∈ later, good e := by
    refine Backend.watched_keeps ?_
    rintro w e ⟨hs, hw, later, hp, hall⟩ ho hb
    rw [← hb] at hs hw
    refine ⟨h.sound.occurs ho hs, stays (h.does ho hs).follows hw, later ++ [e], ?_, ?_⟩
    · rw [Watched.note_past, hp, List.append_assoc]
    · intro e' he'
      rcases List.mem_append.mp he' with he' | he'
      · exact hall e' he'
      · obtain rfl := List.mem_singleton.mp he'
        exact hg e' ho hs hw
  refine (hl.kept hk ?_ ⟨hs, hx, [], (List.append_nil _).symm, List.forall_mem_nil _⟩).2.2
  rintro w v ⟨-, hw, hpast⟩ hv he
  exact ⟨hv, stays (.of_eq he) hw, hpast⟩

end Orderly
end Evolution
