import Evolution.Proofs.Lifecycle.History

/-! Two backends that do the same as long as nothing happens on the one that is not good. What is
written down of its calls tells whether anything did; where all of it is good, requests lead on the
other from the same world to the same world. -/
namespace Evolution

namespace Action

section Mirrors

variable {σ τ ε α β : Type} {history : σ → List τ} {good : τ → Prop}
  {a a' : ExceptT ε (StateM σ) α}

/-- What the one action does is written down, and where all of that is good the other does it
too. -/
def Mirrors (history : σ → List τ) (good : τ → Prop) (a a' : ExceptT ε (StateM σ) α) : Prop :=
  ∀ ⦃s r t⦄, Ends a s r t →
    ∃ new, history t = history s ++ new ∧ ((∀ e ∈ new, good e) → Ends a' s r t)

/-- One and the same action, of which something may be written down. -/
theorem Mirrors.same (h : ∀ {s r t}, Ends a s r t → ∃ new, history t = history s ++ new) :
    Mirrors history good a a := by
  intro s r t he
  obtain ⟨new, hn⟩ := h he
  exact ⟨new, hn, fun _ => he⟩

theorem Mirrors.silent (h : ∀ {s r t}, Ends a s r t → history t = history s) :
    Mirrors history good a a :=
  .same fun he => ⟨[], (h he).trans (List.append_nil _).symm⟩

theorem Mirrors.pure {x : α} :
    Mirrors history good (pure x : ExceptT ε (StateM σ) α) (Pure.pure x) :=
  .silent fun he => congrArg history (ends_pure.mp he).2

theorem Mirrors.throw {e : ε} :
    Mirrors history good (throw e : ExceptT ε (StateM σ) α) (MonadExcept.throw e) :=
  .silent fun he => congrArg history (ends_throw.mp he).2

theorem Mirrors.mk {x : Except ε α} :
    Mirrors history good (ExceptT.mk (Pure.pure x) : ExceptT ε (StateM σ) α)
      (ExceptT.mk (Pure.pure x)) :=
  .silent fun he => congrArg history (ends_mk.mp he).2

/-- What two steps write down, one after the other, and what follows where all of it is good. -/
theorem written_trans {s u t : σ} {P Q R : Prop}
    (h : ∃ new, history u = history s ++ new ∧ ((∀ e ∈ new, good e) → P))
    (h' : ∃ new, history t = history u ++ new ∧ ((∀ e ∈ new, good e) → Q)) (hr : P → Q → R) :
    ∃ new, history t = history s ++ new ∧ ((∀ e ∈ new, good e) → R) := by
  obtain ⟨new, hn, hs⟩ := h
  obtain ⟨new', hn', hs'⟩ := h'
  refine ⟨new ++ new', by rw [hn', hn, List.append_assoc], fun hg => ?_⟩
  obtain ⟨hg, hg'⟩ := List.forall_mem_append.mp hg
  exact hr (hs hg) (hs' hg')

theorem Mirrors.bind {f f' : α → ExceptT ε (StateM σ) β} (h : Mirrors history good a a')
    (hf : ∀ x, Mirrors history good (f x) (f' x)) :
    Mirrors history good (a >>= f) (a' >>= f') := by
  intro s r t he
  obtain ⟨x, u, hx, hr⟩ | ⟨e, hx, rfl⟩ := ends_bind.mp he
  · exact written_trans (h hx) (hf x hr) fun hs hs' => ends_bind.mpr (.inl ⟨x, u, hs, hs'⟩)
  · obtain ⟨new, hn, hs⟩ := h hx
    exact ⟨new, hn, fun hg => ends_bind.mpr (.inr ⟨e, hs hg, rfl⟩)⟩

theorem Mirrors.getThe_bind {f f' : σ → ExceptT ε (StateM σ) β}
    (hf : ∀ s, Mirrors history good (f s) (f' s)) :
    Mirrors history good (getThe σ >>= f) (getThe σ >>= f') :=
  fun s _ _ he => hf s (ends_getThe_bind.mp he)

end Mirrors

theorem Mirrors.observing_bind {σ τ α β : Type} {history : σ → List τ} {good : τ → Prop}
    {a a' : Action σ α} {f f' : Except Fault α → Action σ β} (h : Mirrors history good a a')
    (hf : ∀ x, Mirrors history good (f x) (f' x)) :
    Mirrors history good (observing a >>= f) (observing a' >>= f') := by
  intro s r t he
  obtain ⟨x, u, hx, hr⟩ := ends_observing_bind.mp he
  exact written_trans (h hx) (hf x hr) fun hs hs' => ends_observing_bind.mpr ⟨x, u, hs, hs'⟩

end Action

open Evolution.Action
open Time (Instant)

/-- What happens on the one backend can happen on the other, if it is good. -/
def Backend.Mirrors {σ : Type} (good : Event σ → Prop) (b b' : Backend σ) : Prop :=
  ∀ ⦃e⦄, b.Occurs e → good e → b'.Occurs e

section watched

variable {σ α : Type} {good : Event σ → Prop} {b b' : Backend σ}

theorem mirrors_watch {call : Call} {reply : Except Fault α → Reply} {a a' : Action σ α}
    (h : ∀ {x w w'}, Ends a w x w' → good ⟨call, reply x, w, w'⟩ → Ends a' w x w') :
    Mirrors Watched.past good (watch call reply a) (watch call reply a') := by
  intro w x w' he
  obtain ⟨v, hv, rfl⟩ := ends_watch.mp he
  refine ⟨_, Watched.note_past, fun hg => ?_⟩
  exact ends_watch.mpr ⟨v, h hv (hg _ (List.mem_singleton_self _)), rfl⟩

/-- Every call of the watched backend is mirrored by the same call of the other. -/
structure Backend.MirrorsWatched (good : Event σ → Prop) (b b' : Backend σ) : Prop where
  insert r : Action.Mirrors Watched.past good (b.watched.insert r) (b'.watched.insert r)
  get id : Action.Mirrors Watched.past good (b.watched.get id) (b'.watched.get id)
  list f : Action.Mirrors Watched.past good (b.watched.list f) (b'.watched.list f)
  updateStatus id u now : Action.Mirrors Watched.past good (b.watched.updateStatus id u now)
    (b'.watched.updateStatus id u now)
  validate statements : Action.Mirrors Watched.past good (b.watched.validate statements)
    (b'.watched.validate statements)
  apply id now : Action.Mirrors Watched.past good (b.watched.apply id now) (b'.watched.apply id now)
  revert id now :
    Action.Mirrors Watched.past good (b.watched.revert id now) (b'.watched.revert id now)

theorem Backend.Mirrors.watched (h : b.Mirrors good b') : b.MirrorsWatched good b' where
  insert r := mirrors_watch fun he hg => by
    cases h (.insert he) hg with
    | insert he => exact he
  get id := mirrors_watch fun he hg => by
    cases h (.get he) hg with
    | get he => exact he
  list f := mirrors_watch fun he hg => by
    cases h (.list he) hg with
    | list he => exact he
  updateStatus id u now := mirrors_watch fun he hg => by
    cases h (.updateStatus he) hg with
    | updateStatus he => exact he
  validate statements := mirrors_watch fun he hg => by
    cases h (.validate he) hg with
    | validate he => exact he
  apply id now := mirrors_watch fun he hg => by
    cases h (.apply he) hg with
    | apply he => exact he
  revert id now := mirrors_watch fun he hg => by
    cases h (.revert he) hg with
    | revert he => exact he

end watched

namespace Manager

variable {σ α β : Type} {good : Event σ → Prop} {b b' : Backend σ} {id : Uuid} {now : Instant}

/-- All that was called. -/
abbrev past (m : Manager (Watched σ)) : List (Event σ) :=
  m.world.past

theorem mirrors_inWorld {τ : Type} {history : σ → List τ} {good : τ → Prop} {a a' : Action σ α}
    (h : Mirrors history good a a') :
    Mirrors (fun m => history m.world) good (inWorld a) (inWorld a') := by
  intro m x m' he
  obtain ⟨w, hw, rfl⟩ := ends_inWorld.mp he
  obtain ⟨new, hn, hs⟩ := h hw
  exact ⟨new, hn, fun hg => ends_inWorld.mpr ⟨w, hs hg, rfl⟩⟩

theorem mirrors_tryWorld_bind {a a' : Action (Watched σ) α}
    {f f' : Except Fault α → Action (Manager (Watched σ)) β} (h : Mirrors Watched.past good a a')
    (hf : ∀ x, Mirrors past good (f x) (f' x)) :
    Mirrors past good (tryWorld a >>= f) (tryWorld a' >>= f') := by
  intro m x m' he
  obtain ⟨y, w, hw, hr⟩ := ends_tryWorld_bind.mp he
  exact written_trans (u := { m with world := w }) (h hw) (hf y hr) fun hs hs' =>
    ends_tryWorld_bind.mpr ⟨y, w, hs, hs'⟩

/-- The pending statuses are nothing that is called. -/
theorem mirrors_modify {f : Manager (Watched σ) → Manager (Watched σ)}
    (h : ∀ m, (f m).past = m.past) :
    Mirrors past good (modify f : Action (Manager (Watched σ)) PUnit) (modify f) :=
  .silent fun he => (congrArg past (ends_modify.mp he).2).trans (h _)

variable (h : b.MirrorsWatched good b')
include h

theorem mirrors_settle :
    Mirrors past good (settle b.watched id now) (settle b'.watched id now) := by
  refine .getThe_bind fun m => ?_
  split
  · exact .pure
  · refine mirrors_tryWorld_bind (h.updateStatus _ _ _) fun x => ?_
    split
    · exact mirrors_modify fun _ => rfl
    · split
      · exact mirrors_modify fun _ => rfl
      · exact .throw
    · exact .throw

theorem mirrors_ready {isReady : Status → Bool} {target : Status} :
    Mirrors past good (ready b.watched id isReady target) (ready b'.watched id isReady target) := by
  refine .bind (mirrors_inWorld (h.get id)) fun r => ?_
  split
  · exact .pure
  · exact .throw

theorem mirrors_createDraft {r : ChangeRequest} {createdBy : Option String} {stamp : Stamp} :
    Mirrors past good (createDraft b.watched r createdBy stamp)
      (createDraft b'.watched r createdBy stamp) :=
  .bind .mk fun _ => .bind (mirrors_inWorld (h.validate _)) fun _ => mirrors_inWorld (h.insert _)

theorem mirrors_saveDraft {r : ChangeRequest} {createdBy : Option String} {stamp : Stamp} :
    Mirrors past good (saveDraft b.watched r createdBy stamp)
      (saveDraft b'.watched r createdBy stamp) :=
  .bind .mk fun _ => mirrors_inWorld (h.insert _)

theorem mirrors_validate :
    Mirrors past good (validate b.watched id now) (validate b'.watched id now) :=
  .bind (mirrors_settle h) fun _ => .bind (mirrors_ready h) fun _ =>
    .bind (mirrors_inWorld (h.validate _)) fun _ => mirrors_inWorld (h.updateStatus _ _ _)

theorem mirrors_execute {target : Status} {run run' : Action (Watched σ) Outcome}
    (hr : Mirrors Watched.past good run run') :
    Mirrors past good (execute b.watched id target run now)
      (execute b'.watched id target run' now) := by
  refine .bind (mirrors_settle h) fun _ => .bind (mirrors_ready h) fun _ =>
    .bind (mirrors_inWorld hr) fun o => ?_
  cases o.ok with
  | false =>
    change Mirrors past good (throw _) (throw _)
    exact .throw
  | true =>
    cases o.statusRecorded with
    | true => exact mirrors_inWorld (h.get id)
    | false =>
      refine mirrors_tryWorld_bind (h.updateStatus _ _ _) fun x => ?_
      cases x with
      | ok => exact .pure
      | error => exact .bind (mirrors_modify fun _ => rfl) fun _ => .throw

theorem mirrors_abandon {reason : String} :
    Mirrors past good (abandon b.watched id reason now) (abandon b'.watched id reason now) :=
  .bind (mirrors_settle h) fun _ => .bind (mirrors_ready h) fun _ =>
    mirrors_inWorld (h.updateStatus _ _ _)

end Manager

section requests

variable {σ ρ R : Type} {good : Event σ → Prop} {b b' : Backend σ} {A : Archive σ ρ}
  {l m : Manager (Watched σ)}

open Manager

theorem Operation.act_mirrors (h : b.Mirrors good b') (op : Operation) :
    Mirrors past good (op.act b.watched) (op.act b'.watched) := by
  have h := h.watched
  cases op with
  | createDraft => exact .bind (mirrors_createDraft h) fun _ => .pure
  | saveDraft => exact .bind (mirrors_saveDraft h) fun _ => .pure
  | preview => exact .pure
  | get id => exact .bind (mirrors_inWorld (h.get id)) fun _ => .pure
  | list f => exact .bind (mirrors_inWorld (h.list f)) fun _ => .pure
  | validate => exact .bind (mirrors_validate h) fun _ => .pure
  | apply id now => exact .bind (mirrors_execute h (h.apply id now)) fun _ => .pure
  | revert id now => exact .bind (mirrors_execute h (h.revert id now)) fun _ => .pure
  | abandon => exact .bind (mirrors_abandon h) fun _ => .pure

theorem Request.act_mirrors (h : b.Mirrors good b') (request : Request) :
    Mirrors past good (request.act b.watched) (request.act b'.watched) := by
  cases request with
  | operation op => exact op.act_mirrors h
  | insert r => exact .bind (mirrors_inWorld (h.watched.insert r)) fun _ => .pure
  | updateStatus id u now =>
    exact .bind (mirrors_inWorld (h.watched.updateStatus id u now)) fun _ => .pure

variable {act act' : R → Action (Manager (Watched σ)) Answer}

/-- What was called stays called. -/
theorem Leads.past (h : ∀ request, Mirrors Manager.past good (act request) (act' request))
    (hl : Leads A act l m) : ∃ later, m.past = l.past ++ later := by
  induction hl with
  | refl => exact ⟨[], (List.append_nil _).symm⟩
  | @step m request _ ih =>
    obtain ⟨later, hm⟩ := ih
    obtain ⟨new, hn, -⟩ := h request (ends_answer_after (act request) m)
    exact ⟨later ++ new, by rw [hn, hm, List.append_assoc]⟩
  | meanwhile _ _ _ ih => exact ih

/-- Where all is good, requests lead to the same world on the other backend. -/
theorem Leads.mirrored (h : ∀ request, Mirrors Manager.past good (act request) (act' request))
    (hl : Leads A act l m) (hg : ∀ e ∈ m.past, good e) : Leads A act' l m := by
  induction hl with
  | refl => exact .refl
  | @step m request _ ih =>
    obtain ⟨new, hn, hs⟩ := h request (ends_answer_after (act request) m)
    rw [hn] at hg
    obtain ⟨hg, hg'⟩ := List.forall_mem_append.mp hg
    rw [← (hs hg').after_eq]
    exact .step request (ih hg)
  | meanwhile hw he _ ih => exact .meanwhile hw he (ih hg)

/-- So does an operation before them. -/
theorem Leads.mirrored_made {op : Operation} {k : Manager (Watched σ)} (h : b.Mirrors good b')
    (hl : Leads A (Request.act b.watched) (after (op.act b.watched) k) m)
    (hg : ∀ e ∈ m.past, good e) :
    (∀ e ∈ k.past, good e) ∧
      Ends (op.act b'.watched) k (answer (op.act b.watched) k) (after (op.act b.watched) k) ∧
      Leads A (Request.act b'.watched) (after (op.act b.watched) k) m := by
  have hact := Request.act_mirrors h
  obtain ⟨later, hlater⟩ := hl.past hact
  obtain ⟨new, hnew, hs⟩ := op.act_mirrors h (ends_answer_after (op.act b.watched) k)
  have hpast := hg
  rw [hlater, hnew] at hpast
  obtain ⟨hkept, -⟩ := List.forall_mem_append.mp hpast
  obtain ⟨hk, hop⟩ := List.forall_mem_append.mp hkept
  exact ⟨hk, hs hop, hl.mirrored hact hg⟩

/-- A changeset that was made on the way is made on the way of the other. -/
theorem Drafted.mirrored {id : Uuid} (h : b.Mirrors good b') (hd : Drafted b A l m id)
    (hg : ∀ e ∈ m.past, good e) : Drafted b' A l m id := by
  obtain ⟨op, k, ho, hk, hn, hi, hm⟩ := hd
  obtain ⟨hkept, he, hl⟩ := hm.mirrored_made h hg
  rw [← he.after_eq] at hi hl
  exact ⟨op, k, ho, hk.mirrored (Request.act_mirrors h) hkept, hn, hi, hl⟩

end requests
end Evolution
