import Evolution.Proofs.Lifecycle.Drafting
import Evolution.Proofs.Lifecycle.History

/-! What is let in stays good: a manager does the same where the store takes nothing but records of
what was compiled, so whatever holds of these, and is kept by moves, holds of all that is stored. -/
namespace Evolution

open Evolution.Action
open Time (Instant)

/-- All changesets that are stored are of one kind. -/
def Archive.All {σ ρ : Type} (A : Archive σ ρ) (Good : ρ → Prop) (w : σ) : Prop :=
  ∀ id x, A.entry w id = some x → Good x

section All

variable {σ ρ : Type} {A : Archive σ ρ} {Good : ρ → Prop} {w w' : σ} {e : Event σ}

theorem Archive.All.of_entry (h : A.All Good w) (he : A.entry w' = A.entry w) : A.All Good w' := by
  intro id x hx
  rw [he] at hx
  exact h id x hx

/-- What was there was good and stays so, and what comes is good. -/
theorem Archive.Does.all (h : A.Does e) (hm : ∀ u now x, Good x → Good (A.moved u now x))
    (hi : ∀ r, e.call = .insert r → Good (A.ofRecord r)) (ha : A.All Good e.before) :
    A.All Good e.after := by
  intro id x hx
  cases hy : A.entry e.before id with
  | none =>
    rcases h.of_none hy with hn | ⟨r, hc, hr⟩
    · cases hn.symm.trans hx
    · obtain rfl := Option.some.inj (hr.symm.trans hx)
      exact hi r hc
  | some y =>
    have ht := h.follows id
    rw [hy, hx] at ht
    cases ht with
    | kept => exact ha id _ hy
    | moved => exact hm _ _ _ (ha id _ hy)

end All

/-- A record as it is first stored: that of a changeset that was compiled. -/
def Record.IsCompiled (record : Record) : Prop :=
  ∃ (r : ChangeRequest) (status : Status) (report : Option Report) (createdBy : Option String)
    (stamp : Stamp), record = .ofChangeset r.compile status report createdBy stamp

open Classical in
/-- The same backend with a store that takes such records only. -/
noncomputable def Backend.admitting {σ : Type} (b : Backend σ) : Backend σ :=
  { b with insert := fun r => if r.IsCompiled then b.insert r else pure r }

section admitting

variable {σ : Type} {b : Backend σ} {e : Event σ}

theorem Backend.insert_admitting {record : Record} (h : record.IsCompiled) :
    b.admitting.insert record = b.insert record :=
  if_pos h

theorem Backend.insert_admitting_of_not {record : Record} (h : ¬ record.IsCompiled) :
    b.admitting.insert record = pure record :=
  if_neg h

theorem Backend.occurs_admitting (h : b.admitting.Occurs e) :
    e.after = e.before ∨ b.Occurs e ∧ ∀ r, e.call = .insert r → r.IsCompiled := by
  cases h with
  | @insert r x w w' he =>
    by_cases hr : r.IsCompiled
    · rw [Backend.insert_admitting hr] at he
      refine .inr ⟨.insert he, ?_⟩
      rintro _ ⟨⟩
      exact hr
    · rw [Backend.insert_admitting_of_not hr] at he
      exact .inl (ends_pure.mp he).2
  | get he => exact .inr ⟨.get he, by rintro _ ⟨⟩⟩
  | list he => exact .inr ⟨.list he, by rintro _ ⟨⟩⟩
  | updateStatus he => exact .inr ⟨.updateStatus he, by rintro _ ⟨⟩⟩
  | validate he => exact .inr ⟨.validate he, by rintro _ ⟨⟩⟩
  | apply he => exact .inr ⟨.apply he, by rintro _ ⟨⟩⟩
  | revert he => exact .inr ⟨.revert he, by rintro _ ⟨⟩⟩

theorem Backend.insert_watched_admitting {record : Record} (h : record.IsCompiled) :
    b.admitting.watched.insert record = b.watched.insert record :=
  congrArg (watch (.insert record) .record) (insert_admitting h)

/-- A manager has nothing else inserted. -/
theorem Operation.act_admitting (op : Operation) :
    op.act b.admitting.watched = op.act b.watched := by
  cases op with
  | createDraft r createdBy stamp =>
    have h : Manager.createDraft b.admitting.watched r createdBy stamp =
        Manager.createDraft b.watched r createdBy stamp := by
      unfold Manager.createDraft
      cases hc : r.compileChecked with
      | error => rfl
      | ok c =>
        obtain ⟨rfl, -⟩ := ChangeRequest.compileChecked_ok hc
        refine congrArg (Manager.inWorld (b.watched.validate r.compile.sql) >>= ·) ?_
        refine funext fun report => ?_
        exact congrArg Manager.inWorld (Backend.insert_watched_admitting ⟨r, _, _, _, _, rfl⟩)
    rw [act, act, h]
  | saveDraft r createdBy stamp =>
    have h : Manager.saveDraft b.admitting.watched r createdBy stamp =
        Manager.saveDraft b.watched r createdBy stamp := by
      unfold Manager.saveDraft
      cases hc : r.compileChecked with
      | error => rfl
      | ok c =>
        obtain ⟨rfl, -⟩ := ChangeRequest.compileChecked_ok hc
        exact congrArg Manager.inWorld (Backend.insert_watched_admitting ⟨r, _, _, _, _, rfl⟩)
    rw [act, act, h]
  | _ => rfl

end admitting

/-- Wherever operations lead, all that is stored is of the kind that compiled changesets are. -/
theorem Leads.all {σ ρ : Type} {b : Backend σ} {A : Archive σ ρ} {Good : ρ → Prop}
    {l m : Manager (Watched σ)} (h : Orderly b A)
    (hm : ∀ u now x, Good x → Good (A.moved u now x))
    (hi : ∀ r : Record, r.IsCompiled → Good (A.ofRecord r)) (hs : A.Sound l.world.world)
    (ha : A.All Good l.world.world) (hl : Leads A (Operation.act b.watched) l m) :
    A.Sound m.world.world ∧ A.All Good m.world.world := by
  have hk : b.admitting.watched.Keeps fun w => A.Sound w.world ∧ A.All Good w.world := by
    refine Backend.watched_keeps ?_
    rintro w e ⟨hs, ha⟩ ho hb
    rw [← hb] at hs ha
    rcases Backend.occurs_admitting ho with he | ⟨ho, hnew⟩
    · change A.Sound e.after ∧ A.All Good e.after
      exact he ▸ ⟨hs, ha⟩
    · exact ⟨h.sound.occurs ho hs, (h.does ho hs).all hm (fun r hr => hi r (hnew r hr)) ha⟩
  refine hl.keeps (P := fun w => A.Sound w.world ∧ A.All Good w.world) ?_ ?_ ⟨hs, ha⟩
  · intro op m hm
    rw [← op.act_admitting]
    exact op.act_keeps hk hm (ends_answer_after _ m)
  · rintro w v ⟨-, ha⟩ hv he
    exact ⟨hv, ha.of_entry he⟩

end Evolution
