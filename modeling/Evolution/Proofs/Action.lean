import Evolution.Lifecycle.Manager

/-! How an action ends, read off its parts. An action that fails still leaves a world behind. -/
namespace Evolution

theorem bind_eq_ok {ε α β : Type} {x : Except ε α} {f : α → Except ε β} {b : β} :
    x >>= f = .ok b ↔ ∃ a, x = .ok a ∧ f a = .ok b := by
  cases x with
  | error e => exact ⟨nofun, nofun⟩
  | ok a =>
    constructor
    · intro h
      exact ⟨a, rfl, h⟩
    · rintro ⟨_, ⟨⟩, h⟩
      exact h

/-- All errors are of one kind. -/
def ErrorsIn {ε α : Type} (P : ε → Prop) (x : Except ε α) : Prop :=
  ∀ e, x = .error e → P e

theorem ErrorsIn.ok {ε α : Type} {P : ε → Prop} {a : α} : ErrorsIn P (.ok a) := nofun

theorem ErrorsIn.error {ε α : Type} {P : ε → Prop} {e : ε} (h : P e) :
    ErrorsIn P (.error e : Except ε α) := by
  rintro _ ⟨⟩
  exact h

theorem ErrorsIn.bind {ε α β : Type} {P : ε → Prop} {x : Except ε α} {f : α → Except ε β}
    (hx : ErrorsIn P x) (hf : ∀ a, ErrorsIn P (f a)) : ErrorsIn P (x >>= f) := by
  cases x with
  | error e => exact .error (hx e rfl)
  | ok a => exact hf a

namespace Action

variable {σ τ ε α β : Type} {s t : σ} {r : Except ε α} {a : ExceptT ε (StateM σ) α}

/-- Started in `s`, the action has the result `r` and leaves `t`. -/
def Ends (a : ExceptT ε (StateM σ) α) (s : σ) (r : Except ε α) (t : σ) : Prop :=
  a.run.run s = (r, t)

/-- The world that an action leaves. -/
def after (a : ExceptT ε (StateM σ) α) (s : σ) : σ :=
  (a.run.run s).2

/-- What an action answers. -/
def answer (a : ExceptT ε (StateM σ) α) (s : σ) : Except ε α :=
  (a.run.run s).1

theorem ends_answer_after (a : ExceptT ε (StateM σ) α) (s : σ) :
    Ends a s (answer a s) (after a s) := rfl

theorem eq_of_ends {b : ExceptT ε (StateM σ) α} (h : ∀ s, Ends a s (answer b s) (after b s)) :
    a = b :=
  funext h

theorem Ends.after_eq (h : Ends a s r t) : after a s = t :=
  congrArg Prod.snd h

theorem Ends.answer_eq (h : Ends a s r t) : answer a s = r :=
  congrArg Prod.fst h

/-- An action ends in one way only. -/
theorem Ends.unique {r' : Except ε α} {t' : σ} (h : Ends a s r t) (h' : Ends a s r' t') :
    r = r' ∧ t = t' :=
  Prod.mk.inj (h.symm.trans h')

theorem run_bind (a : ExceptT ε (StateM σ) α) (f : α → ExceptT ε (StateM σ) β) (s : σ) :
    (a >>= f).run.run s = match a.run.run s with
      | (.ok x, u) => (f x).run.run u
      | (.error e, u) => (.error e, u) := by
  simp only [ExceptT.run, bind, ExceptT.bind, ExceptT.mk, StateT.run, StateT.bind]
  rcases a s with ⟨_ | _, _⟩ <;> rfl

/-- The second part runs only if the first did not fail. -/
theorem ends_bind {f : α → ExceptT ε (StateM σ) β} {r : Except ε β} :
    Ends (a >>= f) s r t ↔
      (∃ x u, Ends a s (.ok x) u ∧ Ends (f x) u r t) ∨
        ∃ e, Ends a s (.error e) t ∧ r = .error e := by
  unfold Ends
  rw [run_bind]
  rcases a.run.run s with ⟨e | x, u⟩
  · constructor
    · intro h
      cases h
      exact Or.inr ⟨e, rfl, rfl⟩
    · rintro (⟨_, _, h, _⟩ | ⟨_, h, rfl⟩)
      · cases h
      · cases h
        rfl
  · constructor
    · intro h
      exact Or.inl ⟨x, u, rfl, h⟩
    · rintro (⟨_, _, h, hf⟩ | ⟨_, h, _⟩)
      · cases h
        exact hf
      · cases h

/-- The second part goes on from where the first one succeeded. -/
theorem ends_bind_of {f : α → ExceptT ε (StateM σ) β} {r : Except ε β} {x : α} {u : σ}
    (h : Ends a s (.ok x) u) : Ends (a >>= f) s r t ↔ Ends (f x) u r t := by
  rw [ends_bind]
  constructor
  · rintro (⟨_, _, h', hf⟩ | ⟨_, h', -⟩)
    · obtain ⟨hx, rfl⟩ := h.unique h'
      cases hx
      exact hf
    · cases (h.unique h').1
  · intro hf
    exact .inl ⟨x, u, h, hf⟩

/-- Where two parts succeed together, each of them does. -/
theorem ends_bind_ok {f : α → ExceptT ε (StateM σ) β} {y : β} :
    Ends (a >>= f) s (.ok y) t ↔ ∃ x u, Ends a s (.ok x) u ∧ Ends (f x) u (.ok y) t := by
  rw [ends_bind]
  constructor
  · rintro (h | ⟨_, -, hy⟩)
    · exact h
    · cases hy
  · exact Or.inl

theorem ends_pure {x : α} :
    Ends (pure x : ExceptT ε (StateM σ) α) s r t ↔ r = .ok x ∧ t = s := by
  constructor
  · intro h
    cases h
    exact ⟨rfl, rfl⟩
  · rintro ⟨rfl, rfl⟩
    rfl

theorem ends_throw {e : ε} :
    Ends (throw e : ExceptT ε (StateM σ) α) s r t ↔ r = .error e ∧ t = s := by
  constructor
  · intro h
    cases h
    exact ⟨rfl, rfl⟩
  · rintro ⟨rfl, rfl⟩
    rfl

/-- A step that touches no world. -/
theorem ends_mk {x : Except ε α} :
    Ends (ExceptT.mk (pure x) : ExceptT ε (StateM σ) α) s r t ↔ r = x ∧ t = s := by
  constructor
  · intro h
    cases h
    exact ⟨rfl, rfl⟩
  · rintro ⟨rfl, rfl⟩
    rfl

theorem ends_getThe_bind {f : σ → ExceptT ε (StateM σ) α} :
    Ends (getThe σ >>= f) s r t ↔ Ends (f s) s r t :=
  Iff.rfl

theorem ends_set {u : σ} {r : Except ε PUnit} :
    Ends (set u : ExceptT ε (StateM σ) PUnit) s r t ↔ r = .ok ⟨⟩ ∧ t = u := by
  constructor
  · intro h
    cases h
    exact ⟨rfl, rfl⟩
  · rintro ⟨rfl, rfl⟩
    rfl

theorem ends_set_bind {u : σ} {f : PUnit → ExceptT ε (StateM σ) α} :
    Ends (set u >>= f) s r t ↔ Ends (f ⟨⟩) u r t :=
  Iff.rfl

theorem ends_modify {f : σ → σ} {r : Except ε PUnit} :
    Ends (modify f : ExceptT ε (StateM σ) PUnit) s r t ↔ r = .ok ⟨⟩ ∧ t = f s := by
  constructor
  · intro h
    cases h
    exact ⟨rfl, rfl⟩
  · rintro ⟨rfl, rfl⟩
    rfl

theorem ends_modify_bind {f : σ → σ} {g : PUnit → ExceptT ε (StateM σ) α} :
    Ends (modify f >>= g) s r t ↔ Ends (g ⟨⟩) (f s) r t :=
  Iff.rfl

/-- What is made of the answer. -/
theorem ends_bind_pure {f : α → β} {r : Except ε β} :
    Ends (a >>= fun x => pure (f x)) s r t ↔ ∃ y, Ends a s y t ∧ r = y.map f := by
  constructor
  · intro h
    obtain ⟨x, u, hx, hr⟩ | ⟨e, he, rfl⟩ := ends_bind.mp h
    · obtain ⟨rfl, rfl⟩ := ends_pure.mp hr
      exact ⟨_, hx, rfl⟩
    · exact ⟨_, he, rfl⟩
  · rintro ⟨e | x, h, rfl⟩
    · exact ends_bind.mpr (Or.inr ⟨e, h, rfl⟩)
    · exact ends_bind.mpr (Or.inl ⟨x, t, h, rfl⟩)

theorem ends_liftPart {get : σ → τ} {put : τ → σ → σ} {a : Action τ α} {r : Except Fault α} :
    Ends (liftPart get put a) s r t ↔ ∃ p, Ends a (get s) r p ∧ t = put p s := by
  constructor
  · intro h
    cases h
    exact ⟨_, rfl, rfl⟩
  · rintro ⟨p, h, rfl⟩
    exact congrArg (fun x => (x.1, put x.2 s)) h

/-- What is observed never fails. -/
theorem ends_observing_bind {a : Action σ α} {f : Except Fault α → Action σ β}
    {r : Except Fault β} :
    Ends (observing a >>= f) s r t ↔ ∃ x u, Ends a s x u ∧ Ends (f x) u r t := by
  have h : (observing a).run.run s = (Except.ok (answer a s), after a s) := by
    simp only [answer, after, observing, ExceptT.run, StateT.run, tryCatch, tryCatchThe,
      MonadExceptOf.tryCatch, ExceptT.tryCatch, ExceptT.mk, bind, ExceptT.bind, StateT.bind]
    rcases a s with ⟨_ | _, _⟩ <;> rfl
  unfold Ends
  rw [run_bind, h]
  constructor
  · intro hf
    exact ⟨_, _, rfl, hf⟩
  · rintro ⟨x, u, hx, hf⟩
    cases Ends.answer_eq hx
    cases Ends.after_eq hx
    exact hf

/-- Whatever the world, the action fails with errors of one kind only. -/
def FailsIn (P : ε → Prop) (a : ExceptT ε (StateM σ) α) : Prop :=
  ∀ s, ErrorsIn P (answer a s)

section FailsIn

variable {P : ε → Prop} {f : α → ExceptT ε (StateM σ) β}

theorem FailsIn.ends {e : ε} (h : FailsIn P a) (he : Ends a s (.error e) t) : P e :=
  h s e he.answer_eq

theorem FailsIn.bind (ha : FailsIn P a) (hf : ∀ x, FailsIn P (f x)) : FailsIn P (a >>= f) := by
  intro s e he
  obtain ⟨x, u, -, hr⟩ | ⟨e', hx, he'⟩ := ends_bind.mp (ends_answer_after (a >>= f) s)
  · exact hf x u e (hr.answer_eq.trans he)
  · cases he'.symm.trans he
    exact ha s e hx.answer_eq

theorem FailsIn.pure {x : α} : FailsIn P (pure x : ExceptT ε (StateM σ) α) :=
  fun _ => .ok

theorem FailsIn.throw {e : ε} (h : P e) : FailsIn P (throw e : ExceptT ε (StateM σ) α) :=
  fun _ => .error h

theorem FailsIn.mk {x : Except ε α} (h : ErrorsIn P x) :
    FailsIn P (ExceptT.mk (Pure.pure x) : ExceptT ε (StateM σ) α) :=
  fun _ => h

theorem FailsIn.getThe_bind {f : σ → ExceptT ε (StateM σ) α} (h : ∀ s, FailsIn P (f s)) :
    FailsIn P (getThe σ >>= f) :=
  fun s => h s s

theorem FailsIn.modify_bind {f : σ → σ} {g : PUnit → ExceptT ε (StateM σ) α}
    (h : FailsIn P (g ⟨⟩)) : FailsIn P (modify f >>= g) :=
  fun s => h (f s)

theorem FailsIn.set_bind {u : σ} {g : PUnit → ExceptT ε (StateM σ) α} (h : FailsIn P (g ⟨⟩)) :
    FailsIn P (set u >>= g) :=
  fun _ => h u

end FailsIn

theorem FailsIn.liftPart {P : Fault → Prop} {get : σ → τ} {put : τ → σ → σ} {a : Action τ α}
    (h : FailsIn P a) : FailsIn P (liftPart get put a) :=
  fun s => h (get s)

theorem FailsIn.observing_bind {P : Fault → Prop} {a : Action σ α}
    {f : Except Fault α → Action σ β} (h : ∀ x, ErrorsIn P x → FailsIn P (f x))
    (ha : FailsIn P a) : FailsIn P (observing a >>= f) := by
  intro s e he
  obtain ⟨x, u, hx, hr⟩ := ends_observing_bind.mp (ends_answer_after (observing a >>= f) s)
  exact h x (hx.answer_eq ▸ ha s) u e (hr.answer_eq.trans he)

end Action
end Evolution

namespace Evolution.Manager

open Evolution.Action

variable {σ α : Type} {m m' : Manager σ} {a : Action σ α}

theorem ends_inWorld {r : Except Fault α} :
    Ends (inWorld a) m r m' ↔ ∃ w, Ends a m.world r w ∧ m' = { m with world := w } :=
  ends_liftPart

theorem inWorld_bind {β : Type} (a : Action σ α) (f : α → Action σ β) :
    (inWorld (a >>= f) : Action (Manager σ) β) = inWorld a >>= fun x => inWorld (f x) := by
  refine eq_of_ends fun m => ends_inWorld.mpr ?_
  obtain ⟨x, u, hx, hf⟩ | ⟨e, hx, he⟩ := ends_bind.mp (ends_answer_after (inWorld a >>= _) m)
  · obtain ⟨w, hw, rfl⟩ := ends_inWorld.mp hx
    obtain ⟨v, hv, hm⟩ := ends_inWorld.mp hf
    exact ⟨v, ends_bind.mpr (Or.inl ⟨x, w, hw, hv⟩), hm⟩
  · obtain ⟨w, hw, hm⟩ := ends_inWorld.mp hx
    exact ⟨w, ends_bind.mpr (Or.inr ⟨e, hw, he⟩), hm⟩

/-- The result is only looked at, so what comes next runs in any case. -/
theorem ends_tryWorld_bind {β : Type} {f : Except Fault α → Action (Manager σ) β}
    {r : Except Fault β} :
    Ends (tryWorld a >>= f) m r m' ↔
      ∃ x w, Ends a m.world x w ∧ Ends (f x) { m with world := w } r m' := by
  constructor
  · intro h
    exact ⟨_, _, rfl, h⟩
  · rintro ⟨x, w, h, hf⟩
    cases h.answer_eq
    cases h.after_eq
    exact hf

end Evolution.Manager
