import Evolution.Proofs.Lifecycle.Page
import Evolution.Proofs.Lifecycle.Scripted

/-! The statements of a changeset are run once each way at most, and its status tells which runs
there were, however many status writes are lost. -/
namespace Evolution

open Evolution.Action Manager

/-- The status of a changeset, a pending one before the stored one. -/
def Page.effective {σ ρ : Type} (A : Archive σ ρ) (p : Page ρ) : Option Status :=
  p.pending <|> p.entry.bind A.status

/-- The runs that there were are those that the status tells of. A pending status is one step ahead
of the stored one, unless the executor has stored it already. -/
inductive Page.Agrees {σ ρ : Type} (A : Archive σ ρ) : Page ρ → Prop where
  | unknown : Agrees A ⟨none, none, []⟩
  | unrun {x s} (hs : A.status x = some s) (hu : s = .draft ∨ s = .validated ∨ s = .failed) :
      Agrees A ⟨some x, none, []⟩
  | applied {x} (hs : A.status x = some .applied) : Agrees A ⟨some x, none, [.applied]⟩
  | reverted {x} (hs : A.status x = some .reverted) :
      Agrees A ⟨some x, none, [.applied, .reverted]⟩
  | applying {x s} (hs : A.status x = some s) (hv : s = .validated ∨ s = .applied) :
      Agrees A ⟨some x, some .applied, [.applied]⟩
  | reverting {x s} (hs : A.status x = some s) (hv : s = .applied ∨ s = .reverted) :
      Agrees A ⟨some x, some .reverted, [.applied, .reverted]⟩

variable {σ ρ : Type} {A : Archive σ ρ} {p p' : Page ρ} {x : ρ} {runs : List Status}

theorem Page.Agrees.runs_of_validated (h : Page.Agrees A ⟨some x, none, runs⟩)
    (hs : A.status x = some .validated) : runs = [] := by
  cases h with
  | unrun => rfl
  | applied hs' => cases hs.symm.trans hs'
  | reverted hs' => cases hs.symm.trans hs'

theorem Page.Agrees.runs_of_applied (h : Page.Agrees A ⟨some x, none, runs⟩)
    (hs : A.status x = some .applied) : runs = [.applied] := by
  cases h with
  | unrun hs' hu =>
    obtain rfl := Option.some.inj (hs.symm.trans hs')
    simp at hu
  | applied => rfl
  | reverted hs' => cases hs.symm.trans hs'

theorem statusOf_report (report : Report) :
    (updateOfReport report).status = .draft ∨ (updateOfReport report).status = .validated ∨
      (updateOfReport report).status = .failed := by
  cases h : report.ok <;> simp [updateOfReport, h]

theorem Turn.agrees (ht : Turn A p p') (hp : p.Agrees A) : p'.Agrees A := by
  cases ht with
  | insert new =>
    cases hp with
    | unknown => exact .unrun (A.status_ofRecord _) new.status
  | check hs =>
    cases hp with
    | unrun => exact .unrun (A.status_moved _ _ _) (statusOf_report _)
    | applied hs' => cases hs.symm.trans hs'
    | reverted hs' => cases hs.symm.trans hs'
  | abandon hs =>
    cases hp with
    | unrun => exact .unrun (A.status_moved _ _ _) (Or.inr (Or.inr rfl))
    | applied hs' => cases hs.symm.trans hs'
    | reverted hs' => cases hs.symm.trans hs'
  | settle =>
    cases hp with
    | applying => exact .applied (A.status_moved _ _ _)
    | reverting => exact .reverted (A.status_moved _ _ _)
  | confirm ht =>
    cases hp with
    | applying => exact .applied ht
    | reverting => exact .reverted ht
  | run hs hm hr =>
    obtain rfl | rfl := hr
    · obtain rfl := hp.runs_of_validated (Status.eq_validated_of_canMoveTo hm ▸ hs)
      exact .applied (A.status_moved _ _ _)
    · obtain rfl := hp.runs_of_applied (Status.eq_applied_of_canMoveTo hm ▸ hs)
      exact .reverted (A.status_moved _ _ _)
  | lose hs hm hr =>
    obtain rfl | rfl := hr
    · obtain rfl := Status.eq_validated_of_canMoveTo hm
      obtain rfl := hp.runs_of_validated hs
      exact .applying hs (Or.inl rfl)
    · obtain rfl := Status.eq_applied_of_canMoveTo hm
      obtain rfl := hp.runs_of_applied hs
      exact .reverting hs (Or.inl rfl)
  | overlook hs hm hr =>
    obtain rfl | rfl := hr
    · obtain rfl := hp.runs_of_validated (Status.eq_validated_of_canMoveTo hm ▸ hs)
      exact .applying (A.status_moved _ _ _) (Or.inr rfl)
    · obtain rfl := hp.runs_of_applied (Status.eq_applied_of_canMoveTo hm ▸ hs)
      exact .reverting (A.status_moved _ _ _) (Or.inr rfl)

theorem agrees_of_turns (h : Relation.ReflTransGen (Turn A) p p') (hp : p.Agrees A) :
    p'.Agrees A := by
  induction h with
  | refl => exact hp
  | tail _ ht ih => exact ht.agrees ih

theorem Archive.Unexecuted.agrees {w : σ} (hw : A.Unexecuted w) (id : Uuid) :
    (page A (.started w) id).Agrees A := by
  change Page.Agrees A ⟨A.entry w id, none, []⟩
  cases he : A.entry w id with
  | none => exact .unknown
  | some x =>
    obtain ⟨s, hs, hu⟩ := hw id x he
    exact .unrun hs hu

theorem Leads.agrees {b : Backend σ} {w : σ} {m : Manager (Watched σ)} (h : Honest b A)
    (hs : A.Sound w) (hw : A.Unexecuted w)
    (hl : Leads A (Operation.act b.watched) (.started w) m) (id : Uuid) :
    (page A m id).Agrees A :=
  agrees_of_turns (hl.advances h hs id) (hw.agrees id)

/-- The counts of the runs, and what they tell of the status. -/
theorem Page.Agrees.counts (h : p.Agrees A) :
    p.runs.count .applied ≤ 1 ∧ p.runs.count .reverted ≤ 1 ∧
      (p.effective A = some .applied ↔
        p.runs.count .applied = 1 ∧ p.runs.count .reverted = 0) ∧
      (p.effective A = some .reverted ↔
        p.runs.count .applied = 1 ∧ p.runs.count .reverted = 1) ∧
      (p.effective A = none ∨ p.effective A = some .draft ∨ p.effective A = some .validated ∨
          p.effective A = some .failed ↔
        p.runs.count .applied = 0 ∧ p.runs.count .reverted = 0) := by
  cases h with
  | unknown => simp [effective]
  | unrun hs hu => rcases hu with rfl | rfl | rfl <;> simp [effective, hs]
  | applied hs => simp [effective, hs]
  | reverted hs => simp [effective, hs]
  | applying => simp [effective]
  | reverting => simp [effective]

namespace Manager

/-- The status of a changeset that a manager goes by. -/
def effectiveStatus? (A : Archive σ ρ) (m : Manager (Watched σ)) (id : Uuid) : Option Status :=
  m.pendingStatus? id <|> A.statusOf m.world.world id

/-- Of each changeset, the forward statements and the rollback are run at most once each, and its
status tells which of them were. -/
theorem runs_agree_with_status {b : Backend σ} {w : σ} {m : Manager (Watched σ)}
    (h : Honest b A) (hs : A.Sound w) (hw : A.Unexecuted w)
    (hl : Leads A (Operation.act b.watched) (.started w) m) (id : Uuid) :
    (m.world.runs id).count .applied ≤ 1 ∧ (m.world.runs id).count .reverted ≤ 1 ∧
      (m.effectiveStatus? A id = some .applied ↔
        (m.world.runs id).count .applied = 1 ∧ (m.world.runs id).count .reverted = 0) ∧
      (m.effectiveStatus? A id = some .reverted ↔
        (m.world.runs id).count .applied = 1 ∧ (m.world.runs id).count .reverted = 1) ∧
      (m.effectiveStatus? A id = none ∨ m.effectiveStatus? A id = some .draft ∨
          m.effectiveStatus? A id = some .validated ∨ m.effectiveStatus? A id = some .failed ↔
        (m.world.runs id).count .applied = 0 ∧ (m.world.runs id).count .reverted = 0) :=
  (hl.agrees h hs hw id).counts

/-- A changeset is applied twice and then reverted. -/
def appliedTwice {σ : Type} (b : Backend σ) (w : σ) : Manager (Watched σ) :=
  let act := Operation.act b.watched
  after (act (.revert .nil ⟨3, 0⟩)) <|
    after (act (.apply .nil ⟨2, 0⟩)) <| after (act (.apply .nil ⟨1, 0⟩)) (.started w)

theorem leads_appliedTwice (b : Backend σ) (w : σ) :
    Leads A (Operation.act b.watched) (.started w) (appliedTwice b w) :=
  .step _ (.step _ (.step _ .refl))

/-- A validated changeset, and a store that fails to write the first status. The second request to
apply then only stores what the first has lost. -/
def lossy : Script where
  store := .oneValidated
  failingWrites := 1

def lossyRun : Manager (Watched Script) :=
  appliedTwice Backend.scripted lossy

theorem runs_agree_with_status_lossy :
    lossy.Truthful ∧ (Archive.inMemory Script.store Script.Truthful).Unexecuted lossy ∧
      Leads (.inMemory Script.store Script.Truthful) (Operation.act Backend.scripted.watched)
        (.started lossy) lossyRun ∧
      (lossyRun.world.runs .nil).count .applied = 1 ∧
      (lossyRun.world.runs .nil).count .reverted = 1 := by
  have hs : lossy.Truthful := ⟨nofun, nofun⟩
  have hw : (Archive.inMemory Script.store Script.Truthful).Unexecuted lossy :=
    Archive.unexecuted_oneValidated rfl
  have hl : Leads (.inMemory Script.store Script.Truthful)
      (Operation.act Backend.scripted.watched) (.started lossy) lossyRun :=
    leads_appliedTwice Backend.scripted lossy
  have h := runs_agree_with_status Backend.scripted_honest hs hw hl .nil
  exact ⟨hs, hw, hl, h.2.2.2.1.mp rfl⟩

end Manager
end Evolution
