import Evolution.Database.Batch
import Evolution.Proofs.Database.Session

/-! Which statements of a list are sent, and by which numbers. A dry run and a run for good each
have a loop of their own; but for the warnings the one is the other. What statements do is up to the
server, but that they neither end the transaction nor touch the table of changesets can be asked of
them. -/
namespace Evolution.Database

open Evolution.Action
open Text (trim startsWith)

/-- Blank statements and comments are not sent. -/
def isSent (statement : String) : Bool :=
  !statement.isEmpty && !startsWith statement "--"

/-- The trimmed statements that are sent. -/
def sendable (statements : List String) : List String :=
  (statements.map trim).filter isSent

/-- The same with their numbers in the whole list, the first of which is `n`. -/
def numberedFrom (n : Nat) (statements : List String) : List (String × Nat) :=
  ((statements.map trim).zipIdx n).filter fun (s, _) => isSent s

/-- What is said of the statement with a number. -/
def requiredWarning (n : Nat) : String :=
  s!"Statement {n} adds a NOT NULL column without a default; " ++
    "it will fail on non-empty tables"

/-- The numbers of the statements of which a dry run warns. -/
def requiredFrom (n : Nat) (statements : List String) : List Nat :=
  ((numberedFrom n statements).filter fun (s, _) => addsRequiredColumn s).map Prod.snd

variable {φ δ : Type} {server : Server φ δ} {db db₁ db' : Database φ δ} {n : Nat} {s : String}
  {statements rest warnings : List String}

theorem isSent_eq (s : String) : isSent s = !(s.isEmpty || startsWith s "--") := by
  rw [isSent, Bool.not_or]

theorem isSent_trim_iff :
    isSent (trim s) = true ↔ ¬ ((trim s).isEmpty || startsWith (trim s) "--") = true := by
  rw [isSent_eq, Bool.not_eq_true', Bool.not_eq_true]

theorem sendable_cons : sendable (s :: rest) =
    if isSent (trim s) then trim s :: sendable rest else sendable rest := by
  rw [sendable, List.map_cons, List.filter_cons]
  rfl

theorem requiredFrom_cons : requiredFrom n (s :: rest) =
    if isSent (trim s) && addsRequiredColumn (trim s) then n :: requiredFrom (n + 1) rest
    else requiredFrom (n + 1) rest := by
  rw [requiredFrom, numberedFrom, List.map_cons, List.zipIdx_cons]
  cases hs : isSent (trim s) <;> cases ha : addsRequiredColumn (trim s) <;>
    simp [hs, ha, requiredFrom, numberedFrom]

/-- The loop of a dry run does what the other does, and warns besides. -/
theorem tryStatements_eq (server : Server φ δ) (n : Nat) (warnings statements : List String) :
    tryStatements server n warnings statements =
      runStatements server n statements >>= fun r =>
        pure (r.map fun _ => warnings ++ (requiredFrom n statements).map requiredWarning) := by
  induction statements generalizing n warnings with
  | nil =>
    rw [tryStatements, runStatements, pure_bind]
    exact congrArg (fun ws => pure (Except.ok ws)) (List.append_nil _).symm
  | cons s rest ih =>
    rw [tryStatements, runStatements, requiredFrom_cons]
    dsimp only
    split
    · rename_i hs
      rw [ih, isSent_eq, hs]
      rfl
    · rename_i hs
      rw [isSent_trim_iff.mpr hs, Bool.true_and, bind_assoc]
      refine bind_congr fun x => ?_
      cases x with
      | error => rw [pure_bind]; rfl
      | ok =>
        dsimp only
        split
        · rw [ih, List.map_cons, List.append_assoc]
          rfl
        · rw [ih]

/-- The ways in which statements are run. -/
inductive Runs (server : Server φ δ) :
    Nat → List String → Database φ δ → Except String Unit → Database φ δ → Prop where
  | done {n : Nat} {db : Database φ δ} : Runs server n [] db (.ok ()) db
  | passed {n : Nat} {s : String} {rest : List String} {x : Except String Unit}
      {db db' : Database φ δ} (hs : isSent (trim s) = false)
      (h : Runs server (n + 1) rest db x db') : Runs server n (s :: rest) db x db'
  | failed {n : Nat} {s : String} {rest : List String} {e : DatabaseError} {db db' : Database φ δ}
      (hs : isSent (trim s) = true) (hb : Ends (batch server (trim s)) db (.error e) db') :
      Runs server n (s :: rest) db (.error s!"Statement {n} failed: {e.reason}") db'
  | sent {n : Nat} {s : String} {rest : List String} {x : Except String Unit}
      {db db₁ db' : Database φ δ} (hs : isSent (trim s) = true)
      (hb : Ends (batch server (trim s)) db (.ok ()) db₁)
      (h : Runs server (n + 1) rest db₁ x db') : Runs server n (s :: rest) db x db'

theorem runs_of_ends {x : Except Fault (Except String Unit)}
    (he : Ends (runStatements server n statements) db x db') :
    ∃ y, Runs server n statements db y db' ∧ x = .ok y := by
  induction statements generalizing n db with
  | nil =>
    obtain ⟨rfl, rfl⟩ := ends_pure.mp he
    exact ⟨_, .done, rfl⟩
  | cons s rest ih =>
    rw [runStatements] at he
    split at he
    · rename_i hs
      obtain ⟨y, hy, rfl⟩ := ih he
      exact ⟨y, .passed (by rw [isSent_eq, hs, Bool.not_true]) hy, rfl⟩
    · rename_i hs
      obtain ⟨y, db₁, hb, hn⟩ := ends_attempt_bind.mp he
      cases y with
      | error e =>
        obtain ⟨rfl, rfl⟩ := ends_pure.mp hn
        exact ⟨_, .failed (isSent_trim_iff.mpr hs) hb, rfl⟩
      | ok =>
        obtain ⟨y, hy, rfl⟩ := ih hn
        exact ⟨y, .sent (isSent_trim_iff.mpr hs) hb hy, rfl⟩

/-- A dry run runs its statements too. -/
theorem runs_of_ends_try {x : Except Fault (Except String (List String))}
    (he : Ends (tryStatements server n warnings statements) db x db') :
    ∃ y, Runs server n statements db y db' ∧
      x = .ok (y.map fun _ => warnings ++ (requiredFrom n statements).map requiredWarning) := by
  rw [tryStatements_eq] at he
  obtain ⟨r, hr, rfl⟩ := ends_bind_pure.mp he
  obtain ⟨y, hy, rfl⟩ := runs_of_ends hr
  exact ⟨y, hy, rfl⟩

theorem quiet_batch {x : Except DatabaseError Unit} (he : Ends (batch server s) db x db') :
    Quiet server db db' := by
  unfold Database.batch at he
  split at he
  · exact (send_cases he).quiet nofun
  · obtain ⟨-, rfl⟩ := ends_throw.mp he
    exact .refl

theorem Runs.quiet {x : Except String Unit} (h : Runs server n statements db x db') :
    Quiet server db db' := by
  induction h with
  | done => exact .refl
  | passed _ _ ih => exact ih
  | failed _ hb => exact quiet_batch hb
  | sent _ hb _ ih => exact (quiet_batch hb).trans ih

section effects

/-- The statement neither ends the open transaction nor begins another. -/
def Server.KeepsOpen (server : Server φ δ) (text : String) : Prop :=
  ∀ befallen tables, (server.effect text befallen tables).saved = tables.saved

/-- The statement leaves the table of changesets alone, as the transaction sees it. -/
def Server.KeepsRows (server : Server φ δ) (text : String) : Prop :=
  ∀ befallen tables, (server.effect text befallen tables).rows = tables.rows

/-- Whatever else the statement does, transaction and table are none of its business. -/
structure Server.Spares (server : Server φ δ) (text : String) : Prop where
  keepsOpen : server.KeepsOpen text
  keepsRows : server.KeepsRows text

variable {saved : Option (Stored δ)} {stored : Stored δ}

/-- A statement that spares the transaction changes what is stored within it. -/
theorem Within.batch {x : Except DatabaseError Unit} (hk : server.KeepsOpen s)
    (h : Within saved stored db) (he : Ends (batch server s) db x db') :
    ∃ stored', Within saved stored' db' ∧ (server.KeepsRows s → stored'.rows = stored.rows) ∧
      (x = .ok () → Holds saved stored' db') := by
  unfold Database.batch at he
  split at he
  · have hs := send_cases he
    cases h with
    | undone hn h =>
      refine ⟨stored, ?_, fun _ => rfl, ?_⟩
      · cases hs with
        | unconnected => exact .undone hn h
        | served ho => simp [hn] at ho
        | refused ho => simp [hn] at ho
        | lost ho => simp [hn] at ho
      · rintro rfl
        cases hs with
        | served ho => simp [hn] at ho
    | holds h =>
      have hsent : Holds saved (db.noted server (.batch s)).toStored (db.noted server (.batch s)) :=
        ⟨(hk _ _).trans h.saved, rfl⟩
      have hrows : server.KeepsRows s → (db.noted server (.batch s)).rows = stored.rows :=
        fun hr => (hr _ _).trans h.rows
      cases hs with
      | unconnected => exact ⟨stored, h.within, fun _ => rfl, nofun⟩
      | served => exact ⟨_, hsent.within, hrows, fun _ => hsent⟩
      | refused => exact ⟨_, hsent.within, hrows, nofun⟩
      | lost => exact ⟨_, .undone rfl (hsent.restored.congr rfl), hrows, nofun⟩
  · obtain ⟨rfl, rfl⟩ := ends_throw.mp he
    exact ⟨stored, h, fun _ => rfl, nofun⟩

/-- So do all statements of a list, though the connection can be lost while they run. -/
theorem Runs.within {x : Except String Unit} (h : Runs server n statements db x db')
    (hk : ∀ s ∈ sendable statements, server.KeepsOpen s) (hw : Within saved stored db) :
    ∃ stored', Within saved stored' db' ∧
      ((∀ s ∈ sendable statements, server.KeepsRows s) → stored'.rows = stored.rows) ∧
      (x = .ok () → Holds saved stored db → Holds saved stored' db') := by
  induction h generalizing stored with
  | done => exact ⟨stored, hw, fun _ => rfl, fun _ h => h⟩
  | passed hs _ ih =>
    rw [sendable_cons, if_neg (by simp [hs])] at hk ⊢
    exact ih hk hw
  | failed hs hb =>
    rw [sendable_cons, if_pos hs] at hk ⊢
    obtain ⟨stored', hw', hr, -⟩ := hw.batch (hk _ List.mem_cons_self) hb
    exact ⟨stored', hw', fun hk => hr (hk _ List.mem_cons_self), nofun⟩
  | sent hs hb _ ih =>
    rw [sendable_cons, if_pos hs] at hk ⊢
    obtain ⟨stored₁, hw₁, hr₁, hx₁⟩ := hw.batch (hk _ List.mem_cons_self) hb
    obtain ⟨stored', hw', hr, hx⟩ := ih (List.forall_mem_cons.mp hk).2 hw₁
    refine ⟨stored', hw', fun hk => ?_, fun ho _ => hx ho (hx₁ rfl)⟩
    exact (hr (List.forall_mem_cons.mp hk).2).trans (hr₁ (hk _ List.mem_cons_self))

end effects

end Evolution.Database
