import Evolution.Database.Session
import Evolution.Proofs.Database.Hosting
import Evolution.Proofs.Lifecycle.History

/-! Changesets last, in memory and in a table: what was inserted stays, and only the four parts of
it that tell where it stands are ever written again. -/
namespace Evolution

open Evolution.Action Database
open Time (Instant)

namespace Record

variable {r r' : Record}

/-- A record without what tells where it stands. -/
def content (r : Record) : Record :=
  { r with report := none, status := .draft, errorText := none, updatedAt := ⟨0, 0⟩ }

/-- The checksum is that of the statements. -/
def IsSealed (r : Record) : Prop :=
  r.checksum = Digest.sha256 (Changeset.checksumBytes r.sql r.rollbackSql)

theorem content_moved (u : StatusUpdate) (now : Instant) (r : Record) :
    (r.moved u now).content = r.content := rfl

theorem IsNew.isSealed (h : r.IsNew) : r.IsSealed := by
  cases h <;> rfl

theorem IsSealed.of_content (h : r'.IsSealed) (hc : r.content = r'.content) : r.IsSealed := by
  have hk : r.content.checksum = r'.content.checksum := congrArg _ hc
  have hs : r.content.sql = r'.content.sql := congrArg _ hc
  have hr : r.content.rollbackSql = r'.content.rollbackSql := congrArg _ hc
  simp only [content] at hk hs hr
  rw [IsSealed, hk, hs, hr]
  exact h

end Record

namespace Database

/-- A column that is written once, when the row is inserted. -/
def ChangesetColumn.isFixed : ChangesetColumn → Bool
  | .report | .status | .errorText | .updatedAt => false
  | _ => true

namespace Row

variable {row : Row} {r : Record}

/-- The cells of a row that are written once. -/
def content (row : Row) : { c : ChangesetColumn // c.isFixed = true } → Cell :=
  fun c => row.cell c

/-- The checksum is that of the statements. -/
def IsSealed (row : Row) : Prop :=
  ∃ sql rollbackSql, row.cell .sql = .json (.strings sql) ∧
    row.cell .rollbackSql = .json (.strings rollbackSql) ∧
    row.cell .checksum = .text (Digest.sha256 (Changeset.checksumBytes sql rollbackSql))

theorem content_moved (u : StatusUpdate) (now : Instant) (row : Row) :
    (row.moved u now).content = row.content := by
  funext ⟨c, hc⟩
  refine moved_cell ?_ ?_ ?_ ?_ <;> rintro rfl <;> cases hc

/-- What is read of a cell that is written once is what was written. -/
theorem read_of_content {α : Type} (read? : Cell → Option α) {column : ChangesetColumn} {a a' : α}
    (hc : row.content = (ofRecord r).content) (hf : column.isFixed = true)
    (hread : read? (row.cell column) = some a')
    (hwritten : read? ((ofRecord r).cell column) = some a) : a' = a := by
  have hcell : row.cell column = (ofRecord r).cell column := congrFun hc ⟨column, hf⟩
  rw [hcell, hwritten] at hread
  exact (Option.some.inj hread).symm

theorem isSealed_of_content (h : r.IsSealed) (hc : row.content = (ofRecord r).content) :
    row.IsSealed := by
  have hs : row.cell .sql = .json (.strings r.sql) := congrFun hc ⟨.sql, rfl⟩
  have hr : row.cell .rollbackSql = .json (.strings r.rollbackSql) :=
    congrFun hc ⟨.rollbackSql, rfl⟩
  have hk : row.cell .checksum = .text r.checksum := congrFun hc ⟨.checksum, rfl⟩
  exact ⟨r.sql, r.rollbackSql, hs, hr, h ▸ hk⟩

end Row
end Database

theorem Backend.InMemory.orderly {σ : Type} {b : Backend σ} {view : σ → MemoryStore}
    (h : b.InMemory view) : Orderly b (.inMemory view fun _ => True) := by
  have hk : b.Keeps fun _ => True := by constructor <;> intros <;> trivial
  refine (h.storing hk).orderly ?_ ?_
  · intro id now x w w' _ he
    rcases h.apply he with hv | ⟨u, r, hu⟩
    · exact Or.inl (congrArg MemoryStore.find? hv)
    · exact Or.inr ⟨u, now, Archive.inMemory_moved hu⟩
  · intro id now x w w' _ he
    rcases h.revert he with hv | ⟨u, r, hu⟩
    · exact Or.inl (congrArg MemoryStore.find? hv)
    · exact Or.inr ⟨u, now, Archive.inMemory_moved hu⟩

namespace Database

theorem hosted_orderly {φ δ : Type} {server : Server φ δ} (ht : server.Tame) :
    Orderly (hosted server) (.inTable φ δ) :=
  (hosted_storing ht).orderly (fun hs he => ((executes_apply ht hs he).ran rfl).moves)
    (fun hs he => ((executes_revert ht hs he).ran rfl).moves)

/-- Whatever is asked of a manager or of its store, and whatever fails, a changeset stays, its
statuses are a path, and one that a manager made has the checksum of its statements all the time. In
a table this is so as long as the statements of changesets themselves leave the table alone. -/
theorem changesets_last :
    (∀ {σ : Type} {b : Backend σ} {view : σ → MemoryStore} {w : σ} {m : Manager (Watched σ)},
      b.InMemory view →
      Leads (.inMemory view fun _ => True) (Request.act b.watched) (.started w) m → ∀ id,
      (Archive.inMemory view fun _ => True).Lasts Record.content m.world.worlds id ∧
        (Drafted b (.inMemory view fun _ => True) (.started w) m id →
          ∀ v ∈ m.world.worlds, ∀ r, (view v).find? id = some r → r.IsSealed)) ∧
    (∀ {φ δ : Type} {server : Server φ δ} {db : Database φ δ}
      {m : Manager (Watched (Database φ δ))}, db.saved = none →
      server.SparesAll m.world.past →
      Leads (.inTable φ δ) (Request.act (hosted server).watched) (.started db) m → ∀ id,
      (Archive.inTable φ δ).Lasts Row.content m.world.worlds id ∧
        (Drafted (hosted server) (.inTable φ δ) (.started db) m id →
          ∀ v ∈ m.world.worlds, ∀ row, rowOf v.rows id = some row → row.IsSealed)) := by
  constructor
  · intro σ b view w m hb hl id
    have h := hb.orderly
    have hlast := Archive.lasts Record.content_moved (hl.unbroken h trivial).2 id
    refine ⟨hlast, ?_⟩
    intro hd v hv r hr
    have hn := hd.isNew h Record.content_moved trivial
    obtain ⟨r', hr', hc⟩ := hlast.isNew hn hv hr
    exact hr'.isSealed.of_content hc
  · intro φ δ server db m hs hspares hl id
    have h := hosted_orderly server.tame_tamed
    have hlast := Archive.lasts Row.content_moved ((hspares.requests hl).unbroken h hs).2 id
    refine ⟨hlast, ?_⟩
    intro hd v hv row hrow
    have hn := (hspares.drafted hd).isNew (l := .started db) h Row.content_moved hs
    obtain ⟨r, hr, hc⟩ := hlast.isNew hn hv hrow
    exact Row.isSealed_of_content hr.isSealed hc

/-- A table with one column. -/
def oneColumn : ChangeRequest where
  desiredState := { tables := [{ name := "t", columns := [{ name := "a" }] }] }

/-- A draft beside whatever is stored. -/
def drafted {σ : Type} (b : Backend σ) (w : σ) : Manager (Watched σ) :=
  after (Operation.act b.watched (.saveDraft oneColumn none ⟨⟨1⟩, ⟨0, 0⟩⟩)) (.started w)

/-- After the draft, another changeset is moved twice. -/
def movedTwice {σ : Type} (b : Backend σ) (w : σ) : Manager (Watched σ) :=
  let act := Request.act b.watched
  after (act (.updateStatus .nil { status := .applied } ⟨2, 0⟩)) <|
    after (act (.updateStatus .nil { status := .applied } ⟨1, 0⟩)) (drafted b w)

theorem leads_drafted {σ ρ : Type} {A : Archive σ ρ} (b : Backend σ) (w : σ) :
    Leads A (Request.act b.watched) (.started w) (drafted b w) :=
  .step (Request.operation (.saveDraft oneColumn none ⟨⟨1⟩, ⟨0, 0⟩⟩)) .refl

theorem leads_movedTwice {σ ρ : Type} {A : Archive σ ρ} {b : Backend σ} {w : σ}
    {l : Manager (Watched σ)} (hl : Leads A (Request.act b.watched) l (drafted b w)) :
    Leads A (Request.act b.watched) l (movedTwice b w) :=
  .step _ (.step _ hl)

theorem drafted_movedTwice {σ ρ : Type} {A : Archive σ ρ} {b : Backend σ} {w : σ}
    (hn : A.entry w ⟨1⟩ = none) (hs : A.entry (drafted b w).world.world ⟨1⟩ ≠ none) :
    Drafted b A (.started w) (movedTwice b w) ⟨1⟩ :=
  ⟨_, _, rfl, .refl, hn, hs, leads_movedTwice .refl⟩

/-- A server that refuses the first move. -/
def refusingMove : Database (List ScriptedFailure) (List String) where
  others := []
  rows := [validatedRow]
  failures := [⟨(· == .query .updateStatus), .refusal "out of space" "53100", 1⟩]

theorem changesets_last_moved :
    (∃ r, (movedTwice Backend.detached .oneValidated).world.world.find? ⟨1⟩ = some r ∧
        r.IsSealed) ∧
      (∃ row, rowOf (movedTwice (hosted scripted) refusingMove).world.world.rows ⟨1⟩ =
        some row ∧ row.IsSealed) ∧
      (Archive.inTable _ _).trail
          (movedTwice (hosted scripted) refusingMove).world.worlds .nil =
        [.validated, .applied] ∧
      Status.IsPath [.validated, .applied] := by
  have h := changesets_last
  have memory := h.1 Backend.detached_inMemory (leads_movedTwice (leads_drafted _ .oneValidated))
  have table := h.2 rfl (tame_scripted.sparesAll _)
    (leads_movedTwice (leads_drafted (hosted scripted) refusingMove))
  have hm : Drafted Backend.detached (.inMemory (fun s => s) fun _ => True)
      (.started .oneValidated) (movedTwice Backend.detached .oneValidated) ⟨1⟩ :=
    drafted_movedTwice rfl (Option.ne_none_iff_isSome.mpr (by decide +kernel))
  have ht : Drafted (hosted scripted) (.inTable _ _) (.started refusingMove)
      (movedTwice (hosted scripted) refusingMove) ⟨1⟩ :=
    drafted_movedTwice rfl (Option.ne_none_iff_isSome.mpr (by decide +kernel))
  have hp : (Archive.inTable _ _).trail
      (movedTwice (hosted scripted) refusingMove).world.worlds .nil =
        [.validated, .applied] := by decide +kernel
  refine ⟨?_, ?_, hp, hp ▸ (table .nil).1.path⟩
  · obtain ⟨r, _, hr, _⟩ :=
      hm.isNew Backend.detached_inMemory.orderly Record.content_moved trivial
    exact ⟨r, hr, (memory ⟨1⟩).2 hm _ (by simp [Watched.worlds]) r hr⟩
  · obtain ⟨row, _, hr, _⟩ :=
      ht.isNew (l := .started refusingMove) (hosted_orderly tame_scripted) Row.content_moved rfl
    rw [inTable_entry] at hr
    exact ⟨row, hr, (table ⟨1⟩).2 ht _ (by simp [Watched.worlds]) row hr⟩

end Database
end Evolution
