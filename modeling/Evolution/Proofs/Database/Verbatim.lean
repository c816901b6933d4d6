import Evolution.Proofs.Changeset.Statement
import Evolution.Proofs.Database.Transcript
import Evolution.Proofs.Database.Verdict
import Evolution.Proofs.Lifecycle.Drafting

/-! Statements reach the server as they were compiled, byte for byte and in their order, and so does
the rollback, of which only what is left to be done by hand is kept back. -/
namespace Evolution

open Evolution.Action Database
open Text (startsWith)
open Time (Instant)

section Event

variable {σ : Type} {b : Backend σ} {e : Event σ} {id : Uuid}

/-- Behind what counts as a success there is a run that succeeded. -/
theorem Backend.Occurs.applied (ho : b.Occurs e) (h : e.success? id = some .applied) :
    ∃ now o, o.ok = true ∧ Ends (b.apply id now) e.before (.ok o) e.after := by
  cases ho with
  | @apply i now x w w' he =>
    obtain ⟨hs, rfl⟩ : (Reply.outcome x).isSuccess = true ∧ i = id := by
      simpa [Event.success?, Call.target?] using h
    cases x with
    | error => cases hs
    | ok o => exact ⟨now, o, hs, he⟩
  | _ => simp [Event.success?, Call.target?] at h

theorem Backend.Occurs.reverted (ho : b.Occurs e) (h : e.success? id = some .reverted) :
    ∃ now o, o.ok = true ∧ Ends (b.revert id now) e.before (.ok o) e.after := by
  cases ho with
  | @revert i now x w w' he =>
    obtain ⟨hs, rfl⟩ : (Reply.outcome x).isSuccess = true ∧ i = id := by
      simpa [Event.success?, Call.target?] using h
    cases x with
    | error => cases hs
    | ok o => exact ⟨now, o, hs, he⟩
  | _ => simp [Event.success?, Call.target?] at h

/-- What is sent by a run of changeset `id` that succeeds, forward and back. -/
structure Event.Transmits (log : σ → List Command) (id : Uuid) (forward back : List Command)
    (e : Event σ) : Prop where
  applied : e.success? id = some .applied → log e.after = log e.before ++ forward
  reverted : e.success? id = some .reverted → log e.after = log e.before ++ back

end Event

section Makes

variable {σ ρ κ : Type} {b : Backend σ} {A : Archive σ ρ} {content : ρ → κ}
  {k m : Manager (Watched σ)} {r : ChangeRequest} {createdBy : Option String} {stamp : Stamp}
  {op : Operation} {record : Record}

/-- What happens to a changeset because of its content happens after it was made from a request. -/
theorem Operation.Makes.past_forall {good : Event σ → Prop} (hb : Storing b A) (ho : Orderly b A)
    (hc : ∀ u now x, content (A.moved u now x) = content x)
    (hi : ∀ {r y w w'}, A.Sound w → Ends (b.insert r) w (.ok y) w' → y = r)
    (h : op.Makes r createdBy stamp) (hs : A.Sound k.world.world)
    (ha : answer (op.act b.watched) k = .ok (.record record))
    (hl : Leads A (Request.act b.watched) (after (op.act b.watched) k) m)
    (hg : ∀ e, record.Carries r.compile → b.Occurs e → A.Sound e.before →
      (A.entry e.before record.id).map content = some (content (A.ofRecord record)) → good e) :
    record.Carries r.compile ∧ ∃ later,
      m.world.past = (after (op.act b.watched) k).world.past ++ later ∧ ∀ e ∈ later, good e := by
  have he : Ends (op.act b.watched) k (.ok (.record record)) (after (op.act b.watched) k) :=
    ha ▸ ends_answer_after _ k
  obtain ⟨status, report, y, w, hw, hins, hy⟩ := h.inserted hb.sound hs he
  cases hy
  obtain rfl := hi hw hins
  have hr := Record.carries_ofChangeset r.compile status report createdBy stamp
  have hx := congrFun (hb.insert_ok hw hins).2 stamp.id |>.trans (Function.update_self ..)
  refine ⟨hr, hl.past_forall ho hc (fun e => hg e hr) (hb.sound.insert hw hins) ?_⟩
  exact congrArg (Option.map content) hx

end Makes

namespace Database

variable {φ δ : Type} {server : Server φ δ} {db db' : Database φ δ}

/-- The statements of a record are read back from the row that was written for it. -/
theorem Row.sql_of_content {row : Row} {r record : Record}
    (hc : row.content = (Row.ofRecord record).content) (hr : row.record = .ok r) :
    r.sql = record.sql ∧ r.rollbackSql = record.rollbackSql := by
  have hread := Row.reads_of_record hr
  exact ⟨read_of_content (Cell.json? decodeTexts) hc rfl hread.sql (Cell.json?_texts _),
    read_of_content (Cell.json? decodeTexts) hc rfl hread.rollbackSql (Cell.json?_texts _)⟩

/-- The statements of a record that was made from a request are sent as they are, and of its
rollback all but the comments. -/
theorem sent_of_carries {r : ChangeRequest} {record : Record} (h : record.Carries r.compile) :
    sendable record.sql = record.sql ∧
      sendable record.rollbackSql = record.rollbackSql.filter fun s => !startsWith s "--" := by
  rw [h.sql, h.rollbackSql, r.filter_rollbackSql]
  exact ⟨r.sendable_sql, r.sendable_rollbackSql⟩

theorem hosted_transmits {r : ChangeRequest} {record : Record} {e : Event (Database φ δ)}
    (h : record.Carries r.compile) (ho : (hosted server).Occurs e)
    (hc : (rowOf e.before.rows record.id).map Row.content = some (Row.ofRecord record).content) :
    e.Transmits Database.log record.id (.query .select :: transcript true record.sql)
      (.query .select :: transcript true
        (record.rollbackSql.filter fun s => !startsWith s "--")) := by
  obtain ⟨hforward, hback⟩ := sent_of_carries h
  have hread (row : Row) (x : Record) (hf : rowOf e.before.rows record.id = some row)
      (hx : row.record = .ok x) : x.sql = record.sql ∧ x.rollbackSql = record.rollbackSql := by
    rw [hf] at hc
    exact Row.sql_of_content (Option.some.inj hc) hx
  constructor
  · intro hsuccess
    obtain ⟨now, o, hok, he⟩ := ho.applied hsuccess
    obtain ⟨row, x, hf, hx, hsent⟩ := sent_fetchAndExecute he hok
    rw [hsent.log, (hread row x hf hx).1, hforward]
  · intro hsuccess
    obtain ⟨now, o, hok, he⟩ := ho.reverted hsuccess
    obtain ⟨row, x, hf, hx, hsent⟩ := sent_fetchAndExecute he hok
    rw [hsent.log, (hread row x hf hx).2, hback]

theorem split_transmits {r : ChangeRequest} {record : Record} {e : Event (Split φ δ)}
    (h : record.Carries r.compile) (ho : (split server).Occurs e)
    (hc : (e.before.store.find? record.id).map Record.content = some record.content) :
    e.Transmits (fun w => w.database.log) record.id (transcript false record.sql)
      (transcript false (record.rollbackSql.filter fun s => !startsWith s "--")) := by
  obtain ⟨hforward, hback⟩ := sent_of_carries h
  have hread (x : Record) (hf : e.before.store.find? record.id = some x) :
      x.sql = record.sql ∧ x.rollbackSql = record.rollbackSql := by
    rw [hf] at hc
    have hcontent : x.content = record.content := Option.some.inj hc
    have hsql : x.content.sql = record.content.sql := congrArg Record.sql hcontent
    have hrollback : x.content.rollbackSql = record.content.rollbackSql :=
      congrArg Record.rollbackSql hcontent
    exact ⟨hsql, hrollback⟩
  constructor
  · intro hsuccess
    obtain ⟨now, o, hok, he⟩ := ho.applied hsuccess
    obtain ⟨x, hf, hsent⟩ := sent_fetchAndExecute_split he hok
    rw [hsent.log, (hread x hf).1, hforward]
  · intro hsuccess
    obtain ⟨now, o, hok, he⟩ := ho.reverted hsuccess
    obtain ⟨x, hf, hsent⟩ := sent_fetchAndExecute_split he hok
    rw [hsent.log, (hread x hf).2, hback]

theorem hosted_insert_returns {r y : Record} (hs : db.saved = none)
    (he : Ends ((hosted server).insert r) db (.ok y) db') : y = r := by
  cases (holds_of_sound hs).insert he with
  | inserted => rfl

theorem split_insert_returns {r y : Record} {w w' : Split φ δ}
    (he : Ends ((split server).insert r) w (.ok y) w') : y = r := by
  obtain hi | hi := (split_inMemory server).insert he
  · cases hi with
    | inserted => rfl
  · cases hi

/-- Every compiled statement is trimmed and no comment, and a comment in a rollback stands for a
function that has to be dropped by hand. So every success of a changeset that was made from a
request has sent its statements as they are, between the beginning and the commit of one
transaction; and on the way back its rollback without the comments. Where the changesets are in the
same database, the statements must leave their table alone. -/
theorem statements_sent_verbatim :
    (∀ r : ChangeRequest,
      (∀ s ∈ r.compile.sql, s ≠ "" ∧ Text.trim s = s ∧ startsWith s "--" = false) ∧
      r.compile.rollbackSql =
        ((r.parts.flatMap Part.changes).filterMap fun c => c.inverse.sql?).reverse ∧
      ∀ p ∈ r.parts, ∀ c ∈ p.changes, ∀ s, c.inverse.sql? = some s →
        (startsWith s "--" = true ↔ ∃ f reason, p = .function f ∧
          f.inverse = .manual (Text.trim f.signature) reason ∧
          s = Inverse.placeholder (Text.trim f.signature) reason)) ∧
    (∀ {φ δ : Type} {server : Server φ δ} {r : ChangeRequest} {createdBy : Option String}
      {stamp : Stamp} {op : Operation} {record : Record} {k m : Manager (Watched (Database φ δ))},
      op.Makes r createdBy stamp → k.world.world.saved = none →
      answer (op.act (hosted server).watched) k = .ok (.record record) →
      server.SparesAll m.world.past →
      Leads (.inTable φ δ) (Request.act (hosted server).watched)
        (after (op.act (hosted server).watched) k) m →
      record.Carries r.compile ∧ ∃ later,
        m.world.past = (after (op.act (hosted server).watched) k).world.past ++ later ∧
        ∀ e ∈ later, e.Transmits Database.log record.id
          (.query .select :: transcript true record.sql)
          (.query .select :: transcript true
            (record.rollbackSql.filter fun s => !startsWith s "--"))) ∧
    (∀ {φ δ : Type} {server : Server φ δ} {r : ChangeRequest} {createdBy : Option String}
      {stamp : Stamp} {op : Operation} {record : Record} {k m : Manager (Watched (Split φ δ))},
      op.Makes r createdBy stamp →
      answer (op.act (split server).watched) k = .ok (.record record) →
      Leads (.inSplit φ δ) (Request.act (split server).watched)
        (after (op.act (split server).watched) k) m →
      record.Carries r.compile ∧ ∃ later,
        m.world.past = (after (op.act (split server).watched) k).world.past ++ later ∧
        ∀ e ∈ later, e.Transmits (fun w => w.database.log) record.id
          (transcript false record.sql)
          (transcript false (record.rollbackSql.filter fun s => !startsWith s "--"))) := by
  refine ⟨?_, ?_, ?_⟩
  · intro r
    refine ⟨?_, r.changes_eq_parts ▸ r.rollbackSql_eq, ?_⟩
    · intro s hs
      have h := r.isStatement_of_mem_sql s hs
      exact ⟨h.ne_empty, h.trim_eq, h.not_comment⟩
    · intro p _ c hc s hs
      exact (p.stated c hc).inverse.comment_iff hs
  · intro φ δ server r createdBy stamp op record k m h hs ha hspares hl
    obtain ⟨-, he, hl⟩ := hl.mirrored_made (hosted_mirrors server) hspares
    rw [← he.after_eq] at hl ⊢
    rw [← he.answer_eq] at ha
    refine h.past_forall (hosted_storing server.tame_tamed) (hosted_orderly server.tame_tamed)
      Row.content_moved hosted_insert_returns hs ha hl ?_
    intro e hr ho _ hc
    exact hosted_transmits hr ho hc
  · intro φ δ server r createdBy stamp op record k m h ha hl
    have hk : (split server).Keeps fun _ => True := by constructor <;> intros <;> trivial
    refine h.past_forall ((split_inMemory server).storing hk) (split_inMemory server).orderly
      Record.content_moved (fun _ => split_insert_returns) trivial ha hl ?_
    intro e hr ho _ hc
    exact split_transmits hr ho hc

/-- A function that has to be dropped by hand. -/
def defaultedFunction : ChangeRequest where
  desiredState := { functions := [{ signature := "f(a int=0)", body := "x" }] }

/-- The operation that makes a changeset of it. -/
def makingFunction : Operation :=
  .createDraft defaultedFunction none ⟨⟨1⟩, ⟨0, 0⟩⟩

/-- The changeset is made, and then applied and reverted. -/
def thereAndBack {σ : Type} (b : Backend σ) (w : σ) : Manager (Watched σ) :=
  let act := Request.act b.watched
  after (act (.operation (.revert ⟨1⟩ ⟨2, 0⟩))) <|
    after (act (.operation (.apply ⟨1⟩ ⟨1, 0⟩))) <|
      after (makingFunction.act b.watched) (.started w)

theorem leads_thereAndBack {σ ρ : Type} {A : Archive σ ρ} (b : Backend σ) (w : σ) :
    Leads A (Request.act b.watched) (after (makingFunction.act b.watched) (.started w))
      (thereAndBack b w) :=
  .step (Request.operation (.revert ⟨1⟩ ⟨2, 0⟩))
    (.step (Request.operation (.apply ⟨1⟩ ⟨1, 0⟩)) .refl)

/-- An answer is a record with this identifier. -/
def answersRecord (id : Uuid) : Except Fault Answer → Bool
  | .ok (.record record) => record.id == id
  | _ => false

theorem exists_of_answersRecord (id : Uuid) {x : Except Fault Answer}
    (h : answersRecord id x = true) :
    ∃ record : Record, x = .ok (.record record) ∧ record.id = id := by
  unfold answersRecord at h
  split at h
  · exact ⟨_, rfl, eq_of_beq h⟩
  · cases h

/-- A success that is no earlier one is a later one. -/
theorem exists_success {σ : Type} {past later : List (Event σ)} {w : Watched σ} {id : Uuid}
    {target : Status} (hp : w.past = past ++ later) (hn : past.filterMap (Event.success? id) = [])
    (ht : target ∈ w.runs id) : ∃ e ∈ later, e.success? id = some target := by
  rw [Watched.runs, hp, List.filterMap_append, hn, List.nil_append] at ht
  exact List.mem_filterMap.mp ht

/-- What has to be dropped by hand is not dropped on the way back. -/
theorem statements_sent_verbatim_thereAndBack :
    (∃ record : Record, record.Carries defaultedFunction.compile ∧
      ∃ e ∈ (thereAndBack (split scripted)
          { database := { others := [], failures := [] } }).world.past,
        e.success? ⟨1⟩ = some .reverted ∧ record.rollbackSql ≠ [] ∧
        e.after.database.log = e.before.database.log ++ [.begin, .commit]) ∧
    ∃ record : Record, record.Carries defaultedFunction.compile ∧
      ∃ later, (thereAndBack (hosted scripted) { others := [], failures := [] }).world.past =
        (after (makingFunction.act (hosted scripted).watched)
          (.started { others := [], failures := [] })).world.past ++ later ∧
        ∀ e ∈ later, e.success? ⟨1⟩ = some .applied →
          e.after.log = e.before.log ++ .query .select :: transcript true record.sql := by
  have h := statements_sent_verbatim.2
  have hmakes : makingFunction.Makes defaultedFunction none ⟨⟨1⟩, ⟨0, 0⟩⟩ := .created
  have hrollback : defaultedFunction.undoing = [] := by decide +kernel
  have hmanual : defaultedFunction.compile.rollbackSql ≠ [] := by decide +kernel
  constructor
  · have hok : answersRecord ⟨1⟩ (answer (makingFunction.act (split scripted).watched)
        (.started { database := { others := [], failures := [] } })) = true := by
      decide +kernel
    obtain ⟨record, ha, hid⟩ := exists_of_answersRecord ⟨1⟩ hok
    obtain ⟨hr, later, hp, hall⟩ := h.2 hmakes ha (leads_thereAndBack _ _)
    obtain ⟨e, he, hs⟩ : ∃ e ∈ later, e.success? ⟨1⟩ = some .reverted :=
      exists_success hp (by decide +kernel) (by decide +kernel)
    have ht := hall e he
    rw [hid, hr.rollbackSql, ChangeRequest.filter_rollbackSql, hrollback] at ht
    exact ⟨record, hr, e, hp ▸ List.mem_append_right _ he, hs, hr.rollbackSql ▸ hmanual,
      ht.reverted hs⟩
  · have hok : answersRecord ⟨1⟩ (answer (makingFunction.act (hosted scripted).watched)
        (.started { others := [], failures := [] })) = true := by
      decide +kernel
    obtain ⟨record, ha, hid⟩ := exists_of_answersRecord ⟨1⟩ hok
    obtain ⟨hr, later, hp, hall⟩ :=
      h.1 hmakes rfl ha (tame_scripted.sparesAll _) (leads_thereAndBack _ _)
    refine ⟨record, hr, later, hp, ?_⟩
    intro e he
    have ht := hall e he
    rw [hid] at ht
    exact ht.applied

end Database
end Evolution
