import Evolution.Proofs.Database.History
import Evolution.Proofs.Json.Record
import Evolution.Proofs.Lifecycle.Scripted
import Evolution.Proofs.Lifecycle.Verdict

/-! Status, report and error text of a changeset fit together in memory and in a table, where the
report has to be read back from its text. -/
namespace Evolution

open Evolution.Action Database Json
open Time (Instant)

theorem Report.restores {report : Report} {depth : Nat} :
    Restores decode (depth + 2) report.json report := by
  have h : Copies (depth + 1) report fields _ :=
    .field .bool <| .defaulted .strings <| .defaulted .strings .nil
  exact h.restores (by decide) (by simp) rfl

namespace Database

/-- The text behind the first byte of a cell is decoded. -/
theorem Cell.json?_eq {α : Type} (decode : Decoder α) (v : Value) :
    Cell.json? decode (.json v) = (decodeText decode v.render).toOption := by
  have hl : ("\x01" ++ v.render).toList = '\x01' :: v.render.toList := by
    simp [String.toList_append]
  simp only [Cell.json?, Cell.json, Cell.text?, hl, String.ofList_toList]

/-- JSON is read back from a cell, in whatever order the members of its objects are kept there. -/
theorem Cell.json?_reordered {α : Type} {decode : Decoder α} {v w : Value} {a : α}
    (h : Restores decode maxDepth v a) (hw : Reordered v w) :
    Cell.json? decode (.json w) = some a := by
  rw [json?_eq, h.decodeText hw]
  rfl

theorem Cell.json?_json {α : Type} {decode : Decoder α} {v : Value} {a : α}
    (h : Restores decode maxDepth v a) : Cell.json? decode (.json v) = some a :=
  json?_reordered h (.refl v)

theorem Cell.json?_texts (texts : List String) :
    Cell.json? decodeTexts (.json (.strings texts)) = some texts :=
  json?_json .strings

theorem Cell.orNull_uuid (id : Option Uuid) : orNull uuid? (ofOption .uuid id) = some id := by
  cases id <;> rfl

theorem Cell.orNull_text (text : Option String) :
    orNull text? (ofOption .text text) = some text := by
  cases text <;> rfl

theorem Cell.orNull_report (report : Option Report) :
    orNull (json? Report.decode) (ofOption (fun x => .json x.json) report) = some report := by
  cases report with
  | none => rfl
  | some report =>
    change (json? Report.decode (.json report.json)).map some = _
    rw [json?_json Report.restores]
    rfl

namespace Row

variable {row : Row} {r r' : Record} {u : StatusUpdate} {now : Instant}

/-- A row has the status, the report and the error text of a record. -/
structure Shows (row : Row) (r : Record) : Prop where
  status : row.cell .status = .text r.status.text
  report : row.cell .report = .ofOption (fun x => .json x.json) r.report
  errorText : row.cell .errorText = .ofOption .text r.errorText

theorem shows_ofRecord (r : Record) : (ofRecord r).Shows r :=
  ⟨rfl, rfl, rfl⟩

theorem Shows.moved (h : row.Shows r) : (row.moved u now).Shows (r.moved u now) := by
  cases hu : u.report with
  | none =>
    refine ⟨moved_status u now row, ?_, ?_⟩
    · simpa [Row.moved, Record.moved, hu, put] using h.report
    · simp [Row.moved, Record.moved, hu, put]
  | some report =>
    refine ⟨moved_status u now row, ?_, ?_⟩
    · simp [Row.moved, Record.moved, hu, put, Cell.ofOption]
    · simp [Row.moved, Record.moved, hu, put]

theorem Shows.status? (h : row.Shows r) : row.status? = some r.status := by
  simp only [Row.status?, h.status, Cell.text?, Option.bind_some, Status.ofText?_text]

/-- A row that shows a record is read with what it shows. -/
theorem Shows.of_record (h : row.Shows r) (hr : row.record = .ok r') :
    r'.status = r.status ∧ r'.report = r.report ∧ r'.errorText = r.errorText := by
  have hs := (reads_of_record hr).status
  have hreport := (reads_of_record hr).report
  have herror := (reads_of_record hr).errorText
  rw [h.report, Cell.orNull_report] at hreport
  rw [h.errorText, Cell.orNull_text] at herror
  exact ⟨Option.some.inj (hs.symm.trans h.status?), (Option.some.inj hreport).symm,
    (Option.some.inj herror).symm⟩

end Row

theorem inMemory_showing {σ : Type} (view : σ → MemoryStore) (Sound : σ → Prop) :
    (Archive.inMemory view Sound).Showing fun x r => x = r where
  ofRecord _ := rfl
  moved h := h ▸ rfl
  status h := h ▸ rfl

theorem inTable_showing (φ δ : Type) : (Archive.inTable φ δ).Showing Row.Shows where
  ofRecord := Row.shows_ofRecord
  moved := Row.Shows.moved
  status := Row.Shows.status?

/-- Whatever the database finds, whatever fails and whoever records a status: of every changeset
that a manager has made, report and error text are those of its status, and one that failed after a
good report has the reason for which it was given up. -/
theorem changesets_coherent :
    (∀ {σ : Type} {b : Backend σ} {view : σ → MemoryStore} {Sound : σ → Prop} {w : σ}
      {m : Manager (Watched σ)}, Honest b (.inMemory view Sound) → Sound w →
      (view w).records = [] →
      Leads (.inMemory view Sound) (Operation.act b.watched) (.started w) m →
      ∀ id r, (view m.world.world).find? id = some r →
        r.Coherent (Abandoned b (.inMemory view Sound) (.started w) m id)) ∧
    (∀ {φ δ : Type} {b : Backend (Database φ δ)} {db : Database φ δ}
      {m : Manager (Watched (Database φ δ))},
      Honest b (.inTable φ δ) → db.saved = none → db.rows = [] →
      Leads (.inTable φ δ) (Operation.act b.watched) (.started db) m →
      ∀ id row, rowOf m.world.world.rows id = some row →
        (∃ r, row.Shows r ∧ r.Coherent (Abandoned b (.inTable φ δ) (.started db) m id)) ∧
          ∀ r, row.record = .ok r →
            r.Coherent (Abandoned b (.inTable φ δ) (.started db) m id)) := by
  constructor
  · intro σ b view Sound w m h hs hn hl id r hr
    have hempty : ∀ id, (view w).find? id = none := by simp [MemoryStore.find?, hn]
    have hc := hl.coherent (l := .started w) h (inMemory_showing view Sound) hs hempty rfl
    obtain ⟨_, rfl, hr'⟩ := hc.kept id r hr
    exact hr'
  · intro φ δ b db m h hs hn hl id row hrow
    have hempty : ∀ id, (Archive.inTable φ δ).entry db id = none := by
      simp [inTable_entry, rowOf, hn]
    have hc := hl.coherent (l := .started db) h (inTable_showing φ δ) hs hempty rfl
    obtain ⟨r, hshows, hr⟩ := hc.kept id row hrow
    refine ⟨⟨r, hshows, hr⟩, ?_⟩
    intro r' hr'
    obtain ⟨hst, hrep, herr⟩ := hshows.of_record hr'
    exact hr.congr hst hrep herr

/-- A changeset is made, and given up at once. -/
def givenUp (w : Script) : Manager (Watched Script) :=
  let act := Operation.act Backend.scripted.watched
  after (act (.abandon ⟨1⟩ "obsolete" ⟨1, 0⟩)) <|
    after (act (.createDraft oneColumn none ⟨⟨1⟩, ⟨0, 0⟩⟩)) (.started w)

/-- A changeset is asked for twice. -/
def madeTwice {φ δ : Type} (server : Server φ δ) (db : Database φ δ) :
    Manager (Watched (Database φ δ)) :=
  let act := Operation.act (hosted server).watched
  after (act (.createDraft oneColumn none ⟨⟨1⟩, ⟨1, 0⟩⟩)) <|
    after (act (.createDraft oneColumn none ⟨⟨1⟩, ⟨0, 0⟩⟩)) (.started db)

/-- A server that does not let the first insert through. -/
def refusingInsert : Database (List ScriptedFailure) (List String) where
  others := []
  failures := [⟨(· == .query .insert), .refusal "out of space" "53100", 1⟩]

theorem changesets_coherent_givenUp :
    (∃ r, (givenUp {}).world.world.store.find? ⟨1⟩ = some r ∧ r.errorText = some "obsolete" ∧
      r.Coherent (Abandoned Backend.scripted (.inMemory Script.store Script.Truthful)
        (.started {}) (givenUp {}) ⟨1⟩)) ∧
    ∃ row r, rowOf (madeTwice scripted refusingInsert).world.world.rows ⟨1⟩ = some row ∧
      row.Shows r ∧ r.status = .validated ∧
      r.Coherent (Abandoned (hosted scripted) (.inTable _ _) (.started refusingInsert)
        (madeTwice scripted refusingInsert) ⟨1⟩) := by
  have h := changesets_coherent
  constructor
  · have hs : Script.Truthful {} := ⟨nofun, nofun⟩
    have hf : ((givenUp {}).world.world.store.find? ⟨1⟩).bind Record.errorText =
        some "obsolete" := by
      decide +kernel
    obtain ⟨r, hr, he⟩ := Option.bind_eq_some_iff.mp hf
    exact ⟨r, hr, he, h.1 Backend.scripted_honest hs rfl (.step _ (.step _ .refl)) _ r hr⟩
  · have hf : ((rowOf (madeTwice scripted refusingInsert).world.world.rows ⟨1⟩).bind
        Row.status?) = some .validated := by
      decide +kernel
    obtain ⟨row, hrow, hf⟩ := Option.bind_eq_some_iff.mp hf
    have hl : Leads (.inTable _ _) (Operation.act (hosted scripted).watched)
        (.started refusingInsert) (madeTwice scripted refusingInsert) :=
      .step _ (.step _ .refl)
    obtain ⟨⟨r, hshows, hr⟩, -⟩ := h.2 (hosted_honest tame_scripted) rfl rfl hl ⟨1⟩ row hrow
    exact ⟨row, r, hrow, hshows, Option.some.inj (hshows.status?.symm.trans hf), hr⟩

end Database
end Evolution
