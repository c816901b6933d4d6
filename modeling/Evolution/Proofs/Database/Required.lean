import Evolution.Proofs.Changeset.Mention
import Evolution.Proofs.Database.Trial

/-! What a dry run warns of. It is told the statements of a changeset and nothing else, so it reads
in them which of them add a column that must not be left empty. -/
namespace Evolution

open Evolution.Action Database
open Text (trim nonBlank?)

namespace Database

theorem passed_warnings (warnings : List String) : (Report.passed warnings).warnings = warnings :=
  rfl

variable {φ δ : Type} {server : Server φ δ} {db db' : Database φ δ} {statements : List String}
  {report : Report}

theorem pairwise_requiredFrom (n : Nat) (statements : List String) :
    (requiredFrom n statements).Pairwise (· < ·) := by
  have hall : (((statements.map trim).zipIdx n).map Prod.snd).Pairwise (· < ·) := by
    rw [List.zipIdx_map_snd]
    exact List.pairwise_lt_range'
  exact hall.sublist ((List.filter_sublist.trans List.filter_sublist).map _)

theorem mem_requiredFrom_iff (h : ∀ s ∈ statements, IsStatement s) {n : Nat} :
    n ∈ requiredFrom 1 statements ↔
      ∃ i s, n = i + 1 ∧ statements[i]? = some s ∧ addsRequiredColumn s = true := by
  rw [requiredFrom, numberedFrom_of_statements 1 h, List.mem_map]
  constructor
  · rintro ⟨⟨s, n⟩, hs, rfl⟩
    obtain ⟨hs, ha⟩ := List.mem_filter.mp hs
    obtain ⟨hn, hs⟩ := List.mk_mem_zipIdx_iff_le_and_getElem?_sub.mp hs
    exact ⟨n - 1, s, (Nat.sub_add_cancel hn).symm, hs, ha⟩
  · rintro ⟨i, s, rfl, hs, ha⟩
    refine ⟨(s, i + 1), List.mem_filter.mpr ⟨?_, ha⟩, rfl⟩
    exact List.mk_mem_zipIdx_iff_le_and_getElem?_sub.mpr ⟨Nat.le_add_left 1 i, hs⟩

/-- A dry run that finds nothing wrong has come to the end of the statements. -/
theorem report_of_dryRun (he : Ends (dryRun server statements) db (.ok report) db')
    (hok : report.ok = true) :
    report = .passed ((requiredFrom 1 statements).map requiredWarning) := by
  cases tries_of_ends he with
  | rejected => cases hok
  | passed _ _ _ hx =>
    obtain hx | ⟨_, hx⟩ := hx
    · exact Except.ok.inj hx
    · cases hx

/-- A dry run of statements that are all accepted tells what it warns of. -/
theorem answer_of_accepted {answers : Responses} (h : Ready server answers db)
    (hf : (trial answers [] 1 statements).failure = none) : answer (dryRun server statements) db =
      .ok (.passed ((requiredFrom 1 statements).map requiredWarning)) := by
  obtain ⟨hanswer, -, -⟩ := h.dryRun (ends_answer_after (dryRun server statements) db)
  rw [hanswer, Trial.report, Trial.message?, hf]
  rfl

/-- Every statement is accepted. -/
def accepting : Responses := fun _ _ => none

theorem trial_accepting {sent : List String} {n : Nat}
    (h : ∀ s ∈ statements, IsStatement s ∧ isSendable s = true) :
    (trial accepting sent n statements).failure = none := by
  induction statements generalizing sent n with
  | nil => rfl
  | cons s rest ih =>
    obtain ⟨⟨hs, hn⟩, hrest⟩ := List.forall_mem_cons.mp h
    have hverdict : verdict accepting sent s = none := by
      rw [verdict, if_pos hn]
      rfl
    rw [trial, hs.trim_eq, if_pos hs.isSent, hverdict]
    exact ih hrest

end Database

namespace ChangeRequest

/-- The statement adds no column, and none of the texts that are copied into it speaks of adding
one. -/
def Unadding (r : ChangeRequest) (s : String) : Prop :=
  (∀ t c, s ≠ (Table.addColumnChange t c).forward) ∧
    ∃ p ∈ r.parts, ∃ texts, p.Copies s texts ∧ ∀ text ∈ texts, Silent text

variable {r : ChangeRequest} {s : String}

theorem Unadding.not_required (h : r.Unadding s) : addsRequiredColumn s = false := by
  obtain ⟨ha, p, -, texts, hp, htexts⟩ := h
  have hadd : Text.contains s " add column " = false :=
    (hp.silent ha htexts).of_contains (by decide)
  rw [addsRequiredColumn, hadd, Bool.false_and, Bool.false_and]

theorem exists_copies (r : ChangeRequest) (hs : s ∈ r.compile.sql) :
    ∃ p ∈ r.parts, ∃ texts, p.Copies s texts := by
  obtain ⟨c, hc, rfl⟩ := List.mem_map.mp (show s ∈ r.changes.map Change.forward from hs)
  rw [changes_eq_parts] at hc
  obtain ⟨p, hp, hc⟩ := List.mem_flatMap.mp hc
  exact ⟨p, hp, p.exists_copies hc⟩

/-- Whatever the database, a dry run that finds nothing wrong warns of the same statements, in their
order and by their numbers. It warns of a statement that adds a column exactly where the column may
not be null and has no default, as far as its fields or the words of its type tell; and of no other
statement, unless a text that is copied into it speaks of adding a column. Each statement is one of
an entity, and the texts that are copied into it are known. -/
theorem dry_run_warns_of_required_columns (r : ChangeRequest) :
    let numbers := requiredFrom 1 r.compile.sql
    numbers.Pairwise (· < ·) ∧
    (∀ n ∈ numbers, 0 < n ∧ n ≤ r.compile.sql.length) ∧
    (∀ i s, r.compile.sql[i]? = some s →
      (∀ t c, s = (Table.addColumnChange t c).forward →
        (i + 1 ∈ numbers ↔ c.isRequired = true ∧ c.hasDefault = false)) ∧
      (r.Unadding s → i + 1 ∉ numbers) ∧ ∃ p ∈ r.parts, ∃ texts, p.Copies s texts) ∧
    (∀ {φ δ : Type} (server : Server φ δ) (db : Database φ δ) (report : Report),
      answer (dryRun server r.compile.sql) db = .ok report → report.ok = true →
        report.warnings = numbers.map requiredWarning) ∧
    ∀ {φ δ : Type} (server : Server φ δ) (answers : Responses) (db : Database φ δ),
      Ready server answers db → (trial answers [] 1 r.compile.sql).failure = none →
        answer (dryRun server r.compile.sql) db = .ok (.passed (numbers.map requiredWarning)) := by
  intro numbers
  have hmem {n : Nat} := mem_requiredFrom_iff (n := n) r.isStatement_of_mem_sql
  have hat {i : Nat} {s : String} (hs : r.compile.sql[i]? = some s) :
      i + 1 ∈ numbers ↔ addsRequiredColumn s = true := by
    rw [hmem]
    constructor
    · rintro ⟨j, t, hj, ht, ha⟩
      obtain rfl : i = j := Nat.succ.inj hj
      rwa [Option.some.inj (hs.symm.trans ht)]
    · exact fun ha => ⟨i, s, rfl, hs, ha⟩
  refine ⟨pairwise_requiredFrom 1 _, ?bounds, ?statements, ?reports, ?answers⟩
  case bounds =>
    intro n hn
    obtain ⟨i, s, rfl, hs, -⟩ := hmem.mp hn
    have hi : i < r.compile.sql.length := (List.getElem?_eq_some_iff.mp hs).1
    omega
  case statements =>
    intro i s hs
    refine ⟨?_, ?_, r.exists_copies (List.mem_of_getElem? hs)⟩
    · rintro t c rfl
      rw [hat hs, addsRequiredColumn_addColumnChange, Bool.and_eq_true, Bool.not_eq_true']
    · intro hu hn
      rw [hat hs, hu.not_required] at hn
      cases hn
  case reports =>
    intro φ δ server db report ha hok
    have he : Ends (dryRun server r.compile.sql) db (.ok report) (after _ db) :=
      ha ▸ ends_answer_after _ db
    rw [report_of_dryRun he hok, passed_warnings]
  case answers =>
    exact fun _ _ _ hready hf => answer_of_accepted hready hf

/-- What is compiled of a request is accepted where every statement is, if it can be sent. -/
theorem trial_of_sendable (h : ∀ s ∈ r.compile.sql, isSendable s = true) :
    (trial accepting [] 1 r.compile.sql).failure = none :=
  trial_accepting fun s hs => ⟨r.isStatement_of_mem_sql s hs, h s hs⟩

/-- A function whose body speaks of null. -/
def idle : Routine where
  signature := "idle()"
  body := "null; -- not null"

/-- The type of the column says what its field does not say. -/
def demanding : ChangeRequest where
  desiredState := {
    tables := [{ name := "notes", columns := [{ name := "a", dataType := "text not null" }] }]
    functions := [idle] }

theorem demanding_sql : demanding.compile.sql =
    [(Table.addColumnChange { name := "notes" }
      { name := "a", dataType := "text not null" }).forward,
      idle.createSql] := by
  rfl

theorem demanding_added :
    demanding.compile.sql[0]? = some (Table.addColumnChange { name := "notes" }
      { name := "a", dataType := "text not null" }).forward := by
  rw [demanding_sql, List.getElem?_cons_zero]

theorem demanding_accepted : (trial accepting [] 1 demanding.compile.sql).failure = none := by
  refine trial_of_sendable ?_
  rw [demanding_sql]
  decide +kernel

theorem dry_run_warns_of_required_columns_demanding :
    demanding.compile.sql[0]? = some (Table.addColumnChange { name := "notes" }
      { name := "a", dataType := "text not null" }).forward ∧
    demanding.compile.sql[1]? = some idle.createSql ∧ demanding.Unadding idle.createSql ∧
    1 ∈ requiredFrom 1 demanding.compile.sql ∧ 2 ∉ requiredFrom 1 demanding.compile.sql ∧
    Ready (remembering accepting) accepting storing ∧
    (trial accepting [] 1 demanding.compile.sql).failure = none ∧
    ∃ report, answer (dryRun (remembering accepting) demanding.compile.sql) storing = .ok report ∧
      report.ok = true ∧ requiredWarning 1 ∈ report.warnings := by
  have hfunction : demanding.compile.sql[1]? = some idle.createSql := by
    rw [demanding_sql, List.getElem?_cons_succ, List.getElem?_cons_zero]
  have hunadding : demanding.Unadding idle.createSql := by
    refine ⟨fun t c he => ?_, .function idle, ?_, _, .function, by decide⟩
    · have hhead := congrArg (fun s => s.toList.head?) he
      obtain ⟨rest, hrest⟩ := idle.createSql_begins
      simp [hrest, Table.addColumnChange, toString] at hhead
    · exact List.mem_cons_of_mem _ List.mem_cons_self
  have hready : Ready (remembering accepting) accepting storing := ready_storing
  obtain ⟨-, -, hstatements, hreports, hanswers⟩ := dry_run_warns_of_required_columns demanding
  have hone : 1 ∈ requiredFrom 1 demanding.compile.sql :=
    ((hstatements 0 _ demanding_added).1 _ _ rfl).mpr ⟨by decide, by decide⟩
  have htwo : 2 ∉ requiredFrom 1 demanding.compile.sql := (hstatements 1 _ hfunction).2.1 hunadding
  have hanswer := hanswers _ _ storing hready demanding_accepted
  refine ⟨demanding_added, hfunction, hunadding, hone, htwo, hready, demanding_accepted, _, hanswer,
    rfl, ?_⟩
  rw [hreports _ storing _ hanswer rfl]
  exact List.mem_map_of_mem hone

/-- A function that adds a column when it is called. -/
def growing : Routine where
  signature := "grow()"
  body := "alter table notes add column b text not null;"

def adding : ChangeRequest where
  desiredState := { functions := [growing] }

theorem adding_sql : adding.compile.sql = [growing.createSql] := by
  rfl

/-- A column that may be null by its fields may be required by its type. A function adds no column,
and its body may speak of adding one. -/
theorem requirement_in_text :
    (¬ ∀ (r : ChangeRequest) (db : Database (List String) (List String)) (report : Report),
      r.desiredState.errors = [] →
      answer (dryRun (remembering accepting) r.compile.sql) db = .ok report →
      report.ok = true →
      ∃ numbers : List Nat, numbers.Pairwise (· < ·) ∧
        report.warnings = numbers.map requiredWarning ∧
        ∀ n, n ∈ numbers ↔ ∃ i s, n = i + 1 ∧ r.compile.sql[i]? = some s ∧
          ∃ t ∈ r.desiredState.tables, ∃ c ∈ t.namedColumns, s = (t.addColumnChange c).forward ∧
            c.nullable = false ∧ c.defaultValue.bind nonBlank? = none) ∧
    ∃ (db : Database (List String) (List String)) (report : Report),
      adding.desiredState.errors = [] ∧
      answer (dryRun (remembering accepting) adding.compile.sql) db = .ok report ∧
      report.ok = true ∧ adding.compile.sql = [growing.createSql] ∧
      requiredWarning 1 ∈ report.warnings := by
  have hready : Ready (remembering accepting) accepting storing := ready_storing
  constructor
  · intro h
    have hanswer := answer_of_accepted hready demanding_accepted
    have hone : 1 ∈ requiredFrom 1 demanding.compile.sql := by
      refine (mem_requiredFrom_iff demanding.isStatement_of_mem_sql).mpr
        ⟨0, _, rfl, demanding_added, ?_⟩
      rw [addsRequiredColumn_addColumnChange]
      decide
    obtain ⟨numbers, -, hwarnings, hmem⟩ := h demanding storing _ rfl hanswer rfl
    have hwarned : requiredWarning 1 ∈ numbers.map requiredWarning :=
      hwarnings ▸ List.mem_map_of_mem hone
    obtain ⟨n, hn, -⟩ := List.mem_map.mp hwarned
    obtain ⟨_, _, -, -, t, ht, c, hc, -, hnull, -⟩ := (hmem n).mp hn
    obtain rfl := List.mem_singleton.mp ht
    obtain rfl := List.mem_singleton.mp (List.mem_filter.mp hc).1
    cases hnull
  · have hsendable : ∀ s ∈ adding.compile.sql, isSendable s = true := by
      rw [adding_sql]
      decide +kernel
    have haccepted : (trial accepting [] 1 adding.compile.sql).failure = none :=
      trial_of_sendable hsendable
    have hone : 1 ∈ requiredFrom 1 adding.compile.sql := by
      refine (mem_requiredFrom_iff adding.isStatement_of_mem_sql).mpr
        ⟨0, growing.createSql, rfl, ?_, by decide +kernel⟩
      rw [adding_sql, List.getElem?_cons_zero]
    refine ⟨storing, _, rfl, answer_of_accepted hready haccepted, rfl, adding_sql, ?_⟩
    rw [passed_warnings]
    exact List.mem_map_of_mem hone

end ChangeRequest
end Evolution
