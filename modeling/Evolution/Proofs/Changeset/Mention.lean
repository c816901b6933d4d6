import Evolution.Proofs.Changeset.Addition
import Evolution.Proofs.Changeset.Order

/-! Where a statement that adds no column could speak of adding one: in the texts that are copied
into it, and nowhere else. -/
namespace Evolution

open Sql
open Text (trim nonBlank? Lacks IsWall isWall_of_apart isWall_intercalate lacks_intercalate)

/-- Nothing in the text speaks of adding a column. -/
abbrev Silent (s : String) : Prop :=
  Lacks "add column" s

/-- A statement of an entity, and the texts of the entity that are copied into it as they are or as
literals. What becomes a name or a word of the language is none of them. -/
inductive Part.Copies : Part → String → List String → Prop where
  | create {t : Table} :
      Copies (.table t) t.createChange.forward (t.namedColumns.flatMap Column.bareTexts)
  | addColumn {t : Table} {c : Column} (hc : c ∈ t.namedColumns) :
      Copies (.table t) (t.addColumnChange c).forward c.bareTexts
  | security {t : Table} : Copies (.table t) t.securityChange.forward []
  | index {t : Table} {i : TableIndex} {c : Change} (hi : t.indexChange? i = some c) :
      Copies (.table t) c.forward [trim i.expression]
  | dropPolicy {p : Policy} : Copies (.policy p) p.dropSql []
  | policy {p : Policy} : Copies (.policy p) p.createSql [trim p.usingExpr, trim p.checkExpr]
  | dropTrigger {t : Trigger} : Copies (.trigger t) t.dropSql []
  | trigger {t : Trigger} : Copies (.trigger t) t.createSql []
  | function {f : Routine} :
      Copies (.function f) f.createSql [trim f.signature, trim f.returns, trim f.body]
  | setting {o : Owner} {s : Setting} :
      Copies (.setting o s) (s.upsert o).sql [s.key, s.value.render]
  | preference {o : Owner} {p : Preference} {s : Setting} (hs : p.setting? = some s) :
      Copies (.preference o p) (s.upsert o).sql [trim p.key, p.value.render]
  | bucket {b : Bucket} :
      Copies (.bucket b) b.upsert.sql (trim b.name :: b.allowedMimeTypes.map trim)
  | remoteFunction {f : RemoteFunction} :
      Copies (.remoteFunction f) f.upsert.sql [trim f.name, trim f.route, trim f.version]

theorem isPhrase_add_column : IsPhrase "add column" := by
  decide

theorem isWall_identifier (name : String) : IsWall "add column" (quoteIdentifier name) :=
  isWall_quoteIdentifier isPhrase_add_column name

theorem isWall_qualified (name : String) : IsWall "add column" (quoteQualified name) :=
  isWall_quoteQualified isPhrase_add_column name

section silent

variable {s t x : String} {text : Option String}

theorem silent_of_not_mem_blank (h : ' ' ∉ s.toList) : Silent s :=
  Text.lacks_of_not_mem (by decide) h

theorem silent_nonBlank? (hs : Silent (trim s)) (ht : Silent t) :
    Silent ((nonBlank? s).getD t) := by
  cases h : nonBlank? s with
  | none => exact ht
  | some text =>
    rw [Option.getD_some, nonBlank?_eq_some h]
    exact hs

/-- A clause with an expression in parentheses, if there is one. -/
theorem silent_clause {w : String} (hx : Silent x) (hw : IsWall "add column" w)
    (h : Silent (trim s)) :
    Silent (x ++ ((nonBlank? s).map fun e => w ++ e ++ ")").getD "") := by
  have hend : IsWall "add column" ")" := isWall_of_apart (by decide)
  cases ht : nonBlank? s with
  | none =>
    rw [Option.map_none, Option.getD_none, String.append_empty]
    exact hx
  | some text =>
    have htext : Silent text := nonBlank?_eq_some ht ▸ h
    rw [Option.map_some, Option.getD_some, ← String.append_assoc, ← String.append_assoc]
    exact (hx.walled hw htext).wall hend

/-- What stands in front of the name of something on a table, and both names. -/
theorem silent_on (hx : Silent x) (name table : String) :
    Silent (x ++ quoteIdentifier name ++ " on " ++ quoteQualified table) := by
  have hname := hx.wall (isWall_identifier name)
  exact (hname.wall (isWall_of_apart (by decide))).wall (isWall_qualified table)

end silent

section table

variable {c : Column} {t : Table}

theorem silent_spaced {clauses : List String} {x : String} (hx : Silent x)
    (h : ∀ s ∈ clauses, ∀ x, Silent x → Silent (x ++ (" " ++ s))) :
    Silent (x ++ spaced clauses) := by
  induction clauses generalizing x with
  | nil => rwa [spaced, String.append_empty]
  | cons s clauses ih =>
    obtain ⟨hs, hclauses⟩ := List.forall_mem_cons.mp h
    rw [spaced, ← String.append_assoc]
    exact ih (hs x hx) hclauses

theorem silent_definition (h : ∀ text ∈ c.bareTexts, Silent text) : Silent c.definition := by
  obtain ⟨htype, hvalue⟩ := List.forall_mem_cons.mp h
  have hfront : Silent (quoteIdentifier (trim c.name) ++ (" " ++ c.typeText)) :=
    ((silent_nonBlank? htype (by decide)).blank_in_front (by decide)).behind (isWall_identifier _)
  rw [c.definition_eq_clauses]
  refine silent_spaced hfront fun s hs x hx => ?_
  simp only [Column.clauses, List.mem_append, Option.mem_toList] at hs
  obtain ((hs | hs) | hs) | hs := hs
  · obtain rfl : s = "not null" := by
      split at hs
      · cases hs
      · exact List.mem_singleton.mp hs
    -- the phrase ends with the letter that this clause begins with, so the wall needs the blank
    have hblank : " " ++ "not null" = " not null" := by decide
    rw [hblank]
    exact hx.wall (isWall_of_apart (by decide))
  · obtain rfl : s = "unique" := by
      split at hs
      · exact List.mem_singleton.mp hs
      · cases hs
    rw [← String.append_assoc]
    exact (hx.blank_behind (by decide)).wall (isWall_of_apart (by decide))
  · obtain ⟨value, hd, rfl⟩ := Option.map_eq_some_iff.mp hs
    obtain ⟨text, ht, hv⟩ := Option.bind_eq_some_iff.mp hd
    have hsilent : Silent value := by
      rw [nonBlank?_eq_some hv]
      exact hvalue _ (List.mem_map_of_mem (by simp [ht]))
    rw [← String.append_assoc, ← String.append_assoc]
    exact (hx.blank_behind (by decide)).walled (isWall_of_apart (by decide)) hsilent
  · rw [← String.append_assoc]
    exact (hx.blank_behind (by decide)).wall
      (isWall_reference isPhrase_add_column (isWall_of_apart (by decide)) s hs)

theorem silent_createChange (h : ∀ text ∈ t.namedColumns.flatMap Column.bareTexts, Silent text) :
    Silent t.createChange.forward := by
  have hcolumns :
      Silent (",\n".intercalate (t.namedColumns.map fun c => "  " ++ c.definition)) := by
    refine lacks_intercalate (isWall_of_apart (by decide)) (by decide) ?_
    refine List.forall_mem_map.mpr fun c hc => ?_
    have hdefinition := silent_definition fun text ht => h text (List.mem_flatMap_of_mem hc ht)
    exact hdefinition.behind (isWall_of_apart (by decide))
  have hf : t.createChange.forward = "create table if not exists " ++ t.quoted ++ " (\n" ++
      ",\n".intercalate (t.namedColumns.map fun c => "  " ++ c.definition) ++ "\n);" := rfl
  have hbegin : Silent "create table if not exists " := by decide
  rw [hf]
  exact ((hbegin.wall (isWall_qualified _)).walled (isWall_of_apart (by decide)) hcolumns).wall
    (isWall_of_apart (by decide))

theorem silent_securityChange (t : Table) : Silent t.securityChange.forward := by
  have hf : t.securityChange.forward =
      "alter table " ++ t.quoted ++ " enable row level security;" := rfl
  have hbegin : Silent "alter table " := by decide
  rw [hf]
  exact (hbegin.wall (isWall_qualified _)).wall (isWall_of_apart (by decide))

theorem silent_indexChange {i : TableIndex} {change : Change} (h : Silent (trim i.expression))
    (hi : t.indexChange? i = some change) : Silent change.forward := by
  unfold Table.indexChange? at hi
  split at hi
  · rename_i name expression hname hexpression
    cases hi
    have hexpr : Silent expression := nonBlank?_eq_some hexpression ▸ h
    have hunique : Silent ("create " ++ if i.unique then "unique " else "") := by
      cases i.unique <;> decide
    have hindex : IsWall "add column" "index if not exists " := isWall_of_apart (by decide)
    have htable := silent_on (hunique.wall hindex) name (trim t.name)
    dsimp only [toString, Table.quoted]
    exact (htable.walled (w := " (") (isWall_of_apart (by decide)) hexpr).wall (w := ");")
      (isWall_of_apart (by decide))
  · cases hi

end table

section others

variable {o : Owner}

theorem silent_dropPolicy (p : Policy) : Silent p.dropSql := by
  have hbegin : Silent "drop policy if exists " := by decide
  exact (silent_on hbegin (trim p.name) (trim p.table)).wall (w := ";")
    (isWall_of_apart (by decide))

theorem silent_policy {p : Policy} (husing : Silent (trim p.usingExpr))
    (hcheck : Silent (trim p.checkExpr)) : Silent p.createSql := by
  have hcommand : IsWall "add column" p.command.text := by
    cases p.command <;> exact isWall_of_apart (by decide)
  have hroles : Silent (", ".intercalate ((p.roles.filterMap nonBlank?).map quoteRole)) := by
    refine lacks_intercalate (isWall_of_apart (by decide)) (by decide) ?_
    refine List.forall_mem_map.mpr fun role _ => ?_
    unfold quoteRole
    split
    · decide
    · exact (isWall_identifier role).lacks (by decide)
  have hgrantees {x : String} (hx : Silent x) (b : Bool) : Silent (x ++ if b then "" else
      " to " ++ ", ".intercalate ((p.roles.filterMap nonBlank?).map quoteRole)) := by
    cases b with
    | true => rwa [if_pos rfl, String.append_empty]
    | false =>
      rw [if_neg Bool.false_ne_true, ← String.append_assoc]
      exact hx.walled (isWall_of_apart (by decide)) hroles
  have hbegin : Silent "create policy " := by decide
  have htable := silent_on hbegin (trim p.name) (trim p.table)
  have hfor := (htable.wall (w := " for ") (isWall_of_apart (by decide))).wall hcommand
  have hto := hgrantees hfor ((p.roles.filterMap nonBlank?).map quoteRole).isEmpty
  have husingClause := silent_clause (w := " using (") hto (isWall_of_apart (by decide)) husing
  have hclauses := silent_clause (w := " with check (") husingClause
    (isWall_of_apart (by decide)) hcheck
  exact hclauses.wall (w := ";") (isWall_of_apart (by decide))

theorem silent_dropTrigger (t : Trigger) : Silent t.dropSql := by
  have hbegin : Silent "drop trigger if exists " := by decide
  exact (silent_on hbegin (trim t.name) (trim t.table)).wall (w := ";")
    (isWall_of_apart (by decide))

theorem silent_trigger (t : Trigger) : Silent t.createSql := by
  have htiming : IsWall "add column" t.timing.sql := by
    cases t.timing <;> exact isWall_of_apart (by decide)
  have hevent : ∀ e ∈ distinct (t.events.map TriggerEvent.sql), IsWall "add column" e := by
    intro e he
    obtain ⟨event, -, rfl⟩ := List.mem_map.mp (distinct_subset _ he)
    cases event <;> exact isWall_of_apart (by decide)
  have hevents : " OR ".intercalate (distinct (t.events.map TriggerEvent.sql)) = "" ∨
      IsWall "add column" (" OR ".intercalate (distinct (t.events.map TriggerEvent.sql))) := by
    generalize distinct (t.events.map TriggerEvent.sql) = events at hevent
    cases events with
    | nil => exact .inl rfl
    | cons e events =>
      exact .inr (isWall_intercalate (isWall_of_apart (by decide)) (by decide)
        (List.cons_ne_nil e events) hevent)
  have hbegin : Silent "create trigger " := by decide
  have hname := hbegin.walled (isWall_identifier (trim t.name)) (y := " ") (by decide)
  have hwhen := (hname.walled htiming (y := " ") (by decide)).wall? hevents
  have htable := (hwhen.wall (w := " on ") (isWall_of_apart (by decide))).walled
    (isWall_qualified (trim t.table)) (y := " ") (by decide)
  have hf : t.createSql = "create trigger " ++ quoteIdentifier (trim t.name) ++ " " ++
      t.timing.sql ++ " " ++ " OR ".intercalate (distinct (t.events.map TriggerEvent.sql)) ++
      " on " ++ quoteQualified (trim t.table) ++ " " ++ "for each row execute function " ++
      quoteQualified t.function ++ "();" := by
    unfold Trigger.createSql
    simp only [toString, String.append_assoc]
  rw [hf]
  exact ((htable.wall (isWall_of_apart (by decide))).wall (isWall_qualified t.function)).wall
    (isWall_of_apart (by decide))

theorem isWall_quoteBody {body : String} (h : Silent body) :
    IsWall "add column" (Routine.quoteBody body) := by
  have htag : IsWall "add column" Routine.bodyTag := isWall_of_apart (by decide)
  have hbreak : IsWall "add column" "\n" := isWall_of_apart (by decide)
  unfold Routine.quoteBody
  split
  · exact isWall_quoteLiteral isPhrase_add_column h
  · exact ((htag.append (by decide) hbreak).between h hbreak).append (by decide) htag

theorem silent_function {f : Routine} (hsignature : Silent (trim f.signature))
    (hreturns : Silent (trim f.returns)) (hbody : Silent (trim f.body)) : Silent f.createSql := by
  replace hreturns : Silent ((nonBlank? f.returns).getD "void") :=
    silent_nonBlank? hreturns (by decide)
  have hlanguage : Silent f.languageName := by
    unfold Routine.languageName
    dsimp only
    split
    · decide
    · refine silent_of_not_mem_blank ?_
      rw [String.toList_ofList]
      exact fun hc => absurd (List.mem_filter.mp hc).2 (by decide)
  have hsecurity : (if f.securityDefiner then "\nsecurity definer" else "") = "" ∨
      IsWall "add column" (if f.securityDefiner then "\nsecurity definer" else "") := by
    cases f.securityDefiner
    · exact .inl rfl
    · exact .inr (isWall_of_apart (by decide))
  have hf : f.createSql = "create or replace function " ++ trim f.signature ++ "\nreturns " ++
      (nonBlank? f.returns).getD "void" ++ "\n" ++ "language " ++ f.languageName ++
      (if f.securityDefiner then "\nsecurity definer" else "") ++ "\n" ++ "as " ++
      Routine.quoteBody (trim f.body) ++ ";" := by
    unfold Routine.createSql Routine.head
    simp only [toString, String.append_assoc]
  have hhead := (hsignature.behind (w := "create or replace function ")
    (isWall_of_apart (by decide))).walled (w := "\nreturns ") (isWall_of_apart (by decide)) hreturns
  have hline := (hhead.wall (w := "\n") (isWall_of_apart (by decide))).walled (w := "language ")
    (isWall_of_apart (by decide)) hlanguage
  rw [hf]
  exact ((((hline.wall? hsecurity).wall (isWall_of_apart (by decide))).wall
    (isWall_of_apart (by decide))).wall (isWall_quoteBody hbody)).wall (isWall_of_apart (by decide))

end others

section upserts

variable {o : Owner} {u : Upsert}

theorem blank_not_mem_hexDigits (id : Uuid) : ' ' ∉ id.hexDigits := by
  have hdigit : ∀ n < 16, Text.hexDigit n ≠ ' ' := by decide
  intro h
  obtain ⟨i, -, hi⟩ := List.mem_map.mp h
  exact hdigit _ (Nat.mod_lt _ (by decide)) hi

theorem silent_uuid (id : Uuid) : Silent id.text := by
  have htake (n : Nat) {ds : List Char} (hd : ' ' ∉ ds) : ' ' ∉ ds.take n :=
    fun h => hd (List.mem_of_mem_take h)
  have hdrop (n : Nat) : ' ' ∉ id.hexDigits.drop n :=
    fun h => blank_not_mem_hexDigits id (List.mem_of_mem_drop h)
  refine silent_of_not_mem_blank ?_
  simp [Uuid.text, htake _ (blank_not_mem_hexDigits id), htake _ (hdrop _), hdrop]

theorem silent_int (n : Int) : Silent (toString n) := by
  have hdigits (n : Nat) : ' ' ∉ Nat.toDigits 10 n := fun h =>
    absurd (isDigit_of_mem_toDigits h) (by decide)
  refine silent_of_not_mem_blank ?_
  cases n with
  | ofNat n =>
    have ht : (toString (Int.ofNat n)).toList = Nat.toDigits 10 n := Nat.toList_repr
    rw [ht]
    exact hdigits n
  | negSucc n =>
    rw [toList_toString_negSucc, List.mem_cons]
    exact not_or.mpr ⟨by decide, hdigits (n + 1)⟩

theorem silent_quoted {text : String} (h : Silent text) : Silent (quoteLiteral text) :=
  (isWall_quoteLiteral isPhrase_add_column h).lacks (by decide)

theorem silent_cast {text type : String} (h : Silent text) (ht : IsWall "add column" type) :
    Silent (quoteLiteral text ++ type) :=
  (silent_quoted h).wall ht

theorem silent_texts {items : List String} (h : ∀ text ∈ items, Silent text) :
    Silent (Literal.texts items).sql := by
  have hitems : Silent (", ".intercalate (items.map quoteLiteral)) := by
    refine lacks_intercalate (isWall_of_apart (by decide)) (by decide) ?_
    exact List.forall_mem_map.mpr fun text ht => silent_quoted (h text ht)
  exact (hitems.behind (w := "array[") (isWall_of_apart (by decide))).wall (w := "]::text[]")
    (isWall_of_apart (by decide))

theorem silent_bool (b : Bool) : Silent (Literal.bool b).sql := by
  cases b <;> decide

theorem silent_owner (o : Owner) : ∀ l ∈ o.literals, Silent l.sql := by
  have hscope : Silent o.scope.text := by
    cases o.scope <;> decide
  have hkey : Silent o.key := by
    unfold Owner.key
    cases o.tenant with
    | none => decide
    | some id => exact silent_uuid id
  have htenant : Silent (o.tenant.elim Literal.null fun id => .uuid id.text).sql := by
    cases o.tenant with
    | none => decide
    | some id => exact silent_cast (silent_uuid id) (isWall_of_apart (by decide))
  unfold Owner.literals
  simp only [List.forall_mem_cons]
  exact ⟨silent_quoted hscope, silent_quoted hkey, htenant, nofun⟩

theorem silent_upsert (h : ∀ name ∈ namesOfRow u, Silent name)
    (hv : ∀ l ∈ u.values, Silent l.sql) : Silent u.sql := by
  simp only [namesOfRow, List.forall_mem_cons, List.forall_mem_append] at h
  obtain ⟨htable, ⟨hcolumns, hkey⟩, hpayload⟩ := h
  have hcomma : IsWall "add column" ", " := isWall_of_apart (by decide)
  have hjoin {items : List String} (h : ∀ s ∈ items, Silent s) : Silent (", ".intercalate items) :=
    lacks_intercalate hcomma (by decide) h
  have hvalues := hjoin (List.forall_mem_map.mpr hv)
  have hassignments : Silent (", ".intercalate
      (u.payload.map (fun c => c ++ " = excluded." ++ c) ++ ["updated_at = now()"])) := by
    refine hjoin (List.forall_mem_append.mpr ⟨List.forall_mem_map.mpr fun c hc => ?_, ?_⟩)
    · exact (hpayload c hc).walled (w := " = excluded.") (isWall_of_apart (by decide))
        (hpayload c hc)
    · exact List.forall_mem_singleton.mpr (by decide)
  have hf : u.sql = "insert into " ++ u.table ++ " (" ++ ", ".intercalate u.columns ++
      ")\nvalues (" ++ ", ".intercalate (u.values.map Literal.sql) ++ ")\n" ++ "on conflict (" ++
      ", ".intercalate u.key ++ ") do update set " ++ ", ".intercalate
        (u.payload.map (fun c => c ++ " = excluded." ++ c) ++ ["updated_at = now()"]) ++ ";" := by
    unfold Upsert.sql
    simp only [toString, String.append_assoc]
  have hinto := (htable.behind (w := "insert into ") (isWall_of_apart (by decide))).walled
    (w := " (") (isWall_of_apart (by decide)) (hjoin hcolumns)
  have hrow := (hinto.walled (w := ")\nvalues (") (isWall_of_apart (by decide)) hvalues).wall
    (w := ")\n") (isWall_of_apart (by decide))
  have hconflict := hrow.walled (w := "on conflict (") (isWall_of_apart (by decide)) (hjoin hkey)
  rw [hf]
  exact (hconflict.walled (isWall_of_apart (by decide)) hassignments).wall
    (isWall_of_apart (by decide))

theorem silent_setting {s : Setting} (hk : Silent s.key) (hv : Silent s.value.render) :
    Silent (s.upsert o).sql := by
  refine silent_upsert (by dsimp only [namesOfRow, Setting.upsert]; decide) ?_
  simp only [Setting.upsert, List.forall_mem_append, List.forall_mem_cons]
  exact ⟨silent_owner o, silent_quoted hk, silent_cast hv (isWall_of_apart (by decide)), nofun⟩

theorem silent_bucket {b : Bucket} (hname : Silent (trim b.name))
    (htypes : ∀ text ∈ b.allowedMimeTypes.map trim, Silent text) : Silent b.upsert.sql := by
  have hkept : ∀ text ∈ b.allowedMimeTypes.filterMap nonBlank?, Silent text := by
    intro text ht
    obtain ⟨type, hm, hn⟩ := List.mem_filterMap.mp ht
    rw [nonBlank?_eq_some hn]
    exact htypes _ (List.mem_map_of_mem hm)
  have hsize : Silent (b.fileSizeLimitBytes.elim Literal.null .int).sql := by
    cases b.fileSizeLimitBytes with
    | none => decide
    | some n => exact silent_int n
  refine silent_upsert (by dsimp only [namesOfRow, Bucket.upsert]; decide) ?_
  simp only [Bucket.upsert, List.forall_mem_append, List.forall_mem_cons]
  exact ⟨silent_owner _, silent_quoted hname, silent_bool _, silent_texts hkept, hsize, nofun⟩

theorem silent_remoteFunction {f : RemoteFunction} (hname : Silent (trim f.name))
    (hroute : Silent (trim f.route)) (hversion : Silent (trim f.version)) :
    Silent f.upsert.sql := by
  replace hroute : Silent f.effectiveRoute :=
    silent_nonBlank? hroute (hname.behind (isWall_of_apart (by decide)))
  refine silent_upsert (by dsimp only [namesOfRow, RemoteFunction.upsert]; decide) ?_
  simp only [RemoteFunction.upsert, List.forall_mem_append, List.forall_mem_cons]
  exact ⟨silent_owner _, silent_quoted hname, silent_quoted hroute, silent_bool _,
    silent_quoted hversion, nofun⟩

end upserts

section copies

variable {p : Part} {c : Change} {s : String} {texts : List String}

/-- A statement that adds no column speaks of it only in a text that is copied into it. -/
theorem Part.Copies.silent (h : p.Copies s texts)
    (ha : ∀ t column, s ≠ (Table.addColumnChange t column).forward)
    (ht : ∀ text ∈ texts, Silent text) : Silent s := by
  cases h with
  | create => exact silent_createChange ht
  | addColumn => exact absurd rfl (ha _ _)
  | security => exact silent_securityChange _
  | index hi => exact silent_indexChange (ht _ List.mem_cons_self) hi
  | dropPolicy => exact silent_dropPolicy _
  | policy => exact silent_policy (ht _ (by simp)) (ht _ (by simp))
  | dropTrigger => exact silent_dropTrigger _
  | trigger => exact silent_trigger _
  | function => exact silent_function (ht _ (by simp)) (ht _ (by simp)) (ht _ (by simp))
  | setting => exact silent_setting (ht _ (by simp)) (ht _ (by simp))
  | @preference o p s hs =>
    have hkey : Silent ("pref." ++ trim p.key) :=
      (ht (trim p.key) (by simp)).behind (isWall_of_apart (by decide))
    obtain ⟨key, hk, rfl⟩ := Option.map_eq_some_iff.mp hs
    obtain rfl := nonBlank?_eq_some hk
    exact silent_setting hkey (ht _ (by simp))
  | bucket =>
    obtain ⟨hname, htypes⟩ := List.forall_mem_cons.mp ht
    exact silent_bucket hname htypes
  | remoteFunction =>
    exact silent_remoteFunction (ht _ (by simp)) (ht _ (by simp)) (ht _ (by simp))

theorem exists_copies_of_replace {drop create : String} (hd : ∃ texts, p.Copies drop texts)
    (hc : ∃ texts, p.Copies create texts) (h : c ∈ replaceChanges drop create) :
    ∃ texts, p.Copies c.forward texts := by
  simp only [replaceChanges, List.mem_cons, List.not_mem_nil, or_false] at h
  obtain rfl | rfl := h
  · exact hd
  · exact hc

/-- No statement is of any other kind. -/
theorem Part.exists_copies (hc : c ∈ p.changes) : ∃ texts, p.Copies c.forward texts := by
  cases p with
  | table t =>
    obtain ⟨-, rfl⟩ | ⟨column, hcolumn, rfl⟩ | rfl | ⟨i, -, hi⟩ := Table.mem_changes hc
    · exact ⟨_, .create⟩
    · exact ⟨_, .addColumn hcolumn⟩
    · exact ⟨_, .security⟩
    · exact ⟨_, .index hi⟩
  | policy p =>
    simp only [changes, Policy.block] at hc
    split at hc
    · exact exists_copies_of_replace ⟨_, .dropPolicy⟩ ⟨_, .policy⟩ hc
    · cases hc
  | trigger t =>
    rw [t.changes_of_ne_nil (List.ne_nil_of_mem hc)] at hc
    exact exists_copies_of_replace ⟨_, .dropTrigger⟩ ⟨_, .trigger⟩ hc
  | function f =>
    rw [f.changes_of_ne_nil (List.ne_nil_of_mem hc)] at hc
    obtain rfl := List.mem_singleton.mp hc
    exact ⟨_, .function⟩
  | setting o s =>
    obtain rfl := List.mem_singleton.mp hc
    exact ⟨_, .setting⟩
  | preference o p =>
    obtain ⟨s, hs, hc⟩ := List.mem_flatMap.mp hc
    obtain rfl := List.mem_singleton.mp hc
    exact ⟨_, .preference (Option.mem_toList.mp hs)⟩
  | bucket b =>
    simp only [changes, Bucket.block] at hc
    split at hc
    · obtain rfl := List.mem_singleton.mp hc
      exact ⟨_, .bucket⟩
    · cases hc
  | remoteFunction f =>
    simp only [changes, RemoteFunction.block] at hc
    split at hc
    · obtain rfl := List.mem_singleton.mp hc
      exact ⟨_, .remoteFunction⟩
    · cases hc

end copies

end Evolution
