import Evolution.Proofs.Changeset.Warning
import Mathlib.Data.List.TakeWhile

/-! What stands in a rollback for a function that has to be dropped by hand. It begins as a comment,
and its line feeds are taken out of it, but not its carriage returns: behind the first of these the
database reads on in the signature. -/
namespace Evolution

open Text (trim startsWith)

namespace Sql

/-- A comment ends where its line does. -/
def isLineEnd (c : Char) : Bool :=
  c = '\n' || c = '\r'

/-- What the database goes on with behind a comment, which two hyphens begin. -/
def behindComment? : List Char → Option (List Char)
  | '-' :: '-' :: rest => some (rest.dropWhile fun c => !isLineEnd c)
  | _ => none

/-- One comment and nothing else. -/
def IsComment (text : String) : Prop :=
  behindComment? text.toList = some []

instance (text : String) : Decidable (IsComment text) :=
  inferInstanceAs (Decidable (_ = _))

section comment

variable {front behind rest : List Char} {text : String}

theorem isLineEnd_eq_false {c : Char} : isLineEnd c = false ↔ c ≠ '\n' ∧ c ≠ '\r' := by
  simp [isLineEnd]

theorem behindComment?_eq_nil :
    behindComment? ('-' :: '-' :: rest) = some [] ↔ '\n' ∉ rest ∧ '\r' ∉ rest := by
  have hread : behindComment? ('-' :: '-' :: rest) =
      some (rest.dropWhile fun c => !isLineEnd c) := rfl
  rw [hread, Option.some_inj, List.dropWhile_eq_nil_iff]
  simp only [Bool.not_eq_true', isLineEnd_eq_false]
  constructor
  · intro h
    exact ⟨fun hn => (h _ hn).1 rfl, fun hr => (h _ hr).2 rfl⟩
  · rintro ⟨hn, hr⟩ c hc
    exact ⟨ne_of_mem_of_not_mem hc hn, ne_of_mem_of_not_mem hc hr⟩

/-- The first carriage return ends a comment, if no line feed does. -/
theorem behindComment?_return (hn : '\n' ∉ front) (hr : '\r' ∉ front) :
    behindComment? ('-' :: '-' :: (front ++ '\r' :: behind)) = some ('\r' :: behind) := by
  have hfront : ∀ c ∈ front, (!isLineEnd c) = true := by
    intro c hc
    rw [Bool.not_eq_true', isLineEnd_eq_false]
    exact ⟨ne_of_mem_of_not_mem hc hn, ne_of_mem_of_not_mem hc hr⟩
  exact congrArg some (List.dropWhile_append_of_pos hfront)

end comment
end Sql

section placeholder

variable {object reason : String}

theorem newline_not_mem_unbroken (cs : List Char) : '\n' ∉ cs.map unbroken := by
  intro h
  obtain ⟨c, -, hc⟩ := List.mem_map.mp h
  by_cases hn : c = '\n'
  · rw [unbroken, if_pos hn] at hc
    cases hc
  · rw [unbroken, if_neg hn] at hc
    exact hn hc

theorem return_mem_unbroken {cs : List Char} : '\r' ∈ cs.map unbroken ↔ '\r' ∈ cs :=
  mem_map_unbroken (by decide) (by decide)

/-- The first words of every comment for a function. -/
def handwork : List Char :=
  " manual rollback required for function ".toList

theorem toList_placeholder (object reason : String) :
    (Inverse.placeholder object reason).toList =
      '-' :: '-' :: (handwork ++ object.toList.map unbroken ++ ": ".toList ++ reason.toList) := by
  have hwords : "-- manual rollback required for function ".toList = '-' :: '-' :: handwork := by
    decide +kernel
  unfold Inverse.placeholder
  simp only [String.toList_append, toList_replaceChar_newline, hwords, List.cons_append]

/-- A reason has neither a line feed nor a carriage return. -/
theorem plain_of_mem_handReasons (h : reason ∈ handReasons) :
    '\n' ∉ reason.toList ∧ '\r' ∉ reason.toList := by
  have hall : ∀ t ∈ handReasons, '\n' ∉ t.toList ∧ '\r' ∉ t.toList := by decide
  exact hall reason h

theorem newline_not_mem_placeholder (h : reason ∈ handReasons) :
    '\n' ∉ (Inverse.placeholder object reason).toList := by
  have hwords : '\n' ∉ '-' :: '-' :: handwork := by decide
  have hobject := newline_not_mem_unbroken object.toList
  have hreason := (plain_of_mem_handReasons h).1
  rw [toList_placeholder]
  simp_all

/-- Of all that the comment is made of, only the signature can have a carriage return. -/
theorem isComment_placeholder_iff (h : reason ∈ handReasons) :
    Sql.IsComment (Inverse.placeholder object reason) ↔ '\r' ∉ object.toList := by
  have hwords : '\n' ∉ handwork ∧ '\r' ∉ handwork := by decide
  have hn := newline_not_mem_unbroken object.toList
  have hreason := plain_of_mem_handReasons h
  rw [Sql.IsComment, toList_placeholder, Sql.behindComment?_eq_nil]
  simp [hwords, hn, hreason, return_mem_unbroken]

theorem behindComment?_placeholder {front behind : List Char} (reason : String)
    (ho : object.toList = front ++ '\r' :: behind) (hf : '\r' ∉ front) :
    Sql.behindComment? (Inverse.placeholder object reason).toList =
      some ('\r' :: (behind.map unbroken ++ ": ".toList ++ reason.toList)) := by
  have hwords : '\n' ∉ handwork ∧ '\r' ∉ handwork := by decide
  have hreturn : unbroken '\r' = '\r' := by decide
  have hn : '\n' ∉ handwork ++ front.map unbroken := by
    simp [hwords, newline_not_mem_unbroken]
  have hr : '\r' ∉ handwork ++ front.map unbroken := by
    simp [hwords, return_mem_unbroken, hf]
  have hparts : handwork ++ object.toList.map unbroken ++ ": ".toList ++ reason.toList =
      (handwork ++ front.map unbroken) ++
        '\r' :: (behind.map unbroken ++ ": ".toList ++ reason.toList) := by
    simp [ho, hreturn]
  rw [toList_placeholder, hparts, Sql.behindComment?_return hn hr]

end placeholder

namespace ChangeRequest

variable {r : ChangeRequest} {c : Change} {signature reason : String}

theorem mem_handReasons_of_manual (hc : c ∈ r.changes) (hi : c.inverse = .manual signature reason) :
    reason ∈ handReasons := by
  obtain ⟨f, -, -, hf⟩ := exists_manual_iff.mp ⟨c, hc, hi⟩
  exact (Routine.inverse_eq_manual_iff.mp hf).2.mem_handReasons

/-- A change that has to be undone by hand is that of a function, for whose signature it leaves a
text in the rollback that begins as a comment and has no line feed in it. It is a comment of one
line and nothing else exactly where the signature has no carriage return. Where it has one, the
comment ends there, and the database goes on with the rest of the signature. -/
theorem comment_ends_at_return (hc : c ∈ r.changes) (hi : c.inverse = .manual signature reason) :
    let text := Inverse.placeholder signature reason
    (∃ f ∈ r.desiredState.functions, signature = trim f.signature) ∧
      text ∈ r.compile.rollbackSql ∧ startsWith text "--" = true ∧ '\n' ∉ text.toList ∧
      (Sql.IsComment text ↔ '\r' ∉ signature.toList) ∧
      ∀ front behind, signature.toList = front ++ '\r' :: behind → '\r' ∉ front →
        Sql.behindComment? text.toList =
          some ('\r' :: (behind.map unbroken ++ ": ".toList ++ reason.toList)) := by
  intro text
  have hreason := mem_handReasons_of_manual hc hi
  refine ⟨?asked, ?held, ?begins, newline_not_mem_placeholder hreason,
    isComment_placeholder_iff hreason, ?behind⟩
  case asked =>
    obtain ⟨f, hf, -, hf'⟩ := exists_manual_iff.mp ⟨c, hc, hi⟩
    exact ⟨f, hf, (Routine.inverse_eq_manual_iff.mp hf').1⟩
  case held =>
    rw [rollbackSql_eq, List.mem_reverse, List.mem_filterMap]
    exact ⟨c, hc, by rw [hi]; rfl⟩
  case begins =>
    obtain ⟨rest, hrest⟩ := placeholder_begins signature reason
    change startsWith (Inverse.placeholder signature reason) "--" = true
    rw [hrest]
    exact startsWith_append "--" rest
  case behind =>
    intro front behind hs hf
    exact behindComment?_placeholder reason hs hf

/-- A function whose signature goes over two lines. -/
def dailyCount (lineEnd : String) : Routine where
  signature := "count_notes(" ++ lineEnd ++ "day date default now())"
  body := "select 1"

def dailyChange (lineEnd : String) : Change :=
  ⟨(dailyCount lineEnd).createSql, (dailyCount lineEnd).inverse⟩

def dailyCounts : ChangeRequest where
  desiredState := { functions := [dailyCount "\n", dailyCount "\r\n"] }

theorem dailyChange_mem (lineEnd : String) (h : lineEnd = "\n" ∨ lineEnd = "\r\n") :
    dailyChange lineEnd ∈ dailyCounts.changes := by
  rcases h with rfl | rfl <;> decide +kernel

theorem dailyChange_inverse (lineEnd : String) (h : lineEnd = "\n" ∨ lineEnd = "\r\n") :
    (dailyChange lineEnd).inverse =
      .manual (dailyCount lineEnd).signature "signature has default arguments" := by
  rcases h with rfl | rfl <;> decide +kernel

/-- The one comment ends at its end, and the other in the middle of the signature. -/
theorem comment_ends_at_return_dailyCounts :
    dailyChange "\n" ∈ dailyCounts.changes ∧ dailyChange "\r\n" ∈ dailyCounts.changes ∧
      Sql.IsComment ("-- manual rollback required for function " ++
        "count_notes( day date default now()): signature has default arguments") ∧
      Sql.behindComment? ("-- manual rollback required for function " ++
          "count_notes(\r day date default now()): signature has default arguments").toList =
        some "\r day date default now()): signature has default arguments".toList := by
  have hone := dailyChange_mem "\n" (.inl rfl)
  have htwo := dailyChange_mem "\r\n" (.inr rfl)
  have htext : Inverse.placeholder (dailyCount "\n").signature "signature has default arguments" =
      "-- manual rollback required for function " ++
        "count_notes( day date default now()): signature has default arguments" := by
    decide +kernel
  have htext' : Inverse.placeholder (dailyCount "\r\n").signature
      "signature has default arguments" = "-- manual rollback required for function " ++
        "count_notes(\r day date default now()): signature has default arguments" := by
    decide +kernel
  have hsignature : '\r' ∉ (dailyCount "\n").signature.toList := by decide +kernel
  have hsignature' : (dailyCount "\r\n").signature.toList =
      "count_notes(".toList ++ '\r' :: "\nday date default now())".toList := by
    decide +kernel
  have hrest : '\r' :: ("\nday date default now())".toList.map unbroken ++ ": ".toList ++
      "signature has default arguments".toList) =
        "\r day date default now()): signature has default arguments".toList := by
    decide +kernel
  obtain ⟨-, -, -, -, hcomment, -⟩ :=
    comment_ends_at_return hone (dailyChange_inverse "\n" (.inl rfl))
  obtain ⟨-, -, -, -, -, hbehind⟩ :=
    comment_ends_at_return htwo (dailyChange_inverse "\r\n" (.inr rfl))
  refine ⟨hone, htwo, htext ▸ hcomment.mpr hsignature, ?_⟩
  rw [← htext', hbehind _ _ hsignature' (by decide)]
  exact congrArg some hrest

/-- A carriage return in a signature ends the comment in the middle of it. -/
theorem placeholder_not_comment :
    ¬ ∀ (r : ChangeRequest) (c : Change) (signature reason : String), c ∈ r.changes →
      c.inverse = .manual signature reason →
        startsWith (Inverse.placeholder signature reason) "--" = true ∧
          Sql.IsComment (Inverse.placeholder signature reason) := by
  intro h
  have hcomment := (h dailyCounts _ _ _ (dailyChange_mem "\r\n" (.inr rfl))
    (dailyChange_inverse "\r\n" (.inr rfl))).2
  revert hcomment
  decide +kernel

end ChangeRequest
end Evolution
