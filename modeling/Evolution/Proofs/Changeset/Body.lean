import Evolution.Proofs.Changeset.Checksum
import Evolution.Proofs.Changeset.Omission
import Evolution.Proofs.Sql.StringToken

/-! The body of a function on its way to the database. Between tags a line break stands at both ends
of it, so that a piece of a tag at its ends cannot be completed; a body that holds a whole tag is
written as a literal. In both ways the body is read as it was given. -/
namespace Evolution

open Sql
open Text (trim)

section tagged

variable {tag body behind : List Char}

/-- A tag begins in front of a line only if it is part of what stands there. -/
theorem readTo_line (hn : '\n' ∉ tag) (ht : tag ≠ []) (hb : ¬ tag <:+: body) :
    readTo tag (body ++ '\n' :: (tag ++ behind)) = some (body ++ ['\n'], behind) := by
  refine (readTo_eq_some ht).mpr ⟨by simp, fun front back h => ?_⟩
  by_contra hlt
  have hle : front.length ≤ body.length := by simpa [Nat.lt_succ_iff] using hlt
  obtain ⟨as, rfl⟩ := List.prefix_of_prefix_length_le ⟨tag ++ back, h.symm⟩
    (List.prefix_append body _) hle
  rw [List.append_assoc] at h
  have has : tag <:+: as := infix_of_tag_behind hn (List.append_cancel_left h)
  exact hb (has.trans (List.suffix_append front as).isInfix)

/-- A body that does not hold the tag does not hold it with a line break in front either. -/
theorem not_infix_line (hn : '\n' ∉ tag) (ht : tag ≠ []) (hb : ¬ tag <:+: body) :
    ¬ tag <:+: '\n' :: body := by
  intro h
  obtain h | h := List.infix_cons_iff.mp h
  · cases tag with
    | nil => exact ht rfl
    | cons c tag =>
      have hc := (List.cons_prefix_cons.mp h).1
      exact hn (hc ▸ List.mem_cons_self)
  · exact hb h

end tagged

/-- What the database reads of a body. -/
def Routine.bodyToken (body : String) : StringToken :=
  if Text.contains body bodyTag then .literal body else .tagged bodyTag ("\n" ++ body ++ "\n")

section bodyTag

variable {body : String} {behind : List Char}

/-- A body without the tag, between two line breaks, goes as far as the tag. -/
theorem readTo_bodyTag (h : Text.contains body Routine.bodyTag = false) (behind : List Char) :
    readTo Routine.bodyTag.toList
        (("\n" ++ body ++ "\n").toList ++ (Routine.bodyTag.toList ++ behind)) =
      some (("\n" ++ body ++ "\n").toList, behind) := by
  have hn : '\n' ∉ Routine.bodyTag.toList := by decide
  have hne : Routine.bodyTag.toList ≠ [] := by decide
  have hb : ¬ Routine.bodyTag.toList <:+: body.toList := by
    rintro ⟨front, back, hbody⟩
    rw [Text.contains, ← hbody, List.append_assoc, occursIn_append] at h
    cases h
  have hline : ("\n" ++ body ++ "\n").toList ++ (Routine.bodyTag.toList ++ behind) =
      ('\n' :: body.toList) ++ '\n' :: (Routine.bodyTag.toList ++ behind) := by
    simp
  rw [hline, readTo_line hn hne (not_infix_line hn hne hb)]
  simp

/-- Nothing stands behind a tag that closes a body. -/
theorem closing_bodyTag {front back : String} (h : Text.contains body Routine.bodyTag = false)
    (ht : "\n" ++ body ++ "\n" ++ Routine.bodyTag = front ++ Routine.bodyTag ++ back) :
    back = "" := by
  obtain ⟨-, hfirst⟩ := (readTo_eq_some (by decide)).mp (readTo_bodyTag h [])
  have hchars : ("\n" ++ body ++ "\n").toList ++ (Routine.bodyTag.toList ++ []) =
      front.toList ++ (Routine.bodyTag.toList ++ back.toList) := by
    simpa using congrArg String.toList ht
  have hle := hfirst _ _ hchars
  have hlength := congrArg List.length hchars
  simp only [List.length_append, List.length_nil] at hle hlength
  have hback : back.toList.length = 0 := by omega
  exact String.toList_eq_nil_iff.mp (List.length_eq_zero_iff.mp hback)

/-- A body is read up to its end and not further. -/
theorem readString?_quoteBody (body : String) (h : behind.head? ≠ some '\'') :
    readString? ((Routine.quoteBody body).toList ++ behind) =
      some (Routine.bodyToken body, behind) := by
  unfold Routine.quoteBody Routine.bodyToken
  split
  · exact readString?_quoteLiteral body h
  · rename_i ht
    have htag : Routine.bodyTag.toList = '$' :: "fn".toList ++ ['$'] := rfl
    have hread := readTo_bodyTag (by simpa using ht) behind
    have hstring := readString?_tagged htag (by decide) hread
    rw [String.ofList_toList, String.ofList_toList] at hstring
    rw [← hstring]
    simp

end bodyTag

/-- A function is created by a statement in which nothing in front of `as` depends on the body.
Behind it stands a single text and then the semicolon. A body that does not hold the tag stands
between two of them on lines of its own, and the closing tag is the first one behind the opening
one; a body that does hold it is a literal. What is read is the trimmed body in both cases. -/
theorem Routine.body_is_enclosed (f : Routine) (hs : isBlankText f.signature = false) :
    ∃ head : String, ∀ body : String, isBlankText body = false →
      ∃ token : String,
        let made : Routine := { f with body := body }
        let statement := head ++ "as " ++ token ++ ";"
        made.block.changes.map Change.forward = [statement] ∧
          (∀ r : ChangeRequest, made ∈ r.desiredState.functions → statement ∈ r.compile.sql) ∧
          if Text.contains (trim body) "$fn$" then
            readString? (token ++ ";").toList = some (.literal (trim body), [';'])
          else
            let enclosed := "\n" ++ trim body ++ "\n"
            readString? (token ++ ";").toList = some (.tagged "$fn$" enclosed, [';']) ∧
              token = "$fn$" ++ enclosed ++ "$fn$" ∧
              ∀ front back, enclosed ++ "$fn$" = front ++ "$fn$" ++ back → back = "" := by
  refine ⟨f.head, fun body hb => ⟨quoteBody (trim body), ?_⟩⟩
  intro made statement
  have hstatement : made.createSql = statement := rfl
  have hchanges : made.block.changes.map Change.forward = [statement] := by
    rw [block_changes (f := made) hs hb, ← hstatement]
    rfl
  have hread : readString? ((quoteBody (trim body)).toList ++ [';']) =
      some (bodyToken (trim body), [';']) :=
    readString?_quoteBody (trim body) (by decide)
  refine ⟨hchanges, ?_, ?_⟩
  · intro r hr
    rw [← hstatement]
    exact ChangeRequest.function_mem_sql (f := made) hr hs hb
  · have htag : "$fn$" = bodyTag := rfl
    have hend : (quoteBody (trim body)).toList ++ [';'] =
        (quoteBody (trim body) ++ ";").toList := by
      simp
    rw [hend, bodyToken] at hread
    rw [htag]
    split
    · rename_i h
      rw [if_pos h] at hread
      exact hread
    · rename_i h
      rw [if_neg h] at hread
      refine ⟨hread, ?_, fun front back => closing_bodyTag (by simpa using h)⟩
      simp [quoteBody, h, String.append_assoc]

/-- A body with a piece of a tag at either end stands between tags. One that holds a whole tag, and
quotes besides, is a literal that ends where it should. -/
theorem Routine.body_is_enclosed_tags :
    let f : Routine := { signature := "touch()" }
    isBlankText f.signature = false ∧
      (∃ head, ({ f with body := " fn$ null; $fn" } : Routine).block.changes.map Change.forward =
        [head ++ "as " ++ "$fn$\nfn$ null; $fn\n$fn$" ++ ";"]) ∧
      ∃ head token, ({ f with body := "select '$fn$'';'" } : Routine).block.changes.map
          Change.forward = [head ++ "as " ++ token ++ ";"] ∧
        readString? (token ++ ";").toList = some (.literal "select '$fn$'';'", [';']) := by
  intro f
  have hs : isBlankText f.signature = false := by decide
  obtain ⟨head, hbody⟩ := body_is_enclosed f hs
  refine ⟨hs, ⟨head, ?_⟩, head, ?_⟩
  · obtain ⟨token, hchanges, -, hread⟩ := hbody " fn$ null; $fn" (by decide)
    rw [if_neg (by decide)] at hread
    have htoken : token = "$fn$\nfn$ null; $fn\n$fn$" := hread.2.1.trans (by decide)
    rw [hchanges, htoken]
  · obtain ⟨token, hchanges, -, hread⟩ := hbody "select '$fn$'';'" (by decide)
    rw [if_pos (by decide)] at hread
    have htrim : trim "select '$fn$'';'" = "select '$fn$'';'" := by decide
    rw [htrim] at hread
    exact ⟨token, hchanges, hread⟩

end Evolution
