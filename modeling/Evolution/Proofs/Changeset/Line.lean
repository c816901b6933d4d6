import Evolution.Changeset.Block
import Mathlib.Data.List.Basic

/-! Texts written one after the other, each closed by a line break. What was written can be told
from the whole where no text goes on past the end of another. Statements hold line breaks of their
own, between the lines of a table, around the body of a function, inside quotes; the form of a
statement tells which line break closes it. -/
namespace Evolution

open Sql

/-- The texts one after the other, each with a line break behind it. -/
def written (texts : List (List Char)) : List Char :=
  texts.flatMap (· ++ ['\n'])

/-- A text closed by a line break is the beginning of another one. -/
def Opens (s t : List Char) : Prop :=
  s ++ ['\n'] <+: t

section written

variable {s t u v : List Char} {xs ys : List (List Char)}

@[simp]
theorem written_nil : written [] = [] := rfl

@[simp]
theorem written_cons (s : List Char) (xs : List (List Char)) :
    written (s :: xs) = s ++ '\n' :: written xs := by
  simp [written]

/-- Two texts at the beginning of the same are equal, or one goes on where the other is closed. -/
theorem eq_or_opens (h : s ++ '\n' :: u = t ++ '\n' :: v) :
    (s = t ∧ u = v) ∨ Opens s t ∨ Opens t s := by
  obtain ⟨as, ht, hu⟩ | ⟨as, hs, hv⟩ := List.append_eq_append_iff.mp h
  · cases as with
    | nil =>
      rw [List.append_nil] at ht
      exact .inl ⟨ht.symm, (List.cons.inj hu).2⟩
    | cons c as =>
      obtain ⟨rfl, -⟩ := List.cons.inj hu
      exact .inr (.inl ⟨as, by simp [ht]⟩)
  · cases as with
    | nil =>
      rw [List.append_nil] at hs
      exact .inl ⟨hs, (List.cons.inj hv).2.symm⟩
    | cons c as =>
      obtain ⟨rfl, -⟩ := List.cons.inj hv
      exact .inr (.inr ⟨as, by simp [hs]⟩)

theorem not_opens_line (hn : '\n' ∉ t) : ¬ Opens s t := by
  rintro ⟨rest, rfl⟩
  simp at hn

/-- A line goes as far as its line break. -/
theorem line_inj (hs : '\n' ∉ s) (ht : '\n' ∉ t) (h : s ++ '\n' :: u = t ++ '\n' :: v) :
    s = t ∧ u = v := by
  obtain h | h | h := eq_or_opens h
  · exact h
  · exact absurd h (not_opens_line ht)
  · exact absurd h (not_opens_line hs)

/-- What follows the texts, `u` or `v`, cannot be taken for one of them. -/
theorem written_inj_or_opens (hx : ∀ s ∈ xs, ∀ r, s ++ '\n' :: r ≠ v)
    (hy : ∀ s ∈ ys, ∀ r, s ++ '\n' :: r ≠ u) (h : written xs ++ u = written ys ++ v) :
    (xs = ys ∧ u = v) ∨
      ∃ s t, (s ∈ xs ∧ t ∈ ys ∨ s ∈ ys ∧ t ∈ xs) ∧ Opens s t := by
  induction xs generalizing ys with
  | nil =>
    cases ys with
    | nil => exact .inl ⟨rfl, h⟩
    | cons t ys => exact absurd (by simpa using h.symm) (hy t List.mem_cons_self _)
  | cons s xs ih =>
    cases ys with
    | nil => exact absurd (by simpa using h) (hx s List.mem_cons_self _)
    | cons t ys =>
      simp only [written_cons, List.append_assoc, List.cons_append] at h
      obtain ⟨rfl, hrest⟩ | ho | ho := eq_or_opens h
      · obtain ⟨rfl, huv⟩ | ⟨a, b, hm, ho⟩ :=
          ih (fun a ha => hx a (List.mem_cons_of_mem _ ha))
            (fun b hb => hy b (List.mem_cons_of_mem _ hb)) hrest
        · exact .inl ⟨rfl, huv⟩
        · refine .inr ⟨a, b, hm.imp ?_ ?_, ho⟩ <;>
            exact .imp (List.mem_cons_of_mem _) (List.mem_cons_of_mem _)
      · exact .inr ⟨s, t, .inl ⟨List.mem_cons_self, List.mem_cons_self⟩, ho⟩
      · exact .inr ⟨t, s, .inr ⟨List.mem_cons_self, List.mem_cons_self⟩, ho⟩

end written

/-- All line breaks stand inside quotes, and no quote is left open. `inside` tells whether one is
open at the beginning. -/
inductive Enclosed : Bool → List Char → Prop where
  | nil : Enclosed false []
  | cons {inside : Bool} {c : Char} {cs : List Char} (hn : c = '\n' → inside = true)
      (h : Enclosed (inside ^^ (c == '\'')) cs) : Enclosed inside (c :: cs)

section Enclosed

variable {inside : Bool} {s t u v : List Char}

theorem Enclosed.append (hs : Enclosed inside s) (ht : Enclosed false t) :
    Enclosed inside (s ++ t) := by
  induction hs with
  | nil => exact ht
  | cons hn _ ih => exact .cons hn ih

/-- What holds neither a line break nor a quote. -/
theorem enclosed_of_plain (hn : '\n' ∉ s) (hq : '\'' ∉ s) : Enclosed false s := by
  induction s with
  | nil => exact .nil
  | cons c s ih =>
    simp only [List.mem_cons, not_or] at hn hq
    refine .cons (fun h => absurd h.symm hn.1) ?_
    rw [beq_eq_false_iff_ne.mpr (Ne.symm hq.1)]
    exact ih hn.2 hq.2

theorem enclosed_doubleQuotes (cs : List Char) : Enclosed true (doubleQuotes cs ++ ['\'']) := by
  induction cs with
  | nil => exact .cons (fun _ => rfl) .nil
  | cons c cs ih =>
    simp only [doubleQuotes]
    split
    · -- the first of the two quotes closes, and the second opens again
      exact .cons (fun _ => rfl) (.cons (by decide) ih)
    · rename_i hc
      refine .cons (fun _ => rfl) ?_
      rw [beq_eq_false_iff_ne.mpr hc]
      exact ih

theorem enclosed_quoteLiteral (text : String) : Enclosed false (quoteLiteral text).toList := by
  rw [quoteLiteral, String.toList_ofList, List.cons_append]
  exact .cons (by decide) (enclosed_doubleQuotes text.toList)

theorem enclosed_intercalate {sep : List Char} {items : List (List Char)}
    (hs : Enclosed false sep) (h : ∀ i ∈ items, Enclosed false i) :
    Enclosed false (sep.intercalate items) := by
  induction items with
  | nil => exact .nil
  | cons i items ih =>
    obtain ⟨hi, h⟩ := List.forall_mem_cons.mp h
    cases items with
    | nil => simpa using hi
    | cons j items =>
      rw [List.intercalate_cons_cons]
      exact (hi.append hs).append (ih h)

/-- The line break that closes such a text is the first one outside quotes. -/
theorem Enclosed.inj (hs : Enclosed inside s) (ht : Enclosed inside t)
    (h : s ++ '\n' :: u = t ++ '\n' :: v) : s = t ∧ u = v := by
  induction hs generalizing t with
  | nil =>
    cases ht with
    | nil => exact ⟨rfl, (List.cons.inj h).2⟩
    | cons hn => cases hn (List.cons.inj h).1.symm
  | cons hn _ ih =>
    cases ht with
    | nil => cases hn (List.cons.inj h).1
    | cons _ ht =>
      obtain ⟨rfl, hrest⟩ := List.cons.inj h
      obtain ⟨rfl, rfl⟩ := ih ht hrest
      exact ⟨rfl, rfl⟩

end Enclosed

/-- The body of a function as it stands in a statement: between tags, which it does not hold, or as
a literal. -/
inductive Bodied : List Char → Prop where
  | tagged {body : List Char} (h : ¬ Routine.bodyTag.toList <:+: body) :
      Bodied (Routine.bodyTag.toList ++ '\n' :: (body ++ '\n' :: Routine.bodyTag.toList))
  | literal (body : String) : Bodied (quoteLiteral body).toList

section Bodied

variable {s t u v tag : List Char}

/-- A tag that stands behind a line break does not begin in front of it. -/
theorem infix_of_tag_behind {as : List Char} (hn : '\n' ∉ tag) (hu : as ++ '\n' :: v = tag ++ u) :
    tag <:+: as := by
  obtain ⟨bs, rfl, hv⟩ | ⟨bs, rfl, -⟩ := List.append_eq_append_iff.mp hu
  · cases bs with
    | nil => exact ⟨[], [], by simp⟩
    | cons b bs =>
      obtain ⟨rfl, -⟩ := List.cons.inj hv
      simp at hn
  · exact ⟨[], bs, by simp⟩

/-- What closes a body is the first tag after it. -/
theorem tag_inj (hn : '\n' ∉ tag) (hs : ¬ tag <:+: s) (ht : ¬ tag <:+: t)
    (h : s ++ '\n' :: (tag ++ u) = t ++ '\n' :: (tag ++ v)) : s = t ∧ u = v := by
  obtain ⟨as, rfl, hu⟩ | ⟨as, rfl, hv⟩ := List.append_eq_append_iff.mp h
  · cases as with
    | nil => simpa using hu
    | cons c as =>
      have ha := infix_of_tag_behind hn (List.cons.inj hu).2.symm
      exact absurd (ha.trans ⟨s ++ [c], [], by simp⟩) ht
  · cases as with
    | nil => simpa using hv.symm
    | cons c as =>
      have ha := infix_of_tag_behind hn (List.cons.inj hv).2.symm
      exact absurd (ha.trans ⟨t ++ [c], [], by simp⟩) hs

/-- A body is told from what follows it, as long as that does not go on with a quote. -/
theorem Bodied.inj (hs : Bodied s) (ht : Bodied t)
    (h : s ++ ';' :: '\n' :: u = t ++ ';' :: '\n' :: v) : s = t ∧ u = v := by
  have hn : '\n' ∉ Routine.bodyTag.toList := by decide
  have hq (body : String) : ∃ cs, (quoteLiteral body).toList = '\'' :: cs :=
    ⟨doubleQuotes body.toList ++ ['\''], String.toList_ofList⟩
  cases hs with
  | tagged hs =>
    cases ht with
    | tagged ht =>
      simp only [List.append_assoc, List.cons_append] at h
      have h := (List.cons.inj (List.append_cancel_left h)).2
      obtain ⟨rfl, hrest⟩ := tag_inj hn hs ht h
      exact ⟨rfl, by simpa using hrest⟩
    | literal body =>
      obtain ⟨cs, hcs⟩ := hq body
      rw [hcs] at h
      cases (List.cons.inj h).1
  | literal body =>
    cases ht with
    | tagged ht =>
      obtain ⟨cs, hcs⟩ := hq body
      rw [hcs] at h
      cases (List.cons.inj h).1
    | literal body' =>
      have he (body : String) : Enclosed false ((quoteLiteral body).toList ++ [';']) :=
        (enclosed_quoteLiteral body).append (enclosed_of_plain (by decide) (by decide))
      have h := (he body).inj (he body') (by simpa using h)
      exact ⟨List.append_cancel_right h.1, h.2⟩

end Bodied

/-- The four ways in which a statement is laid out. -/
inductive Layout where
  | line
  | table
  | function
  | row
  deriving DecidableEq

/-- How a text that begins with a statement lays it out. The eighth character tells a function from
everything else, and the end of the first line the others. -/
def Layout.of (text : List Char) : Layout :=
  if text[7]? = some 'o' then .function
  else
    match (text.takeWhile (· ≠ '\n')).getLast? with
    | some '(' => .table
    | some ')' => .row
    | _ => .line

/-- The beginning of a statement that is not one of a function. -/
def Starts (cs : List Char) : Prop :=
  ∃ c, cs[7]? = some c ∧ c ≠ 'o'

/-- A statement in its layout. -/
inductive LaidOut : Layout → List Char → Prop where
  | line {text : List Char} (hs : Starts text) (hn : '\n' ∉ text)
      (he : text.getLast? = some ';') : LaidOut .line text
  | table {head : List Char} {rows : List (List Char)} (hs : Starts head) (hn : '\n' ∉ head)
      (he : head.getLast? = some '(') (hr : ∀ row ∈ rows, '\n' ∉ row ∧ row.head? ≠ some ')') :
      LaidOut .table (head ++ '\n' :: (written rows ++ [')', ';']))
  | row {head values last : List Char} (hs : Starts head) (hn : '\n' ∉ head)
      (he : head.getLast? = some ')') (hv : Enclosed false values) (hl : '\n' ∉ last) :
      LaidOut .row (head ++ '\n' :: (values ++ '\n' :: last))
  | function {head returns language security body : List Char}
      (hs : head[7]? = some 'o') (hh : '\n' ∉ head) (hr : '\n' ∉ returns) (hl : '\n' ∉ language)
      (hd : security = [] ∨ security = "security definer\n".toList) (hb : Bodied body) :
      LaidOut .function (head ++ '\n' :: (returns ++ '\n' :: (language ++ '\n' ::
        (security ++ 'a' :: 's' :: ' ' :: (body ++ [';'])))))

section LaidOut

variable {l : Layout} {s t u v : List Char}

theorem Starts.append (h : Starts s) (t : List Char) : Starts (s ++ t) := by
  obtain ⟨c, hc, ho⟩ := h
  exact ⟨c, List.getElem?_append_left (List.getElem?_eq_some_iff.mp hc).1 ▸ hc, ho⟩

theorem Layout.of_starts (hs : Starts s) (hn : '\n' ∉ s) (rest : List Char) :
    of (s ++ '\n' :: rest) =
      match s.getLast? with
      | some '(' => .table
      | some ')' => .row
      | _ => .line := by
  obtain ⟨c, hc, ho⟩ := hs.append ('\n' :: rest)
  have hline : (s ++ '\n' :: rest).takeWhile (· ≠ '\n') = s := by
    have hall : ∀ c ∈ s, decide (c ≠ '\n') = true := by
      intro c hc
      exact decide_eq_true (ne_of_mem_of_not_mem hc hn)
    rw [List.takeWhile_append_of_pos hall]
    simp
  rw [of, hc, hline, if_neg (by simpa using ho)]

/-- What stands behind a statement does not change how it is laid out. -/
theorem LaidOut.of (h : LaidOut l s) (rest : List Char) :
    Layout.of (s ++ '\n' :: rest) = l := by
  cases h with
  | line hs hn he =>
    rw [Layout.of_starts hs hn, he]
    rfl
  | table hs hn he | row hs hn he =>
    rw [List.append_assoc, List.cons_append, Layout.of_starts hs hn, he]
    rfl
  | function hs =>
    have hlt := (List.getElem?_eq_some_iff.mp hs).1
    rw [Layout.of, List.append_assoc, List.getElem?_append_left hlt, hs, if_pos rfl]

/-- The rows of a table end with the first line that begins with a parenthesis. -/
theorem rows_inj {rows rows' : List (List Char)}
    (hr : ∀ row ∈ rows, '\n' ∉ row ∧ row.head? ≠ some ')')
    (hr' : ∀ row ∈ rows', '\n' ∉ row ∧ row.head? ≠ some ')')
    (h : written rows ++ ')' :: u = written rows' ++ ')' :: v) : rows = rows' ∧ u = v := by
  have closed {row rest u : List Char} (hrow : row.head? ≠ some ')')
      (h : row ++ '\n' :: rest = ')' :: u) : False := by
    cases row with
    | nil => cases (List.cons.inj h).1
    | cons c row => exact hrow (congrArg some (List.cons.inj h).1)
  induction rows generalizing rows' with
  | nil =>
    cases rows' with
    | nil => exact ⟨rfl, (List.cons.inj h).2⟩
    | cons row' rows' => exact (closed (hr' row' List.mem_cons_self).2 (by simpa using h.symm)).elim
  | cons row rows ih =>
    obtain ⟨⟨hn, hc⟩, hrows⟩ := List.forall_mem_cons.mp hr
    cases rows' with
    | nil => exact (closed hc (by simpa using h)).elim
    | cons row' rows' =>
      obtain ⟨⟨hn', -⟩, hrows'⟩ := List.forall_mem_cons.mp hr'
      simp only [written_cons, List.append_assoc, List.cons_append] at h
      obtain ⟨rfl, hrest⟩ := line_inj hn hn' h
      obtain ⟨rfl, rfl⟩ := ih hrows hrows' hrest
      exact ⟨rfl, rfl⟩

/-- The line on the rights of a function is there, or the body follows at once. -/
theorem security_inj {security security' : List Char}
    (hd : security = [] ∨ security = "security definer\n".toList)
    (hd' : security' = [] ∨ security' = "security definer\n".toList)
    (h : security ++ 'a' :: 's' :: ' ' :: u = security' ++ 'a' :: 's' :: ' ' :: v) :
    security = security' ∧ u = v := by
  rcases hd with rfl | rfl <;> rcases hd' with rfl | rfl
  · simpa using h
  · cases (List.cons.inj h).1
  · cases (List.cons.inj h).1
  · simpa using h

theorem LaidOut.inj {l' : Layout} (hs : LaidOut l s) (ht : LaidOut l' t)
    (h : s ++ '\n' :: u = t ++ '\n' :: v) : s = t ∧ u = v := by
  obtain rfl : l = l' := by
    rw [← hs.of u, h, ht.of v]
  cases hs with
  | line _ hn =>
    cases ht with
    | line _ hn' => exact line_inj hn hn' h
  | table _ hn _ hr =>
    cases ht with
    | table _ hn' _ hr' =>
      simp only [List.append_assoc, List.cons_append, List.nil_append] at h
      obtain ⟨rfl, hrows⟩ := line_inj hn hn' h
      obtain ⟨rfl, hend⟩ := rows_inj hr hr' hrows
      exact ⟨rfl, by simpa using hend⟩
  | row _ hn _ hv hl =>
    cases ht with
    | row _ hn' _ hv' hl' =>
      simp only [List.append_assoc, List.cons_append] at h
      obtain ⟨rfl, hvalues⟩ := line_inj hn hn' h
      obtain ⟨rfl, hlast⟩ := hv.inj hv' hvalues
      obtain ⟨rfl, hend⟩ := line_inj hl hl' hlast
      exact ⟨rfl, hend⟩
  | function _ hh hr hl hd hb =>
    cases ht with
    | function _ hh' hr' hl' hd' hb' =>
      simp only [List.append_assoc, List.cons_append, List.nil_append] at h
      obtain ⟨rfl, hreturns⟩ := line_inj hh hh' h
      obtain ⟨rfl, hlanguage⟩ := line_inj hr hr' hreturns
      obtain ⟨rfl, hsecurity⟩ := line_inj hl hl' hlanguage
      obtain ⟨rfl, hbody⟩ := security_inj hd hd' hsecurity
      obtain ⟨rfl, hend⟩ := hb.inj hb' hbody
      exact ⟨rfl, hend⟩

/-- No statement goes on where another is closed. -/
theorem LaidOut.not_opens {l' : Layout} (hs : LaidOut l s) (ht : LaidOut l' t) : ¬ Opens s t := by
  rintro ⟨rest, h⟩
  have hr : rest ++ ['\n'] = [] := by
    refine (hs.inj ht (u := rest ++ ['\n']) (v := []) ?_).2
    simp [← h]
  simp at hr

end LaidOut
end Evolution
