import Evolution.Proofs.Json.Text

/-! Whole numbers of 64 bits, with a sign or without, are read as they are written. -/
namespace Evolution.Json

variable {c : Char} {ds cs rest : List Char} {n word count : Nat} {negative : Bool}

section digits

theorem digitValue?_of_isDigit (h : c.isDigit = true) : digitValue? c = some (c.toNat - 48) := by
  have hd : '0' ≤ c ∧ c ≤ '9' := by
    simpa [Char.isDigit, Char.le_def] using h
  exact if_pos hd

theorem Closes.digitValue? (h : Closes rest) : ∀ c ∈ rest.head?, digitValue? c = none := by
  intro c hc
  obtain rfl | rfl | rfl := h c hc <;> decide

theorem le_ofDigitChars (ds : List Char) (word : Nat) : word ≤ Nat.ofDigitChars 10 ds word := by
  rw [Nat.ofDigitChars_eq_ofDigitChars_zero]
  have h := Nat.le_mul_of_pos_left word (Nat.pow_pos (n := ds.length) (show 0 < 10 by decide))
  omega

/-- All digits are taken as long as their number fits. -/
theorem takeWord_digits (hd : ∀ c ∈ ds, c.isDigit = true)
    (hw : Nat.ofDigitChars 10 ds word ≤ maxWord) (hr : ∀ c ∈ rest.head?, digitValue? c = none) :
    takeWord word count (ds ++ rest) = (Nat.ofDigitChars 10 ds word, count + ds.length, rest) := by
  induction ds generalizing word count with
  | nil =>
    cases rest with
    | nil => rfl
    | cons c rest =>
      rw [List.nil_append, takeWord, hr c rfl]
      rfl
  | cons c ds ih =>
    have hc := digitValue?_of_isDigit (hd c List.mem_cons_self)
    have hstep : word * 10 + (c.toNat - 48) = 10 * word + (c.toNat - '0'.toNat) := by
      rw [Nat.mul_comm]
      rfl
    rw [Nat.ofDigitChars_cons, ← hstep] at hw ⊢
    have hfit : word * 10 + (c.toNat - 48) ≤ maxWord := Nat.le_trans (le_ofDigitChars ds _) hw
    rw [List.cons_append, takeWord, hc]
    simp only [if_pos hfit]
    rw [ih (fun x hx => hd x (List.mem_cons_of_mem _ hx)) hw, List.length_cons]
    congr 2
    omega

/-- Only zero begins with a zero. -/
theorem head_toDigits_ne (hn : n ≠ 0) : ∃ c cs, Nat.toDigits 10 n = c :: cs ∧ c ≠ '0' := by
  induction n using Nat.strongRecOn with
  | _ n ih =>
    by_cases hlt : n < 10
    · refine ⟨_, _, Nat.toDigits_of_lt_base hlt, ?_⟩
      have hall : ∀ d < 10, d ≠ 0 → d.digitChar ≠ '0' := by decide
      exact hall n hlt hn
    · obtain ⟨c, cs, hc, hz⟩ := ih (n / 10) (by omega) (by omega)
      refine ⟨c, cs ++ [(n % 10).digitChar], ?_, hz⟩
      rw [Nat.toDigits_of_base_le (by decide) (by omega), hc]
      rfl

end digits

section whole

theorem not_isDigit_head (hr : ∀ c ∈ rest.head?, digitValue? c = none) :
    rest.head?.any isDigit = false := by
  cases rest with
  | nil => rfl
  | cons c rest => simp [isDigit, hr c rfl]

theorem readUnsigned_toDigits (hn : n ≤ maxWord) (hr : Closes rest) :
    readUnsigned negative (Nat.toDigits 10 n ++ rest) = readAfterWhole negative n rest := by
  have hdigit : ∀ c ∈ Nat.toDigits 10 n, c.isDigit = true := fun c hc =>
    Nat.isDigit_of_mem_toDigits (by decide) (by decide) hc
  have hend := not_isDigit_head hr.digitValue?
  by_cases hz : n = 0
  · subst hz
    change (if rest.head?.any isDigit = true then _ else _) = _
    rw [hend]
    rfl
  · obtain ⟨c, cs, hc, hne⟩ := head_toDigits_ne hz
    have hword : Nat.ofDigitChars 10 cs (c.toNat - 48) = n := by
      have h := Nat.ofDigitChars_ten_toDigits (n := n)
      rw [hc, Nat.ofDigitChars_cons] at h
      simpa using h
    have htake : takeWord (c.toNat - 48) 0 (cs ++ rest) = (n, 0 + cs.length, rest) := by
      have hcs : ∀ x ∈ cs, x.isDigit = true := fun x hx =>
        hdigit x (hc ▸ List.mem_cons_of_mem _ hx)
      rw [takeWord_digits hcs (hword ▸ hn) hr.digitValue?, hword]
    have hv := digitValue?_of_isDigit (hdigit c (hc ▸ List.mem_cons_self))
    rw [hc, List.cons_append]
    unfold readUnsigned
    split
    · rename_i hx
      exact (hne (List.cons.inj hx).1).elim
    · rename_i hx
      obtain ⟨rfl, rfl⟩ := List.cons.inj hx
      simp [hv, htake, hend]
    · rename_i hx
      cases hx

theorem readAfterWhole_closed (hr : Closes rest) :
    readAfterWhole negative n rest =
      if negative then
        if n = 0 ∨ 0x8000000000000000 < n then some (doubleOf true n 0, rest)
        else some (some (.int (-n)), rest)
      else some (some (.int n), rest) := by
  unfold readAfterWhole
  split
  · rcases hr _ rfl with h | h | h <;> cases h
  · rcases hr _ rfl with h | h | h <;> cases h
  · rcases hr _ rfl with h | h | h <;> cases h
  · rfl

theorem exists_digit_toDigits (n : Nat) :
    ∃ c cs, Nat.toDigits 10 n = c :: cs ∧ isDigit c = true := by
  obtain ⟨c, cs, hc⟩ := List.exists_cons_of_ne_nil (Nat.toDigits_ne_nil (n := n) (b := 10))
  have hd : c.isDigit = true :=
    Nat.isDigit_of_mem_toDigits (by decide) (by decide) (hc ▸ List.mem_cons_self)
  exact ⟨c, cs, hc, by simp [isDigit, digitValue?_of_isDigit hd]⟩

theorem readNumber_digit (h : isDigit c = true) (cs : List Char) :
    readNumber (c :: cs) = readUnsigned false (c :: cs) := by
  unfold readNumber
  split
  · rename_i hc
    obtain ⟨rfl, -⟩ := List.cons.inj hc
    cases h
  · rfl

theorem Number.readable_natural (hn : n ≤ maxWord) : (Number.int n).Readable := by
  have ht : (Number.int n).render.toList = Nat.toDigits 10 n := Nat.toList_repr
  obtain ⟨c, cs, hc, hd⟩ := exists_digit_toDigits n
  constructor
  · exact ⟨c, cs, ht.trans hc, .inr hd⟩
  · intro rest hr
    have h : readUnsigned false (Nat.toDigits 10 n ++ rest) = readAfterWhole false n rest :=
      readUnsigned_toDigits hn hr
    rw [hc, List.cons_append] at h
    rw [ht, hc, List.cons_append, readNumber_digit hd, h, readAfterWhole_closed hr]
    rfl

theorem Number.readable_negative (hn : n + 1 ≤ 0x8000000000000000) :
    (Number.int (.negSucc n)).Readable := by
  have ht : (Number.int (.negSucc n)).render.toList = '-' :: Nat.toDigits 10 (n + 1) := by
    change ("-" ++ (n + 1).repr).toList = _
    rw [String.toList_append, Nat.toList_repr]
    rfl
  have hword : n + 1 ≤ maxWord := Nat.le_trans hn (by decide)
  have hfit : ¬ (n + 1 = 0 ∨ 0x8000000000000000 < n + 1) := by omega
  constructor
  · exact ⟨'-', _, ht, .inl rfl⟩
  · intro rest hr
    rw [ht, List.cons_append]
    change readUnsigned true _ = _
    rw [readUnsigned_toDigits hword hr, readAfterWhole_closed hr, if_pos rfl, if_neg hfit]
    rfl

theorem Number.readable_int {n : Int} (hl : -0x8000000000000000 ≤ n) (hh : n ≤ 0xFFFFFFFFFFFFFFFF) :
    (Number.int n).Readable := by
  cases n with
  | ofNat n =>
    refine readable_natural ?_
    have hn : (n : Int) ≤ maxWord := hh
    omega
  | negSucc n => exact readable_negative (by omega)

end whole
end Evolution.Json
