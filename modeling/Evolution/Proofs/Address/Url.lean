import Evolution.Address.Url
import Evolution.Proofs.Address.Percent
import Evolution.Proofs.Text.Split
import Mathlib.Data.List.TakeWhile

/-! The address of a service that is not one of the web's, back into what it was put together of. -/
namespace Evolution.Address.Url

variable {s : String} {cs : List Char}

theorem cleaned_eq (h : ∀ c ∈ s.toList, 0x20 < c.toNat) : cleaned s = s.toList := by
  have hdrop {cs : List Char} (hc : ∀ c ∈ cs, 0x20 < c.toNat) :
      cs.dropWhile (fun c => decide (c.toNat ≤ 0x20)) = cs := by
    cases cs with
    | nil => rfl
    | cons c cs =>
      apply List.dropWhile_cons_of_neg
      have hc := hc c List.mem_cons_self
      simpa using hc
  have hreverse : ∀ c ∈ s.toList.reverse, 0x20 < c.toNat := by
    intro c hc
    exact h c (List.mem_reverse.mp hc)
  rw [cleaned, hdrop h, hdrop hreverse, List.reverse_reverse, List.filter_eq_self]
  intro c hc
  have hn := h c hc
  simp only [Bool.not_eq_true', Bool.or_eq_false_iff, decide_eq_false_iff_not]
  refine ⟨⟨?_, ?_⟩, ?_⟩ <;> rintro rfl <;> exact absurd hn (by decide)

theorem scheme?_postgresql (rest : List Char) :
    scheme? ("postgresql".toList ++ ':' :: rest) = some ("postgresql", rest) := by
  rfl

theorem takeHost_append {hs : List Char} (hc : ':' ∉ hs) (hb : '[' ∉ hs) (back : List Char) :
    takeHost false (hs ++ ':' :: back) = hs := by
  induction hs with
  | nil => rfl
  | cons c hs ih =>
    rw [List.mem_cons, not_or] at hc hb
    have hcolon : (c = ':' && !false) ≠ true := by simpa using Ne.symm hc.1
    have hopen : (c = '[' || (false && c != ']')) = false := by simpa using Ne.symm hb.1
    rw [List.cons_append, takeHost, if_neg hcolon, hopen, ih hc.2 hb.2]

theorem port?_toDigits {port : Nat} (h : port ≤ 65535) (ds : List Char) :
    port? (Nat.toDigits 10 port ++ '/' :: ds) = some (some port, '/' :: ds) := by
  have htake : (Nat.toDigits 10 port ++ '/' :: ds).takeWhile Text.isDecimalDigit =
      Nat.toDigits 10 port := by
    rw [List.takeWhile_append_of_pos fun c hc => Text.isDecimalDigit_of_mem_toDigits hc]
    rw [List.takeWhile_cons_of_neg (by decide), List.append_nil]
  have hdrop : (Nat.toDigits 10 port ++ '/' :: ds).dropWhile Text.isDecimalDigit = '/' :: ds := by
    rw [List.dropWhile_append_of_pos fun c hc => Text.isDecimalDigit_of_mem_toDigits hc]
    exact List.dropWhile_cons_of_neg (by decide)
  have hempty : (Nat.toDigits 10 port).isEmpty = false := by
    rw [List.isEmpty_eq_false_iff]
    exact Nat.toDigits_ne_nil
  rw [port?, htake, hdrop, Text.decimalValue_toDigits, if_neg (Nat.not_lt.mpr h), hempty]
  rfl

theorem endsAuthority_eq_false (p : Char → Bool) {c : Char} (h : p c = false) (hs : p '/' = true)
    (hq : p '?' = true) (hf : p '#' = true) : endsAuthority false c = false := by
  have hne {d : Char} (hd : p d = true) : c ≠ d := by
    rintro rfl
    rw [hd] at h
    cases h
  simp [endsAuthority, isSlash, hne hs, hne hq, hne hf]

/-- A name and a password in front of a host and a port, and then a path. -/
theorem withAuthority?_append (u : Url) (us ps hs ds : List Char) {host : String} {port : Nat}
    (hend : ∀ c ∈ us ++ ':' :: ps ++ '@' :: (hs ++ ':' :: Nat.toDigits 10 port),
      endsAuthority false c = false)
    (hname : ':' ∉ us) (hat : '@' ∉ hs) (hcolon : ':' ∉ hs) (hopen : '[' ∉ hs)
    (hhost : opaqueHost? hs = some host) (hne : host ≠ "") (hport : port ≤ 65535) :
    withAuthority? false u
        (us ++ ':' :: ps ++ '@' :: (hs ++ ':' :: Nat.toDigits 10 port) ++ '/' :: ds) =
      some (withPath false
        { u with
          user := encode inUserSet us
          password := encode inUserSet ps
          host := some host
          port := some port } ('/' :: ds)) := by
  have htake : (us ++ ':' :: ps ++ '@' :: (hs ++ ':' :: Nat.toDigits 10 port) ++
      '/' :: ds).takeWhile (fun c => !endsAuthority false c) =
      us ++ ':' :: ps ++ '@' :: (hs ++ ':' :: Nat.toDigits 10 port) := by
    rw [List.takeWhile_append_of_pos fun c hc => by rw [hend c hc]; rfl]
    rw [List.takeWhile_cons_of_neg (by decide), List.append_nil]
  have hplace : '@' ∉ hs ++ ':' :: Nat.toDigits 10 port := by
    rw [List.mem_append, List.mem_cons, not_or, not_or]
    refine ⟨hat, by decide, fun hm => ?_⟩
    exact absurd (Text.isDecimalDigit_of_mem_toDigits hm) (by decide)
  have huser : withUser u (us ++ ':' :: ps) =
      { u with user := encode inUserSet us, password := encode inUserSet ps } := by
    rw [withUser, Text.splitFirstChars_append hname]
  have hempty : (us ++ ':' :: ps).isEmpty = false := by
    rw [List.isEmpty_eq_false_iff]
    simp
  simp only [withAuthority?, htake, Text.splitLastChars_append _ hplace, Option.getD_some, hempty,
    huser, takeHost_append hcolon hopen, hhost, List.drop_left]
  simp [port?_toDigits hport, hne]

/-- Nothing is encoded in a path that is written already. -/
theorem segments_of_written {d v : String} (h : Writes inPathSet d v) :
    segments false d.toList = Text.splitAll '/' d := by
  apply List.map_congr_left
  intro piece hp
  apply encode_of_plain
  intro c hc
  exact h.plain c (Text.mem_of_mem_splitAllChars hp hc)

theorem withPath_of_written {u : Url} {d v : String} (h : Writes inPathSet d v) :
    withPath false u ('/' :: d.toList) =
      { u with path := "/" ++ "/".intercalate (resolveDots [] (Text.splitAll '/' d)) } := by
  have hnot {c : Char} (hc : inPathSet c = true) (hs : c ≠ '/') : c ∉ '/' :: d.toList := by
    rw [List.mem_cons, not_or]
    exact ⟨hs, h.not_mem hc⟩
  have htake : ('/' :: d.toList).takeWhile (· != '#') = '/' :: d.toList := by
    rw [List.takeWhile_eq_self_iff]
    intro c hc
    apply bne_iff_ne.mpr
    rintro rfl
    exact hnot (by decide) (by decide) hc
  have hsplit := Text.splitFirstChars_of_not_mem (hnot (c := '?') (by decide) (by decide))
  rw [withPath, htake, hsplit, ← segments_of_written h]
  rfl

/-- Where there are no dots, all segments stay. -/
theorem resolveDots_of_dotless {done segments : List String}
    (h : ∀ segment ∈ segments, isDoubleDot segment = false ∧ isSingleDot segment = false) :
    resolveDots done segments = done.reverse ++ segments := by
  induction segments generalizing done with
  | nil => exact (List.append_nil _).symm
  | cons segment segments ih =>
    obtain ⟨⟨hdouble, hsingle⟩, hrest⟩ := List.forall_mem_cons.mp h
    unfold resolveDots
    simp only [hdouble, hsingle, Bool.false_eq_true, if_false]
    rw [ih hrest, List.reverse_cons, List.append_assoc]
    rfl

end Evolution.Address.Url
