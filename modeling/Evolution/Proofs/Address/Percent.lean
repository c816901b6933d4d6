import Evolution.Address.Percent
import Evolution.Proofs.Json.Text

/-! Percent-encoding, back and forth. A text can be written in more ways than one, since characters
that need not be encoded may be. -/
namespace Evolution.Address

open Text (hexValue? hexDigit)

variable {mustEncode : Char → Bool} {c : Char} {cs : List Char} {s text value : String}

section bytes

theorem utf8Bytes_eq (s : String) : utf8Bytes s = s.toList.flatMap String.utf8EncodeChar := by
  rw [utf8Bytes, String.toUTF8, ← String.ofList_toList (s := s), String.toByteArray_ofList,
    List.utf8Encode, String.toList_ofList, List.data_toByteArray]

theorem utf8Bytes_singleton (c : Char) :
    utf8Bytes (String.singleton c) = String.utf8EncodeChar c := by
  rw [utf8Bytes_eq, String.toList_singleton, List.flatMap_singleton]

theorem length_utf8EncodeChar (h : c.toNat ≤ 0x7F) : (String.utf8EncodeChar c).length = 1 := by
  rw [String.utf8EncodeChar, if_pos (show c.val.toNat ≤ 127 from h)]
  rfl

theorem encodeChar_ne_nil (mustEncode : Char → Bool) (c : Char) : encodeChar mustEncode c ≠ [] := by
  unfold encodeChar
  split
  · intro h
    have hpos := c.utf8Size_pos
    rw [utf8Bytes_singleton, List.flatMap_eq_nil_iff] at h
    rw [← String.length_utf8EncodeChar, List.length_pos_iff_exists_mem] at hpos
    obtain ⟨b, hb⟩ := hpos
    exact List.cons_ne_nil _ _ (h b hb)
  · exact List.cons_ne_nil _ _

theorem encode_ne_empty (mustEncode : Char → Bool) (h : s ≠ "") :
    encode mustEncode s.toList ≠ "" := by
  intro he
  rw [encode, String.ofList_eq_empty_iff, List.flatMap_eq_nil_iff] at he
  obtain ⟨c, hc⟩ := List.exists_mem_of_ne_nil s.toList (mt String.toList_eq_nil_iff.mp h)
  exact encodeChar_ne_nil mustEncode c (he c hc)

/-- A text is known by its bytes. -/
theorem decode?_eq_some_iff : decode? cs = some s ↔ decodedBytes cs = utf8Bytes s := by
  constructor
  · intro h
    unfold decode? String.fromUTF8? at h
    split at h
    · cases h
      rfl
    · cases h
  · intro h
    have hbytes : ByteArray.mk (decodedBytes cs).toArray = s.toByteArray := by
      rw [h]
      rfl
    rw [decode?, hbytes, String.fromUTF8?, dif_pos s.isValidUTF8]
    rfl

end bytes

section decodedBytes

theorem decodedBytes_cons (h : c ≠ '%') (rest : List Char) :
    decodedBytes (c :: rest) = String.utf8EncodeChar c ++ decodedBytes rest := by
  rw [decodedBytes, utf8Bytes_singleton]
  intro a b more hc
  exact absurd hc h

theorem decodedBytes_escape {a b : Char} {x y : Nat} (ha : hexValue? a = some x)
    (hb : hexValue? b = some y) (rest : List Char) :
    decodedBytes ('%' :: a :: b :: rest) = UInt8.ofNat (x * 16 + y) :: decodedBytes rest := by
  rw [decodedBytes, ha, hb]

/-- A digit may be a capital letter. -/
theorem hexValue?_toUpper {n : Nat} (h : n < 16) : hexValue? (hexDigit n).toUpper = some n := by
  revert n
  decide

theorem decodedBytes_encodeByte (b : UInt8) (rest : List Char) :
    decodedBytes (encodeByte b ++ rest) = b :: decodedBytes rest := by
  have hb := b.toNat_lt
  have hhigh := hexValue?_toUpper (n := b.toNat / 16) (by omega)
  have hlow := hexValue?_toUpper (n := b.toNat % 16) (by omega)
  have hsplit : b.toNat / 16 * 16 + b.toNat % 16 = b.toNat := by omega
  rw [encodeByte, List.cons_append, List.cons_append, List.cons_append, List.nil_append,
    decodedBytes_escape hhigh hlow, hsplit, UInt8.ofNat_toNat]

theorem decodedBytes_encodeChar (h : c = '%' → mustEncode c = true) (rest : List Char) :
    decodedBytes (encodeChar mustEncode c ++ rest) =
      String.utf8EncodeChar c ++ decodedBytes rest := by
  unfold encodeChar
  split
  · rw [utf8Bytes_singleton]
    generalize String.utf8EncodeChar c = bytes
    induction bytes with
    | nil => rfl
    | cons b bytes ih =>
      rw [List.flatMap_cons, List.append_assoc, decodedBytes_encodeByte, ih]
      rfl
  · rename_i hn
    refine decodedBytes_cons (fun hc => hn ?_) rest
    simp [h hc]

/-- What is encoded is decoded again. -/
theorem decode?_encode (h : mustEncode '%' = true) (s : String) :
    decode? (encode mustEncode s.toList).toList = some s := by
  rw [decode?_eq_some_iff, utf8Bytes_eq, encode, String.toList_ofList]
  induction s.toList with
  | nil => rfl
  | cons c cs ih =>
    rw [List.flatMap_cons, List.flatMap_cons, decodedBytes_encodeChar (fun hc => hc ▸ h), ih]

end decodedBytes

/-- Each percent sign stands in front of two digits. -/
def isEscaped : List Char → Bool
  | [] => true
  | '%' :: a :: b :: rest => (hexValue? a).isSome && (hexValue? b).isSome && isEscaped rest
  | c :: rest => c != '%' && isEscaped rest

section isEscaped

theorem isEscaped_cons (h : c ≠ '%') (rest : List Char) :
    isEscaped (c :: rest) = isEscaped rest := by
  rw [isEscaped, bne_iff_ne.mpr h, Bool.true_and]
  intro a b more hc
  exact absurd hc h

theorem isEscaped_encodeByte (b : UInt8) (rest : List Char) :
    isEscaped (encodeByte b ++ rest) = isEscaped rest := by
  have hb := b.toNat_lt
  have hhigh := hexValue?_toUpper (n := b.toNat / 16) (by omega)
  have hlow := hexValue?_toUpper (n := b.toNat % 16) (by omega)
  rw [encodeByte, List.cons_append, List.cons_append, List.cons_append, List.nil_append, isEscaped,
    hhigh, hlow]
  rfl

theorem isEscaped_encodeChar (h : c = '%' → mustEncode c = true) (rest : List Char) :
    isEscaped (encodeChar mustEncode c ++ rest) = isEscaped rest := by
  unfold encodeChar
  split
  · generalize utf8Bytes (String.singleton c) = bytes
    induction bytes with
    | nil => rfl
    | cons b bytes ih =>
      rw [List.flatMap_cons, List.append_assoc, isEscaped_encodeByte, ih]
  · rename_i hn
    refine isEscaped_cons (fun hc => hn ?_) rest
    simp [h hc]

/-- An escape stands for one byte in three characters. -/
theorem length_decodedBytes (h : isEscaped cs = true) (hc : ∀ c ∈ cs, c.toNat ≤ 0x7F) :
    (decodedBytes cs).length + 2 * cs.count '%' = cs.length := by
  have hpercent {a : Char} (ha : (hexValue? a).isSome = true) : a ≠ '%' := by
    rintro rfl
    revert ha
    decide
  induction cs using isEscaped.induct with
  | case1 => rfl
  | case2 a b rest ih =>
    simp only [isEscaped, Bool.and_eq_true] at h
    obtain ⟨⟨ha, hb⟩, hrest⟩ := h
    have ih := ih hrest fun c hm => hc c (.tail _ (.tail _ (.tail _ hm)))
    have hcount : ('%' :: a :: b :: rest).count '%' = rest.count '%' + 1 := by
      rw [List.count_cons_self, List.count_cons_of_ne (hpercent ha),
        List.count_cons_of_ne (hpercent hb)]
    obtain ⟨x, hx⟩ := Option.isSome_iff_exists.mp ha
    obtain ⟨y, hy⟩ := Option.isSome_iff_exists.mp hb
    rw [decodedBytes_escape hx hy, hcount]
    simp only [List.length_cons]
    omega
  | case3 c rest hne ih =>
    rw [isEscaped, Bool.and_eq_true, bne_iff_ne] at h
    · have ih := ih h.2 fun d hm => hc d (.tail _ hm)
      have hlength := length_utf8EncodeChar (hc c List.mem_cons_self)
      rw [decodedBytes_cons h.1, List.count_cons_of_ne h.1, List.length_append, List.length_cons]
      omega
    · exact hne

theorem decodedBytes_of_not_mem (h : '%' ∉ cs) :
    decodedBytes cs = cs.flatMap String.utf8EncodeChar := by
  induction cs with
  | nil => rfl
  | cons c cs ih =>
    rw [List.mem_cons, not_or] at h
    rw [decodedBytes_cons (Ne.symm h.1), ih h.2, List.flatMap_cons]

theorem length_flatMap_utf8EncodeChar (hc : ∀ c ∈ cs, c.toNat ≤ 0x7F) :
    (cs.flatMap String.utf8EncodeChar).length = cs.length := by
  induction cs with
  | nil => rfl
  | cons c cs ih =>
    obtain ⟨hhead, htail⟩ := List.forall_mem_cons.mp hc
    rw [List.flatMap_cons, List.length_append, ih htail, length_utf8EncodeChar hhead,
      List.length_cons, Nat.add_comm]

end isEscaped

/-- What need not be encoded stays as it is. -/
theorem encode_of_plain (h : ∀ c ∈ cs, c.toNat ≤ 0x7F ∧ mustEncode c = false) :
    encode mustEncode cs = String.ofList cs := by
  refine congrArg String.ofList ?_
  induction cs with
  | nil => rfl
  | cons c cs ih =>
    obtain ⟨⟨hascii, hplain⟩, hcs⟩ := List.forall_mem_cons.mp h
    have hc : encodeChar mustEncode c = [c] := by
      apply if_neg
      simp [hplain, hascii]
    rw [List.flatMap_cons, hc, ih hcs]
    rfl

/-- A text in ASCII that stands for another one. Percent signs, characters outside of ASCII and
those that `mustEncode` are written byte by byte; others may be. -/
structure Writes (mustEncode : Char → Bool) (text value : String) : Prop where
  plain : ∀ c ∈ text.toList, c.toNat ≤ 0x7F ∧ mustEncode c = false
  escaped : isEscaped text.toList = true
  value : decode? text.toList = some value

namespace Writes

theorem bytes (h : Writes mustEncode text value) : decodedBytes text.toList = utf8Bytes value :=
  decode?_eq_some_iff.mp h.value

theorem not_mem (h : Writes mustEncode text value) (hc : mustEncode c = true) :
    c ∉ text.toList := by
  intro hm
  rw [(h.plain c hm).2] at hc
  cases hc

/-- A text stands for itself exactly where there is nothing to decode. -/
theorem eq_iff (h : Writes mustEncode text value) : text = value ↔ '%' ∉ text.toList := by
  have hascii : ∀ c ∈ text.toList, c.toNat ≤ 0x7F := fun c hc => (h.plain c hc).1
  constructor
  · rintro rfl
    have hlength := length_decodedBytes h.escaped hascii
    rw [h.bytes, utf8Bytes_eq, length_flatMap_utf8EncodeChar hascii] at hlength
    rw [← List.count_eq_zero]
    omega
  · intro hn
    have hself : decode? text.toList = some text :=
      decode?_eq_some_iff.mpr ((decodedBytes_of_not_mem hn).trans (utf8Bytes_eq text).symm)
    exact Option.some.inj (hself.symm.trans h.value)

theorem encode_eq (h : Writes mustEncode text value) : encode mustEncode text.toList = text := by
  rw [encode_of_plain h.plain, String.ofList_toList]

end Writes

/-- The text that stands for another one with no more encoded than has to be. -/
def written (mustEncode : Char → Bool) (s : String) : String :=
  encode (fun c => mustEncode c || c == '%') s.toList

/-- Every text can be written, as long as percent signs and digits need not be encoded. -/
theorem writes_written (hp : mustEncode '%' = false)
    (hd : ∀ n < 16, mustEncode (hexDigit n).toUpper = false) (s : String) :
    Writes mustEncode (written mustEncode s) s where
  plain := by
    have hdigit : ∀ n < 16, (hexDigit n).toUpper.toNat ≤ 0x7F := by decide
    intro c hc
    rw [written, encode, String.toList_ofList, List.mem_flatMap] at hc
    obtain ⟨d, -, hc⟩ := hc
    unfold encodeChar at hc
    split at hc
    · obtain ⟨b, -, hc⟩ := List.mem_flatMap.mp hc
      have hb := b.toNat_lt
      simp only [encodeByte, List.mem_cons, List.not_mem_nil, or_false] at hc
      rcases hc with rfl | rfl | rfl
      · exact ⟨by decide, hp⟩
      · exact ⟨hdigit _ (by omega), hd _ (by omega)⟩
      · exact ⟨hdigit _ (by omega), hd _ (by omega)⟩
    · rename_i hn
      obtain rfl := List.mem_singleton.mp hc
      simp only [Bool.or_eq_true, beq_iff_eq, decide_eq_true_iff, not_or, Bool.not_eq_true] at hn
      exact ⟨Nat.not_lt.mp hn.2, hn.1.1⟩
  escaped := by
    rw [written, encode, String.toList_ofList]
    induction s.toList with
    | nil => rfl
    | cons c cs ih =>
      rw [List.flatMap_cons, isEscaped_encodeChar (fun hc => by simp [hc]), ih]
  value := decode?_encode (by simp) s

end Evolution.Address
