import Evolution.Json.Decode
import Evolution.Json.Printer

/-! The text of a JSON value has the shape of the value. -/
namespace Evolution

theorem Text.hexValue?_hexDigit {n : Nat} (h : n < 16) : hexValue? (hexDigit n) = some n := by
  have hall : ∀ d < 16, hexValue? (hexDigit d) = some d := by decide
  exact hall n h

namespace Json

open Text (hexDigit hexValue?_hexDigit)

section strings

variable {c : Char} {cs rest : List Char} {fuel : Nat}

theorem escapeChar_ne_nil (c : Char) : escapeChar c ≠ [] := by
  unfold escapeChar
  repeat' split
  all_goals simp

/-- An escape of a control character is read as that character. -/
theorem readEscape_control (h : c.toNat < 32) (rest : List Char) :
    readEscape ('u' :: '0' :: '0' :: hexDigit (c.toNat / 16) :: hexDigit (c.toNat % 16) :: rest) =
      some (some c, rest) := by
  have hhigh : Text.hexValue? (hexDigit (c.toNat / 16)) = some (c.toNat / 16) :=
    hexValue?_hexDigit (by omega)
  have hlow : Text.hexValue? (hexDigit (c.toNat % 16)) = some (c.toNat % 16) :=
    hexValue?_hexDigit (by omega)
  have hzero : Text.hexValue? '0' = some 0 := by decide
  have hsum : ((0 * 16 + 0) * 16 + c.toNat / 16) * 16 + c.toNat % 16 = c.toNat := by omega
  have hhigh' : ¬ (0xD800 ≤ c.toNat ∧ c.toNat ≤ 0xDBFF) := by omega
  have hlow' : ¬ (0xDC00 ≤ c.toNat ∧ c.toNat ≤ 0xDFFF) := by omega
  simp only [readEscape, readHex4, hzero, hhigh, hlow, Option.bind_eq_bind, Option.bind_some,
    pure, hsum, if_neg hhigh', if_neg hlow', Char.ofNat_toNat]

/-- The ways in which a character is written inside a literal. -/
inductive Escapes (c : Char) : List Char → Prop where
  | plain (hq : c ≠ '"') (hb : c ≠ '\\') (hn : ¬ c.toNat < 32) : Escapes c [c]
  | escaped {e} (h : ∀ rest, readEscape (e ++ rest) = some (some c, rest)) : Escapes c ('\\' :: e)

theorem escapeChar_cases (c : Char) : Escapes c (escapeChar c) := by
  have named {d : Char} (hn : c.toNat = d.toNat) : c = d := Char.toNat_inj.mp hn
  unfold escapeChar
  split
  · rename_i h
    subst h
    exact .escaped fun _ => rfl
  split
  · rename_i h
    subst h
    exact .escaped fun _ => rfl
  split
  · rename_i h
    obtain rfl := named (d := '\x08') h
    exact .escaped fun _ => rfl
  split
  · rename_i h
    obtain rfl := named (d := '\t') h
    exact .escaped fun _ => rfl
  split
  · rename_i h
    obtain rfl := named (d := '\n') h
    exact .escaped fun _ => rfl
  split
  · rename_i h
    obtain rfl := named (d := '\x0c') h
    exact .escaped fun _ => rfl
  split
  · rename_i h
    obtain rfl := named (d := '\r') h
    exact .escaped fun _ => rfl
  split
  · rename_i h
    exact .escaped (readEscape_control h)
  · exact .plain ‹_› ‹_› ‹_›

/-- One escaped character in front of the rest of a literal. -/
theorem readLiteral_escapeChar (c : Char) (fuel : Nat) (rest : List Char) :
    readLiteral (fuel + 1) (escapeChar c ++ rest) =
      (readLiteral fuel rest).map fun p => (p.1.map (c :: ·), p.2) := by
  have h := escapeChar_cases c
  generalize escapeChar c = written at h
  cases h with
  | plain hq hb hn =>
    simp only [List.singleton_append, readLiteral, hn, if_false]
    cases readLiteral fuel rest <;> rfl
  | escaped h =>
    simp only [List.cons_append, readLiteral, h, Option.bind_eq_bind, Option.bind_some]
    rcases readLiteral fuel rest with _ | ⟨_ | _, _⟩ <;> rfl

theorem readLiteral_escaped (hf : cs.length < fuel) (rest : List Char) :
    readLiteral fuel (cs.flatMap escapeChar ++ '"' :: rest) = some (some cs, rest) := by
  induction cs generalizing fuel with
  | nil =>
    obtain ⟨n, rfl⟩ : ∃ n, fuel = n + 1 := ⟨fuel - 1, by simp at hf; omega⟩
    rfl
  | cons c cs ih =>
    obtain ⟨n, rfl⟩ : ∃ n, fuel = n + 1 := ⟨fuel - 1, by simp at hf; omega⟩
    rw [List.flatMap_cons, List.append_assoc, readLiteral_escapeChar,
      ih (by simpa using hf)]
    rfl

theorem length_le_escaped (cs : List Char) : cs.length ≤ (cs.flatMap escapeChar).length := by
  induction cs with
  | nil => simp
  | cons c cs ih =>
    have hc := List.length_pos_iff.mpr (escapeChar_ne_nil c)
    simp only [List.length_cons, List.flatMap_cons, List.length_append]
    omega

theorem toList_renderString (s : String) :
    (renderString s).toList = '"' :: (s.toList.flatMap escapeChar ++ ['"']) := by
  simp [renderString, String.toList_append, String.toList_ofList]

theorem readString_escaped (s : String) (rest : List Char) :
    readString (s.toList.flatMap escapeChar ++ '"' :: rest) = ⟨.string (some s), some rest⟩ := by
  have hl := length_le_escaped s.toList
  unfold readString
  rw [readLiteral_escaped (by simp only [List.length_append, List.length_cons]; omega)]
  simp [String.ofList_toList]

end strings

section values

/-- Nothing that follows can be taken for a part of a number. -/
def Closes (rest : List Char) : Prop :=
  ∀ c ∈ rest.head?, c = ',' ∨ c = ']' ∨ c = '\x7d'

/-- The text of a number begins as one and is read as this one. -/
structure Number.Readable (n : Number) : Prop where
  head : ∃ c cs, n.render.toList = c :: cs ∧ (c = '-' ∨ isDigit c = true)
  read {rest} : Closes rest → readNumber (n.render.toList ++ rest) = some (some n, rest)

mutual

/-- All numbers in a value are readable. -/
def Value.Readable : Value → Prop
  | .number n => n.Readable
  | .array items => ItemsReadable items
  | .object members => MembersReadable members
  | .null | .bool _ | .string _ => True

def ItemsReadable : List Value → Prop
  | [] => True
  | v :: rest => v.Readable ∧ ItemsReadable rest

def MembersReadable : List (String × Value) → Prop
  | [] => True
  | (_, v) :: rest => v.Readable ∧ MembersReadable rest

end

/-- What follows an item up to the end of its array. -/
def itemsEnd : List Value → List Char
  | [] => [']']
  | v :: rest => ',' :: (v.render.toList ++ itemsEnd rest)

/-- A member without the comma in front of it. -/
def memberText (m : String × Value) : List Char :=
  (renderString m.1).toList ++ ':' :: m.2.render.toList

/-- What follows a member up to the end of its object. -/
def membersEnd : List (String × Value) → List Char
  | [] => ['\x7d']
  | m :: rest => ',' :: (memberText m ++ membersEnd rest)

theorem toList_render_array (v : Value) (rest : List Value) :
    (Value.array (v :: rest)).render.toList = '[' :: (v.render.toList ++ itemsEnd rest) := by
  have h : (",".intercalate (renderItems (v :: rest))).toList ++ [']'] =
      v.render.toList ++ itemsEnd rest := by
    induction rest generalizing v with
    | nil => simp [renderItems, itemsEnd]
    | cons w rest ih =>
      rw [itemsEnd, ← ih, renderItems, renderItems, String.intercalate_cons_cons]
      simp [String.toList_append]
  simp only [Value.render, String.toList_append, List.append_assoc]
  exact congrArg ('[' :: ·) h

theorem toList_render_object (m : String × Value) (rest : List (String × Value)) :
    (Value.object (m :: rest)).render.toList = '\x7b' :: (memberText m ++ membersEnd rest) := by
  have h : (",".intercalate (renderMembers (m :: rest))).toList ++ ['\x7d'] =
      memberText m ++ membersEnd rest := by
    induction rest generalizing m with
    | nil => simp [renderMembers, membersEnd, memberText]
    | cons w rest ih =>
      rw [membersEnd, ← ih, renderMembers, renderMembers, String.intercalate_cons_cons]
      simp [String.toList_append, memberText]
  simp only [Value.render, String.toList_append, List.append_assoc]
  exact congrArg ('\x7b' :: ·) h

/-! A value, an item and a member are read to their ends. Two calls for each character are enough:
the first item of an array takes three, and a bracket closes the array after it. -/

variable {c : Char} {cs more rest : List Char} {fuel : Nat} {n : Number} {t : Tree}
  {s : Option String} {ts : List Tree} {ms : List (Tree × Tree)}

theorem skipSpace_cons (h : isSpace c = false) (cs : List Char) :
    skipSpace (c :: cs) = c :: cs := by
  simp [skipSpace, h]

/-- Nothing but a sign or a digit begins a number. -/
theorem Number.Readable.head_ne (h : n.Readable) :
    ∃ c cs, n.render.toList = c :: cs ∧ isSpace c = false ∧
      ∀ d, d ≠ '-' → isDigit d = false → c ≠ d := by
  obtain ⟨c, cs, hc, hd⟩ := h.head
  have hne : ∀ d, d ≠ '-' → isDigit d = false → c ≠ d := by
    rintro d hm hn rfl
    rcases hd with rfl | hd
    · exact hm rfl
    · cases hd.symm.trans hn
  refine ⟨c, cs, hc, ?_, hne⟩
  simp [isSpace, hne ' ' (by decide) (by decide), hne '\n' (by decide) (by decide),
    hne '\t' (by decide) (by decide), hne '\r' (by decide) (by decide)]

/-- A value begins with a character that is no blank and closes nothing. -/
theorem Value.render_head {v : Value} (hv : v.Readable) :
    ∃ c cs, v.render.toList = c :: cs ∧ isSpace c = false ∧ c ≠ ']' := by
  cases v with
  | null => exact ⟨'n', _, rfl, by decide⟩
  | bool b => cases b with
    | false => exact ⟨'f', _, rfl, by decide⟩
    | true => exact ⟨'t', _, rfl, by decide⟩
  | number n =>
    simp only [Value.Readable] at hv
    obtain ⟨c, cs, h, hs, hne⟩ := hv.head_ne
    exact ⟨c, cs, h, hs, hne _ (by decide) (by decide)⟩
  | string s => exact ⟨'"', _, toList_renderString s, by decide⟩
  | array items => exact ⟨'[', _, by simp [Value.render, String.toList_append]; rfl, by decide⟩
  | object members =>
    exact ⟨'\x7b', _, by simp [Value.render, String.toList_append]; rfl, by decide⟩

theorem readValue_string (s : String) (fuel : Nat) (rest : List Char) :
    readValue (fuel + 1) ((renderString s).toList ++ rest) = ⟨.string (some s), some rest⟩ := by
  rw [toList_renderString, List.cons_append, readValue, skipSpace_cons (by decide)]
  simp only [List.append_assoc, List.singleton_append, readString_escaped]
  rfl

theorem readValue_number (h : n.Readable) (hr : Closes rest) (fuel : Nat) :
    readValue (fuel + 1) (n.render.toList ++ rest) = ⟨.number (some n), some rest⟩ := by
  have hread := h.read hr
  obtain ⟨c, cs, hc, hs, hne⟩ := h.head_ne
  rw [hc, List.cons_append] at hread ⊢
  rw [readValue, skipSpace_cons hs]
  simp only [hne 'n' (by decide) (by decide), hne 't' (by decide) (by decide),
    hne 'f' (by decide) (by decide), hne '"' (by decide) (by decide),
    hne '[' (by decide) (by decide), hne '\x7b' (by decide) (by decide), if_false, readNumeral,
    hread]

theorem readValue_array (h : readItems fuel true cs = (ts, true, some rest)) :
    readValue (fuel + 1) ('[' :: cs) = ⟨.array ts true, some rest⟩ := by
  rw [readValue, skipSpace_cons (by decide)]
  simp [h]

theorem readValue_object (h : readMembers fuel true cs = (ms, true, some rest)) :
    readValue (fuel + 1) ('\x7b' :: cs) = ⟨.object ms true, some rest⟩ := by
  rw [readValue, skipSpace_cons (by decide)]
  simp [h]

theorem readItems_first (hs : isSpace c = false) (hc : c ≠ ']') :
    readItems (fuel + 1) true (c :: cs) = readItem fuel (c :: cs) := by
  rw [readItems, skipSpace_cons hs]
  simp [hc]

theorem readItems_comma (hs : isSpace c = false) (hc : c ≠ ']') :
    readItems (fuel + 1) false (',' :: c :: cs) = readItem fuel (c :: cs) := by
  rw [readItems, skipSpace_cons (by decide)]
  simp [skipSpace_cons hs, hc]

theorem readMembers_first (hs : isSpace c = false) (hc : c ≠ '\x7d') :
    readMembers (fuel + 1) true (c :: cs) = readMember fuel (c :: cs) := by
  rw [readMembers, skipSpace_cons hs]
  simp [hc]

theorem readMembers_comma (hs : isSpace c = false) (hc : c ≠ '\x7d') :
    readMembers (fuel + 1) false (',' :: c :: cs) = readMember fuel (c :: cs) := by
  rw [readMembers, skipSpace_cons (by decide)]
  simp [skipSpace_cons hs, hc]

theorem readItem_ok (hv : readValue fuel cs = ⟨t, some more⟩)
    (hi : readItems fuel false more = (ts, true, some rest)) :
    readItem (fuel + 1) cs = (t :: ts, true, some rest) := by
  simp only [readItem, hv, hi]

theorem readMember_ok (hk : readValue fuel cs = ⟨.string s, some (':' :: more)⟩)
    (hv : readValue fuel more = ⟨t, some rest⟩)
    {rest' : List Char} (hm : readMembers fuel false rest = (ms, true, some rest')) :
    readMember (fuel + 1) cs = ((.string s, t) :: ms, true, some rest') := by
  simp only [readMember, hk, skipSpace_cons (c := ':') (by decide), hv, hm]

theorem itemsEnd_ne_nil (vs : List Value) : itemsEnd vs ≠ [] := by
  cases vs <;> simp [itemsEnd]

theorem membersEnd_ne_nil (ms : List (String × Value)) : membersEnd ms ≠ [] := by
  cases ms <;> simp [membersEnd]

theorem closes_itemsEnd (vs : List Value) (rest : List Char) : Closes (itemsEnd vs ++ rest) := by
  cases vs <;> simp [itemsEnd, Closes]

theorem closes_membersEnd (ms : List (String × Value)) (rest : List Char) :
    Closes (membersEnd ms ++ rest) := by
  cases ms <;> simp [membersEnd, Closes]

theorem memberText_append (m : String × Value) (rest : List Char) :
    memberText m ++ rest = (renderString m.1).toList ++ ':' :: (m.2.render.toList ++ rest) := by
  simp [memberText]

theorem memberText_head (m : String × Value) : ∃ cs, memberText m = '"' :: cs :=
  ⟨_, by rw [memberText, toList_renderString]; rfl⟩

mutual

/-- The text of a value is read to its end, and as that value. Two steps for a character are more
than enough. -/
theorem readValue_render (v : Value) (fuel : Nat) (rest : List Char) (hv : v.Readable)
    (hr : Closes rest) (hf : 2 * v.render.toList.length ≤ fuel) :
    readValue fuel (v.render.toList ++ rest) = ⟨v.tree, some rest⟩ := by
  cases v with
  | null =>
    obtain ⟨n, rfl⟩ : ∃ n, fuel = n + 1 := ⟨fuel - 1, by simp [Value.render] at hf; omega⟩
    rfl
  | bool b =>
    obtain ⟨n, rfl⟩ : ∃ n, fuel = n + 1 :=
      ⟨fuel - 1, by cases b <;> simp [Value.render] at hf <;> omega⟩
    cases b <;> rfl
  | number n =>
    simp only [Value.Readable] at hv
    simp only [Value.render] at hf ⊢
    have hpos : 0 < n.render.toList.length := by
      obtain ⟨c, cs, hc, -⟩ := hv.head
      simp [hc]
    obtain ⟨n, rfl⟩ : ∃ n, fuel = n + 1 := ⟨fuel - 1, by omega⟩
    exact readValue_number hv hr n
  | string s =>
    simp only [Value.render, toList_renderString, List.length_cons] at hf
    obtain ⟨n, rfl⟩ : ∃ n, fuel = n + 1 := ⟨fuel - 1, by omega⟩
    exact readValue_string s n rest
  | array items =>
    cases items with
    | nil =>
      obtain ⟨n, rfl⟩ : ∃ n, fuel = n + 2 :=
        ⟨fuel - 2, by simp [Value.render, renderItems] at hf; omega⟩
      rfl
    | cons v vs =>
      simp only [Value.Readable, ItemsReadable] at hv
      obtain ⟨c, cs, hc, hs, hn⟩ := v.render_head hv.1
      have hpos := List.length_pos_iff.mpr (itemsEnd_ne_nil vs)
      have hpos' : 0 < v.render.toList.length := by simp [hc]
      rw [toList_render_array] at hf ⊢
      simp only [List.length_cons, List.length_append] at hf
      obtain ⟨n, rfl⟩ : ∃ n, fuel = n + 3 := ⟨fuel - 3, by omega⟩
      have hitem := readValue_render v n _ hv.1 (closes_itemsEnd vs rest) (by omega)
      have hitems := readItems_render vs n rest hv.2 (by omega)
      have h := readItem_ok hitem hitems
      rw [hc, List.cons_append, ← readItems_first hs hn] at h
      rw [hc, List.cons_append, List.append_assoc, List.cons_append, readValue_array h]
      rfl
  | object members =>
    cases members with
    | nil =>
      obtain ⟨n, rfl⟩ : ∃ n, fuel = n + 2 :=
        ⟨fuel - 2, by simp [Value.render, renderMembers] at hf; omega⟩
      rfl
    | cons m ms =>
      obtain ⟨k, v⟩ := m
      simp only [Value.Readable, MembersReadable] at hv
      obtain ⟨cs, hc⟩ := memberText_head (k, v)
      have hpos := List.length_pos_iff.mpr (membersEnd_ne_nil ms)
      rw [toList_render_object] at hf ⊢
      simp only [List.length_cons, List.length_append, memberText, toList_renderString] at hf
      obtain ⟨n, rfl⟩ : ∃ n, fuel = n + 1 + 3 := ⟨fuel - 4, by omega⟩
      have hkey := readValue_string k n (':' :: (v.render.toList ++ (membersEnd ms ++ rest)))
      have hvalue := readValue_render v (n + 1) _ hv.1 (closes_membersEnd ms rest) (by omega)
      have hmembers := readMembers_render ms (n + 1) rest hv.2 (by omega)
      have h := readMember_ok hkey hvalue hmembers
      rw [← memberText_append (k, v), hc, List.cons_append,
        ← readMembers_first (by decide) (by decide)] at h
      rw [List.cons_append, List.append_assoc, hc, List.cons_append, readValue_object h]
      rfl

theorem readItems_render (vs : List Value) (fuel : Nat) (rest : List Char)
    (hv : ItemsReadable vs) (hf : 2 * (itemsEnd vs).length ≤ fuel) :
    readItems fuel false (itemsEnd vs ++ rest) = (treesOf vs, true, some rest) := by
  cases vs with
  | nil =>
    obtain ⟨n, rfl⟩ : ∃ n, fuel = n + 1 := ⟨fuel - 1, by simp [itemsEnd] at hf; omega⟩
    rfl
  | cons v vs =>
    simp only [ItemsReadable] at hv
    obtain ⟨c, cs, hc, hs, hn⟩ := v.render_head hv.1
    rw [itemsEnd] at hf ⊢
    simp only [List.length_cons, List.length_append] at hf
    obtain ⟨n, rfl⟩ : ∃ n, fuel = n + 2 := ⟨fuel - 2, by omega⟩
    have hitem := readValue_render v n _ hv.1 (closes_itemsEnd vs rest) (by omega)
    have hitems := readItems_render vs n rest hv.2 (by omega)
    have h := readItem_ok hitem hitems
    rw [hc, List.cons_append, ← readItems_comma hs hn] at h
    rw [hc, List.cons_append, List.append_assoc, List.cons_append, h]
    rfl

theorem readMembers_render (ms : List (String × Value)) (fuel : Nat) (rest : List Char)
    (hv : MembersReadable ms) (hf : 2 * (membersEnd ms).length ≤ fuel) :
    readMembers fuel false (membersEnd ms ++ rest) = (memberTreesOf ms, true, some rest) := by
  cases ms with
  | nil =>
    obtain ⟨n, rfl⟩ : ∃ n, fuel = n + 1 := ⟨fuel - 1, by simp [membersEnd] at hf; omega⟩
    rfl
  | cons m ms =>
    obtain ⟨k, v⟩ := m
    simp only [MembersReadable] at hv
    obtain ⟨cs, hc⟩ := memberText_head (k, v)
    rw [membersEnd] at hf ⊢
    simp only [List.length_cons, List.length_append, memberText, toList_renderString] at hf
    obtain ⟨n, rfl⟩ : ∃ n, fuel = n + 1 + 2 := ⟨fuel - 3, by omega⟩
    have hkey := readValue_string k n (':' :: (v.render.toList ++ (membersEnd ms ++ rest)))
    have hvalue := readValue_render v (n + 1) _ hv.1 (closes_membersEnd ms rest) (by omega)
    have hmembers := readMembers_render ms (n + 1) rest hv.2 (by omega)
    have h := readMember_ok hkey hvalue hmembers
    rw [← memberText_append (k, v), hc, List.cons_append,
      ← readMembers_comma (by decide) (by decide)] at h
    rw [List.cons_append, List.append_assoc, hc, List.cons_append, h]
    rfl

end

/-- A value is read back from its text, by whatever reads its shape. -/
theorem decodeText_render {α : Type} (decode : Decoder α) {v : Value} (hv : v.Readable) :
    decodeText decode v.render = decode maxDepth v.tree := by
  have h := readValue_render v (3 * v.render.toList.length + 3) [] hv
    (by simp [Closes]) (by omega)
  rw [List.append_nil] at h
  simp only [decodeText, readText, h, Read.ends, skipSpace]
  cases decode maxDepth v.tree <;> rfl

mutual

/-- The characters of the text of a value, where they can be had without the text. -/
def Value.chars : Value → List Char
  | .array [] => ['[', ']']
  | .array (v :: rest) => '[' :: (v.chars ++ charsOfItems rest)
  | .object [] => ['\x7b', '\x7d']
  | .object ((k, v) :: rest) =>
    '\x7b' :: ((renderString k).toList ++ ':' :: (v.chars ++ charsOfMembers rest))
  | v => v.render.toList

/-- Those of an array behind its first item. -/
def charsOfItems : List Value → List Char
  | [] => [']']
  | v :: rest => ',' :: (v.chars ++ charsOfItems rest)

/-- Those of an object behind its first member. -/
def charsOfMembers : List (String × Value) → List Char
  | [] => ['\x7d']
  | (k, v) :: rest => ',' :: ((renderString k).toList ++ ':' :: (v.chars ++ charsOfMembers rest))

end

mutual

theorem Value.toList_render (v : Value) : v.render.toList = v.chars := by
  cases v with
  | array items =>
    cases items with
    | nil => rfl
    | cons v rest => rw [toList_render_array, v.toList_render, itemsEnd_eq_chars, Value.chars]
  | object members =>
    cases members with
    | nil => rfl
    | cons m rest =>
      rw [toList_render_object, memberText_append, m.2.toList_render, membersEnd_eq_chars,
        Value.chars]
  | _ => rfl

theorem itemsEnd_eq_chars (vs : List Value) : itemsEnd vs = charsOfItems vs := by
  cases vs with
  | nil => rfl
  | cons v rest => rw [itemsEnd, v.toList_render, itemsEnd_eq_chars, charsOfItems]

theorem membersEnd_eq_chars (ms : List (String × Value)) : membersEnd ms = charsOfMembers ms := by
  cases ms with
  | nil => rfl
  | cons m rest =>
    rw [membersEnd, memberText_append, m.2.toList_render, membersEnd_eq_chars, charsOfMembers]

end

end values
end Json
end Evolution
