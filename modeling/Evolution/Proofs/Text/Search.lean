import Evolution.Text.Word
import Mathlib.Data.List.Infix

/-! What the searches in a text find: a part of it, a character, a word that stands alone. -/
namespace Evolution.Text

section part

variable {part whole : List Char} {s t : String} {c : Char}

theorem occursIn_iff_within : occursIn part whole = true ↔ part <:+: whole := by
  induction whole with
  | nil => simp [occursIn]
  | cons c whole ih =>
    rw [occursIn, Bool.or_eq_true, ih, List.isPrefixOf_iff_prefix, List.infix_cons_iff]

theorem contains_iff_within : contains s t = true ↔ t.toList <:+: s.toList :=
  occursIn_iff_within

theorem contains_char (h : t.toList = [c]) : contains s t = true ↔ c ∈ s.toList := by
  rw [contains_iff_within, h, List.singleton_infix_iff]

end part

/-- No character of a word stands at the end of this. -/
def EndsWord (c : Option Char) : Prop :=
  c.any isWordChar = false

/-- The word, given in lower case, stands alone in the text, whatever the case of its letters;
`before` is the character in front of the text. -/
def StandsAlone (word : List Char) (before : Option Char) (cs : List Char) : Prop :=
  ∃ front found behind, cs = front ++ (found ++ behind) ∧ found.map lowerAscii = word ∧
    EndsWord (front.getLast?.or before) ∧ EndsWord behind.head?

section word

variable {word cs : List Char} {before : Option Char} {f : Char → Char} {s : String}

theorem beginsWithWord_iff : beginsWithWord word cs = true ↔
    ∃ found behind, cs = found ++ behind ∧ found.map lowerAscii = word ∧ EndsWord behind.head? := by
  rw [beginsWithWord, Bool.and_eq_true, beq_iff_eq, Bool.not_eq_true']
  constructor
  · rintro ⟨hword, hend⟩
    exact ⟨_, _, (List.take_append_drop word.length cs).symm, hword.symm, hend⟩
  · rintro ⟨found, behind, rfl, rfl, hend⟩
    exact ⟨by simp, by simpa [EndsWord] using hend⟩

/-- What stands last in front of a word is a character of the text, or else what is in front of
it. -/
theorem getLast?_cons_or (c : Char) (front : List Char) (before : Option Char) :
    (c :: front).getLast?.or before = front.getLast?.or (some c) := by
  rw [List.getLast?_cons, Option.some_or, Option.or_some]

theorem hasWordFrom_iff (hw : word ≠ []) :
    hasWordFrom word before cs = true ↔ StandsAlone word before cs := by
  induction cs generalizing before with
  | nil =>
    refine iff_of_false nofun ?_
    rintro ⟨front, found, behind, hnil, hfound, -⟩
    simp only [List.nil_eq, List.append_eq_nil_iff] at hnil
    exact hw (by simp [← hfound, hnil])
  | cons c cs ih =>
    rw [hasWordFrom, Bool.or_eq_true, Bool.and_eq_true, Bool.not_eq_true', beginsWithWord_iff, ih]
    constructor
    · rintro (⟨hb, found, behind, hcs, hfound, hend⟩ |
        ⟨front, found, behind, rfl, hfound, hb, hend⟩)
      · exact ⟨[], found, behind, hcs, hfound, hb, hend⟩
      · exact ⟨c :: front, found, behind, rfl, hfound, getLast?_cons_or c front before ▸ hb, hend⟩
    · rintro ⟨front, found, behind, hcs, hfound, hb, hend⟩
      cases front with
      | nil => exact .inl ⟨hb, found, behind, hcs, hfound, hend⟩
      | cons d front =>
        obtain ⟨rfl, rfl⟩ := List.cons.inj hcs
        exact .inr ⟨front, found, behind, rfl, hfound, getLast?_cons_or _ front before ▸ hb, hend⟩

theorem hasWord_iff (hw : s ≠ "") {t : String} :
    hasWord s t = true ↔ StandsAlone s.toList none t.toList :=
  hasWordFrom_iff (by simpa using hw)

theorem endsWord_map (hf : ∀ c, isWordChar (f c) = isWordChar c) {c : Option Char} :
    EndsWord (c.map f) ↔ EndsWord c := by
  cases c <;> simp [EndsWord, hf]

/-- Other characters may be exchanged, as long as they are in a word or not as before. -/
theorem standsAlone_map (hf : ∀ c, isWordChar (f c) = isWordChar c)
    (hw : ∀ c, lowerAscii c ∈ word ∨ lowerAscii (f c) ∈ word → f c = c) :
    StandsAlone word none (cs.map f) ↔ StandsAlone word none cs := by
  have hlast {front : List Char} : EndsWord ((front.map f).getLast?.or none) ↔
      EndsWord (front.getLast?.or none) := by
    rw [List.getLast?_map, Option.or_none, Option.or_none, endsWord_map hf]
  have hhead {behind : List Char} : EndsWord (behind.map f).head? ↔ EndsWord behind.head? := by
    rw [List.head?_map, endsWord_map hf]
  constructor
  · rintro ⟨front, found, behind, hcs, hfound, hb, hend⟩
    obtain ⟨front, rest, rfl, rfl, hrest⟩ := List.map_eq_append_iff.mp hcs
    obtain ⟨found, behind, rfl, rfl, rfl⟩ := List.map_eq_append_iff.mp hrest
    refine ⟨front, found, behind, rfl, ?_, hlast.mp hb, hhead.mp hend⟩
    rw [← hfound, List.map_map]
    refine List.map_congr_left fun c hc => congrArg lowerAscii (hw c (.inr ?_)).symm
    rw [← hfound, List.map_map]
    exact List.mem_map_of_mem (f := lowerAscii ∘ f) hc
  · rintro ⟨front, found, behind, rfl, hfound, hb, hend⟩
    refine ⟨front.map f, found.map f, behind.map f, by simp, ?_, hlast.mpr hb, hhead.mpr hend⟩
    rw [← hfound, List.map_map]
    refine List.map_congr_left fun c hc => congrArg lowerAscii (hw c (.inl ?_))
    rw [← hfound]
    exact List.mem_map_of_mem hc

end word
end Evolution.Text
