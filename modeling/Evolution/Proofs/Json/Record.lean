import Evolution.Json.Record
import Evolution.Proofs.Json.Order
import Mathlib.Data.List.Nodup

/-! What is written for a value of a type is read as this value, in whatever order the members of
its objects are written: for names and numbers, for options and lists, and for records field by
field. -/
namespace Evolution.Json

variable {α β : Type} {decode : Decoder α} {encode : α → Value} {depth : Nat} {v w : Value} {a : α}

/-- A value is read as `a`, from its text as well, where so many arrays and objects may be
opened. -/
structure Restores (decode : Decoder α) (depth : Nat) (v : Value) (a : α) : Prop where
  readable : v.Readable
  reordered {w : Value} : Reordered v w → decode depth w.tree = .ok a

namespace Restores

theorem decodeText (h : Restores decode maxDepth v a) (hw : Reordered v w) :
    Json.decodeText decode w.render = .ok a :=
  (decodeText_render decode (hw.readable h.readable)).trans (h.reordered hw)

section scalars

theorem string {s : String} : Restores decodeString depth (.string s) s :=
  ⟨trivial, by rintro _ ⟨⟩; rfl⟩

theorem bool {b : Bool} : Restores decodeBool depth (.bool b) b :=
  ⟨trivial, by rintro _ ⟨⟩; rfl⟩

theorem int {low high n : Int} (hn : (Number.int n).Readable) (hl : low ≤ n) (hh : n ≤ high) :
    Restores (decodeInt low high) depth (.int n) n := by
  refine ⟨hn, ?_⟩
  rintro _ ⟨⟩
  change (if low ≤ n ∧ n ≤ high then _ else _) = _
  rw [if_pos ⟨hl, hh⟩]

theorem enum {named? : String → Option α} {s : String} (h : named? s = some a) :
    Restores (decodeEnum named?) depth (.string s) a := by
  refine ⟨trivial, ?_⟩
  rintro _ ⟨⟩
  change (named? s).elim _ _ = _
  rw [h]
  rfl

theorem value (hr : v.Readable) (hf : v.Fits depth) : Restores decodeValue depth v v :=
  ⟨hr, fun hw => hw.decodeValue hf.ordered hf.nesting⟩

/-- Nothing but none is written as null. -/
theorem option {o : Option α} (h : ∀ a ∈ o, encode a ≠ .null ∧ Restores decode depth (encode a) a) :
    Restores (decodeOption decode) depth (.ofOption encode o) o := by
  cases o with
  | none => exact ⟨trivial, by rintro _ ⟨⟩; rfl⟩
  | some a =>
    obtain ⟨hn, ha⟩ := h a rfl
    refine ⟨ha.readable, ?_⟩
    intro w hw
    have hd := ha.reordered hw
    have ht : w.tree ≠ .null := hw.tree_ne_null hn
    change decodeOption decode depth w.tree = _
    cases hv : w.tree with
    | null => exact (ht hv).elim
    | _ => simp [decodeOption, ← hv, hd, Except.map]

end scalars

section lists

variable {xs : List α}

theorem items {vs : List Value} (h : ∀ a ∈ xs, Restores decode depth (encode a) a)
    (hv : ItemsReordered (xs.map encode) vs) :
    decodeItems decode depth true (treesOf vs) = .ok xs := by
  induction xs generalizing vs with
  | nil =>
    cases hv
    rfl
  | cons a xs ih =>
    obtain - | ⟨hv, hvs⟩ := hv
    have ha := (h a List.mem_cons_self).reordered hv
    have hxs := ih (fun x hx => h x (List.mem_cons_of_mem _ hx)) hvs
    rw [treesOf, Json.decodeItems, ha, hxs]
    rfl

theorem list (h : ∀ a ∈ xs, Restores decode depth (encode a) a) :
    Restores (decodeList decode) (depth + 1) (.array (xs.map encode)) xs := by
  constructor
  · rw [Value.Readable, itemsReadable_iff]
    intro v hv
    obtain ⟨a, ha, rfl⟩ := List.mem_map.mp hv
    exact (h a ha).readable
  · rintro _ ⟨⟩
    rename_i hv
    rw [Value.tree]
    exact items h hv

theorem strings {texts : List String} :
    Restores (decodeList decodeString) (depth + 1) (.strings texts) texts :=
  list fun _ _ => string

end lists

end Restores

section records

variable {fields rest : List (RecordField α)} {seen : List String} {f : RecordField α}
  {puts : List (String × (α → α))} {ms : List (String × Value)} {b blank : α}

/-- Each field is written for `a`, and put into any record with its value, in whatever order the
members of the value are written. -/
inductive Copies (depth : Nat) (a : α) : List (RecordField α) → List (String × (α → α)) → Prop where
  | nil : Copies depth a [] []
  | cons {f : RecordField α} {rest : List (RecordField α)} {v : Value} {put : α → α}
      {puts : List (String × (α → α))} (hw : f.write a = some v) (hv : v.Readable)
      (hr : ∀ w, Reordered v w → ∀ b, f.read depth w.tree b = .ok (put b))
      (h : Copies depth a rest puts) : Copies depth a (f :: rest) ((f.name, put) :: puts)

/-- The members that are written for these fields. -/
def membersOf (fields : List (RecordField α)) (a : α) : List (String × Value) :=
  fields.filterMap fun f => (f.write a).map fun v => (f.name, v)

theorem membersOf_cons {v : Value} (hw : f.write a = some v) :
    membersOf (f :: rest) a = (f.name, v) :: membersOf rest a := by
  simp [membersOf, hw]

/-- A member is put into any record by one of the fields. -/
def Puts (fields : List (RecordField α)) (depth : Nat) (n : String × Value) (p : String × (α → α)) :
    Prop :=
  ∃ f ∈ fields, n.1 = f.name ∧ p.1 = f.name ∧ ∀ b, f.read depth n.2.tree b = .ok (p.2 b)

theorem Puts.mono (h : ∀ f ∈ rest, f ∈ fields) {n : String × Value} {p : String × (α → α)}
    (hp : Puts rest depth n p) : Puts fields depth n p := by
  obtain ⟨f, hf, hp⟩ := hp
  exact ⟨f, h f hf, hp⟩

theorem Copies.readable (h : Copies depth a fields puts) :
    MembersReadable (membersOf fields a) := by
  induction h with
  | nil => trivial
  | cons hw hv _ _ ih =>
    rw [membersOf_cons hw]
    exact ⟨hv, ih⟩

theorem Copies.forall₂_puts (h : Copies depth a fields puts)
    (hm : MembersReordered (membersOf fields a) ms) : List.Forall₂ (Puts fields depth) ms puts := by
  induction h generalizing ms with
  | nil =>
    cases hm
    exact .nil
  | @cons f rest v put puts hw _ hr _ ih =>
    rw [membersOf_cons hw] at hm
    obtain - | ⟨hv, hm⟩ := hm
    refine .cons ⟨f, List.mem_cons_self, rfl, rfl, hr _ hv⟩ ?_
    exact (ih hm).imp fun _ _ => Puts.mono fun _ => List.mem_cons_of_mem _

theorem Copies.names (h : Copies depth a fields puts) :
    puts.map Prod.fst = fields.map RecordField.name := by
  induction h with
  | nil => rfl
  | cons _ _ _ _ ih => rw [List.map_cons, List.map_cons, ih]

theorem find?_name (hn : (fields.map RecordField.name).Nodup) (hf : f ∈ fields) :
    fields.find? (·.name == f.name) = some f := by
  cases h : fields.find? (·.name == f.name) with
  | none => exact (List.find?_eq_none.mp h f hf (beq_self_eq_true _)).elim
  | some g =>
    have hname : g.name = f.name := by simpa using List.find?_some h
    rw [List.inj_on_of_nodup_map hn (List.mem_of_find?_eq_some h) hf hname]

/-- Members are put one after the other, if each name comes once and none is missing. -/
theorem readFields_of_puts (h : List.Forall₂ (Puts fields depth) ms puts)
    (hn : (fields.map RecordField.name).Nodup) (hd : (puts.map Prod.fst).Nodup)
    (hs : ∀ n ∈ seen, n ∉ puts.map Prod.fst)
    (ha : ∀ f ∈ fields, f.name ∈ seen ∨ f.name ∈ puts.map Prod.fst) :
    readFields fields depth true seen b (memberTreesOf ms) =
      .ok (puts.foldl (fun b p => p.2 b) b) := by
  induction h generalizing seen b with
  | nil =>
    have hall : (fields.all fun f => f.optional || seen.contains f.name) = true := by
      rw [List.all_eq_true]
      intro f hf
      have hm : f.name ∈ seen := (ha f hf).resolve_right List.not_mem_nil
      rw [List.contains_iff_mem.mpr hm, Bool.or_true]
    simp only [memberTreesOf, readFields, hall, if_true, Bool.not_true, Bool.false_eq_true,
      if_false, List.foldl_nil]
  | @cons n p ms puts hp _ ih =>
    obtain ⟨name, w⟩ := n
    obtain ⟨_, put⟩ := p
    obtain ⟨f, hf, rfl, rfl, hr⟩ := hp
    obtain ⟨hnew, hd⟩ := List.nodup_cons.mp hd
    have hfind : fields.find? (·.name == f.name) = some f := find?_name hn hf
    have hunseen : seen.contains f.name = false := by
      simpa using fun hm => hs _ hm List.mem_cons_self
    have hseen : ∀ n ∈ f.name :: seen, n ∉ puts.map Prod.fst := by
      intro n hm
      rcases List.mem_cons.mp hm with rfl | hm
      · exact hnew
      · exact fun hp => hs n hm (List.mem_cons_of_mem _ hp)
    have hall : ∀ g ∈ fields, g.name ∈ f.name :: seen ∨ g.name ∈ puts.map Prod.fst := by
      intro g hg
      rcases ha g hg with hm | hm
      · exact .inl (List.mem_cons_of_mem _ hm)
      · rcases List.mem_cons.mp hm with he | hm
        · exact .inl (List.mem_cons.mpr (.inl he))
        · exact .inr hm
    rw [memberTreesOf, readFields]
    simp only [hfind, hunseen, hr, Bool.false_eq_true, if_false, bind, Except.bind]
    exact ih hd hseen hall

/-- A record is read as it was written, in whatever order its fields are, if they can be put in any
order. -/
theorem Copies.restores (h : Copies depth a fields puts)
    (hn : (fields.map RecordField.name).Nodup)
    (hc : puts.Pairwise fun p q => ∀ b, p.2 (q.2 b) = q.2 (p.2 b))
    (hb : puts.foldl (fun b p => p.2 b) blank = a) :
    Restores (decodeRecord fields blank) (depth + 1) (writeRecord fields a) a := by
  constructor
  · exact h.readable
  · intro w hw
    obtain - | - | - | - | - | ⟨hm, hp⟩ := hw
    -- the same is put as by the fields in their order, but in another order
    obtain ⟨ps, hps, hperm⟩ := List.perm_comp_forall₂ hp (h.forall₂_puts hm)
    have hnames : (ps.map Prod.fst).Perm (fields.map RecordField.name) :=
      h.names ▸ hperm.map Prod.fst
    have hall : ∀ f ∈ fields, f.name ∈ [] ∨ f.name ∈ ps.map Prod.fst := fun f hf =>
      .inr (hnames.mem_iff.mpr (List.mem_map_of_mem hf))
    have hread := readFields_of_puts (b := blank) hps hn (hnames.nodup_iff.mpr hn) (by simp) hall
    refine hread.trans (congrArg Except.ok (Eq.trans ?_ hb))
    refine hperm.foldl_eq' (fun p hp q hq b => ?_) blank
    exact hc.forall_of_forall_of_flip (fun _ _ _ => rfl) (hc.imp fun h b => (h b).symm)
      (hperm.subset hq) (hperm.subset hp) b

section field

variable {name : String} {get : α → β} {set : β → α → α} {enc : β → Value} {dec : Decoder β}

theorem Restores.put (hx : Restores dec depth (enc (get a)) (get a))
    (hw : Reordered (enc (get a)) w) (b : α) :
    ((dec depth w.tree).map fun x => set x b) = .ok (set (get a) b) := by
  rw [hx.reordered hw]
  rfl

theorem Copies.field (hx : Restores dec depth (enc (get a)) (get a))
    (h : Copies depth a rest puts) :
    Copies depth a (Json.field name get set enc dec :: rest) ((name, set (get a)) :: puts) :=
  .cons rfl hx.readable (fun _ hw => hx.put hw) h

theorem Copies.defaulted (hx : Restores dec depth (enc (get a)) (get a))
    (h : Copies depth a rest puts) :
    Copies depth a ((Json.field name get set enc dec).orDefault :: rest)
      ((name, set (get a)) :: puts) :=
  .cons rfl hx.readable (fun _ hw => hx.put hw) h

end field
end records
end Evolution.Json
