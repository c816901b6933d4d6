import Evolution.Json.Record
import Evolution.Proofs.Action
import Evolution.Proofs.Json.Order

/-! What is read of a text, whatever the text is: a value that could have been written, and records
that keep what holds of each field. -/
namespace Evolution.Json

section values

variable {vs : List Value} {ms : List (String × Value)} {depth : Nat}

theorem itemsNesting_le_iff : itemsNesting vs ≤ depth ↔ ∀ v ∈ vs, v.nesting ≤ depth := by
  induction vs with
  | nil => simp [itemsNesting]
  | cons v vs ih => rw [itemsNesting, Nat.max_le, ih, List.forall_mem_cons]

theorem membersNesting_le_iff : membersNesting ms ≤ depth ↔ ∀ m ∈ ms, m.2.nesting ≤ depth := by
  induction ms with
  | nil => simp [membersNesting]
  | cons m ms ih => rw [membersNesting, Nat.max_le, ih, List.forall_mem_cons]

mutual

/-- No value is read but one that can be read again. -/
theorem fits_of_decodeValue {depth : Nat} {v : Value} (t : Tree) (h : decodeValue depth t = .ok v) :
    v.Fits depth := by
  cases t with
  | broken => cases h
  | null =>
    cases h
    exact ⟨.null, Nat.zero_le _⟩
  | bool b =>
    cases h
    exact ⟨.bool, Nat.zero_le _⟩
  | number n =>
    cases n with
    | none => cases h
    | some n =>
      cases h
      exact ⟨.number, Nat.zero_le _⟩
  | string s =>
    cases s with
    | none => cases h
    | some s =>
      cases h
      exact ⟨.string, Nat.zero_le _⟩
  | array items closed =>
    cases depth with
    | zero => cases h
    | succ depth =>
      rw [decodeValue] at h
      obtain ⟨vs, hvs, h⟩ := bind_eq_ok.mp h
      have hf := fits_of_decodeValues items hvs
      split at h
      · cases h
        refine ⟨.array fun v hv => (hf v hv).ordered, Nat.succ_le_succ ?_⟩
        exact itemsNesting_le_iff.mpr fun v hv => (hf v hv).nesting
      · cases h
  | object members closed =>
    cases depth with
    | zero => cases h
    | succ depth =>
      rw [decodeValue] at h
      obtain ⟨ps, hps, h⟩ := bind_eq_ok.mp h
      have hf := fits_of_decodePairs members hps
      split at h
      · cases h
        have hm : ∀ m ∈ insertMembers ps [], m.2.Fits depth := fun m hm =>
          hf m ((mem_insertMembers hm).resolve_right List.not_mem_nil)
        rw [Value.ofMembers_eq]
        refine ⟨.object (Ascending.insertMembers List.Pairwise.nil) fun m h => (hm m h).ordered,
          Nat.succ_le_succ ?_⟩
        exact membersNesting_le_iff.mpr fun m h => (hm m h).nesting
      · cases h

theorem fits_of_decodeValues {depth : Nat} {vs : List Value} (ts : List Tree)
    (h : decodeValues depth ts = .ok vs) : ∀ v ∈ vs, v.Fits depth := by
  cases ts with
  | nil =>
    cases h
    simp
  | cons t ts =>
    rw [decodeValues] at h
    obtain ⟨v, hv, h⟩ := bind_eq_ok.mp h
    obtain ⟨rest, hrest, h⟩ := bind_eq_ok.mp h
    cases h
    exact List.forall_mem_cons.mpr ⟨fits_of_decodeValue t hv, fits_of_decodeValues ts hrest⟩

theorem fits_of_decodePairs {depth : Nat} {ps : List (String × Value)} (ms : List (Tree × Tree))
    (h : decodePairs depth ms = .ok ps) : ∀ p ∈ ps, p.2.Fits depth := by
  cases ms with
  | nil =>
    cases h
    simp
  | cons m ms =>
    obtain ⟨k, t⟩ := m
    unfold decodePairs at h
    dsimp only at h
    split at h
    · obtain ⟨key, -, h⟩ := bind_eq_ok.mp h
      obtain ⟨v, hv, h⟩ := bind_eq_ok.mp h
      obtain ⟨rest, hrest, h⟩ := bind_eq_ok.mp h
      cases h
      exact List.forall_mem_cons.mpr ⟨fits_of_decodeValue t hv, fits_of_decodePairs ms hrest⟩
    · cases h

end

end values

variable {α β : Type} {read : Decoder α} {depth : Nat} {P : α → Prop} {Q : β → Prop}

/-- Whatever is read is of this kind. -/
def Yields (read : Decoder α) (depth : Nat) (P : α → Prop) : Prop :=
  ∀ t a, read depth t = .ok a → P a

namespace Yields

theorem any : Yields read depth fun _ => True :=
  fun _ _ _ => True.intro

theorem value : Yields decodeValue depth (·.Fits depth) :=
  fun t _ => fits_of_decodeValue t

theorem int {low high : Int} : Yields (decodeInt low high) depth fun n => low ≤ n ∧ n ≤ high := by
  intro t n h
  unfold decodeInt at h
  split at h
  · split at h
    · rename_i hn
      cases h
      exact hn
    · cases h
  · cases h

theorem option (hr : Yields read depth P) :
    Yields (decodeOption read) depth fun o => ∀ a ∈ o, P a := by
  intro t o h
  unfold decodeOption at h
  split at h
  · cases h
    simp
  · cases hd : read depth t with
    | error e => simp [hd, Except.map] at h
    | ok a =>
      obtain rfl : some a = o := by simpa [hd, Except.map] using h
      intro b hb
      cases hb
      exact hr t a hd

theorem items {xs : List α} {closed : Bool} {ts : List Tree} (hr : Yields read depth P)
    (h : decodeItems read depth closed ts = .ok xs) : ∀ x ∈ xs, P x := by
  induction ts generalizing xs with
  | nil =>
    unfold decodeItems at h
    split at h
    · cases h
      simp
    · cases h
  | cons t ts ih =>
    obtain ⟨x, hx, h⟩ := bind_eq_ok.mp h
    obtain ⟨rest, hrest, h⟩ := bind_eq_ok.mp h
    cases h
    exact List.forall_mem_cons.mpr ⟨hr t x hx, ih hrest⟩

theorem list (hr : Yields read depth P) :
    Yields (decodeList read) (depth + 1) fun xs => ∀ x ∈ xs, P x := by
  intro t xs h
  unfold decodeList at h
  split at h
  · exact items hr h
  · cases h

theorem text {text : String} {a : α} (hr : Yields read maxDepth P)
    (h : decodeText read text = .ok a) : P a := by
  obtain ⟨b, hb, h⟩ := bind_eq_ok.mp h
  split at h
  · cases h
    exact hr _ _ hb
  · cases h

end Yields

/-- A record that had this property has it when a field has been read. -/
def Keeps (read : Nat → Tree → α → Except Flaw α) (depth : Nat) (P : α → Prop) : Prop :=
  ∀ t a b, P a → read depth t a = .ok b → P b

section fields

variable {set : β → α → α} {decode : Decoder β} {fields : List (RecordField α)} {blank a b : α}
  {closed : Bool}

theorem Keeps.field (hd : Yields decode depth Q) (hs : ∀ x a, Q x → P a → P (set x a)) :
    Keeps (fun depth t a => (decode depth t).map fun x => set x a) depth P := by
  intro t a b ha h
  cases hx : decode depth t with
  | error e => simp [hx, Except.map] at h
  | ok x =>
    obtain rfl : set x a = b := by simpa [hx, Except.map] using h
    exact hs x a (hd t x hx) ha

/-- The property says nothing about the field. -/
theorem Keeps.other (hs : ∀ x a, P a → P (set x a)) :
    Keeps (fun depth t a => (decode depth t).map fun x => set x a) depth P :=
  .field .any fun x a _ => hs x a

theorem holds_readFields {ms : List (Tree × Tree)} {seen : List String}
    (hf : ∀ f ∈ fields, Keeps f.read depth P) (ha : P a)
    (h : readFields fields depth closed seen a ms = .ok b) : P b := by
  induction ms generalizing seen a with
  | nil =>
    unfold readFields at h
    split at h
    · cases h
    · split at h
      · cases h
        exact ha
      · cases h
  | cons m ms ih =>
    obtain ⟨key, value⟩ := m
    unfold readFields at h
    split at h
    · split at h
      · rename_i f hfind
        split at h
        · cases h
        · obtain ⟨a', hread, h⟩ := bind_eq_ok.mp h
          exact ih (hf f (List.mem_of_find?_eq_some hfind) _ _ _ ha hread) h
      · split at h
        · exact ih ha h
        · cases h
    · cases h

theorem holds_readPositions {ts : List Tree} (hf : ∀ f ∈ fields, Keeps f.read depth P) (ha : P a)
    (h : readPositions depth closed a fields ts = .ok b) : P b := by
  induction fields generalizing ts a with
  | nil =>
    cases ts with
    | nil =>
      unfold readPositions at h
      split at h
      · cases h
        exact ha
      · cases h
    | cons t ts => cases h
  | cons f fields ih =>
    cases ts with
    | nil =>
      unfold readPositions at h
      split at h
      · cases h
      · split at h
        · cases h
          exact ha
        · cases h
    | cons t ts =>
      obtain ⟨hf, hrest⟩ := List.forall_mem_cons.mp hf
      obtain ⟨a', hread, h⟩ := bind_eq_ok.mp h
      exact ih hrest (hf t a a' ha hread) h

/-- A record has what the blank one has and each field keeps. -/
theorem Yields.record (hb : P blank) (hf : ∀ f ∈ fields, Keeps f.read depth P) :
    Yields (decodeRecord fields blank) (depth + 1) P := by
  intro t a h
  unfold decodeRecord at h
  split at h
  · exact holds_readFields hf hb h
  · exact holds_readPositions hf hb h
  · cases h

end fields
end Evolution.Json
