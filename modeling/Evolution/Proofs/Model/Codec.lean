import Evolution.Model.Codec
import Evolution.Proofs.Json.Numeral
import Evolution.Proofs.Json.Record

/-! A desired state is read back as it was written, as far as the values of its preferences are. -/
namespace Evolution

open Json

variable {depth : Nat}

section identifiers

/-- As many digits as are written leave the rest of a number by their power. -/
theorem foldlM_hexDigits (n k : Nat) :
    ((List.range k).map fun i => Text.hexDigit (n / Nat.pow 16 (k - 1 - i) % 16)).foldlM
      (fun n c => (Text.hexValue? c).map (n * 16 + ·)) 0 = some (n % Nat.pow 16 k) := by
  induction k generalizing n with
  | zero => exact congrArg some (Nat.mod_one n).symm
  | succ k ih =>
    have hhigh : ((List.range k).map fun i => Text.hexDigit (n / Nat.pow 16 (k - i) % 16)) =
        (List.range k).map fun i => Text.hexDigit (n / 16 / Nat.pow 16 (k - 1 - i) % 16) := by
      refine List.map_congr_left fun i hi => ?_
      have hk : k - i = k - 1 - i + 1 := by
        have := List.mem_range.mp hi
        omega
      rw [Nat.div_div_eq_div_mul, hk, Nat.pow_eq, Nat.pow_eq, Nat.pow_succ']
    have hlow : Text.hexValue? (Text.hexDigit (n % 16)) = some (n % 16) :=
      Text.hexValue?_hexDigit (Nat.mod_lt n (by decide))
    have hsum : n / 16 % 16 ^ k * 16 + n % 16 = n % 16 ^ (k + 1) := by
      rw [Nat.pow_succ', Nat.mod_mul]
      omega
    rw [Nat.add_sub_cancel, List.range_succ, List.map_append, List.foldlM_append, hhigh, ih]
    simp [hlow, hsum]

theorem Uuid.ofHex?_hexDigits (id : Uuid) : ofHex? id.hexDigits = some id := by
  have h := foldlM_hexDigits id.bits.toNat 32
  have hlt : id.bits.toNat % Nat.pow 16 32 = id.bits.toNat := Nat.mod_eq_of_lt id.bits.isLt
  rw [hlt] at h
  rw [ofHex?, hexDigits, h]
  simp

theorem Uuid.ofText?_text (id : Uuid) : ofText? id.text = some id := by
  have h : ofText? id.text = ofHex? id.hexDigits := by
    unfold ofText? text
    rw [String.toList_ofList]
    rfl
  rw [h, ofHex?_hexDigits]

theorem Uuid.restores {id : Uuid} : Restores decode depth id.json id := by
  have hs : decodeString depth (Value.string id.text).tree = .ok id.text := rfl
  refine ⟨trivial, ?_⟩
  rintro _ ⟨⟩
  simp only [decode, hs, bind, Except.bind, ofText?_text, Option.elim_some]

end identifiers

section scalars

theorem Scope.named?_text (s : Scope) : named? s.text = some s := by
  cases s <;> rfl

theorem PolicyCommand.named?_text (c : PolicyCommand) : named? c.text = some c := by
  cases c <;> rfl

theorem TriggerTiming.named?_text (t : TriggerTiming) : named? t.text = some t := by
  cases t <;> rfl

theorem TriggerEvent.named?_text (e : TriggerEvent) : named? e.text = some e := by
  cases e <;> rfl

theorem Scope.restores {s : Scope} : Restores decode depth s.json s :=
  .enum s.named?_text

theorem restores_optionalText {text : Option String} :
    Restores decodeOptionalText depth (encodeOptionalText text) text :=
  .option fun _ _ => ⟨by rintro ⟨⟩, .string⟩

theorem restores_optionalTexts {texts : Option (List String)} :
    Restores (decodeOption decodeTexts) (depth + 1) (encodeOptionalTexts texts) texts :=
  .option fun _ _ => ⟨by rintro ⟨⟩, .strings⟩

theorem restores_optionalUuid {id : Option Uuid} :
    Restores decodeOptionalUuid depth (encodeOptionalUuid id) id :=
  .option fun _ _ => ⟨by rintro ⟨⟩, Uuid.restores⟩

theorem restores_optionalBool {b : Option Bool} :
    Restores (decodeOption decodeBool) depth (.ofOption .bool b) b :=
  .option fun _ _ => ⟨by rintro ⟨⟩, .bool⟩

theorem restores_count {n : Nat} (h : n ≤ 0xFFFFFFFF) :
    Restores decodeCount depth (encodeCount n) n := by
  have hn : Restores (decodeInt 0 0xFFFFFFFF) depth (.int n) n :=
    .int (Number.readable_int (by omega) (by omega)) (by omega) (by omega)
  refine ⟨hn.readable, fun hw => ?_⟩
  rw [decodeCount, hn.reordered hw, Except.map, Int.toNat_natCast]

theorem restores_optionalCount {n : Option Nat} (h : ∀ x ∈ n, x ≤ 0xFFFFFFFF) :
    Restores (decodeOption decodeCount) depth (.ofOption encodeCount n) n :=
  .option fun x hx => ⟨by rintro ⟨⟩, restores_count (h x hx)⟩

theorem restores_optionalLong {n : Option Int}
    (h : ∀ x ∈ n, -0x8000000000000000 ≤ x ∧ x ≤ 0x7FFFFFFFFFFFFFFF) :
    Restores (decodeOption decodeLong) depth (.ofOption .int n) n := by
  refine .option fun x hx => ⟨by rintro ⟨⟩, ?_⟩
  obtain ⟨hl, hh⟩ := h x hx
  exact .int (Number.readable_int hl (by omega)) hl hh

end scalars

section entities

theorem Column.restores {c : Column} : Restores decode (depth + 1) c.json c := by
  have h : Copies depth c fields _ :=
    .defaulted .string <| .defaulted .string <| .defaulted .bool <| .defaulted .bool <|
    .defaulted restores_optionalText <| .defaulted restores_optionalText <|
    .defaulted restores_optionalText .nil
  exact h.restores (by decide) (by simp) rfl

theorem TableIndex.restores {i : TableIndex} : Restores decode (depth + 1) i.json i := by
  have h : Copies depth i fields _ :=
    .defaulted .string <| .defaulted .string <| .defaulted .bool .nil
  exact h.restores (by decide) (by simp) rfl

theorem Table.restores {t : Table} : Restores decode (depth + 3) t.json t := by
  have h : Copies (depth + 2) t fields _ :=
    .defaulted .string <| .defaulted .bool <| .defaulted .bool <|
    .defaulted (.list fun _ _ => Column.restores) <|
    .defaulted (.list fun _ _ => TableIndex.restores) .nil
  exact h.restores (by decide) (by simp) rfl

theorem Policy.restores {p : Policy} : Restores decode (depth + 2) p.json p := by
  have h : Copies (depth + 1) p fields _ :=
    .defaulted .string <| .defaulted .string <| .defaulted (.enum p.command.named?_text) <|
    .defaulted .strings <| .defaulted .string <| .defaulted .string .nil
  exact h.restores (by decide) (by simp) rfl

theorem Trigger.restores {t : Trigger} : Restores decode (depth + 2) t.json t := by
  have h : Copies (depth + 1) t fields _ :=
    .defaulted .string <| .defaulted .string <| .defaulted (.enum t.timing.named?_text) <|
    .defaulted (.list fun e _ => .enum e.named?_text) <| .defaulted .string .nil
  exact h.restores (by decide) (by simp) rfl

theorem Routine.restores {r : Routine} : Restores decode (depth + 1) r.json r := by
  have h : Copies depth r fields _ :=
    .defaulted .string <| .defaulted .string <| .defaulted .string <| .defaulted .bool <|
    .defaulted .string .nil
  exact h.restores (by decide) (by simp) rfl

theorem AuthSettings.restores {s : AuthSettings} (hn : ∀ n ∈ s.jwtExpirySeconds, n ≤ 0xFFFFFFFF) :
    Restores decode (depth + 2) s.json s := by
  have h : Copies (depth + 1) s fields _ :=
    .defaulted restores_optionalText <| .defaulted restores_optionalTexts <|
    .defaulted (restores_optionalCount hn) <| .defaulted restores_optionalBool <|
    .defaulted restores_optionalBool <| .defaulted restores_optionalBool .nil
  exact h.restores (by decide) (by simp) rfl

theorem ApiSettings.restores {s : ApiSettings} (hn : ∀ n ∈ s.maxRows, n ≤ 0xFFFFFFFF) :
    Restores decode (depth + 2) s.json s := by
  have h : Copies (depth + 1) s fields _ :=
    .defaulted restores_optionalTexts <| .defaulted restores_optionalTexts <|
    .defaulted (restores_optionalCount hn) <| .defaulted restores_optionalTexts .nil
  exact h.restores (by decide) (by simp) rfl

theorem Preference.restores {p : Preference} (hv : Restores decodeValue depth p.value p.value) :
    Restores decode (depth + 1) p.json p := by
  have h : Copies depth p fields _ :=
    .defaulted .string <| .defaulted hv .nil
  exact h.restores (by decide) (by simp) rfl

theorem Bucket.restores {b : Bucket}
    (hn : ∀ n ∈ b.fileSizeLimitBytes, -0x8000000000000000 ≤ n ∧ n ≤ 0x7FFFFFFFFFFFFFFF) :
    Restores decode (depth + 2) b.json b := by
  have h : Copies (depth + 1) b fields _ :=
    .defaulted Scope.restores <| .defaulted restores_optionalUuid <| .defaulted .string <|
    .defaulted .strings <| .defaulted (restores_optionalLong hn) <| .defaulted .bool .nil
  exact h.restores (by decide) (by simp) rfl

theorem RemoteFunction.restores {f : RemoteFunction} : Restores decode (depth + 1) f.json f := by
  have h : Copies depth f fields _ :=
    .defaulted Scope.restores <| .defaulted restores_optionalUuid <| .defaulted .string <|
    .defaulted .string <| .defaulted .bool <| .defaulted .string .nil
  exact h.restores (by decide) (by simp) rfl

end entities

namespace DesiredState

variable {s : DesiredState}

/-- Counts have 32 bits, and limits of sizes 64 bits with a sign. -/
structure Fits (s : DesiredState) : Prop where
  expiry : ∀ n ∈ s.authSettings.jwtExpirySeconds, n ≤ 0xFFFFFFFF
  maxRows : ∀ n ∈ s.apiSettings.maxRows, n ≤ 0xFFFFFFFF
  limits : ∀ b ∈ s.buckets, ∀ n ∈ b.fileSizeLimitBytes,
    -0x8000000000000000 ≤ n ∧ n ≤ 0x7FFFFFFFFFFFFFFF

theorem restores (hf : s.Fits)
    (hv : ∀ p ∈ s.preferences, Restores decodeValue (depth + 2) p.value p.value) :
    Restores decode (depth + 5) s.json s := by
  have h : Copies (depth + 4) s fields _ :=
    .defaulted (.list fun _ _ => Table.restores) <|
    .defaulted (.list fun _ _ => Policy.restores) <|
    .defaulted (.list fun _ _ => Trigger.restores) <|
    .defaulted (.list fun _ _ => Routine.restores) <|
    .defaulted (AuthSettings.restores hf.expiry) <|
    .defaulted (.list fun b hb => Bucket.restores (hf.limits b hb)) <|
    .defaulted (.list fun _ _ => RemoteFunction.restores) <|
    .defaulted (ApiSettings.restores hf.maxRows) <|
    .defaulted (.list fun p hp => Preference.restores (hv p hp)) .nil
  exact h.restores (by decide) (by simp) rfl

end DesiredState
end Evolution
