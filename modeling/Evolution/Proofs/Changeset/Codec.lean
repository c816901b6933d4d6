import Evolution.Api.Submission
import Evolution.Proofs.Json.Reading
import Evolution.Proofs.Model.Codec

/-! Requests are read back as they were written. What is read of a text can be written and read
again, whatever the text is: numbers have their widths, and values are nested no deeper than
texts. -/
namespace Evolution

open Json

variable {depth : Nat}

/-- Numbers have their widths, and the values of the preferences can be read where so many arrays
and objects may be opened. -/
structure DesiredState.Proper (s : DesiredState) (depth : Nat) : Prop where
  widths : s.Fits
  values : ∀ p ∈ s.preferences, p.value.Fits depth

theorem DesiredState.Proper.mono {s : DesiredState} {d : Nat} (h : s.Proper depth)
    (hd : depth ≤ d) : s.Proper d :=
  ⟨h.widths, fun p hp => ⟨(h.values p hp).ordered, Nat.le_trans (h.values p hp).nesting hd⟩⟩

/-- All numbers in the values of the preferences are read as they are written. -/
def DesiredState.Readable (s : DesiredState) : Prop :=
  ∀ p ∈ s.preferences, p.value.Readable

/-- All numbers in the values of the preferences are whole. -/
def DesiredState.Integral (s : DesiredState) : Prop :=
  ∀ p ∈ s.preferences, p.value.Integral

theorem DesiredState.Integral.readable {s : DesiredState} (h : s.Integral) : s.Readable :=
  fun p hp => (h p hp).readable

theorem DesiredState.Proper.restores {s : DesiredState} (h : s.Proper (depth + 2))
    (hr : s.Readable) : Restores decode (depth + 5) s.json s :=
  DesiredState.restores h.widths fun p hp => .value (hr p hp) (h.values p hp)

theorem ChangeRequest.restores {r : ChangeRequest} (h : r.desiredState.Proper (depth + 2))
    (hr : r.desiredState.Readable) : Restores decode (depth + 6) r.json r := by
  have hc : Copies (depth + 5) r fields _ :=
    .field .string <| .field .string <| .defaulted restores_optionalText <|
    .defaulted Scope.restores <| .defaulted restores_optionalUuid <| .defaulted (h.restores hr) .nil
  exact hc.restores (by decide) (by simp) rfl

section reading

theorem yields_count : Yields decodeCount depth fun n => n ≤ 0xFFFFFFFF := by
  intro t n h
  unfold decodeCount at h
  cases hn : decodeInt 0 0xFFFFFFFF depth t with
  | error e => simp [hn, Except.map] at h
  | ok i =>
    obtain ⟨-, hi⟩ := Yields.int t i hn
    obtain rfl : i.toNat = n := by simpa [hn, Except.map] using h
    omega

theorem AuthSettings.yields :
    Yields decode (depth + 1) fun s => ∀ n ∈ s.jwtExpirySeconds, n ≤ 0xFFFFFFFF := by
  refine .record (by simp) ?_
  simp only [fields, List.forall_mem_cons]
  exact ⟨.other fun _ _ h => h, .other fun _ _ h => h,
    .field (.option yields_count) fun _ _ h _ => h, .other fun _ _ h => h, .other fun _ _ h => h,
    .other fun _ _ h => h, by simp⟩

theorem ApiSettings.yields :
    Yields decode (depth + 1) fun s => ∀ n ∈ s.maxRows, n ≤ 0xFFFFFFFF := by
  refine .record (by simp) ?_
  simp only [fields, List.forall_mem_cons]
  exact ⟨.other fun _ _ h => h, .other fun _ _ h => h,
    .field (.option yields_count) fun _ _ h _ => h, .other fun _ _ h => h, by simp⟩

theorem Bucket.yields :
    Yields decode (depth + 1) fun b =>
      ∀ n ∈ b.fileSizeLimitBytes, -0x8000000000000000 ≤ n ∧ n ≤ 0x7FFFFFFFFFFFFFFF := by
  refine .record (by simp) ?_
  simp only [fields, List.forall_mem_cons]
  exact ⟨.other fun _ _ h => h, .other fun _ _ h => h, .other fun _ _ h => h,
    .other fun _ _ h => h, .field (.option .int) fun _ _ h _ => h, .other fun _ _ h => h, by simp⟩

theorem Preference.yields : Yields decode (depth + 1) fun p => p.value.Fits depth := by
  refine .record ⟨.null, Nat.zero_le _⟩ ?_
  simp only [fields, List.forall_mem_cons]
  exact ⟨.other fun _ _ h => h, .field .value fun _ _ h _ => h, by simp⟩

theorem DesiredState.proper_empty : ({} : DesiredState).Proper depth :=
  ⟨⟨by simp, by simp, by simp⟩, by simp⟩

/-- Only these four parts count. -/
theorem DesiredState.Proper.congr {s s' : DesiredState} (h : s.Proper depth)
    (he : (s'.authSettings, s'.apiSettings, s'.buckets, s'.preferences) =
      (s.authSettings, s.apiSettings, s.buckets, s.preferences)) : s'.Proper depth := by
  obtain ⟨ha, hp, hb, hv⟩ : s'.authSettings = s.authSettings ∧ s'.apiSettings = s.apiSettings ∧
      s'.buckets = s.buckets ∧ s'.preferences = s.preferences := by simpa using he
  obtain ⟨⟨h₁, h₂, h₃⟩, h₄⟩ := h
  exact ⟨⟨ha ▸ h₁, hp ▸ h₂, hb ▸ h₃⟩, hv ▸ h₄⟩

theorem DesiredState.yields : Yields decode (depth + 3) fun s => s.Proper depth := by
  refine .record proper_empty ?_
  simp only [fields, List.forall_mem_cons]
  exact ⟨.other fun _ _ h => h.congr rfl, .other fun _ _ h => h.congr rfl,
    .other fun _ _ h => h.congr rfl, .other fun _ _ h => h.congr rfl,
    .field AuthSettings.yields fun _ _ hx h => ⟨⟨hx, h.widths.maxRows, h.widths.limits⟩, h.values⟩,
    .field (.list Bucket.yields) fun _ _ hx h =>
      ⟨⟨h.widths.expiry, h.widths.maxRows, hx⟩, h.values⟩,
    .other fun _ _ h => h.congr rfl,
    .field ApiSettings.yields fun _ _ hx h => ⟨⟨h.widths.expiry, hx, h.widths.limits⟩, h.values⟩,
    .field (.list Preference.yields) fun _ _ hx h =>
      ⟨⟨h.widths.expiry, h.widths.maxRows, h.widths.limits⟩, hx⟩, by simp⟩

theorem ChangeRequest.yields :
    Yields decode (depth + 4) fun r => r.desiredState.Proper depth := by
  refine .record DesiredState.proper_empty ?_
  simp only [fields, List.forall_mem_cons]
  exact ⟨.other fun _ _ h => h, .other fun _ _ h => h, .other fun _ _ h => h,
    .other fun _ _ h => h, .other fun _ _ h => h, .field DesiredState.yields fun _ _ hx _ => hx,
    by simp⟩

theorem Submission.yields :
    Yields decode (depth + 4) fun s => s.desiredState.Proper depth := by
  refine .record DesiredState.proper_empty ?_
  simp only [fields, List.forall_mem_cons]
  exact ⟨.other fun _ _ h => h, .other fun _ _ h => h, .other fun _ _ h => h,
    .other fun _ _ h => h, .other fun _ _ h => h, .field DesiredState.yields fun _ _ hx _ => hx,
    .other fun _ _ h => h, by simp⟩

end reading
end Evolution
