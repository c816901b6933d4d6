import Evolution.Api.Route
import Evolution.Proofs.Text.Split

/-! Paths and methods, back from what they stand for: what is done tells the path and the method
that it was asked for by. -/
namespace Evolution.Api

def Step.name : Step → String
  | validate => "validate"
  | apply => "apply"
  | revert => "revert"
  | abandon => "abandon"

theorem Step.eq_name {text : String} {s : Step} (h : Step.named? text = some s) :
    text = s.name := by
  unfold Step.named? at h
  split at h <;> cases h <;> rfl

namespace Resource

/-- The path of a resource. -/
def path : Resource → String
  | health => "/health"
  | preview => "/api/changesets/preview"
  | drafts => "/api/changesets/drafts"
  | changesets => "/api/changesets"
  | changeset id => "/api/changesets/" ++ id
  | step s id => "/api/changesets/" ++ id ++ "/" ++ s.name

variable {text : String} {r : Resource}

theorem eq_path (h : ofPath? text = some r) : text = r.path := by
  have hs := Text.intercalate_splitAll text
  unfold ofPath? at h
  split at h
  case h_1 hp | h_2 hp | h_3 hp | h_4 hp =>
    cases h
    rw [← hs, hp]
    rfl
  case h_5 id hp =>
    split at h
    · cases h
    · cases h
      rw [← hs, hp]
      simp only [String.intercalate_cons_cons, String.intercalate_singleton, ← String.append_assoc]
      rfl
  case h_6 id name hp =>
    obtain ⟨s, hn, rfl⟩ := Option.map_eq_some_iff.mp h
    rw [← hs, hp, Step.eq_name hn]
    simp only [String.intercalate_cons_cons, String.intercalate_singleton, ← String.append_assoc]
    rfl
  case h_7 => cases h

theorem splitAll_step (s : Step) (id : String) :
    Text.splitAll '/' (step s id).path =
      "" :: "api" :: "changesets" :: (Text.splitAll '/' id ++ [s.name]) := by
  have hpath : (step s id).path = "/api/changesets" ++ "/" ++ id ++ "/" ++ s.name := rfl
  have hroot : Text.splitAll '/' "/api/changesets" = ["", "api", "changesets"] := by
    decide +kernel
  have hname : Text.splitAll '/' s.name = [s.name] := by
    cases s <;> decide +kernel
  rw [hpath, Text.splitAll_append_sep, Text.splitAll_append_sep, hroot, hname]
  rfl

/-- No other resource has the path of a step. -/
theorem eq_step {s : Step} {id : String} (h : ofPath? (step s id).path = some r) :
    r = step s id := by
  obtain ⟨piece, pieces, hp⟩ := Text.exists_splitAll_eq_cons id
  have hid := Text.intercalate_splitAll id
  rw [ofPath?, splitAll_step, hp] at h
  rw [hp] at hid
  cases pieces with
  | nil =>
    rw [String.intercalate_singleton] at hid
    rw [hid] at h
    cases s <;> simpa [Step.name, Step.named?, eq_comm] using h
  | cons second pieces => cases s <;> simp [Step.name] at h

end Resource

/-- The method and the resource that an operation belongs to. -/
def Operation.target : Operation → String × Resource
  | health => ("GET", .health)
  | preview => ("POST", .preview)
  | create => ("POST", .changesets)
  | saveDraft => ("POST", .drafts)
  | list => ("GET", .changesets)
  | get id => ("GET", .changeset id)
  | step s id => ("POST", .step s id)

theorem Resource.target_of_operation? {r : Resource} {method : String} {op : Operation}
    (h : r.operation? method = some op) :
    op.target = (if method == "HEAD" then "GET" else method, r) := by
  have htarget : ∀ p ∈ r.operations, p.2.target = (p.1, r) := by
    cases r <;> simp [operations, Operation.target]
  obtain ⟨before, after, hl, -⟩ := List.lookup_eq_some_iff.mp h
  exact htarget _ (hl ▸ List.mem_append_right before List.mem_cons_self)

/-- What is posted is no question for a head. -/
theorem Resource.method_of_operation? {r r' : Resource} {method : String} {op : Operation}
    (h : r.operation? method = some op) (ht : op.target = ("POST", r')) :
    method = "POST" ∧ r = r' := by
  have hm := (target_of_operation? h).symm.trans ht
  simp only [Prod.mk.injEq] at hm
  refine ⟨?_, hm.2⟩
  split at hm
  · exact absurd hm.1 (by decide)
  · exact hm.1

end Evolution.Api
