import Evolution.Text.Search

/-! What the paths and methods of the service stand for. -/
namespace Evolution.Api

/-- A step in the life of a stored changeset. -/
inductive Step where
  | validate
  | apply
  | revert
  | abandon
  deriving DecidableEq, Repr

/-- What a path is for. Identifiers are still as they stand there. -/
inductive Resource where
  | health
  | preview
  | drafts
  | changesets
  | changeset (id : String)
  | step (s : Step) (id : String)
  deriving DecidableEq, Repr

def Step.named? : String → Option Step
  | "validate" => some .validate
  | "apply" => some .apply
  | "revert" => some .revert
  | "abandon" => some .abandon
  | _ => none

/-- A slash at the end makes another path. The identifier of a changeset is not empty, but that of a
step may be, as far as the path goes. -/
def Resource.ofPath? (path : String) : Option Resource :=
  match Text.splitAll '/' path with
  | ["", "health"] => some health
  | ["", "api", "changesets"] => some changesets
  | ["", "api", "changesets", "preview"] => some preview
  | ["", "api", "changesets", "drafts"] => some drafts
  | ["", "api", "changesets", id] => if id.isEmpty then none else some (changeset id)
  | ["", "api", "changesets", id, name] => (Step.named? name).map (step · id)
  | _ => none

/-- Something to be done. -/
inductive Operation where
  | health
  | preview
  | create
  | saveDraft
  | list
  | get (id : String)
  | step (s : Step) (id : String)
  deriving DecidableEq, Repr

namespace Resource

/-- What a method does to a resource. -/
def operations : Resource → List (String × Operation)
  | health => [("GET", .health)]
  | preview => [("POST", .preview)]
  | drafts => [("POST", .saveDraft)]
  | changesets => [("POST", .create), ("GET", .list)]
  | changeset id => [("GET", .get id)]
  | step s id => [("POST", .step s id)]

/-- To ask for the head only is to get, as far as the service is concerned. -/
def operation? (r : Resource) (method : String) : Option Operation :=
  r.operations.lookup (if method == "HEAD" then "GET" else method)

/-- The methods that a resource has. -/
def allowedMethods (r : Resource) : String :=
  ",".intercalate (r.operations.flatMap fun (method, _) =>
    if method == "GET" then ["GET", "HEAD"] else [method])

end Resource
end Evolution.Api
