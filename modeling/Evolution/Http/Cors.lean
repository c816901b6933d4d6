import Evolution.Http.Message

/-! Which pages of other origins may use the service. -/
namespace Evolution.Http

inductive CorsPolicy where
  | anyone
  | only (origins : List String)
  deriving DecidableEq, Repr

namespace CorsPolicy

/-- Origins that no header can hold do not count; with none left, everyone may. -/
def ofOrigins (origins : List String) : CorsPolicy :=
  match origins.filter isHeaderValue with
  | [] => anyone
  | valid => only valid

def allowedOrigin? : CorsPolicy → Option String → Option String
  | anyone, _ => some "*"
  | only origins, some origin => if origins.contains origin then some origin else none
  | only _, none => none

/-- What every response says to a page. -/
def originHeaders (p : CorsPolicy) (r : Request) : List (String × String) :=
  ((p.allowedOrigin? (r.header? "origin")).map fun o => ("access-control-allow-origin", o)).toList

/-- The answer to a page that asks what it may do, whatever it asks for. -/
def preflight (p : CorsPolicy) (r : Request) : Response :=
  ⟨200, p.originHeaders r ++
    [("access-control-allow-methods", "GET,POST,OPTIONS"),
      ("access-control-allow-headers", "content-type,authorization,accept"),
      ("access-control-max-age", "3600")], .empty⟩

end CorsPolicy
end Evolution.Http
