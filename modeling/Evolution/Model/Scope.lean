import Evolution.Uuid

/-! Whether a setting or a registration holds for everyone or for one tenant. -/
namespace Evolution

inductive Scope where
  | global
  | tenant
  deriving DecidableEq, Repr

def Scope.text : Scope → String
  | .global => "global"
  | .tenant => "tenant"

def Scope.named? : String → Option Scope
  | "global" => some .global
  | "tenant" => some .tenant
  | _ => none

/-- Who an entry is for, once a tenant given for a global entry has been dropped. -/
structure Owner where
  scope : Scope
  tenant : Option Uuid
  deriving DecidableEq, Repr

namespace Owner

def of (scope : Scope) (tenant : Option Uuid) : Owner :=
  match scope with
  | .global => ⟨.global, none⟩
  | .tenant => ⟨.tenant, tenant⟩

def lacksTenant (o : Owner) : Bool :=
  o.scope == .tenant && o.tenant.isNone

/-- Never null, so that it can be part of a key; empty for no tenant. -/
def key (o : Owner) : String :=
  o.tenant.elim "" Uuid.text

end Owner
end Evolution
