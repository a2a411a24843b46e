import BidSystem.Shared.Python
import Mathlib.Data.Finset.Defs

/-!
# Permissions of a principal

`platform/security/authorization.py`: the evaluation of generic grants, without
the rules of any resource.
-/

namespace BidSystem.Security

/-- `AuthenticatedPrincipal`. -/
structure AuthenticatedPrincipal where
  userId : String
  tenantId : String
  sessionId : String
  roles : Finset String
  permissions : Finset String
  active : Bool
deriving DecidableEq

/-- `DenialReason`. -/
inductive DenialReason where
  | inactivePrincipal
  | tenantMismatch
  | missingPermission
deriving DecidableEq, Repr

/-- `AuthorizationDecision`. -/
structure AuthorizationDecision where
  allowed : Bool
  denialReason : Option DenialReason
deriving DecidableEq, Repr

namespace PermissionEvaluator

/-- `PermissionEvaluator.evaluate`. -/
def evaluate (principal : AuthenticatedPrincipal) (requiredPermissions : Finset String)
    (tenantId : String) : AuthorizationDecision :=
  if !principal.active then ⟨false, some .inactivePrincipal⟩
  else if principal.tenantId ≠ tenantId then ⟨false, some .tenantMismatch⟩
  else if ¬ requiredPermissions ⊆ principal.permissions then ⟨false, some .missingPermission⟩
  else ⟨true, none⟩

/-- `PermissionEvaluator.require`. -/
def require (decision : AuthorizationDecision) : Except PyError Unit :=
  if !decision.allowed then .error .permissionDeniedError else .ok ()

/-- **What is granted**: to an active principal, inside of its tenant, what it has. -/
theorem require_evaluate_iff {principal : AuthenticatedPrincipal}
    {requiredPermissions : Finset String} {tenantId : String} :
    require (evaluate principal requiredPermissions tenantId) = .ok () ↔
      principal.active = true ∧ principal.tenantId = tenantId ∧
        requiredPermissions ⊆ principal.permissions := by
  unfold require evaluate
  cases active : principal.active with
  | false => simp
  | true =>
      by_cases tenant : principal.tenantId = tenantId
      · by_cases granted : requiredPermissions ⊆ principal.permissions
        · simp [tenant, granted]
        · simp [tenant, granted]
      · simp [tenant]

end PermissionEvaluator

end BidSystem.Security
