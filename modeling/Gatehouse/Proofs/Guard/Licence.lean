import Gatehouse.Guard
import Gatehouse.Proofs.Guard.Watch
import Gatehouse.Proofs.Policy.Grants

/-!
# The gate in front of the role service

A call is licensed to change the policy if it presents a credential that counts
while the call is carried out, for a role that was granted the procedure when
the call began. The gate lets no call of the role service through without.
-/

namespace Gatehouse

/-- The headers present a credential that counts at a moment that is shown, for a
role with a name that is granted the procedure. -/
def Licensed (signer : Signer) (headers : Headers) (procedure : String) (shown : Moment → Prop)
    (grants : Grants) : Prop :=
  ∃ token claims moment, Credential.ofHeaders headers = .ok token ∧ shown moment ∧
    signer.verify moment.seconds token = .ok claims ∧ claims.role.name ≠ "" ∧
      (⟨claims.role, procedure⟩ : PolicyTuple) ∈ grants

namespace Guard

variable {guard : Guard} {watch : Watch} {context : CallContext}

/-- A credential is checked against the time that the clock shows. -/
theorem watched_decode (token : String) :
    (guard.tokens.decode token).Obeys (.watched guard.permissions.timeout watch) fun outcome =>
      ∀ claims, outcome = .ok claims → ∃ moment, watch.shown moment ∧
        guard.tokens.signer.verify moment.seconds token = .ok claims := by
  apply Routine.keeps_observe
  intro site held claims verified
  exact ⟨site.wall, held.2.shown, verified⟩

/-- A call that is found to be granted is licensed, since the grants that it was
checked against are those of its beginning or were changed by licence. -/
theorem watched_authenticate
    (licence : Licensed guard.tokens.signer context.headers context.procedure watch.shown
      watch.grants → watch.licensed) :
    (guard.authenticate context).Obeys (.watched guard.permissions.timeout watch) fun outcome =>
      outcome = .ok () → watch.licensed := by
  have looked : PolicyEngine.snapshot.Obeys (.watched guard.permissions.timeout watch)
      fun current => watch.licensed ∨ current.grants = watch.grants := by
    apply Routine.keeps_observe
    intro site held
    exact held.2.policy.imp_right And.right
  apply Routine.Obeys.mono (obeys_authenticate watched_decode looked)
  intro outcome known succeeded
  obtain ⟨token, claims, current, presented, ⟨moment, shown, verified⟩, policy, enforced⟩ :=
    known succeeded
  rcases policy with licensed | same
  · exact licensed
  · rw [same] at enforced
    rcases Grants.enforce_iff.mp enforced with ⟨named, granted⟩
    exact licence ⟨token, claims, moment, presented, shown, verified, named, granted⟩

/-- A call of the role service is let through only if it is licensed, since the rule that a
lookup finds for it asks for a credential. -/
theorem watched_authorize
    (licence : Licensed guard.tokens.signer context.headers context.procedure watch.shown
      watch.grants → watch.licensed) :
    (guard.authorize context).Obeys (.watched guard.permissions.timeout watch) fun outcome =>
      ∀ rule, outcome = .ok rule → context.procedure ∈ RoleService.procedures →
        watch.licensed := by
  have ruled : (guard.ruleFor context.procedure).Obeys (.watched guard.permissions.timeout watch)
      fun outcome => ∀ found, outcome = .ok found → context.procedure ∈ RoleService.procedures →
        ∃ rule, found = some rule ∧ rule.requireAuth = true :=
    obeys_ruleFor Permissions.allows_watched (fun map ruled => ruled.guards context.procedure)
      fun fault ruled => absurd ruled Permissions.not_ruled_error
  apply Routine.Obeys.mono (obeys_authorize ruled (watched_authenticate licence))
  intro outcome known rule succeeded member
  obtain ⟨good, cleared⟩ := known rule succeeded
  obtain ⟨found, same, asks⟩ := good member
  exact cleared found same asks

end Guard

end Gatehouse
