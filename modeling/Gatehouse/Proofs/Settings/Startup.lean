import Gatehouse.Registry
import Gatehouse.Proofs.Policy.Agreement
import Gatehouse.Proofs.Settings.Overrides
import Gatehouse.Proofs.Settings.Ranges

/-!
# Services that start from their settings

Over a policy that can be loaded, a service starts with all settings that can be loaded but
for one: the queue of its audit trail may be longer than a queue can be. A trail for no
records becomes one for a single record, but nothing bounds it from above, since settings
are checked for their times only.
-/

namespace Gatehouse

namespace Settings

/-- The queue of the audit trail, if calls are recorded, is not too long. -/
def HasRoom (settings : Settings) : Prop :=
  settings.get .audit = true → (settings.get .auditCapacity).val ≤ AuditQueue.maxCapacity

instance (settings : Settings) : Decidable settings.HasRoom :=
  inferInstanceAs (Decidable (_ → _))

/-- The audit trail of a service that starts over the trail of a state. -/
def openedTrail (settings : Settings) (before : AuditQueue) : AuditQueue :=
  if settings.get .audit then .ofCapacity (settings.get .auditCapacity).val else before

end Settings

namespace Site

/-- The state with another audit trail. -/
def withTrail (trail : AuditQueue) (site : Site) : Site := { site with trail := trail }

@[simp] theorem grants_withTrail (trail : AuditQueue) (site : Site) :
    (site.withTrail trail).grants = site.grants := rfl

@[simp] theorem trail_withTrail (trail : AuditQueue) (site : Site) :
    (site.withTrail trail).trail = trail := rfl

theorem withTrail_self (site : Site) : site.withTrail site.trail = site := rfl

end Site

/-! ## The policy -/

namespace PolicyEngine

variable (engine : PolicyEngine) {site : Site}

theorem grants_reloaded (answers : (site.conditions .policyLoad).Answers engine.timeout) :
    (engine.reloaded site).grants = .ofTuples site.tuples.toList := by
  rw [reloaded, Condition.fault?_eq_none _ answers]

theorem trail_reloaded (site : Site) : (engine.reloaded site).trail = site.trail := by
  rw [reloaded]
  split <;> rfl

theorem alone_load_of_answers (answers : (site.conditions .policyLoad).Answers engine.timeout) :
    engine.load.alone site = (.ok (), engine.reloaded site) := by
  rw [alone_load, Condition.fault?_eq_none _ answers]
  rfl

end PolicyEngine

/-! ## The service -/

namespace Service

variable {settings : Settings} {site : Site}

theorem alone_openTrail (capacity : Nat) (site : Site) :
    (openTrail capacity).alone site =
      if capacity ≤ AuditQueue.maxCapacity then
        (.ok (), site.withTrail (.ofCapacity capacity))
      else (.error (.queueTooLong capacity), site) := by
  simp only [openTrail, Task.alone_ofRoutine, Routine.run_atomically, AuditQueue.ofCapacity?]
  by_cases fits : capacity ≤ AuditQueue.maxCapacity
  · simp only [if_pos fits, Site.withTrail]
  · simp only [if_neg fits]

/-- The state in which a service has loaded its policy. -/
def loaded (settings : Settings) (site : Site) : Site :=
  PolicyEngine.reloaded ⟨settings.storeTimeout⟩ site

theorem grants_loaded (answers : (site.conditions .policyLoad).Answers settings.storeTimeout) :
    (loaded settings site).grants = .ofTuples site.tuples.toList :=
  PolicyEngine.grants_reloaded ⟨settings.storeTimeout⟩ answers

theorem trail_loaded (settings : Settings) (site : Site) :
    (loaded settings site).trail = site.trail :=
  PolicyEngine.trail_reloaded ⟨settings.storeTimeout⟩ site

/-- Where the policy can be loaded, only the audit trail decides on a service. -/
theorem alone_build (answers : (site.conditions .policyLoad).Answers settings.storeTimeout) :
    (build settings).alone site =
      if settings.HasRoom then
        (.ok (ofSettings settings),
          (loaded settings site).withTrail (settings.openedTrail site.trail))
      else (.error (.queueTooLong (settings.get .auditCapacity).val), loaded settings site) := by
  have load : (ofSettings settings).engine.load.alone site = (.ok (), loaded settings site) :=
    PolicyEngine.alone_load_of_answers ⟨settings.storeTimeout⟩ answers
  rw [build, Task.alone_bind, Task.alone_mapFault, load]
  simp only [Task.mapError_ok]
  cases audits : settings.get .audit with
  | false =>
      have room : settings.HasRoom := fun recorded => by rw [audits] at recorded; contradiction
      have kept : settings.openedTrail site.trail = (loaded settings site).trail := by
        rw [Settings.openedTrail, audits, if_neg Bool.false_ne_true, trail_loaded]
      rw [if_pos room, kept, Site.withTrail_self, if_neg Bool.false_ne_true, Task.alone_pure]
  | true =>
      have opened : settings.openedTrail site.trail =
          .ofCapacity (settings.get .auditCapacity).val := if_pos audits
      rw [if_pos rfl, Task.alone_bind, alone_openTrail]
      by_cases fits : (settings.get .auditCapacity).val ≤ AuditQueue.maxCapacity
      · have room : settings.HasRoom := fun _ => fits
        rw [if_pos fits, if_pos room, opened]
        simp only [Task.alone_pure]
      · have tooLong : ¬ settings.HasRoom := fun room => fits (room audits)
        rw [if_neg fits, if_neg tooLong]

end Service

namespace Settings

variable {settings : Settings} {site : Site} {entryAt : String → PathEntry}
  {environment : Environment}

/-- What comes of starting a service over a policy that can be loaded: the service that the
settings describe, with the stored grants and with a queue for one record or more, unless
that would be too long. None of its times is out of bounds. -/
structure StartsUp (settings : Settings) (site : Site) : Prop where
  built_iff : (Service.build settings).outcome site = .ok (.ofSettings settings) ↔
    settings.HasRoom
  refused : ¬ settings.HasRoom → (Service.build settings).outcome site =
    .error (.queueTooLong (settings.get .auditCapacity).val)
  grants : ((Service.build settings).behind site).grants = .ofTuples site.tuples.toList
  unrecorded : settings.get .audit = false →
    ((Service.build settings).behind site).trail = site.trail
  recorded : settings.get .audit = true → settings.HasRoom →
    ((Service.build settings).behind site).trail =
        ⟨max (settings.get .auditCapacity).val 1, [], 0⟩ ∧
      max (settings.get .auditCapacity).val 1 ≤ AuditQueue.maxCapacity
  bounded : settings.IsBounded

/-- A service whose settings have been loaded starts unless its audit trail is too long. -/
theorem startsUp_of_load (loaded : load entryAt environment = .ok settings)
    (answers : (site.conditions .policyLoad).Answers settings.storeTimeout) :
    settings.StartsUp site where
  built_iff := by
    rw [Task.outcome, Service.alone_build answers]
    split
    · next room => exact ⟨fun _ => room, fun _ => rfl⟩
    · next tooLong => exact ⟨nofun, fun room => absurd room tooLong⟩
  refused tooLong := by rw [Task.outcome, Service.alone_build answers, if_neg tooLong]
  grants := by
    rw [Task.behind, Service.alone_build answers]
    split
    · rw [Site.grants_withTrail]
      exact Service.grants_loaded answers
    · exact Service.grants_loaded answers
  unrecorded quiet := by
    have room : settings.HasRoom := fun recorded => by rw [quiet] at recorded; contradiction
    rw [Task.behind, Service.alone_build answers, if_pos room, Site.trail_withTrail, openedTrail,
      quiet, if_neg Bool.false_ne_true]
  recorded audits room := by
    rw [Task.behind, Service.alone_build answers, if_pos room, Site.trail_withTrail, openedTrail,
      if_pos audits]
    exact ⟨rfl, Nat.max_le.mpr ⟨room audits, by decide⟩⟩
  bounded := isBounded_of_load loaded

/-- Without a file and variables a service starts over stores without contents. -/
theorem startsUp_of_nothing :
    load (fun _ => .nothing) (fun _ => none) = .ok defaults ∧
      ((Site.initial 0 ⟨0, 0⟩ [] [] []).conditions .policyLoad).Answers defaults.storeTimeout ∧
        defaults.HasRoom ∧ defaults.StartsUp (.initial 0 ⟨0, 0⟩ [] [] []) := by
  have loaded : load (fun _ => .nothing) (fun _ => none) = .ok defaults := rfl
  have answers : ((Site.initial 0 ⟨0, 0⟩ [] [] []).conditions .policyLoad).Answers
      defaults.storeTimeout := ⟨Nat.zero_le _, rfl⟩
  exact ⟨loaded, answers, by decide, startsUp_of_load loaded answers⟩

/-! ## A trail that is too long -/

/-- The least length that no queue can have. -/
def excessive : Fin UInt64.size := ⟨AuditQueue.maxCapacity + 1, by decide⟩

/-- The variable for the least length that no queue can have. -/
def asksForExcess : Environment := onlyVariable .auditCapacity "2305843009213693952"

theorem load_asksForExcess :
    load (fun _ => .nothing) asksForExcess = .ok (defaults.set .auditCapacity excessive) := by
  have denoted : Setting.Denotes .auditCapacity "2305843009213693952" excessive :=
    Setting.ofText_eq_ok_iff.mp rfl
  simp only [load, asksForExcess, applyOverrides_onlyVariable denoted]
  rfl

/-- Settings can be loaded with which no service starts. -/
theorem not_always_built : ¬ ∀ (entryAt : String → PathEntry) (environment : Environment)
    (settings : Settings) (site : Site), load entryAt environment = .ok settings →
      settings.get .cacheBackend = .memory → settings.get .databaseUrl = none →
        (∀ backend, (site.conditions backend).Answers settings.storeTimeout) →
          ∃ service, (Service.build settings).outcome site = .ok service := by
  intro always
  obtain ⟨service, built⟩ := always _ _ _ (.initial 0 ⟨0, 0⟩ [] [] []) load_asksForExcess rfl rfl
    fun _ => ⟨Nat.zero_le _, rfl⟩
  rw [Task.outcome, Service.alone_build ⟨Nat.zero_le _, rfl⟩, if_neg (by decide)] at built
  contradiction

end Settings

end Gatehouse
