import Gatehouse.Site

/-!
# Disciplines of routines

What is shown of all steps of a procedure goes with putting routines one after the other: an
invariant that each step keeps, a part of the state that none touches, keys of the cache that
all mind. A discipline is such a property together with what it lets one know of the result
of a routine. So what a procedure does can be laid down once, for every discipline under which
the routines that it is put together of are allowed.
-/

namespace Gatehouse

/-- What may be said of a routine, along with something that is known of its result. -/
structure Discipline where
  Holds {α : Type} (known : α → Prop) (routine : Routine Site α) : Prop
  done {α : Type} {known : α → Prop} {value : α} (result : known value) :
    Holds known (.done value)
  bind {α β : Type} {known : α → Prop} {final : β → Prop} {routine : Routine Site α}
    {next : α → Routine Site β} (first : Holds known routine)
    (rest : ∀ value, known value → Holds final (next value)) : Holds final (routine.bind next)

/-- The discipline of a property that has nothing to do with results. Something is known of
the result of a routine if the property holds no matter what follows results of which it is
known. -/
def Discipline.ofSteps (property : {α : Type} → Routine Site α → Prop) : Discipline where
  Holds known routine := ∀ (β : Type) (next : _ → Routine Site β),
    (∀ value, known value → property (next value)) → property (routine.bind next)
  done result _ _ rest := rest _ result
  bind first rest _ last follows := by
    rw [Routine.bind_assoc]
    exact first _ _ fun value result => rest value result _ last follows

namespace Routine

variable {discipline : Discipline} {α β : Type} {known : α → Prop} {final : β → Prop}
  {routine : Routine Site α} {next : α → Routine Site β}

/-- A routine is under a discipline, and something is known of its result. -/
def Obeys (discipline : Discipline) (known : α → Prop) (routine : Routine Site α) : Prop :=
  discipline.Holds known routine

theorem obeys_done {value : α} (result : known value) :
    (done value : Routine Site α).Obeys discipline known := discipline.done result

theorem obeys_bind (first : routine.Obeys discipline known)
    (rest : ∀ value, known value → (next value).Obeys discipline final) :
    (routine.bind next).Obeys discipline final := discipline.bind first rest

theorem Obeys.mono {wider : α → Prop} (obeys : routine.Obeys discipline known)
    (more : ∀ value, known value → wider value) : routine.Obeys discipline wider := by
  have same := obeys_bind obeys fun value result => obeys_done (more value result)
  rwa [bind_done] at same

/-- Nothing needs to be known of a result. -/
theorem Obeys.trivial (obeys : routine.Obeys discipline known) :
    routine.Obeys discipline fun _ => True := obeys.mono fun _ _ => .intro

/-- A property of the steps of a routine, which goes with putting routines one after the
other. -/
structure IsStepwise (property : {α : Type} → Routine Site α → Prop) : Prop where
  done {α : Type} (value : α) : property (.done value)
  bind {α β : Type} {routine : Routine Site α} {next : α → Routine Site β}
    (first : property routine) (rest : ∀ value, property (next value)) :
    property (routine.bind next)

variable {property : {α : Type} → Routine Site α → Prop}

theorem IsStepwise.obeys (stepwise : IsStepwise property) (holds : property routine)
    (all : ∀ value, known value) : routine.Obeys (.ofSteps property) known :=
  fun _ _ rest => stepwise.bind holds fun value => rest value (all value)

theorem IsStepwise.holds (stepwise : IsStepwise property)
    (obeys : routine.Obeys (.ofSteps property) known) : property routine := by
  have holds := obeys _ .done fun value _ => stepwise.done value
  rwa [bind_done] at holds

end Routine

namespace Task

variable {discipline : Discipline} {φ ψ α β : Type} {known : Except φ α → Prop}
  {final : Except φ β → Prop} {task : Task φ α} {next : α → Task φ β}

/-- A task is under a discipline, and something is known of its outcome. -/
def Obeys (discipline : Discipline) (known : Except φ α → Prop) (task : Task φ α) : Prop :=
  task.toRoutine.Obeys discipline known

theorem obeys_pure {value : α} (result : known (.ok value)) :
    (pure value : Task φ α).Obeys discipline known := discipline.done result

theorem obeys_throw {fault : φ} (result : known (.error fault)) :
    (throw fault : Task φ α).Obeys discipline known := discipline.done result

theorem obeys_known (outcome : Except φ α) :
    (ofRoutine (.done outcome)).Obeys discipline fun found => found = outcome :=
  discipline.done rfl

/-- A task in front of another one: what follows a fault is the fault itself. -/
theorem obeys_bind (first : task.Obeys discipline known)
    (rest : ∀ value, known (.ok value) → (next value).Obeys discipline final)
    (failed : ∀ fault, known (.error fault) → final (.error fault)) :
    (task >>= next).Obeys discipline final := by
  apply discipline.bind first
  intro outcome result
  cases outcome with
  | ok value => exact rest value result
  | error fault => exact discipline.done (failed fault result)

/-- Tasks one after the other, of whose outcomes nothing has to be known. -/
theorem obeys_then (first : task.Obeys discipline fun _ => True)
    (rest : ∀ value, (next value).Obeys discipline fun _ => True) :
    (task >>= next).Obeys discipline fun _ => True :=
  obeys_bind first (fun value _ => rest value) fun _ _ => trivial

/-- A result that is there at once in front of a task. -/
theorem obeys_known_then {outcome : Except φ α}
    (rest : ∀ value, (next value).Obeys discipline fun _ => True) :
    (ofRoutine (.done outcome) >>= next).Obeys discipline fun _ => True :=
  obeys_then (Routine.Obeys.trivial (obeys_known outcome)) rest

/-- A routine as a task does not fail. -/
theorem obeys_lift {routine : Routine Site α} {seen : α → Prop}
    (first : routine.Obeys discipline seen) (more : ∀ value, seen value → known (.ok value)) :
    (liftM routine : Task φ α).Obeys discipline known :=
  discipline.bind first fun value result => discipline.done (more value result)

/-- A routine in front of a task. -/
theorem obeys_lift_bind {routine : Routine Site α} {seen : α → Prop}
    (first : routine.Obeys discipline seen)
    (rest : ∀ value, seen value → (next value).Obeys discipline final) :
    ((liftM routine : Task φ α) >>= next).Obeys discipline final := by
  have lifted : (liftM routine : Task φ α).Obeys discipline fun outcome =>
      ∃ value, outcome = .ok value ∧ seen value :=
    obeys_lift first fun value result => ⟨value, rfl, result⟩
  apply obeys_bind lifted
  · rintro value ⟨_, same, result⟩
    rw [Except.ok.inj same]
    exact rest _ result
  · rintro fault ⟨_, same, -⟩
    injection same

theorem obeys_mapFault {convert : φ → ψ} {converted : Except ψ α → Prop}
    (obeys : task.Obeys discipline known)
    (more : ∀ outcome, known outcome → converted (outcome.mapError convert)) :
    (task.mapFault convert).Obeys discipline converted :=
  discipline.bind obeys fun outcome result => discipline.done (more outcome result)

end Task

end Gatehouse
