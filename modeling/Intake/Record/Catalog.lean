import Intake.Record.Probes

/-!
# The catalog of records

The records that can be asked for by name.
-/

namespace Intake.AnyRecord

/-- Every record of the catalog. -/
def all : List AnyRecord :=
  [⟨_, LoginWithProvider.record⟩, ⟨_, CancelOrder.record⟩, ⟨_, ConfirmEmail.record⟩,
   ⟨_, ResendConfirmEmail.record⟩, ⟨_, Probe.signup⟩, ⟨_, Probe.empty⟩, ⟨_, Probe.mismatch⟩,
   ⟨_, Probe.duplicate⟩, ⟨_, Probe.noted⟩, ⟨_, Probe.scalar⟩, ⟨_, Probe.broken⟩]

/-- The record with a name. -/
def ofName? (name : String) : Option AnyRecord :=
  all.find? (·.name == name)

end Intake.AnyRecord
