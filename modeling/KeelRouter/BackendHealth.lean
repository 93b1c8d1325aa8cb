import KeelRouter.Backend

/-!
# Passive health

A backend is ejected after a number of consecutive failures and readmitted by
a success.  The next snapshot keeps the addresses of the previous one and
lists the ids of the backends that are not ejected at that moment.
-/

namespace KeelRouter

def consecutiveFailuresToEject : UInt32 := 5

/-- `health::record_failure` -/
def recordFailure (heap : Heap) (ref : BackendRef) : Heap :=
  let n := (heap ref).health.consecutiveFailures + 1
  let counted : HealthState := { (heap ref).health with consecutiveFailures := n }
  if consecutiveFailuresToEject ≤ n then
    Function.update heap ref { heap ref with health := { counted with ejected := true } }
  else
    Function.update heap ref { heap ref with health := counted }

/-- `health::record_success` -/
def recordSuccess (heap : Heap) (ref : BackendRef) : Heap :=
  Function.update heap ref { heap ref with health := .default }

/-- `health::rebuild_healthy` -/
def rebuildHealthy (heap : Heap) (backends : List BackendRef) : List BackendId :=
  (backends.filter fun ref => !(heap ref).health.ejected).map fun ref => (heap ref).id

/-- `health::next_snapshot` -/
def nextSnapshot (heap : Heap) (prev : Snapshot) : Snapshot where
  epoch := prev.epoch + 1
  healthy := rebuildHealthy heap prev.backends
  backends := prev.backends
  ring := prev.ring

end KeelRouter
