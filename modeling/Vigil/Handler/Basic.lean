import Vigil.Handler.Kind
import Vigil.Worker

/-!
# Handlers

A handler is what a watchdog does about a monitor that ran out of strikes.

* `Handler`: a name and an action that says whether it succeeded;
* `Handler.null`, `Handler.term`, `Handler.managed`: do nothing, ask a process to terminate, have a
  worker retired;
* `HandlerKind.build`: the handler that settings name.
-/

namespace Vigil

/-- Worlds with processes that can be asked to terminate. -/
class Processes (σ : Type) where
  terminate : ProcessId → σ → Except Errno Unit × σ

/-- A remediation, under its name in reports, which never changes.  Its call returns whether it was
a success. -/
structure Handler (σ : Type) where
  name : String
  call : Call σ Bool

namespace Handler

variable {σ : Type}

/-- The part of the program that writes records of failed remediations. -/
def target : String := "memwatch::handler"

/-- Do nothing, without success. -/
def null : Handler σ := ⟨"NullHandler", Call.pure false⟩

/-- Ask a process to terminate. -/
def signal [Processes σ] (pid : ProcessId) (w : σ) : Except Fault Unit × σ :=
  let (sent, w) := Processes.terminate pid w
  (sent.mapError (.signal pid), w)

/-- The record of a process that could not be asked to terminate. -/
def deliveryFailed (fault : Fault) : Record :=
  ⟨.warn, target, "memwatch: SIGTERM delivery failed", [("error", .text fault.message)]⟩

/-- Ask a process to terminate.  That counts as a success even if the process cannot be asked; a
failure is only recorded. -/
def term [Journal σ] [Processes σ] (pid : ProcessId) : Handler σ where
  name := "TermProcessHandler"
  call w :=
    match signal pid w with
    | (.ok (), w) => ⟨some true, false, w⟩
    | (.error fault, w) => ⟨some true, false, Journal.log (deliveryFailed fault) w⟩

/-- The record of a request that was not taken. -/
def retirementFailed (pid : ProcessId) (fault : Fault) : Record :=
  ⟨.warn, target, "memwatch: failed to request worker retirement",
    [("pid", .process pid), ("error", .text fault.message)]⟩

/-- Have a worker retired.  It is a success if the manager agrees; a manager that does not answer
leaves the handler waiting for good. -/
def managed [Journal σ] (manager : WorkerManager σ) (options : RetireOptions) : Handler σ where
  name := "ManagedProcessHandler"
  call w :=
    let r := manager.retire options w
    match r.value with
    | none => ⟨none, r.stop, r.world⟩
    | some (.ok ()) => ⟨some true, r.stop, r.world⟩
    | some (.error fault) =>
      ⟨some false, r.stop, Journal.log (retirementFailed options.pid fault) r.world⟩

end Handler

/-- The handler of a kind for a process.  Retiring a worker takes a manager. -/
def HandlerKind.build {σ : Type} [Journal σ] [Processes σ] (kind : HandlerKind) (pid : ProcessId)
    (manager : Option (WorkerManager σ)) : Except Fault (Handler σ) :=
  match kind, manager with
  | .null, _ => .ok .null
  | .termProcess, _ => .ok (.term pid)
  | .managedProcess, some manager => .ok (.managed manager { pid })
  | .managedProcess, none => .error (.configValidation .managerMissing)

end Vigil
