import ColumnStore.Managed.Backend

/-!
# Planned faults

A `Fault` makes chosen calls of a method end in a planned way, so that it can be tried out how a
client gets along with it. `Backend.withFaults` puts a list of faults in front of a backend: a call
that a fault is due for never reaches the backend, every other call is answered as before.
-/

set_option autoImplicit false

namespace ColumnStore

/-- How a call with a fault ends. -/
inductive Verdict where
  | returns (returned : Returned)
  | fails (error : CallError)

/-- A planned fault. -/
structure Fault where
  /-- The name of the method. -/
  method : String
  /-- The simple name of the class, if only the method of this class is meant. -/
  className : Option String
  /-- How many of its calls go through before the fault is due. -/
  skip : Nat
  /-- For how many calls the fault is due then. -/
  times : Nat
  verdict : Verdict

namespace Fault

/-- Does the fault mean this method? -/
def concerns (fault : Fault) (className method : String) : Bool :=
  fault.method == method
    && fault.className.all fun simple ↦ simple == Text.afterLast '/' className

/-- Looks for the first fault that is due for a call. Every fault of the method that is passed on
the way counts the call as one that goes through. -/
def due (className method : String) : List Fault → Option Verdict × List Fault
  | [] => (none, [])
  | fault :: rest =>
    if fault.concerns className method && fault.skip == 0 && fault.times != 0 then
      (some fault.verdict, { fault with times := fault.times - 1 } :: rest)
    else
      let passed := if fault.concerns className method then { fault with skip := fault.skip - 1 }
        else fault
      let (verdict, rest) := due className method rest
      (verdict, passed :: rest)

end Fault

/-- The state of a backend behind faults. -/
structure Faulty (σ : Type) where
  faults : List Fault
  inner : σ

namespace Faulty

variable {σ α : Type}

/-- Ends a call in the planned way if a fault is due, and makes it otherwise. -/
def guard (className method : String) (planned : Returned → Except CallError α)
    (call : σ → Reply σ α) : Faulty σ → Reply (Faulty σ) α
  | ⟨faults, inner⟩ =>
    match Fault.due className method faults with
    | (some (.returns returned), faults) => .ofExcept ⟨faults, inner⟩ (planned returned)
    | (some (.fails error), faults) => .failed ⟨faults, inner⟩ error
    | (none, faults) =>
      match call inner with
      | ⟨outcome, inner, events⟩ => ⟨outcome, ⟨faults, inner⟩, events⟩

end Faulty

/-- The name under which the faults of giving up a handle are planned. -/
def releaseName : String := "release"

/-- The name under which the faults of the shutdown are planned. -/
def shutdownName : String := "shutdown"

/-- A backend with faults in front of it. -/
def Backend.withFaults {σ : Type} (backend : Backend σ) : Backend (Faulty σ) where
  name := backend.name
  construct method arguments :=
    Faulty.guard method.className method.name (Returned.toObject method)
      (backend.construct method arguments)
  callStatic method arguments :=
    Faulty.guard method.className method.name .ok (backend.callStatic method arguments)
  call handle method arguments :=
    Faulty.guard method.className method.name .ok (backend.call handle method arguments)
  release handle := Faulty.guard "" releaseName (fun _ ↦ .ok ()) (backend.release handle)
  liveObjects state := backend.liveObjects state.inner
  shutdown := Faulty.guard "" shutdownName (fun _ ↦ .ok ()) backend.shutdown

end ColumnStore
