import MachineImage.Compute.Form

/-!
What the bodies of the compute service's responses say.
-/
namespace MachineImage.Compute

open Markup

/-- The text of an element that must be there. -/
def required (operation : Operation) (field : Text) (body : Text) : Except RunError Text :=
  match extractText body field with
  | .error e => .error (.extraction e)
  | .ok none => .error (.missingField operation field body)
  | .ok (some text) => .ok text

/-- The names of the regions in the order of the response. -/
def regions (body : Text) : Except RunError (List Region) :=
  match extractFirst body "regionInfo".toList with
  | .error e => .error (.extraction e)
  | .ok none => .error (.missingField .describeRegions "regionInfo".toList body)
  | .ok (some info) =>
    match extractAll info "regionName".toList with
    | .error e => .error (.extraction e)
    | .ok [] => .error (.noRegions body)
    | .ok names => .ok (names.map fun name => ⟨Text.trim name⟩)

/-- How far an import is. -/
inductive ConversionStatus
  | completed (volume : Text)
  | inProgress (message : Text)
  deriving DecidableEq, Repr

/-- Whether the state stands in the body in its plainest form. -/
def hasState (body : Text) (state : String) : Bool :=
  containsElement body "state".toList state.toList

/-- The id of the volume, where there is one that is not empty. -/
def volumeId (volume : Text) : Except RunError (Option Text) :=
  match extractText volume "id".toList with
  | .error e => .error (.extraction e)
  | .ok id => .ok (id.filter (· ≠ []))

/-- An import is complete when it is not active and its volume has an id; one that is cancelled
fails. -/
def conversionStatus (body : Text) : Except RunError ConversionStatus :=
  if hasState body "cancelled" || hasState body "cancelling" then
    match extractText body "state".toList with
    | .error e => .error (.extraction e)
    | .ok state => .error (.unexpectedStatus .describeConversionTasks (state.getD []))
  else
    match extractFirst body "volume".toList with
    | .error e => .error (.extraction e)
    | .ok none => .error (.missingField .describeConversionTasks "volume".toList body)
    | .ok (some volume) => do
      let id ← if hasState body "active" then .ok none else volumeId volume
      match id with
      | some id => return .completed id
      | none =>
        return .inProgress (← required .describeConversionTasks "statusMessage".toList body)

inductive Readiness
  | pending
  | ready
  deriving DecidableEq, Repr

/-- A field that reads `pending` until it reads `done`, and fails with any other reading. -/
def readiness (operation : Operation) (field done : String) (body : Text) :
    Except RunError Readiness := do
  let status ← required operation field.toList body
  if status = "pending".toList then return .pending
  else if status = done.toList then return .ready
  else throw (.unexpectedStatus operation status)

def snapshotReadiness : Text → Except RunError Readiness :=
  readiness .describeSnapshots "status" "completed"

def imageReadiness : Text → Except RunError Readiness :=
  readiness .describeImages "imageState" "available"

/-- Some calls must say that they have done what they were asked to do. -/
def confirmed (operation : Operation) (body : Text) : Except RunError Unit :=
  if containsElement body "return".toList "true".toList then .ok ()
  else .error (.operationFailed operation body)

end MachineImage.Compute
