import MachineImage.Compute.Answer
import MachineImage.Session.Client

/-!
The calls to the compute service. Questions and changes of permission may be repeated; a call that
makes or deletes something is made once, so that a lost response never makes a second thing.
-/
namespace MachineImage.Client

variable {α : Type}

/-- Makes a call once and reads its answer. -/
def ask (c : Client) (operation : Operation) (region : Region) (form : Form)
    (answer : Text → Except RunError α) : Action RunError α := do
  let body ← (c.call .compute region form).adapt (.request operation)
  Action.ofExcept (answer body)

/-- Makes a call, with repetitions, and reads its answer; the answer is never a reason to repeat. -/
def askRepeatedly (c : Client) (operation : Operation) (region : Region) (form : Form)
    (answer : Text → Except RunError α) : Action RunError α := do
  let body ← (c.callRepeatedly .compute region form).adapt (.request operation)
  Action.ofExcept (answer body)

theorem consumes_askRepeatedly (c : Client) (operation : Operation) (region : Region) (form : Form)
    (answer : Text → Except RunError α) :
    (c.askRepeatedly operation region form answer).Consumes :=
  ((c.consumes_callRepeatedly .compute region form).adapt _).bind
    fun _ => Action.spares_ofExcept _

def describeRegions (c : Client) (region : Region) : Action RunError (List Region) :=
  c.askRepeatedly .describeRegions region Compute.describeRegions Compute.regions

/-- The id of the task that imports the volume. -/
def importVolume (c : Client) (region : Region) (manifestUrl : Text) (size gibibytes : Nat) :
    Action RunError Text :=
  c.ask .importVolume region (Compute.importVolume region manifestUrl size gibibytes)
    (Compute.required .importVolume "conversionTaskId".toList)

def describeConversionTask (c : Client) (region : Region) (task : Text) :
    Action RunError Compute.ConversionStatus :=
  c.askRepeatedly .describeConversionTasks region (Compute.describeConversionTask task)
    Compute.conversionStatus

/-- The id of the new snapshot. -/
def createSnapshot (c : Client) (region : Region) (volume : Text) : Action RunError Text :=
  c.ask .createSnapshot region (Compute.createSnapshot volume)
    (Compute.required .createSnapshot "snapshotId".toList)

def snapshotReadiness (c : Client) (region : Region) (snapshot : Text) :
    Action RunError Compute.Readiness :=
  c.askRepeatedly .describeSnapshots region (Compute.describeSnapshot snapshot)
    Compute.snapshotReadiness

def deleteVolume (c : Client) (region : Region) (volume : Text) : Action RunError Unit :=
  c.ask .deleteVolume region (Compute.deleteVolume volume) (Compute.confirmed .deleteVolume)

def publishSnapshot (c : Client) (region : Region) (snapshot : Text) : Action RunError Unit :=
  c.askRepeatedly .modifySnapshotAttribute region (Compute.publishSnapshot snapshot)
    (Compute.confirmed .modifySnapshotAttribute)

/-- The id of the new image. -/
def registerImage (c : Client) (region : Region) (snapshot : Text) (spec : ImageSpec) :
    Action RunError Text :=
  c.ask .registerImage region (Compute.registerImage snapshot spec)
    (Compute.required .registerImage "imageId".toList)

def imageReadiness (c : Client) (region : Region) (image : Text) :
    Action RunError Compute.Readiness :=
  c.askRepeatedly .describeImages region (Compute.describeImage image) Compute.imageReadiness

/-- The id of the copy. The region that gets it is the one that is called. -/
def copyImage (c : Client) (source : Region) (image : Text) (destination : Region) :
    Action RunError Text :=
  c.ask .copyImage destination (Compute.copyImage source image)
    (Compute.required .copyImage "imageId".toList)

def publishImage (c : Client) (region : Region) (image : Text) : Action RunError Unit :=
  c.askRepeatedly .modifyImageAttribute region (Compute.publishImage image)
    (Compute.confirmed .modifyImageAttribute)

end MachineImage.Client
