import MachineImage.Compute.Action
import MachineImage.Session.Await
import MachineImage.Upload

/-!
Making a machine image of a disk image: from the upload to the image registered in its home region,
and on to copies in every region if it is to be public. The first failure ends a run; what was made
until then stays.
-/
namespace MachineImage

structure ImageJob where
  /-- The region in which the image is made. -/
  home : Region
  /-- The bucket for the upload. -/
  bucket : Text
  image : File
  spec : ImageSpec
  /-- Whether everybody gets the image, in every region. -/
  isPublic : Bool := false
  hasPublicSnapshot : Bool := false
  deriving DecidableEq

/-- The images made, in the order of their regions. -/
abbrev RegionImages := List (Region × Text)

/-- What all jobs of a run have in common. -/
structure Provisioner where
  client : Client
  /-- The program that the manifests name. -/
  maker : Importer
  partSize : Nat
  /-- Seconds between two polls. -/
  interval : Nat

namespace Provisioner

def pollVolume (p : Provisioner) (region : Region) (task : Text) :
    Action RunError (Poll Text) := do
  match ← p.client.describeConversionTask region task with
  | .completed volume => return .ready volume
  | .inProgress message => return .pending (.status "Importing volume".toList message)

/-- A state as the answer to a poll. -/
def poll : Compute.Readiness → Poll Unit
  | .pending => .pending .dot
  | .ready => .ready ()

def pollSnapshot (p : Provisioner) (region : Region) (snapshot : Text) :
    Action RunError (Poll Unit) := do
  return poll (← p.client.snapshotReadiness region snapshot)

def pollImage (p : Provisioner) (region : Region) (image : Text) :
    Action RunError (Poll Unit) := do
  return poll (← p.client.imageReadiness region image)

theorem consumes_pollVolume (p : Provisioner) (region : Region) (task : Text) :
    (p.pollVolume region task).Consumes :=
  (p.client.consumes_askRepeatedly _ _ _ _).bind fun status => by
    cases status <;> exact fun _ => Nat.le_refl _

theorem consumes_pollSnapshot (p : Provisioner) (region : Region) (snapshot : Text) :
    (p.pollSnapshot region snapshot).Consumes :=
  (p.client.consumes_askRepeatedly _ _ _ _).bind fun _ _ => Nat.le_refl _

theorem consumes_pollImage (p : Provisioner) (region : Region) (image : Text) :
    (p.pollImage region image).Consumes :=
  (p.client.consumes_askRepeatedly _ _ _ _).bind fun _ _ => Nat.le_refl _

/-- The id of the volume that the task imports, once it is there. -/
def awaitVolume (p : Provisioner) (region : Region) (task : Text) : Action RunError Text := do
  let volume ← Action.await (p.pollVolume region task) (p.consumes_pollVolume region task)
    p.interval
  Action.done
  return volume

def awaitSnapshot (p : Provisioner) (region : Region) (snapshot : Text) :
    Action RunError Unit := do
  Action.await (p.pollSnapshot region snapshot) (p.consumes_pollSnapshot region snapshot)
    p.interval
  Action.done

def awaitImage (p : Provisioner) (region : Region) (image : Text) : Action RunError Unit := do
  Action.await (p.pollImage region image) (p.consumes_pollImage region image) p.interval
  Action.done

/-- Uploads the image and imports it; the id of the volume. -/
def importImage (p : Provisioner) (job : ImageJob) (nonce : Octets) : Action RunError Text := do
  let uploaded ← p.client.upload p.maker ⟨job.home, job.bucket, nonce⟩ p.partSize job.image
  let manifestUrl ← p.client.presign job.home job.bucket "GET".toList uploaded.manifestPath
    Signing.expiry
  let task ← p.client.importVolume job.home manifestUrl uploaded.size uploaded.gibibytes
  p.awaitVolume job.home task

/-- Makes a snapshot of a volume and deletes the volume; the id of the snapshot. -/
def snapshotVolume (p : Provisioner) (home : Region) (volume : Text) : Action RunError Text := do
  Action.write "Creating snapshot".toList
  let snapshot ← p.client.createSnapshot home volume
  p.awaitSnapshot home snapshot
  p.client.deleteVolume home volume
  return snapshot

def publishSnapshot (p : Provisioner) (home : Region) (snapshot : Text) :
    Action RunError Unit := do
  Action.write
    ("Marking ".toList ++ snapshot ++ " in ".toList ++ home.name ++ " as public...".toList)
  p.client.publishSnapshot home snapshot
  Action.done

/-- The id of the image registered on a snapshot. -/
def registerImage (p : Provisioner) (home : Region) (snapshot : Text) (spec : ImageSpec) :
    Action RunError Text := do
  Action.write "Registering AMI...".toList
  let image ← p.client.registerImage home snapshot spec
  p.awaitImage home image
  return image

/-- The regions that get the image: all that there are, with the home region before them if it is
not among them. -/
def targets (home : Region) (regions : List Region) : List Region :=
  if home ∈ regions then regions else home :: regions

/-- Starts the copies; a region gets its entry whether its copy is ready or not. -/
def copyToEach (p : Provisioner) (home : Region) (image : Text) :
    List Region → Action RunError RegionImages
  | [] => return []
  | region :: regions => do
    let entry ←
      if region = home then pure image
      else do
        Action.write (' ' :: region.name)
        p.client.copyImage home image region
    return (region, entry) :: (← p.copyToEach home image regions)

/-- Waits for the copies in order. -/
def awaitCopies (p : Provisioner) (home : Region) : RegionImages → Action RunError Unit
  | [] => return
  | (region, image) :: images => do
    if region ≠ home then
      Action.write ("Waiting for AMI copying to ".toList ++ region.name ++ "...".toList)
      p.awaitImage region image
    p.awaitCopies home images

/-- Copies the image to every target; all copies are started before the first is waited for. -/
def replicate (p : Provisioner) (home : Region) (image : Text) (regions : List Region) :
    Action RunError RegionImages := do
  Action.write "Copying AMI to regions:".toList
  let images ← p.copyToEach home image (targets home regions)
  Action.write ".\n".toList
  p.awaitCopies home images
  return images

def publishEach (p : Provisioner) : RegionImages → Action RunError Unit
  | [] => return
  | (region, image) :: images => do
    p.client.publishImage region image
    p.publishEach images

def publishImages (p : Provisioner) (images : RegionImages) : Action RunError Unit := do
  Action.write "Marking images as public...".toList
  p.publishEach images
  Action.done

/-- Carries out a job. Asking for the regions comes first, since it shows whether the credentials
are good. -/
def run (p : Provisioner) (job : ImageJob) (nonce : Octets) : Action RunError RegionImages := do
  let regions ← p.client.describeRegions job.home
  let volume ← p.importImage job nonce
  let snapshot ← p.snapshotVolume job.home volume
  if job.hasPublicSnapshot then p.publishSnapshot job.home snapshot
  let image ← p.registerImage job.home snapshot job.spec
  if job.isPublic then
    let images ← p.replicate job.home image regions
    p.publishImages images
    return images
  else return [(job.home, image)]

end Provisioner

end MachineImage
