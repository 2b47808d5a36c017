import MachineImage.RunError
import MachineImage.Wire.Form

/-!
The forms of the calls to the compute service.
-/
namespace MachineImage

inductive Architecture
  | x86
  | arm
  deriving DecidableEq, Repr

def Architecture.name : Architecture → Text
  | .x86 => "x86_64".toList
  | .arm => "arm64".toList

/-- What an image is registered with. -/
structure ImageSpec where
  name : Text
  description : Text
  architecture : Architecture := .x86
  /-- Enhanced networking by virtual functions. -/
  sriov : Bool := false
  /-- Enhanced networking by the elastic adapter. -/
  ena : Bool := false
  deriving DecidableEq

namespace Compute

/-- The form of an operation in the version that all but one have. -/
def form (operation : Operation) : Form := ⟨operation.name, "2014-09-01".toList, []⟩

def describeRegions : Form := form .describeRegions

/-- Imports the image of a manifest as a volume, in the first zone of the region. -/
def importVolume (region : Region) (manifestUrl : Text) (size gibibytes : Nat) : Form :=
  (form .importVolume)
    |>.param "AvailabilityZone".toList (region.name ++ ['a'])
    |>.param "Image.Format".toList "RAW".toList
    |>.param "Image.Bytes".toList (Decimal.digits size)
    |>.param "Image.ImportManifestUrl".toList manifestUrl
    |>.param "Volume.Size".toList (Decimal.digits gibibytes)

def describeConversionTask (task : Text) : Form :=
  (form .describeConversionTasks).param "ConversionTaskId.1".toList task

def createSnapshot (volume : Text) : Form :=
  (form .createSnapshot).param "VolumeId".toList volume

def describeSnapshot (snapshot : Text) : Form :=
  (form .describeSnapshots).param "SnapshotId.1".toList snapshot

def deleteVolume (volume : Text) : Form :=
  (form .deleteVolume).param "VolumeId".toList volume

/-- Lets every account make volumes of the snapshot. -/
def publishSnapshot (snapshot : Text) : Form :=
  (form .modifySnapshotAttribute)
    |>.param "SnapshotId".toList snapshot
    |>.param "CreateVolumePermission.Add.1.Group".toList "all".toList

/-- Adds one instance-store device; the first of them is the second device of the image. -/
def addEphemeralDevice (f : Form) (i : Nat) (device : Text) : Form :=
  let mapping := "BlockDeviceMapping.".toList ++ Decimal.digits (i + 2)
  f |>.param (mapping ++ ".DeviceName".toList) device
    |>.param (mapping ++ ".VirtualName".toList) ("ephemeral".toList ++ Decimal.digits i)

/-- Registers an image with its root device on the snapshot, in a version that knows of the elastic
adapter. -/
def registerImage (snapshot : Text) (spec : ImageSpec) : Form :=
  let root :=
    (⟨Operation.registerImage.name, "2016-11-15".toList, []⟩ : Form)
      |>.param "Name".toList spec.name
      |>.param "Description".toList spec.description
      |>.param "Architecture".toList spec.architecture.name
      |>.param "RootDeviceName".toList "/dev/sda1".toList
      |>.param "VirtualizationType".toList "hvm".toList
      |>.paramIf spec.sriov "SriovNetSupport".toList "simple".toList
      |>.paramIf spec.ena "EnaSupport".toList "true".toList
      |>.param "BlockDeviceMapping.1.DeviceName".toList "/dev/sda1".toList
      |>.param "BlockDeviceMapping.1.Ebs.SnapshotId".toList snapshot
      |>.param "BlockDeviceMapping.1.Ebs.VolumeType".toList "gp2".toList
      |>.param "BlockDeviceMapping.1.Ebs.VolumeSize".toList "10".toList
  [(0, "/dev/sdb"), (1, "/dev/sdc"), (2, "/dev/sdd"), (3, "/dev/sde")].foldl
    (fun f p => addEphemeralDevice f p.1 p.2.toList) root

theorem action_registerImage (snapshot : Text) (spec : ImageSpec) :
    (registerImage snapshot spec).action = Operation.registerImage.name := by
  simp [registerImage, addEphemeralDevice]

def describeImage (image : Text) : Form :=
  (form .describeImages).param "ImageId.1".toList image

/-- Copies an image into the region that gets this form. -/
def copyImage (source : Region) (image : Text) : Form :=
  (form .copyImage)
    |>.param "SourceRegion".toList source.name
    |>.param "SourceImageId".toList image

/-- Lets every account launch the image. -/
def publishImage (image : Text) : Form :=
  (form .modifyImageAttribute)
    |>.param "ImageId".toList image
    |>.param "LaunchPermission.Add.1.Group".toList "all".toList

end Compute

end MachineImage
