import MachineImage.File
import MachineImage.Markup.Message
import MachineImage.Region
import MachineImage.Wire.Error

/-!
What can stop a run, and the operation it was in.
-/
namespace MachineImage

inductive Operation
  | describeRegions
  | importVolume
  | describeConversionTasks
  | createSnapshot
  | describeSnapshots
  | deleteVolume
  | modifySnapshotAttribute
  | registerImage
  | describeImages
  | copyImage
  | modifyImageAttribute
  | publish
  | storagePut
  deriving DecidableEq, Repr

def Operation.name : Operation → Text
  | .describeRegions => "DescribeRegions".toList
  | .importVolume => "ImportVolume".toList
  | .describeConversionTasks => "DescribeConversionTasks".toList
  | .createSnapshot => "CreateSnapshot".toList
  | .describeSnapshots => "DescribeSnapshots".toList
  | .deleteVolume => "DeleteVolume".toList
  | .modifySnapshotAttribute => "ModifySnapshotAttribute".toList
  | .registerImage => "RegisterImage".toList
  | .describeImages => "DescribeImages".toList
  | .copyImage => "CopyImage".toList
  | .modifyImageAttribute => "ModifyImageAttribute".toList
  | .publish => "Publish".toList
  | .storagePut => "S3 PUT".toList

inductive RunError
  | request (operation : Operation) (cause : ExchangeError)
  | missingField (operation : Operation) (field body : Text)
  | unexpectedStatus (operation : Operation) (status : Text)
  | operationFailed (operation : Operation) (body : Text)
  | unreadableImage (path : Text) (fault : FileFault)
  | emptyImage (path : Text)
  | noRegions (body : Text)
  | extraction (cause : Markup.ExtractError)
  | manifest (cause : IncompleteParts)
  | topic (cause : InvalidTopic)
  /-- A number was to be worked out that there is not, or that 64 bits do not hold. -/
  | outOfRange
  deriving DecidableEq, Repr

def RunError.message : RunError → Text
  | .request operation cause => operation.name ++ " request failed: ".toList ++ cause.message
  | .missingField operation field body =>
    "could not find <".toList ++ field ++ "> in ".toList ++ operation.name ++
      " response:\n".toList ++ body
  | .unexpectedStatus operation status =>
    "bad status from ".toList ++ operation.name ++ ": ".toList ++ status
  | .operationFailed operation body => operation.name ++ " failed:\n".toList ++ body
  | .unreadableImage path fault =>
    "error reading image ".toList ++ path ++ ": ".toList ++ fault.message
  | .emptyImage path => "image ".toList ++ path ++ " is empty".toList
  | .noRegions body =>
    "could not find any regions in DescribeRegions response:\n".toList ++ body
  | .extraction cause => cause.message
  | .manifest cause => cause.message
  | .topic cause => cause.message
  | .outOfRange => "number out of range".toList

/-- A number that was worked out, if there is one. -/
def RunError.inRange {α : Type} : Option α → Except RunError α
  | some a => .ok a
  | none => .error .outOfRange

theorem RunError.inRange_eq_ok {α : Type} {o : Option α} {a : α} :
    inRange o = .ok a ↔ o = some a := by
  cases o <;> simp [inRange]

end MachineImage
