import MachineImage.Compute.Answer
import MachineImage.Json.Basic
import MachineImage.Provision

/-!
Telling the subscribers of a topic about new images.
-/
namespace MachineImage

structure Announcement where
  /-- The topic; its region is the one that is called. -/
  topic : Text
  release : Text
  imageVersion : Text
  deriving DecidableEq, Repr

namespace Announcement

def subject (a : Announcement) : Text := "New ".toList ++ a.release ++ " AMIs".toList

/-- The list of images of a region; there is one. -/
def entry (imageName image : Text) : Json :=
  .array [.ofMembers [("Name".toList, .ofText imageName), ("ImageId".toList, .ofText image)]]

/-- The message for programs. -/
def document (a : Announcement) (imageName : Text) (images : RegionImages) : Json :=
  .ofMembers [("v1".toList, .ofMembers [
    ("ReleaseVersion".toList, .ofText a.release),
    ("ImageVersion".toList, .ofText a.imageVersion),
    ("Regions".toList, .ofMembers (images.map fun i => (i.1.name, entry imageName i.2)))])]

def message (a : Announcement) (imageName : Text) (images : RegionImages) : Text :=
  (a.document imageName images).pretty 0

def form (a : Announcement) (imageName : Text) (images : RegionImages) : Form :=
  (⟨Operation.publish.name, "2010-03-31".toList, []⟩ : Form)
    |>.param "Message".toList (a.message imageName images)
    |>.param "Subject".toList a.subject
    |>.param "TopicArn".toList a.topic

end Announcement

/-- Announces images, once; the id of the message. -/
def Client.announce (c : Client) (a : Announcement) (imageName : Text) (images : RegionImages) :
    Action RunError Text := do
  let region ← Action.ofExcept ((Region.ofTopic a.topic).mapError .topic)
  let body ← (c.call .notification region (a.form imageName images)).adapt (.request .publish)
  Action.ofExcept (Compute.required .publish "MessageId".toList body)

end MachineImage
