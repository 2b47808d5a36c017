import MachineImage.Text.Basic

/-!
Regions and the hosts of the services in them.
-/
namespace MachineImage

structure Region where
  name : Text
  deriving DecidableEq, Repr

inductive Service
  | storage
  | compute
  | notification
  deriving DecidableEq, Repr

namespace Service

/-- The name in hosts and credential scopes. -/
def name : Service → Text
  | .storage => "s3".toList
  | .compute => "ec2".toList
  | .notification => "sns".toList

/-- The host that serves a region; storage in the oldest region has no region in its host. -/
def endpoint (s : Service) (r : Region) : Text :=
  if s = .storage ∧ r.name = "us-east-1".toList then "s3.amazonaws.com".toList
  else s.name ++ '.' :: r.name ++ ".amazonaws.com".toList

end Service

/-- The host under which the objects of a bucket are addressed. -/
def bucketHost (bucket : Text) : Text := bucket ++ ".s3.amazonaws.com".toList

/-- A text that names no topic. -/
structure InvalidTopic where
  arn : Text
  deriving DecidableEq, Repr

def InvalidTopic.message (e : InvalidTopic) : Text := "invalid topic ARN: ".toList ++ e.arn

/-- The region of a topic, the fourth of its fields; the first and the third must be right, and a
fifth must follow. -/
def Region.ofTopic (arn : Text) : Except InvalidTopic Region :=
  match Text.split (· == ':') arn with
  | first :: _ :: third :: region :: _ :: _ =>
    if first = "arn".toList ∧ third = "sns".toList ∧ region ≠ [] then .ok ⟨region⟩
    else .error ⟨arn⟩
  | _ => .error ⟨arn⟩

end MachineImage
