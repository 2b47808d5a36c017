import MachineImage.Announcement
import MachineImage.Proofs.Encoded
import MachineImage.Proofs.Pretty
import MachineImage.Proofs.Verified

/-!
What subscribers are told: the one request of an announcement, read back from the octets on the wire
through the form and the message in it to the images and their regions.
-/
namespace MachineImage

open Json Text

namespace Announcement

variable (a : Announcement) (imageName : Text) (images : RegionImages)

/-- What the message is to say: under each region, in the order of the images, a list of the one
image there. -/
def content : Content :=
  .record [("v1".toList, .record [
    ("ReleaseVersion".toList, .text a.release),
    ("ImageVersion".toList, .text a.imageVersion),
    ("Regions".toList, .record (images.map fun i => (i.1.name, .list [.record [
      ("Name".toList, .text imageName), ("ImageId".toList, .text i.2)]])))])]

theorem document_eq : a.document imageName images = (a.content imageName images).json := by
  simp [document, content, entry, ofMembers, Content.json, jsonItems_eq_map, jsonMembers_eq_map]

/-- The message says what it is to say. -/
theorem read?_message :
    Json.read? (a.message imageName images) = some (a.content imageName images) := by
  rw [message, document_eq, read?_pretty]

/-- A form that says it, and nothing else. -/
def Says (form : Text) : Prop :=
  ∃ message, Form.read? form = some [("Action".toList, "Publish".toList),
      ("Message".toList, message), ("Subject".toList, "New ".toList ++ a.release ++ " AMIs".toList),
      ("TopicArn".toList, a.topic), ("Version".toList, "2010-03-31".toList)] ∧
    Json.read? message = some (a.content imageName images)

theorem says_form : a.Says imageName images (a.form imageName images).encode :=
  ⟨a.message imageName images, Form.read?_encode _, a.read?_message imageName images⟩

/-- A request that says it where the topic is. -/
structure AnnouncedBy (region : Region) (keyId : Text) (q : Request) : Prop where
  host : q.host = "sns.".toList ++ region.name ++ ".amazonaws.com".toList
  /-- The form is what is posted, and what its receiver finds behind the headers if those are lines
  of their own. -/
  body : ∃ form signature, q.octets = Wire.apiRequest q.host signature form ∧
    a.Says imageName images form ∧
    (OnLine keyId → OnLine region.name →
      ∃ r, Wire.receive? q.octets = some r ∧ Utf8.decode? r.body = some form)

end Announcement

namespace Client

variable (c : Client) (a : Announcement) (imageName : Text) (images : RegionImages) (s : Session)

theorem announcedBy_request (region : Region) (time : Instant) :
    a.AnnouncedBy imageName images region c.credentials.keyId
      (c.request (.call .notification region (a.form imageName images)) time) := by
  refine ⟨rfl, (a.form imageName images).encode, _, rfl, a.says_form imageName images, ?_⟩
  intro hkey hregion
  obtain ⟨r, hr, hverifies⟩ := (c.verified_request
    (.call .notification region (a.form imageName images)) time hkey hregion).received
  refine ⟨r, hr, ?_⟩
  rw [order_request] at hverifies
  rw [hverifies.body]
  exact Utf8.decode?_encode _

/-- An announcement whose topic names a region is one request there that says exactly what there is
to say; any other topic is refused before anything is sent. -/
theorem announced :
    (∀ region, Region.ofTopic a.topic = .ok region →
      ∃ x, (c.announce a imageName images).exchanges s = [x] ∧
        a.AnnouncedBy imageName images region c.credentials.keyId x.request) ∧
    ∀ e, Region.ofTopic a.topic = .error e →
      (c.announce a imageName images).exchanges s = [] ∧
        ((c.announce a imageName images).outcome s).1 = .error (.topic e) := by
  constructor
  · intro region hregion
    have hdoes : (c.announce a imageName images).Does s fun xs _ => ∃ x, xs = [x] ∧
        a.AnnouncedBy imageName images region c.credentials.keyId x.request := by
      unfold announce
      rw [hregion]
      refine Action.Does.bind (m := fun xs r => xs = [] ∧ r = .ok region) ?_ ?_ ?_
      · exact ⟨[], .refl s, rfl, rfl⟩
      · rintro _ _ t - ⟨rfl, ⟨⟩⟩
        obtain ⟨reply, hx, -, -⟩ := c.exchanged_attempt
          (.call .notification region (a.form imageName images)) Wire.apiBody t
        refine Action.Does.bind (m := fun xs _ => ∃ x, xs = [x] ∧
          a.AnnouncedBy imageName images region c.credentials.keyId x.request) ?_ ?_ ?_
        · exact ⟨_, hx, _, rfl, c.announcedBy_request a imageName images region _⟩
        · rintro _ body t' - ⟨x, rfl, hsaid⟩
          exact ⟨[], .refl t', x, rfl, hsaid⟩
        · exact fun _ _ hxs => hxs
      · rintro _ e ⟨-, ⟨⟩⟩
    obtain ⟨xs, hx, hxs⟩ := hdoes
    rw [Action.exchanges_eq hx]
    exact hxs
  · intro e he
    have houtcome : (c.announce a imageName images).outcome s = (.error (.topic e), s) := by
      unfold announce
      rw [he]
      rfl
    refine ⟨?_, ?_⟩
    · apply Action.exchanges_eq
      rw [houtcome]
      exact .refl s
    · rw [houtcome]

/-- Two images, with quotes, ends of lines and letters outside ASCII in what is said of them. -/
theorem announced_unusual :
    let c : Client := ⟨⟨"AKID".toList, "secret".toList⟩, 3⟩
    let a : Announcement :=
      ⟨"arn:aws:sns:eu-west-1:1:ä&b".toList, "14.1 \"beta\"".toList, "1\n\\".toList⟩
    let images : RegionImages :=
      [(⟨"us-east-1".toList⟩, "ami-us".toList), (⟨"=\t".toList⟩, "😀\x01".toList)]
    let s : Session := { clock := fun n => ⟨n, false⟩, replies := [.broken []] }
    Region.ofTopic a.topic = .ok ⟨"eu-west-1".toList⟩ ∧
      ∃ x, (c.announce a "a\\b".toList images).exchanges s = [x] ∧
        a.AnnouncedBy "a\\b".toList images ⟨"eu-west-1".toList⟩ "AKID".toList x.request := by
  intro c a images s
  have htopic : Region.ofTopic a.topic = .ok ⟨"eu-west-1".toList⟩ := by
    decide +kernel
  exact ⟨htopic, (c.announced a "a\\b".toList images s).1 _ htopic⟩

end Client

end MachineImage
