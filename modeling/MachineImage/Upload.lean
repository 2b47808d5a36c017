import MachineImage.File
import MachineImage.Manifest
import MachineImage.RunError
import MachineImage.Session.Client

/-!
Uploading an image: its parts one after the other, then the manifest that lists them.
-/
namespace MachineImage

structure UploadedImage where
  manifestPath : Text
  size : Nat
  gibibytes : Nat
  deriving DecidableEq, Repr

/-- Where an upload goes: the directory in the bucket is named by sixteen random octets. -/
structure Destination where
  region : Region
  bucket : Text
  nonce : Octets
  deriving DecidableEq, Repr

namespace Destination

def directory (d : Destination) : Text := Hex.encode d.nonce

def manifestPath (d : Destination) : Text := '/' :: d.directory ++ "/manifest.xml".toList

/-- The key of the part with that index. -/
def partKey (d : Destination) (index : Nat) : Text :=
  d.directory ++ "/part".toList ++ Decimal.digits index

def partPath (d : Destination) (index : Nat) : Text := '/' :: d.partKey index

end Destination

/-- Where a part ends, and with which octet and which number the next one begins. -/
structure Round where
  stop : Nat
  next : Nat
  following : Nat

/-- What is worked out, in 64 bits, when a part of that length is stored. -/
def Round.of? (start length index : Nat) : Option Round := do
  let behind ← Word.add start length
  let stop ← Word.sub behind 1
  let next ← Word.add stop 1
  let following ← Word.add index 1
  return { stop, next, following }

theorem Round.of?_eq_some {start length index : Nat} {r : Round} :
    of? start length index = some r ↔ 1 ≤ start + length ∧ start + length < UInt64.size ∧
      index + 1 < UInt64.size ∧ r = ⟨start + length - 1, start + length, index + 1⟩ := by
  constructor
  · intro h
    simp only [of?, Option.bind_eq_bind, Option.bind_eq_some_iff, Word.add_eq_some,
      Word.sub_eq_some] at h
    obtain ⟨behind, ⟨rfl, hbehind⟩, stop, ⟨hle, rfl⟩, next, ⟨rfl, -⟩, following,
      ⟨rfl, hindex⟩, hr⟩ := h
    cases hr
    refine ⟨hle, hbehind, hindex, ?_⟩
    rw [Nat.sub_add_cancel hle]
  · rintro ⟨hle, hbehind, hindex, rfl⟩
    have hagain : start + length - 1 + 1 = start + length := Nat.sub_add_cancel hle
    have hsum : Word.add start length = some (start + length) := if_pos hbehind
    have hstop : Word.sub (start + length) 1 = some (start + length - 1) := if_pos hle
    have hnext : Word.add (start + length - 1) 1 = some (start + length) :=
      Word.add_eq_some.2 ⟨hagain, hbehind⟩
    have hfollowing : Word.add index 1 = some (index + 1) := if_pos hindex
    simp only [of?, hsum, hstop, hnext, hfollowing, Option.bind_eq_bind, Option.bind_some]
    rfl

namespace Client

/-- Stores an object as a step of an upload. -/
def store (c : Client) (d : Destination) (path : Text) (body : Octets) : Action RunError Unit :=
  (c.put d.region d.bucket path body).adapt (.request .storagePut)

def presignPart (c : Client) (d : Destination) (method : String) (path : Text) :
    Action RunError Text :=
  c.presign d.region d.bucket method.toList path Signing.expiry

/-- What a manifest says of a part that is stored, with a URL for each thing that the importer does
with it. -/
def listPart (c : Client) (d : Destination) (index start stop : Nat) : Action RunError Part := do
  let path := d.partPath index
  let headUrl ← c.presignPart d "HEAD" path
  let getUrl ← c.presignPart d "GET" path
  let deleteUrl ← c.presignPart d "DELETE" path
  return { index, start, stop, key := d.partKey index, headUrl, getUrl, deleteUrl }

/-- Stores the octets from `start` on, which are left of `size`, in parts of `partSize`, the last
one perhaps shorter, and lists each part when it is stored. -/
def storeParts (c : Client) (d : Destination) (partSize size : Nat) (draft : ManifestDraft)
    (left : Octets) (start index : Nat) : Action RunError ManifestDraft :=
  if start < size then do
    Action.dot
    let length := min (size - start) partSize
    c.store d (d.partPath index) (left.take length)
    match _h : RunError.inRange (Round.of? start length index) with
    | .error e => throw e
    | .ok round => do
      let part ← c.listPart d index start round.stop
      c.storeParts d partSize size (draft.push part) (left.drop length) round.next round.following
  else return draft
termination_by UInt64.size - index
decreasing_by
  -- The index counts the rounds, and it cannot go on for ever in 64 bits.
  obtain ⟨-, -, hindex, rfl⟩ := Round.of?_eq_some.1 (RunError.inRange_eq_ok.1 _h)
  dsimp only
  omega

section

variable (c : Client) (d : Destination) {partSize size : Nat} (draft : ManifestDraft)
  (left : Octets) {start index : Nat}

theorem storeParts_of_lt (h : start < size) {round : Round}
    (hround : Round.of? start (min (size - start) partSize) index = some round) :
    c.storeParts d partSize size draft left start index = (do
      Action.dot
      c.store d (d.partPath index) (left.take (min (size - start) partSize))
      let part ← c.listPart d index start round.stop
      c.storeParts d partSize size (draft.push part) (left.drop (min (size - start) partSize))
        round.next round.following) := by
  rw [storeParts, if_pos h]
  refine bind_congr fun _ => bind_congr fun _ => ?_
  split
  · next he => exact nomatch (congrArg RunError.inRange hround).symm.trans he
  · next hok =>
    rw [RunError.inRange_eq_ok, hround] at hok
    rw [Option.some.inj hok]

theorem storeParts_of_not_lt (h : ¬ start < size) :
    c.storeParts d partSize size draft left start index = return draft := by
  rw [storeParts, if_neg h]

end

/-- What the operator is told when an upload begins. -/
def uploadText (d : Destination) (path : Text) (count : Nat) : Text :=
  "Uploading ".toList ++ path ++ " to\nhttp://".toList ++ bucketHost d.bucket ++ '/' ::
    d.directory ++ "/\nin ".toList ++ Decimal.digits count ++ " part(s)".toList

/-- Begins the upload of an image of that size; gives the URL that deletes its manifest. -/
def beginUpload (c : Client) (d : Destination) (partSize : Nat) (path : Text) (size : Nat) :
    Action RunError Text := do
  let selfDestructUrl ← c.presignPart d "DELETE" d.manifestPath
  Action.write (uploadText d path (partCount size partSize))
  return selfDestructUrl

/-- Uploads an image that has contents. The manifest is stored last, when all that it lists is in
its place. -/
def uploadImage (c : Client) (maker : Importer) (d : Destination) (partSize : Nat) (path : Text)
    (image : Octets) : Action RunError UploadedImage := do
  let selfDestructUrl ← c.beginUpload d partSize path image.length
  let draft ← c.storeParts d partSize image.length ⟨maker, selfDestructUrl, image.length, []⟩ image
    0 0
  Action.done
  let manifest ← Action.ofExcept (draft.finish.mapError .manifest)
  Action.write "Uploading volume manifest...".toList
  c.store d d.manifestPath (Utf8.encode manifest.document)
  Action.done
  return ⟨d.manifestPath, image.length, volumeGibibytes image.length⟩

/-- The size that a directory has by itself. -/
def directorySize : Nat := 4096

/-- Uploads the image in a file, in parts that have some octets. That a directory is no image shows
when its first part is read. -/
def upload (c : Client) (maker : Importer) (d : Destination) (partSize : Nat)
    (file : File) : Action RunError UploadedImage :=
  if partSize = 0 then throw .outOfRange
  else match file.found with
  | .nothing fault => throw (.unreadableImage file.path fault)
  | .directory => do
    let _ ← c.beginUpload d partSize file.path directorySize
    Action.dot
    throw (.unreadableImage file.path .isDirectory)
  | .contents [] => throw (.emptyImage file.path)
  | .contents image =>
    if image.length < UInt64.size then c.uploadImage maker d partSize file.path image
    else throw (.unreadableImage file.path .tooLarge)

end Client

end MachineImage
