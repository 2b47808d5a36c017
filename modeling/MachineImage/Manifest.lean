import MachineImage.Markup.Reference
import MachineImage.Word

/-!
The import manifest: where each part of an image is stored and how to fetch, probe and delete it.
A draft gathers parts while they are stored and is finished once they cover the image.
-/
namespace MachineImage

/-- The octets of a gibibyte. -/
def gibibyte : Nat := 1024 * 1024 * 1024

/-- Whole gibibytes that hold `size` octets. -/
def volumeGibibytes (size : Nat) : Nat := (size + (gibibyte - 1)) / gibibyte

/-- Parts of `partSize` octets that hold `size` octets, the last one perhaps shorter. -/
def partCount (size partSize : Nat) : Nat := (size + (partSize - 1)) / partSize

/-- The tool that a manifest names as its maker. -/
structure Importer where
  name : Text
  version : Text
  release : Text

/-- A stored part, the octets `start` to `stop` inclusive of the image. -/
structure Part where
  index : Nat
  start : Nat
  stop : Nat
  key : Text
  headUrl : Text
  getUrl : Text
  deleteUrl : Text

/-- How many octets the part has, which is no number of 64 bits if it ends before it starts. -/
def Part.byteCount (p : Part) : Option Nat := do
  let distance ← Word.sub p.stop p.start
  Word.add distance 1

theorem Part.byteCount_eq_some {p : Part} {n : Nat} : p.byteCount = some n ↔
    p.start ≤ p.stop ∧ p.stop + 1 = p.start + n ∧ n < UInt64.size := by
  simp only [byteCount, Option.bind_eq_bind, Option.bind_eq_some_iff, Word.sub_eq_some,
    Word.add_eq_some]
  constructor
  · rintro ⟨distance, ⟨hle, rfl⟩, rfl, hlt⟩
    exact ⟨hle, by omega, hlt⟩
  · rintro ⟨hle, hn, hlt⟩
    exact ⟨p.stop - p.start, ⟨hle, rfl⟩, by omega, hlt⟩

structure ManifestDraft where
  importer : Importer
  selfDestructUrl : Text
  size : Nat
  parts : List Part

structure Manifest where
  document : Text
  size : Nat
  parts : List Part

/-- The parts of a draft end at `covered` and not at the end of the image. -/
structure IncompleteParts where
  size : Nat
  covered : Nat
  deriving DecidableEq, Repr

namespace Markup

def element (tag : String) (content : Text) : Text :=
  '<' :: tag.toList ++ '>' :: content ++ '<' :: '/' :: tag.toList ++ ['>']

/-- ` name="n"`. -/
def numberAttribute (name : String) (n : Nat) : Text :=
  ' ' :: name.toList ++ '=' :: '"' :: Decimal.digits n ++ ['"']

def textElement (tag : String) (content : Text) : Text := element tag (escapeText content)

def numberElement (tag : String) (n : Nat) : Text := element tag (Decimal.digits n)

/-- Of the reserved characters a URL holds only the ampersand. -/
def urlElement (tag : String) (url : Text) : Text := element tag (escapeAmpersands url)

end Markup

open Markup

def Part.render (p : Part) : Text :=
  "<part".toList ++ numberAttribute "index" p.index ++ '>' ::
    ("<byte-range".toList ++ numberAttribute "start" p.start ++ numberAttribute "end" p.stop ++
      "/>".toList) ++
    textElement "key" p.key ++ urlElement "head-url" p.headUrl ++ urlElement "get-url" p.getUrl ++
    urlElement "delete-url" p.deleteUrl ++ "</part>".toList

namespace ManifestDraft

/-- Where the next part begins. -/
def nextOffset (d : ManifestDraft) : Nat :=
  match d.parts.getLast? with
  | some p => p.stop + 1
  | none => 0

def push (d : ManifestDraft) (p : Part) : ManifestDraft := { d with parts := d.parts ++ [p] }

def render (d : ManifestDraft) : Text :=
  "<?xml version=\"1.0\" encoding=\"UTF-8\" standalone=\"yes\"?>".toList ++
    element "manifest"
      (textElement "version" "2010-11-15".toList ++ textElement "file-format" "RAW".toList ++
        element "importer"
          (textElement "name" d.importer.name ++ textElement "version" d.importer.version ++
            textElement "release" d.importer.release) ++
        urlElement "self-destruct-url" d.selfDestructUrl ++
        element "import"
          (numberElement "size" d.size ++ numberElement "volume-size" (volumeGibibytes d.size) ++
            "<parts".toList ++ numberAttribute "count" d.parts.length ++ '>' ::
              d.parts.flatMap Part.render ++ "</parts>".toList))

def finish (d : ManifestDraft) : Except IncompleteParts Manifest :=
  if d.nextOffset = d.size then .ok ⟨d.render, d.size, d.parts⟩
  else .error ⟨d.size, d.nextOffset⟩

end ManifestDraft

end MachineImage
