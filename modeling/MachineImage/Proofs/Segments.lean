import MachineImage.Proofs.EncodedPath
import MachineImage.Proofs.Normalized

/-!
Percent-encoding and its way back. What is encoded is written in unreserved characters and octets
alone, a path keeps its segments, and who decodes a path and encodes it again has the same path.
-/
namespace MachineImage.Percent

open Text

/-- `0`–`9` and `A`–`F`. -/
def isUpperHexDigit (c : Char) : Bool := c.isDigit || ('A' ≤ c && c ≤ 'F')

/-- Unreserved characters, and octets in two digits behind a `%`. -/
inductive IsEncoded : Text → Prop
  | nil : IsEncoded []
  | character {c : Char} {s : Text} (hc : isUnreservedCharacter c = true) (h : IsEncoded s) :
    IsEncoded (c :: s)
  | octet {high low : Char} {s : Text} (hhigh : isUpperHexDigit high = true)
    (hlow : isUpperHexDigit low = true) (h : IsEncoded s) : IsEncoded ('%' :: high :: low :: s)

theorem isUpperHexDigit_upperDigit {n : Nat} (h : n < 16) :
    isUpperHexDigit (Hex.upperDigit n) = true := by
  have hall : ∀ n < 16, isUpperHexDigit (Hex.upperDigit n) = true := by decide
  exact hall n h

theorem isUnreservedCharacter_ofNat {o : UInt8} (h : isUnreserved o = true) :
    isUnreservedCharacter (Char.ofNat o.toNat) = true :=
  of_octet (fun o => isUnreserved o = true → isUnreservedCharacter (Char.ofNat o.toNat) = true)
    (by decide +kernel) o h

theorem IsEncoded.encodeOctet_append (o : UInt8) {s : Text} (h : IsEncoded s) :
    IsEncoded (encodeOctet o ++ s) := by
  have ho : o.toNat < 256 := o.toNat_lt
  unfold encodeOctet
  split
  · next hplain => exact .character (isUnreservedCharacter_ofNat hplain) h
  · exact .octet (isUpperHexDigit_upperDigit (by omega)) (isUpperHexDigit_upperDigit (by omega)) h

theorem isEncoded_flatMap (b : Octets) : IsEncoded (b.flatMap encodeOctet) := by
  induction b with
  | nil => exact .nil
  | cons o b ih =>
    rw [List.flatMap_cons]
    exact ih.encodeOctet_append o

/-- The text is what stands encoded here. -/
structure Encodes (s encoded : Text) : Prop where
  isEncoded : IsEncoded encoded
  octets : octets? encoded = some (Utf8.encode s)
  decoded : decode? encoded = some s

theorem encodes_encode (s : Text) : Encodes s (encode s) :=
  ⟨isEncoded_flatMap _, octets?_flatMap _, decode?_encode s⟩

/-- No segment begins where none did. -/
theorem not_mem_encode (s : Text) : '/' ∉ encode s :=
  fun h => absurd (mem_encode h) (by decide)

/-- The path is what stands encoded here, segment by segment, and is encoded like this again. -/
structure EncodesPath (path encoded : Text) : Prop where
  segments : split (· == '/') encoded = (split (· == '/') path).map encode
  decoded : decode? encoded = some path
  again : (decode? encoded).map encodePath = some encoded

theorem encodesPath_encodePath {path : Text} (h : path ≠ []) :
    EncodesPath path (encodePath path) := by
  have hdecoded : decode? (encodePath path) = some path := by
    rw [decode?_encodePath, rooted, if_neg h]
  refine ⟨?_, hdecoded, by rw [hdecoded, Option.map_some]⟩
  rw [encodePath, if_neg h]
  apply split_intercalate
  · simpa using split_ne_nil _ path
  · intro segment hsegment
    obtain ⟨s, -, rfl⟩ := List.mem_map.1 hsegment
    exact not_mem_encode s

/-- Any text can be encoded and decoded, piece by piece too, and any path but the empty one can be
so segment by segment; no two such paths are encoded alike. -/
theorem encode_invertible : (∀ s, Encodes s (encode s)) ∧
    (∀ s t, encode (s ++ t) = encode s ++ encode t) ∧
    (∀ path, path ≠ [] → EncodesPath path (encodePath path)) ∧
    ∀ path path', path ≠ [] → path' ≠ [] → encodePath path = encodePath path' → path = path' := by
  refine ⟨encodes_encode, encode_append, fun path => encodesPath_encodePath, ?_⟩
  intro path path' h h' he
  have hdecoded := (encodesPath_encodePath h).decoded
  rw [he, (encodesPath_encodePath h').decoded] at hdecoded
  exact (Option.some.inj hdecoded).symm

/-- Empty segments, a slash that is encoded already, and a letter of two octets. -/
theorem encode_invertible_segments :
    let path := "//%2F é/".toList
    path ≠ [] ∧ EncodesPath path "//%252F%20%C3%A9/".toList := by
  intro path
  have hne : path ≠ [] := by decide
  have hencoded : encodePath path = "//%252F%20%C3%A9/".toList := by decide +kernel
  obtain ⟨-, -, hpath, -⟩ := encode_invertible
  exact ⟨hne, hencoded ▸ hpath path hne⟩

end MachineImage.Percent
