import MachineImage.Proofs.Encoded

/-!
Encoded paths read back. The slashes stand as they are and every other character is encoded by
itself, so that a path is known from what is written for it, but for the empty one, which is written
as the root.
-/
namespace MachineImage.Percent

open Text

/-- A character of a path, whose segments are divided by slashes. -/
def encodePathCharacter (c : Char) : Text := if c = '/' then ['/'] else encode [c]

theorem encode_eq_flatMap (s : Text) : encode s = s.flatMap fun c => encode [c] := by
  simp [encode, Utf8.encode, List.flatMap_assoc]

/-- A path is encoded character by character. -/
theorem encodePath_eq_flatMap {path : Text} (h : path ≠ []) :
    encodePath path = path.flatMap encodePathCharacter := by
  have hencode : encode = (·.flatMap fun c => encode [c]) := funext encode_eq_flatMap
  rw [encodePath, if_neg h, hencode, intercalate_split]
  rfl

/-- The path that is written for this one. -/
def rooted (path : Text) : Text := if path = [] then ['/'] else path

theorem encodePath_rooted (path : Text) :
    encodePath path = (rooted path).flatMap encodePathCharacter := by
  unfold rooted
  split
  · next h =>
    rw [h]
    rfl
  · next h => exact encodePath_eq_flatMap h

theorem octets?_encodePathCharacter (c : Char) (s : Text) :
    octets? (encodePathCharacter c ++ s) = (octets? s).map (Utf8.encodeChar c ++ ·) := by
  unfold encodePathCharacter
  split
  · next h =>
    subst h
    rfl
  · rw [encode, octets?_flatMap_append, Utf8.encode, List.flatMap_singleton]

theorem octets?_encodePathCharacters (path : Text) :
    octets? (path.flatMap encodePathCharacter) = some (Utf8.encode path) := by
  induction path with
  | nil => rfl
  | cons c path ih =>
    rw [List.flatMap_cons, octets?_encodePathCharacter, ih, Option.map_some]
    rfl

theorem decode?_encodePath (path : Text) : decode? (encodePath path) = some (rooted path) := by
  rw [encodePath_rooted, decode?, octets?_encodePathCharacters, Option.bind_some,
    Utf8.decode?_encode]

/-- Different paths are written differently. -/
theorem encodePath_eq_iff {path path' : Text} :
    encodePath path = encodePath path' ↔ rooted path = rooted path' := by
  constructor
  · intro h
    have hdecode := congrArg decode? h
    rw [decode?_encodePath, decode?_encodePath] at hdecode
    exact Option.some.inj hdecode
  · intro h
    rw [encodePath_rooted, h, ← encodePath_rooted]

end MachineImage.Percent
