import MachineImage.Json.Reader
import Mathlib.Data.List.Nodup

/-!
Text written as a JSON string: it reads back as it was, so that an object made of different keys has
different keys as they are written.
-/
namespace MachineImage.Json

/-- The keys of an object, as they are written. -/
def keys : Json → List Text
  | .object members => members.map (·.1)
  | _ => []

/-- The value that an object gives to a key first. -/
def member? (key : Text) : Json → Option Json
  | .object members => members.lookup (escape key)
  | _ => none

theorem mem_of_lookup_shortEscapes {c letter : Char} (h : shortEscapes.lookup c = some letter) :
    (c, letter) ∈ shortEscapes := by
  obtain ⟨l₁, l₂, heq, -⟩ := List.lookup_eq_some_iff.1 h
  rw [heq]
  exact List.mem_append_right l₁ List.mem_cons_self

/-- A short escape stands for its character. -/
theorem unescape?_short {c letter : Char} (h : (c, letter) ∈ shortEscapes) (s : Text) :
    unescape? ('\\' :: letter :: s) = (unescape? s).map (c :: ·) := by
  have table : ∀ p ∈ shortEscapes,
      p.2 ≠ 'u' ∧ ((shortEscapes.find? (·.2 == p.2)).map (·.1)).getD p.2 = p.1 := by decide
  obtain ⟨hu, hread⟩ := table _ h
  rw [unescape?, hread]
  rintro a b c d s hletter
  exact absurd hletter hu

/-- A control stands in two hexadecimal digits. -/
theorem unescape?_control {c : Char} (h : c.toNat < 0x20) (s : Text) :
    unescape? ("\\u00".toList ++
        [Hex.lowerDigit (c.toNat / 16), Hex.lowerDigit (c.toNat % 16)] ++ s) =
      (unescape? s).map (c :: ·) := by
  have hdigits : ∀ n < 0x20,
      hex4? ['0', '0', Hex.lowerDigit (n / 16), Hex.lowerDigit (n % 16)] = some (n, []) := by
    decide
  have hlow : ¬ (0xD800 ≤ c.toNat ∧ c.toNat < 0xDC00) ∧
      ¬ (0xDC00 ≤ c.toNat ∧ c.toNat < 0xE000) := by omega
  have hwritten : "\\u00".toList = ['\\', 'u', '0', '0'] := rfl
  simp only [hwritten, List.cons_append, List.nil_append]
  rw [unescape?, hdigits _ h]
  simp [hlow, Char.ofNat_toNat]

theorem unescape?_escapeChar (c : Char) (s : Text) :
    unescape? (escapeChar c ++ s) = (unescape? s).map (c :: ·) := by
  unfold escapeChar
  split
  · next letter h => exact unescape?_short (mem_of_lookup_shortEscapes h) s
  · next h =>
    split
    · next hc => exact unescape?_control hc s
    · have hc : c ≠ '\\' := by
        rintro rfl
        exact nomatch h
      rw [List.singleton_append, unescape?]
      · exact fun _ _ _ _ _ hc' => absurd hc' hc
      · exact fun _ _ hc' => absurd hc' hc

/-- What is escaped reads back as it was. -/
theorem unescape?_escape (s : Text) : unescape? (escape s) = some s := by
  induction s with
  | nil => rfl
  | cons c s ih =>
    have h := unescape?_escapeChar c (escape s)
    rw [ih] at h
    exact h

theorem escape_injective : Function.Injective escape := by
  intro s t h
  have hread := congrArg unescape? h
  rw [unescape?_escape, unescape?_escape] at hread
  exact Option.some.inj hread

theorem keys_ofMembers (members : List (Text × Json)) :
    (ofMembers members).keys = (members.map (·.1)).map escape := by
  simp [ofMembers, keys]

/-- An object made of members keeps their keys apart. -/
theorem nodup_keys_ofMembers {members : List (Text × Json)} :
    (ofMembers members).keys.Nodup ↔ (members.map (·.1)).Nodup := by
  rw [keys_ofMembers, List.nodup_map_iff escape_injective]

end MachineImage.Json
