import MachineImage.Proofs.Encoded
import MachineImage.Proofs.Scheme
import MachineImage.Markup.Reference
import MachineImage.Signing.Presigned
import Mathlib.Data.List.Basic

/-!
Presigned queries as whoever receives one reads them: cut into their pairs they are canonical, and
the signature in the last pair is the one that the others call for.
-/
namespace MachineImage.Signing

open Text

/-- What stands in a presigned query before its signature. -/
def signedPairs (credential timestamp : Text) (expires : Nat) : List (Text × Text) :=
  [("X-Amz-Algorithm".toList, "AWS4-HMAC-SHA256".toList),
    ("X-Amz-Credential".toList, credential), ("X-Amz-Date".toList, timestamp),
    ("X-Amz-Expires".toList, Decimal.digits expires),
    ("X-Amz-SignedHeaders".toList, "host".toList)]

/-- The characters of keys and values; a year of more than four digits has a plus sign. -/
def isValueCharacter (c : Char) : Bool :=
  Percent.isUnreservedCharacter c || c == '%' || c == '+'

def isQueryCharacter (c : Char) : Bool := isValueCharacter c || c == '=' || c == '&'

def IsValue (s : Text) : Prop := ∀ c ∈ s, isValueCharacter c = true

instance (s : Text) : Decidable (IsValue s) := List.decidableBAll (isValueCharacter · = true) s

theorem IsValue.append {s t : Text} (h : IsValue s) (h' : IsValue t) : IsValue (s ++ t) :=
  List.forall_mem_append.2 ⟨h, h'⟩

theorem isValueCharacter_of_isDigit {c : Char} (h : c.isDigit = true) :
    isValueCharacter c = true := by
  simp [isValueCharacter, Percent.isUnreservedCharacter, Char.isAlphanum, h]

theorem isValue_encode (s : Text) : IsValue (Percent.encode s) := by
  intro c hc
  rcases Percent.mem_encode hc with h | rfl
  · simp [isValueCharacter, h]
  · rfl

theorem isValue_digits (n : Nat) : IsValue (Decimal.digits n) :=
  fun _ hc => isValueCharacter_of_isDigit (Decimal.isDigit_of_mem_digits hc)

theorem isValue_padded (width n : Nat) : IsValue (Decimal.padded width n) :=
  fun _ hc => isValueCharacter_of_isDigit (Decimal.isDigit_of_mem_padded hc)

theorem isValue_timestamp (t : Instant) : IsValue t.timestamp := by
  have hdate : IsValue t.dateStamp := by
    intro c hc
    rcases Instant.mem_dateStamp hc with h | rfl | rfl
    · exact isValueCharacter_of_isDigit h
    · rfl
    · rfl
  have hclock : IsValue t.clockText :=
    ((isValue_padded _ _).append (isValue_padded _ _)).append (isValue_padded _ _)
  have htime : IsValue ('T' :: t.clockText) := IsValue.append (s := ['T']) (by decide) hclock
  exact (hdate.append htime).append (by decide)

theorem isValue_hex (b : Octets) : IsValue (Hex.encode b) :=
  Hex.forall_mem_encode (by decide) b

theorem isPair_of_isValue {p : Text × Text} (hkey : IsValue p.1) (hvalue : IsValue p.2) :
    IsPair p := by
  refine ⟨fun h => ?_, fun h => ?_, fun h => ?_⟩
  · exact absurd (hkey _ h) (by decide)
  · exact absurd (hkey _ h) (by decide)
  · exact absurd (hvalue _ h) (by decide)

/-- Only the signs between keys, values and pairs are added to their characters. -/
theorem isQueryCharacter_of_mem_joinPairs {pairs : List (Text × Text)}
    (h : ∀ p ∈ pairs, IsValue p.1 ∧ IsValue p.2) :
    ∀ c ∈ joinPairs pairs, isQueryCharacter c = true := by
  have hvalue : ∀ {s}, IsValue s → ∀ c ∈ s, isQueryCharacter c = true := by
    intro s hs c hc
    simp [isQueryCharacter, hs c hc]
  apply forall_mem_intercalate
  · exact List.forall_mem_singleton.2 rfl
  · intro piece hp
    obtain ⟨p, hm, rfl⟩ := List.mem_map.1 hp
    obtain ⟨hk, hv⟩ := h p hm
    exact List.forall_mem_append.2 ⟨hvalue hk, List.forall_mem_cons.2 ⟨rfl, hvalue hv⟩⟩

theorem joinPairs_signedPairs (credential timestamp : Text) (expires : Nat) :
    joinPairs (signedPairs credential timestamp expires) =
      "X-Amz-Algorithm=".toList ++ algorithm ++ "&X-Amz-Credential=".toList ++ credential ++
        "&X-Amz-Date=".toList ++ timestamp ++ "&X-Amz-Expires=".toList ++
        Decimal.digits expires ++ "&X-Amz-SignedHeaders=host".toList := by
  unfold algorithm
  simp [joinPairs, signedPairs, List.intercalate_cons_cons]

theorem signedPairs_ne_nil (credential timestamp : Text) (expires : Nat) :
    signedPairs credential timestamp expires ≠ [] := List.cons_ne_nil _ _

section

variable {credential timestamp signature : Text} (hc : IsValue credential) (ht : IsValue timestamp)
  (hs : IsValue signature) (expires : Nat)

include hc ht

theorem isValue_signedPairs :
    ∀ p ∈ signedPairs credential timestamp expires, IsValue p.1 ∧ IsValue p.2 := by
  simp only [signedPairs, List.forall_mem_cons]
  refine ⟨⟨?_, ?_⟩, ⟨?_, hc⟩, ⟨?_, ht⟩, ⟨?_, isValue_digits expires⟩, ⟨?_, ?_⟩, nofun⟩
  all_goals decide +kernel

include hs

theorem isValue_allPairs : ∀ p ∈ signedPairs credential timestamp expires ++
    [("X-Amz-Signature".toList, signature)], IsValue p.1 ∧ IsValue p.2 := by
  have hkey : IsValue "X-Amz-Signature".toList := by decide +kernel
  exact List.forall_mem_append.2 ⟨isValue_signedPairs hc ht expires,
    List.forall_mem_singleton.2 ⟨hkey, hs⟩⟩

theorem readPairs?_allPairs :
    readPairs? (joinPairs (signedPairs credential timestamp expires ++
        [("X-Amz-Signature".toList, signature)])) =
      some (signedPairs credential timestamp expires ++
        [("X-Amz-Signature".toList, signature)]) := by
  apply readPairs?_joinPairs (List.append_ne_nil_of_right_ne_nil _ (List.cons_ne_nil _ _))
  intro p hp
  obtain ⟨hkey, hvalue⟩ := isValue_allPairs hc ht hs expires p hp
  exact isPair_of_isValue hkey hvalue

end

section

variable (c : Context) (method host path : Text) (expires : Nat)

/-- The credential of a presigned query. -/
def credentialValue : Text := Percent.encode (c.credentials.keyId ++ '/' :: c.scope)

theorem isValue_credentialValue : IsValue (credentialValue c) := isValue_encode _

theorem unsignedQuery_eq : unsignedQuery c expires =
    joinPairs (signedPairs (credentialValue c) c.time.timestamp expires) := by
  rw [joinPairs_signedPairs]
  rfl

/-- The request that is signed. -/
def unsignedRequest : Text :=
  canonicalRequest method path (unsignedQuery c expires) (canonicalHeaders [("host".toList, host)])
    "UNSIGNED-PAYLOAD".toList

theorem presignedQuery_eq : presignedQuery c method host path expires =
    joinPairs (signedPairs (credentialValue c) c.time.timestamp expires ++
      [("X-Amz-Signature".toList, c.sign (unsignedRequest c method host path expires))]) := by
  have hkey : "&X-Amz-Signature=".toList = '&' :: ("X-Amz-Signature".toList ++ ['=']) := rfl
  rw [joinPairs_concat (signedPairs_ne_nil _ _ _), ← unsignedQuery_eq, presignedQuery, hkey,
    unsignedRequest]
  simp

theorem isQueryCharacter_of_mem_presignedQuery :
    ∀ ch ∈ presignedQuery c method host path expires, isQueryCharacter ch = true := by
  rw [presignedQuery_eq]
  exact isQueryCharacter_of_mem_joinPairs (isValue_allPairs (isValue_credentialValue c)
    (isValue_timestamp c.time) (isValue_hex _) expires)

/-- The URL has no sign for the start of a tag but those of the host and of the path. -/
theorem not_mem_presignedUrl (hhost : '<' ∉ host) (hpath : '<' ∉ path) :
    '<' ∉ presignedUrl c method host path expires := by
  have hquery : '<' ∉ presignedQuery c method host path expires := fun h =>
    absurd (isQueryCharacter_of_mem_presignedQuery c method host path expires _ h) (by decide)
  have hscheme : '<' ∉ "https://".toList := by decide
  have hmark : '<' ∉ '?' :: presignedQuery c method host path expires :=
    List.not_mem_cons_of_ne_of_not_mem (by decide) hquery
  exact List.not_mem_append (List.not_mem_append (List.not_mem_append hscheme hhost) hpath) hmark

theorem readPairs?_presignedQuery : readPairs? (presignedQuery c method host path expires) =
    some (signedPairs (credentialValue c) c.time.timestamp expires ++
      [("X-Amz-Signature".toList, c.sign (unsignedRequest c method host path expires))]) := by
  rw [presignedQuery_eq]
  exact readPairs?_allPairs (isValue_credentialValue c) (isValue_timestamp c.time) (isValue_hex _)
    expires

end

end MachineImage.Signing
