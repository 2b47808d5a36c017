import MachineImage.Proofs.Address
import MachineImage.Proofs.EncodedPath

/-!
The path in a presigned URL and the path that was signed for it. The first is as given and the
second percent-encoded, so that they agree exactly where nothing had to be encoded.
-/
namespace MachineImage

open Text

namespace Percent

/-- Nothing in the path is encoded. -/
def Plain (path : Text) : Prop := ∀ c ∈ path, isUnreservedCharacter c = true ∨ c = '/'

instance (path : Text) : Decidable (Plain path) :=
  List.decidableBAll (fun c => isUnreservedCharacter c = true ∨ c = '/') path

theorem encodePathCharacter_of_plain {c : Char} (h : isUnreservedCharacter c = true ∨ c = '/') :
    encodePathCharacter c = [c] := by
  unfold encodePathCharacter
  split
  · next hc => rw [hc]
  · next hc =>
    have hplain : Unreserved [c] := List.forall_mem_singleton.2 (h.resolve_right hc)
    exact encode_of_unreserved hplain

theorem length_pos_encodeOctet (o : UInt8) : 1 ≤ (encodeOctet o).length := by
  unfold encodeOctet
  split <;> simp

theorem length_le_flatMap_encodeOctet (b : Octets) : b.length ≤ (b.flatMap encodeOctet).length := by
  induction b with
  | nil => exact Nat.zero_le _
  | cons o b ih =>
    have ho := length_pos_encodeOctet o
    rw [List.flatMap_cons, List.length_append, List.length_cons]
    omega

/-- What is encoded takes more than one character. -/
theorem two_le_length_encode {c : Char} (h : isUnreservedCharacter c = false) :
    2 ≤ (encode [c]).length := by
  by_cases hc : c.toNat < 128
  · exact of_ascii (fun c => isUnreservedCharacter c = false → 2 ≤ (encode [c]).length)
      (by decide +kernel) hc h
  · have hoctets : 2 ≤ (Utf8.encode [c]).length := by
      simp only [Utf8.encode, List.flatMap_cons, List.flatMap_nil, List.append_nil, Utf8.encodeChar,
        if_neg hc]
      split
      · exact Nat.le_refl 2
      · split <;> simp
    exact hoctets.trans (length_le_flatMap_encodeOctet _)

theorem length_encodePathCharacter (c : Char) : 1 ≤ (encodePathCharacter c).length ∧
    ((encodePathCharacter c).length = 1 → isUnreservedCharacter c = true ∨ c = '/') := by
  by_cases h : isUnreservedCharacter c = true ∨ c = '/'
  · rw [encodePathCharacter_of_plain h]
    exact ⟨Nat.le_refl 1, fun _ => h⟩
  · obtain ⟨hc, hslash⟩ := not_or.1 h
    have htwo := two_le_length_encode (Bool.eq_false_iff.2 hc)
    rw [encodePathCharacter, if_neg hslash]
    exact ⟨by omega, fun hone => by omega⟩

/-- Encoding never makes a path shorter, and keeps its length only if it keeps the path. -/
theorem length_flatMap_encodePathCharacter (path : Text) :
    path.length ≤ (path.flatMap encodePathCharacter).length ∧
      ((path.flatMap encodePathCharacter).length ≤ path.length → Plain path) := by
  induction path with
  | nil => exact ⟨Nat.le_refl 0, fun _ => nofun⟩
  | cons c path ih =>
    obtain ⟨hle, hplain⟩ := ih
    obtain ⟨hc, hone⟩ := length_encodePathCharacter c
    rw [List.flatMap_cons, List.length_append, List.length_cons]
    refine ⟨by omega, fun h => List.forall_mem_cons.2 ⟨hone (by omega), hplain (by omega)⟩⟩

theorem encodePath_of_plain {path : Text} (hne : path ≠ []) (h : Plain path) :
    encodePath path = path := by
  have hall : path.flatMap encodePathCharacter = path.flatMap fun c => [c] :=
    List.flatMap_congr fun c hc => encodePathCharacter_of_plain (h c hc)
  rw [encodePath_eq_flatMap hne, hall, List.flatMap_singleton']

/-- Of a path whose encoding is some beginning of it nothing is encoded. -/
theorem plain_of_encodePath_prefix {path : Text} (hne : path ≠ []) (h : encodePath path <+: path) :
    Plain path := by
  rw [encodePath_eq_flatMap hne] at h
  exact (length_flatMap_encodePathCharacter path).2 h.length_le

end Percent

/-- Nothing in the name of a host ends it or stands around it. -/
def IsHost (host : Text) : Prop := ∀ c ∈ host, c ∉ ['/', '?', '#'] ∧ isBlank c = false

instance (host : Text) : Decidable (IsHost host) :=
  List.decidableBAll (fun c => c ∉ ['/', '?', '#'] ∧ isBlank c = false) host

namespace Signing

variable (c : Context) (method : Text) {host path : Text} (expires : Nat)

/-- A URL is cut at the first `?` of its path, and behind the path if it has none. -/
theorem cut_presignedUrl (h : '?' ∉ host) : ∃ named query,
    cut (· == '?') (presignedUrl c method host path expires) =
        some ("https://".toList ++ host ++ named, query) ∧
      named <+: path ∧ ('?' ∉ path → named = path) ∧
      (query = presignedQuery c method host path expires ↔ '?' ∉ path) := by
  have hfront : ∀ {named : Text}, '?' ∉ named → '?' ∉ "https://".toList ++ host ++ named :=
    fun hnamed => List.not_mem_append (List.not_mem_append (by decide) h) hnamed
  unfold presignedUrl
  generalize presignedQuery c method host path expires = query
  by_cases hmark : '?' ∈ path
  · obtain ⟨named, rest, rfl, hnamed⟩ := List.eq_append_cons_of_mem hmark
    have hurl : "https://".toList ++ host ++ (named ++ '?' :: rest) ++ '?' :: query =
        "https://".toList ++ host ++ named ++ '?' :: (rest ++ '?' :: query) := by
      simp only [List.append_assoc, List.cons_append]
    refine ⟨named, rest ++ '?' :: query, ?_, List.prefix_append _ _,
      fun hno => absurd hmark hno, ?_⟩
    · rw [hurl, cut_sign (hfront hnamed)]
    · refine iff_of_false (fun hquery => ?_) (not_not_intro hmark)
      have hlength := congrArg List.length hquery
      rw [List.length_append, List.length_cons] at hlength
      omega
  · exact ⟨path, query, cut_sign (hfront hmark) query, List.prefix_rfl, fun _ => rfl,
      iff_of_true rfl hmark⟩

/-- A presigned URL is signed for the encoded path and names the path as given, up to a `?` in it.
Both are the same exactly if nothing in the path is encoded, and what stands behind the first `?` is
the query exactly if there is none in the path. -/
theorem presignedUrl_names (hhost : IsHost host) (hpath : path.head? = some '/') :
    ∃ named query pairs signature,
      cut (· == '?') (presignedUrl c method host path expires) =
          some ("https://".toList ++ host ++ named, query) ∧
        readPairs? (presignedQuery c method host path expires) =
          some (pairs ++ [("X-Amz-Signature".toList, signature)]) ∧
        c.Signs method (Percent.encodePath path) signature ∧
        (named = Percent.encodePath path ↔ Percent.Plain path) ∧
        (query = presignedQuery c method host path expires ↔ '?' ∉ path) := by
  have hne : path ≠ [] := by
    rintro rfl
    exact nomatch hpath
  have hmark : '?' ∉ host := fun hm => (hhost _ hm).1 (by decide)
  obtain ⟨named, query, hcut, hprefix, hwhole, hquery⟩ := cut_presignedUrl c method expires hmark
  refine ⟨named, query, _, _, hcut, readPairs?_presignedQuery c method host path expires,
    c.signs_canonicalRequest method path _ _ _, ⟨fun hnamed => ?_, fun hplain => ?_⟩, hquery⟩
  · exact Percent.plain_of_encodePath_prefix hne (hnamed ▸ hprefix)
  · have hno : '?' ∉ path := fun hm => absurd (hplain _ hm) (by decide)
    rw [hwhole hno, Percent.encodePath_of_plain hne hplain]

/-- The query of such a URL begins in the middle of its path. -/
theorem presignedUrl_names_mark :
    let c : Context :=
      ⟨⟨"AKIDEXAMPLE".toList, "secret".toList⟩, ⟨"eu-west-1".toList⟩, .storage, ⟨0, false⟩⟩
    let host := "images.s3.amazonaws.com".toList
    let path := "/disk 1?".toList
    let get := "GET".toList
    IsHost host ∧ path.head? = some '/' ∧ ∃ named query,
      cut (· == '?') (presignedUrl c get host path 60) =
          some ("https://".toList ++ host ++ named, query) ∧
        named ≠ Percent.encodePath path ∧ query ≠ presignedQuery c get host path 60 := by
  intro c host path get
  have hhost : IsHost host := by decide +kernel
  have hpath : path.head? = some '/' := by decide
  obtain ⟨named, query, -, -, hcut, -, -, hnamed, hquery⟩ :=
    presignedUrl_names c get 60 hhost hpath
  refine ⟨hhost, hpath, named, query, hcut, fun h => ?_, fun h => ?_⟩
  · exact absurd (hnamed.1 h) (by decide +kernel)
  · exact absurd (hquery.1 h) (by decide)

/-- A space in a path is enough for the URL to name another path than the signed one. -/
theorem cut_presignedUrl_ne :
    ¬ ∀ (c : Context) (method host path : Text) (expires : Nat), IsHost host →
      path.head? = some '/' → cut (· == '?') (presignedUrl c method host path expires) =
        some ("https://".toList ++ host ++ Percent.encodePath path,
          presignedQuery c method host path expires) := by
  intro h
  let c : Context :=
    ⟨⟨"AKIDEXAMPLE".toList, "secret".toList⟩, ⟨"eu-west-1".toList⟩, .storage, ⟨0, false⟩⟩
  let host := "images.s3.amazonaws.com".toList
  have hcut := h c "GET".toList host "/disk 1".toList 60 (by decide +kernel) (by decide)
  obtain ⟨named, query, hnamed, -, hwhole, -⟩ :=
    @cut_presignedUrl c "GET".toList host "/disk 1".toList 60 (by decide)
  rw [hnamed, hwhole (by decide)] at hcut
  have hpath := List.append_cancel_left (Prod.ext_iff.1 (Option.some.inj hcut)).1
  exact absurd hpath (by decide +kernel)

end Signing

end MachineImage
