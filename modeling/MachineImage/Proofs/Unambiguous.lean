import MachineImage.Proofs.Address
import MachineImage.Proofs.EncodedPath
import MachineImage.Proofs.Normalized

/-!
Canonical requests tell what they were made of. Lines are counted from both ends, for only the
headers between them can be any number of lines, and none of these holds an end of a line itself.
-/
namespace MachineImage

open Text

namespace Text

variable {α : Type} [BEq α] [LawfulBEq α] {sign : α} {s s' t t' : List α}

/-- What stands before the first sign and behind it is known from the whole. -/
theorem append_sign_inj (h : sign ∉ s) (h' : sign ∉ s') (he : s ++ sign :: t = s' ++ sign :: t') :
    s = s' ∧ t = t' := by
  have hcut := cut_sign h t
  rw [he, cut_sign h' t'] at hcut
  obtain ⟨rfl, rfl⟩ := Prod.ext_iff.1 (Option.some.inj hcut)
  exact ⟨rfl, rfl⟩

/-- Just so with the last sign. -/
theorem append_sign_inj_right (h : sign ∉ t) (h' : sign ∉ t')
    (he : s ++ sign :: t = s' ++ sign :: t') : s = s' ∧ t = t' := by
  have hreverse := congrArg List.reverse he
  simp only [List.reverse_append, List.reverse_cons, List.append_assoc,
    List.singleton_append] at hreverse
  obtain ⟨ht, hs⟩ := append_sign_inj (mt List.mem_reverse.1 h) (mt List.mem_reverse.1 h') hreverse
  exact ⟨List.reverse_injective hs, List.reverse_injective ht⟩

end Text

namespace Sha256

/-- Two texts that the hash does not tell apart. -/
def Collides (a b : Octets) : Prop := a ≠ b ∧ digest a = digest b

theorem eq_or_collides {a b : Octets} (h : digest a = digest b) : a = b ∨ Collides a b :=
  or_iff_not_imp_left.2 fun hne => ⟨hne, h⟩

/-- What the keyed hash takes the hash of first, and what it takes it of then. -/
def inner (key data : Octets) : Octets := (blockKey key).map (· ^^^ 0x36) ++ data

def outer (key data : Octets) : Octets := (blockKey key).map (· ^^^ 0x5c) ++ digest (inner key data)

theorem eq_or_collides_of_hmac {key a b : Octets} (h : hmac key a = hmac key b) :
    a = b ∨ Collides (inner key a) (inner key b) ∨ Collides (outer key a) (outer key b) := by
  have hmac_eq : ∀ data, hmac key data = digest (outer key data) := fun _ => rfl
  rw [hmac_eq, hmac_eq] at h
  rcases eq_or_collides h with houter | hcollides
  · rcases eq_or_collides (List.append_cancel_left houter) with hinner | hcollides
    · exact .inl (List.append_cancel_left hinner)
    · exact .inr (.inl hcollides)
  · exact .inr (.inr hcollides)

end Sha256

namespace Signing

/-- A request to be signed, in which only the path and the values of headers may hold ends of
lines. -/
structure Signable where
  method : Text
  path : Text
  query : Text
  headers : List Header
  payloadHash : Text
  not_mem_method : '\n' ∉ method
  not_mem_query : '\n' ∉ query
  not_mem_names : ∀ h ∈ headers, '\n' ∉ h.1 ∧ ':' ∉ h.1
  not_mem_payloadHash : '\n' ∉ payloadHash

namespace Signable

def canonical (r : Signable) : Text :=
  canonicalRequest r.method r.path r.query (canonicalHeaders r.headers) r.payloadHash

/-- Two requests that differ in nothing that a signature tells apart. -/
structure Agrees (r r' : Signable) : Prop where
  method : r.method = r'.method
  path : Percent.rooted r.path = Percent.rooted r'.path
  query : canonicalQuery r.query = canonicalQuery r'.query
  fields : signedFields r.headers = signedFields r'.headers
  signed : (canonicalHeaders r.headers).signed = (canonicalHeaders r'.headers).signed
  payloadHash : r.payloadHash = r'.payloadHash

variable {r r' : Signable}

theorem not_mem_canonicalQuery (r : Signable) : '\n' ∉ canonicalQuery r.query :=
  Signing.not_mem_canonicalQuery r.not_mem_query (by decide) (by decide)

theorem not_mem_encodedPath (r : Signable) : '\n' ∉ Percent.encodePath r.path :=
  fun h => ((visible_encodePath r.path).onLine _ h).2 rfl

/-- The lines of the headers stand between three lines in front and two behind them. -/
theorem canonical_eq (r : Signable) : r.canonical =
    r.method ++ '\n' :: (Percent.encodePath r.path ++ '\n' :: (canonicalQuery r.query ++
      '\n' :: ((joinFields '\n' ':' (signedFields r.headers) ++ ['\n'] ++
        '\n' :: (canonicalHeaders r.headers).signed) ++ '\n' :: r.payloadHash))) := by
  rw [← lines_canonicalHeaders, canonical, canonicalRequest]
  simp

theorem agrees_of_canonical_eq (h : r.canonical = r'.canonical) : r.Agrees r' := by
  rw [canonical_eq, canonical_eq] at h
  obtain ⟨hmethod, h⟩ := append_sign_inj r.not_mem_method r'.not_mem_method h
  obtain ⟨hpath, h⟩ := append_sign_inj r.not_mem_encodedPath r'.not_mem_encodedPath h
  obtain ⟨hquery, h⟩ := append_sign_inj r.not_mem_canonicalQuery r'.not_mem_canonicalQuery h
  obtain ⟨h, hhash⟩ := append_sign_inj_right r.not_mem_payloadHash r'.not_mem_payloadHash h
  obtain ⟨h, hsigned⟩ := append_sign_inj_right (not_mem_signed r.not_mem_names)
    (not_mem_signed r'.not_mem_names) h
  have hfields := joinFields_inj (by decide) (isField_signedFields r.not_mem_names)
    (isField_signedFields r'.not_mem_names) (List.append_cancel_right h)
  exact ⟨hmethod, Percent.encodePath_eq_iff.1 hpath, hquery, hfields, hsigned, hhash⟩

theorem Agrees.canonical_eq (h : r.Agrees r') : r.canonical = r'.canonical := by
  rw [Signable.canonical_eq, Signable.canonical_eq, h.method, Percent.encodePath_eq_iff.2 h.path,
    h.query, h.fields, h.signed, h.payloadHash]

end Signable

namespace Context

variable (c : Context)

def key : Octets :=
  signingKey c.credentials.secret c.time.dateStamp c.region.name c.service.name

/-- What the key signs for a canonical request. -/
def toSign (request : Text) : Octets :=
  Utf8.encode (stringToSign c.time.timestamp c.scope (Sha256.hexDigest (Utf8.encode request)))

/-- All that is hashed of a canonical request on the way to its signature. -/
def hashed (request : Text) : List Octets :=
  [Utf8.encode request, Sha256.inner c.key (c.toSign request),
    Sha256.outer c.key (c.toSign request)]

/-- The hash fails to tell some two texts apart that are hashed at the same place. -/
def Collision (request request' : Text) : Prop :=
  ∃ p ∈ (c.hashed request).zip (c.hashed request'), Sha256.Collides p.1 p.2

theorem eq_or_collision {request request' : Text} (h : c.sign request = c.sign request') :
    request = request' ∨ c.Collision request request' := by
  have hmac : Sha256.hmac c.key (c.toSign request) = Sha256.hmac c.key (c.toSign request') :=
    Hex.encode_injective h
  rcases Sha256.eq_or_collides_of_hmac hmac with htext | hcollides
  · have hdigest : Sha256.hexDigest (Utf8.encode request) =
        Sha256.hexDigest (Utf8.encode request') := by
      have htext := Utf8.encode_injective htext
      simp only [stringToSign, List.append_cancel_left_eq, List.cons.injEq, true_and] at htext
      exact htext
    rcases Sha256.eq_or_collides (Hex.encode_injective hdigest) with he | hcollides
    · exact .inl (Utf8.encode_injective he)
    · exact .inr ⟨_, List.mem_cons_self, hcollides⟩
  · rcases hcollides with hcollides | hcollides
    · exact .inr ⟨_, List.mem_cons_of_mem _ List.mem_cons_self, hcollides⟩
    · exact .inr ⟨_, List.mem_cons_of_mem _ (List.mem_cons_of_mem _ List.mem_cons_self), hcollides⟩

end Context

/-- Two requests have one canonical form exactly if they agree in all that is signed, and one
signature only then, unless the hash fails to tell apart what is hashed for them. -/
theorem canonical_eq_iff (r r' : Signable) : (r.canonical = r'.canonical ↔ r.Agrees r') ∧
    ∀ c : Context, c.sign r.canonical = c.sign r'.canonical →
      r.Agrees r' ∨ c.Collision r.canonical r'.canonical := by
  refine ⟨⟨Signable.agrees_of_canonical_eq, Signable.Agrees.canonical_eq⟩, fun c h => ?_⟩
  exact (c.eq_or_collision h).imp_left Signable.agrees_of_canonical_eq

/-- Three requests with ends of lines in the path and in a value. The case of a name and the white
space in a value are nothing that a signature tells apart, and the path is. -/
theorem canonical_eq_iff_lines :
    let host (path : Text) (h : Header) (hh : '\n' ∉ h.1 ∧ ':' ∉ h.1) : Signable :=
      { method := "GET".toList, path, query := "b&a=1".toList, headers := [h],
        payloadHash := "0".toList, not_mem_method := by decide, not_mem_query := by decide,
        not_mem_names := List.forall_mem_singleton.2 hh, not_mem_payloadHash := by decide }
    let r := host "/a\nb".toList ("Host".toList, " a\r\n b".toList) (by decide)
    let same := host "/a\nb".toList ("host".toList, "a b".toList) (by decide)
    let other := host "/a\n\nb".toList ("Host".toList, " a\r\n b".toList) (by decide)
    r.canonical = same.canonical ∧ r.canonical ≠ other.canonical ∧
      ∀ c : Context, c.sign r.canonical = c.sign other.canonical →
        c.Collision r.canonical other.canonical := by
  intro host r same other
  have hsame : r.Agrees same := by
    refine ⟨rfl, rfl, rfl, ?_, ?_, rfl⟩
    all_goals decide +kernel
  have hother : ¬ r.Agrees other := fun h => absurd h.path (by decide +kernel)
  refine ⟨(canonical_eq_iff r same).1.2 hsame, fun h => ?_, fun c h => ?_⟩
  · exact hother ((canonical_eq_iff r other).1.1 h)
  · exact ((canonical_eq_iff r other).2 c h).resolve_left hother

end Signing

end MachineImage
