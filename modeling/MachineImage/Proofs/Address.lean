import MachineImage.Proofs.Carried
import MachineImage.Proofs.Objects
import MachineImage.Proofs.Presigned
import MachineImage.Proofs.Stage
import MachineImage.Proofs.Verified
import Mathlib.Data.List.TakeWhile

/-!
Where the objects of an upload are: the path of each stands alike in requests, URLs and what is
signed for them.
-/
namespace MachineImage

open Text

/-- What a URL names: an object on a host, and what is asked of it. -/
structure Location where
  host : Text
  path : Text
  query : Text

namespace Location

/-- The location that a URL names, cut off from its fragment, then from its query and then from its
host. -/
def ofUrl? (url : Text) : Option Location := do
  let scheme := "https://".toList
  let (named, query) ← cut (· == '?') (url.takeWhile (· != '#'))
  let (host, path) ← cut (· == '/') (named.drop scheme.length)
  if scheme.isPrefixOf named then some ⟨host, '/' :: path, query⟩ else none

theorem ofUrl?_append {host path query : Text} (hhost : '/' ∉ host ∧ '?' ∉ host ∧ '#' ∉ host)
    (hpath : '?' ∉ path ∧ '#' ∉ path) (hquery : '#' ∉ query) :
    ofUrl? ("https://".toList ++ host ++ '/' :: path ++ '?' :: query) =
      some ⟨host, '/' :: path, query⟩ := by
  obtain ⟨hslash, hquestion, hhash⟩ := hhost
  have hassoc : "https://".toList ++ host ++ '/' :: path =
      "https://".toList ++ (host ++ '/' :: path) := List.append_assoc _ _ _
  -- There is no fragment, the query begins at the first sign for one, and so does the path.
  have hfragment : ("https://".toList ++ (host ++ '/' :: path) ++ '?' :: query).takeWhile
      (· != '#') = "https://".toList ++ (host ++ '/' :: path) ++ '?' :: query := by
    rw [List.takeWhile_eq_self_iff]
    have hnone : '#' ∉ "https://".toList ++ (host ++ '/' :: path) ++ '?' :: query := by
      simp [hhash, hpath.2, hquery]
    intro c hc
    rw [bne_iff_ne]
    rintro rfl
    exact hnone hc
  have hnamed : '?' ∉ "https://".toList ++ (host ++ '/' :: path) := by
    simp [hquestion, hpath.1]
  have hscheme : "https://".toList.isPrefixOf ("https://".toList ++ (host ++ '/' :: path)) = true :=
    List.isPrefixOf_iff_prefix.2 (List.prefix_append _ _)
  simp only [ofUrl?, hassoc, hfragment, cut_sign hnamed, Option.bind_eq_bind, Option.bind_some,
    List.drop_left, cut_sign hslash, hscheme, if_true]

theorem ofUrl?_presignedUrl (c : Signing.Context) (method : Text) {host path : Text} (expires : Nat)
    (hhost : '/' ∉ host ∧ '?' ∉ host ∧ '#' ∉ host) (hpath : '?' ∉ path ∧ '#' ∉ path) :
    ofUrl? (Signing.presignedUrl c method host ('/' :: path) expires) =
      some ⟨host, '/' :: path, Signing.presignedQuery c method host ('/' :: path) expires⟩ := by
  have hquery : '#' ∉ Signing.presignedQuery c method host ('/' :: path) expires := by
    intro h
    have hc := Signing.isQueryCharacter_of_mem_presignedQuery c method host _ expires '#' h
    exact absurd hc (by decide)
  exact ofUrl?_append hhost hpath hquery

end Location

/-- The path in the first line of a request. -/
def Wire.target? (octets : Octets) : Option Text := do
  match ← firstLine? octets with
  | [_, target, _] => some target
  | _ => none

theorem Wire.target?_putRequest (host path : Text) (s : Signing.Signature) (body : Octets) :
    target? (putRequest host path s body) = some (Percent.encodePath path) := by
  have hput : Visible "PUT".toList := by decide
  have hversion : Visible "HTTP/1.1".toList := by decide
  have hpath := visible_encodePath path
  rw [target?, putRequest_eq, firstLine?_headText hput hpath hversion]
  rfl

/-- The signature is for a request with this method and, on the line behind it, this path. -/
def Signing.Context.Signs (c : Context) (method path signature : Text) : Prop :=
  ∃ rest, signature = c.sign (method ++ '\n' :: path ++ '\n' :: rest)

theorem Signing.Context.signs_canonicalRequest (c : Context) (method path query : Text)
    (headers : CanonicalHeaders) (payloadHash : Text) :
    c.Signs method (Percent.encodePath path)
      (c.sign (canonicalRequest method path query headers payloadHash)) := by
  refine ⟨canonicalQuery query ++ '\n' :: headers.lines ++
    '\n' :: '\n' :: headers.signed ++ '\n' :: payloadHash, ?_⟩
  simp only [canonicalRequest, List.append_assoc, List.cons_append]

/-- A request that stores something says, on its first line and in what was signed for it, that it
is to stand under the path. -/
structure Request.StoresAt (q : Request) (c : Client) (d : Destination) (path : Text)
    (body : Octets) : Prop where
  target : Wire.target? q.octets = some path
  signed : ∃ (time : Instant) (payloadHash signed signature : Text),
    let context : Signing.Context := ⟨c.credentials, d.region, .storage, time⟩
    q.octets = Wire.putRequest (bucketHost d.bucket) path ⟨payloadHash, time.timestamp,
      Signing.authorization c.credentials.keyId context.scope signed signature⟩ body ∧
    context.Signs "PUT".toList path signature

/-- The URL names the path on the host of the bucket, and the signature that ends its query is for
this method and this path. -/
def Client.Locates (c : Client) (d : Destination) (method path url : Text) : Prop :=
  ∃ query time pairs signature,
    Location.ofUrl? url = some ⟨bucketHost d.bucket, path, query⟩ ∧
    readPairs? query = some (pairs ++ [("X-Amz-Signature".toList, signature)]) ∧
    Signing.Context.Signs ⟨c.credentials, d.region, .storage, time⟩ method path signature

namespace Client

variable (c : Client) (d : Destination) {path : Text} (h : d.IsObject path)

include h

theorem storesAt_request (body : Octets) (time : Instant) :
    (c.request (.put d.region d.bucket path body) time).StoresAt c d path body := by
  have hpath := d.encodePath_object h
  have hsigns := Signing.Context.signs_canonicalRequest ⟨c.credentials, d.region, .storage, time⟩
    "PUT".toList path []
  rw [hpath] at hsigns
  refine ⟨?_, time, Sha256.hexDigest body, _, _, rfl, hsigns _ _⟩
  rw [request, Wire.target?_putRequest, hpath]

theorem locates_urlAt (hbucket : '/' ∉ d.bucket ∧ '?' ∉ d.bucket ∧ '#' ∉ d.bucket) (time : Instant)
    (method : String) : c.Locates d method.toList path (c.urlAt d time method path) := by
  have hpath := d.encodePath_object h
  have hsigns := Signing.Context.signs_canonicalRequest ⟨c.credentials, d.region, .storage, time⟩
    method.toList path
  rw [hpath] at hsigns
  have hread := Signing.readPairs?_presignedQuery ⟨c.credentials, d.region, .storage, time⟩
    method.toList (bucketHost d.bucket) path Signing.expiry
  refine ⟨_, time, _, _, ?_, hread, hsigns _ _ _⟩
  have hquestion := h.not_mem (c := '?') (by decide) (by decide)
  have hhash := h.not_mem (c := '#') (by decide) (by decide)
  obtain ⟨name, h, rfl⟩ := h
  have hhost : '/' ∉ bucketHost d.bucket ∧ '?' ∉ bucketHost d.bucket ∧ '#' ∉ bucketHost d.bucket :=
    ⟨List.not_mem_append hbucket.1 (by decide), List.not_mem_append hbucket.2.1 (by decide),
      List.not_mem_append hbucket.2.2 (by decide)⟩
  exact Location.ofUrl?_presignedUrl _ _ _ hhost
    ⟨mt (List.mem_cons_of_mem _) hquestion, mt (List.mem_cons_of_mem _) hhash⟩

end Client

end MachineImage
