import MachineImage.Proofs.HeaderFields
import MachineImage.Signing.Header

/-!
Signatures as their verifier works them out. What is hashed for a signature is written out line by
line, and of what the signer uses there is only the hash, the keyed hash and the way digits are
written.
-/
namespace MachineImage

open Text

namespace Scheme

/-- What a signature is good for. -/
structure Scope where
  date : Text
  region : Text
  service : Text

namespace Scope

/-- The names of a scope, the last of which all have. -/
def names (s : Scope) : List Text := [s.date, s.region, s.service, "aws4_request".toList]

def text (s : Scope) : Text := ['/'].intercalate s.names

/-- The key for a scope: the hash of each name is the key for the next one. -/
def key (s : Scope) (secret : Text) : Octets :=
  s.names.foldl (fun key name => Sha256.hmac key (Utf8.encode name))
    (Utf8.encode ("AWS4".toList ++ secret))

end Scope

/-- Lines with an end of a line between any two. -/
def joinLines (lines : List Text) : Text := ['\n'].intercalate lines

/-- The signature of a request that has these lines. -/
def signature (secret : Text) (s : Scope) (timestamp : Text) (request : List Text) : Text :=
  let signed := joinLines ["AWS4-HMAC-SHA256".toList, timestamp, s.text,
    Sha256.hexDigest (Utf8.encode (joinLines request))]
  Hex.encode (Sha256.hmac (s.key secret) (Utf8.encode signed))

/-- The lines of a request. Of the value of a header only the words count, and the names of the
headers are told once more behind them. -/
def requestLines (method target query : Text) (headers : List (Text × Text)) (payloadHash : Text) :
    List Text :=
  [method, target, query] ++ headers.map (fun h => h.1 ++ ':' :: unwords h.2) ++
    [[], [';'].intercalate (headers.map (·.1)), payloadHash]

/-- The headers that every request signs. -/
def signedHeaders (host payloadHash timestamp : Text) : List (Text × Text) :=
  [("host".toList, host), ("x-amz-content-sha256".toList, payloadHash),
    ("x-amz-date".toList, timestamp)]

/-- The authorization of a request that has no query and no more to sign than every request. -/
def authorization (credentials : Credentials) (s : Scope)
    (timestamp method target host payloadHash : Text) : Text :=
  let headers := signedHeaders host payloadHash timestamp
  "AWS4-HMAC-SHA256".toList ++ " Credential=".toList ++ credentials.keyId ++ '/' :: s.text ++
    ",SignedHeaders=".toList ++ [';'].intercalate (headers.map (·.1)) ++ ",Signature=".toList ++
    signature credentials.secret s timestamp (requestLines method target [] headers payloadHash)

theorem joinLines_cons (line : Text) {lines : List Text} (h : lines ≠ []) :
    joinLines (line :: lines) = line ++ '\n' :: joinLines lines := by
  obtain ⟨next, more, rfl⟩ := List.exists_cons_of_ne_nil h
  rw [joinLines, List.intercalate_cons_cons, List.append_assoc, List.singleton_append, joinLines]

theorem joinLines_singleton (line : Text) : joinLines [line] = line := List.intercalate_singleton ..

theorem joinLines_append {lines more : List Text} (h : lines ≠ []) (h' : more ≠ []) :
    joinLines (lines ++ more) = joinLines lines ++ '\n' :: joinLines more := by
  induction lines with
  | nil => exact absurd rfl h
  | cons line lines ih =>
    cases lines with
    | nil =>
      rw [List.singleton_append, joinLines_cons line h', joinLines_singleton]
    | cons next lines =>
      have hne : next :: lines ≠ [] := List.cons_ne_nil _ _
      rw [List.cons_append, joinLines_cons line (by simp), ih hne, joinLines_cons line hne,
        List.append_assoc, List.cons_append]

/-- Of the value of the host only the words count. -/
theorem authorization_congr {host host' : Text} (h : unwords host = unwords host')
    (credentials : Credentials) (s : Scope) (timestamp method target payloadHash : Text) :
    authorization credentials s timestamp method target host payloadHash =
      authorization credentials s timestamp method target host' payloadHash := by
  unfold authorization requestLines signedHeaders
  simp only [List.map_cons, h]

end Scheme

namespace Signing

open Scheme

/-- Headers that stand in order, in lower case and none twice are their own canonical form, up to
the white space in their values. -/
theorem signedFields_of_ascending {headers : List Header}
    (hlower : ∀ name ∈ headers.map (·.1), lower name = name)
    (h : Ascending (headers.map (·.1))) :
    signedFields headers = headers.map fun h => (h.1, unwords h.2) := by
  rw [List.forall_mem_map] at hlower
  have hnames : (headers.map fun h => (h.1, unwords h.2)).map (·.1) = headers.map (·.1) := by
    rw [List.map_map]
    rfl
  have hcanonical : IsCanonical headers (headers.map fun h => (h.1, unwords h.2)) := {
    names := by
      intro name
      rw [hnames, List.mem_map]
      constructor
      · rintro ⟨header, hheader, rfl⟩
        exact ⟨header, hheader, hlower header hheader⟩
      · rintro ⟨header, hheader, rfl⟩
        exact ⟨header, hheader, (hlower header hheader).symm⟩
    ascending := by rwa [hnames]
    values := by
      intro field hfield
      obtain ⟨header, hheader, rfl⟩ := List.mem_map.1 hfield
      obtain ⟨before, after, rfl⟩ := List.append_of_mem hheader
      -- No other header has the name of this one.
      have hnodup := h.nodup
      rw [List.map_append, List.map_cons, List.nodup_middle, List.nodup_cons,
        ← List.map_append] at hnodup
      have hother : ∀ f, f ∈ before ∨ f ∈ after → ¬ decide (lower f.1 = header.1) = true := by
        intro f hf he
        have hm : f ∈ before ++ header :: after :=
          List.mem_append.2 (hf.imp_right (List.mem_cons_of_mem _))
        rw [decide_eq_true_eq, hlower f hm] at he
        exact hnodup.1 (he ▸ List.mem_map_of_mem (List.mem_append.2 hf))
      rw [valuesOf, List.filter_append, List.filter_cons_of_pos (by simp [hlower header hheader]),
        List.filter_eq_nil_iff.2 fun f hf => hother f (.inl hf),
        List.filter_eq_nil_iff.2 fun f hf => hother f (.inr hf), List.nil_append,
        List.map_singleton, List.intercalate_singleton] }
  exact (isCanonical_signedFields headers).unique hcanonical fun _ => rfl

section

variable {headers : List Header} (hlower : ∀ name ∈ headers.map (·.1), lower name = name)
  (h : Ascending (headers.map (·.1)))

include hlower h

theorem signed_of_ascending :
    (canonicalHeaders headers).signed = [';'].intercalate (headers.map (·.1)) := by
  rw [canonicalHeaders_eq, signedFields_of_ascending hlower h, List.map_map]
  rfl

/-- The request that is signed has the lines that the verifier puts together. -/
theorem canonicalRequest_eq_joinLines (hne : headers ≠ []) (method path query payloadHash : Text) :
    canonicalRequest method path query (canonicalHeaders headers) payloadHash =
      joinLines (requestLines method (Percent.encodePath path) (canonicalQuery query) headers
        payloadHash) := by
  have hlines : (canonicalHeaders headers).lines =
      joinLines (headers.map fun h => h.1 ++ ':' :: unwords h.2) := by
    rw [canonicalHeaders_eq, signedFields_of_ascending hlower h, joinFields, List.map_map]
    rfl
  have hmap : headers.map (fun h => h.1 ++ ':' :: unwords h.2) ≠ [] := mt List.map_eq_nil_iff.1 hne
  rw [canonicalRequest, hlines, signed_of_ascending hlower h, requestLines,
    joinLines_append (by simp) (by simp), joinLines_append (by simp) hmap]
  simp [joinLines, List.intercalate_cons_cons]

end

/-- What a signature of the context is good for. -/
def Context.grant (c : Context) : Scope := ⟨c.time.dateStamp, c.region.name, c.service.name⟩

variable (c : Context)

theorem text_grant : c.grant.text = c.scope := by
  have hlast : "/aws4_request".toList = '/' :: "aws4_request".toList := rfl
  simp [Scope.text, Scope.names, Context.grant, Context.scope, List.intercalate_cons_cons, hlast]

theorem key_eq_signingKey (secret date region service : Text) :
    (⟨date, region, service⟩ : Scope).key secret = signingKey secret date region service := by
  simp only [Scope.key, Scope.names, List.foldl_cons, List.foldl_nil]
  unfold signingKey
  with_reducible rfl

theorem stringToSign_eq (timestamp scope requestHash : Text) :
    stringToSign timestamp scope requestHash =
      joinLines ["AWS4-HMAC-SHA256".toList, timestamp, scope, requestHash] := by
  unfold stringToSign algorithm joinLines
  simp only [List.intercalate_cons_cons, List.intercalate_singleton, List.append_assoc,
    List.cons_append, List.nil_append]

theorem key_grant (secret : Text) : c.grant.key secret =
    signingKey secret c.time.dateStamp c.region.name c.service.name :=
  key_eq_signingKey ..

/-- A request is signed as its verifier does it. -/
theorem sign_joinLines (request : List Text) : c.sign (joinLines request) =
    Scheme.signature c.credentials.secret c.grant c.time.timestamp request := by
  unfold Context.sign Scheme.signature
  rw [stringToSign_eq, ← text_grant, ← key_grant]
  unfold signature
  with_reducible rfl

theorem canonicalQuery_nil : canonicalQuery [] = [] := by
  simp [canonicalQuery, split]

section

variable (host payloadHash timestamp : Text)

theorem lower_signedHeaders :
    ∀ name ∈ (Scheme.signedHeaders host payloadHash timestamp).map (·.1), lower name = name := by
  change ∀ name ∈ ["host".toList, "x-amz-content-sha256".toList, "x-amz-date".toList], _
  decide +kernel

theorem ascending_signedHeaders :
    Ascending ((Scheme.signedHeaders host payloadHash timestamp).map (·.1)) := by
  change Ascending ["host".toList, "x-amz-content-sha256".toList, "x-amz-date".toList]
  unfold Ascending
  decide +kernel

end

/-- An authorization whose signature is made the verifier's way. -/
theorem authorization_grant
    {signed signature host payloadHash timestamp method target : Text}
    (hsigned : signed =
      [';'].intercalate ((Scheme.signedHeaders host payloadHash timestamp).map (·.1)))
    (hsignature : signature = Scheme.signature c.credentials.secret c.grant timestamp
      (requestLines method target [] (Scheme.signedHeaders host payloadHash timestamp)
        payloadHash)) :
    authorization c.credentials.keyId c.scope signed signature =
      Scheme.authorization c.credentials c.grant timestamp method target host payloadHash := by
  subst hsigned hsignature
  rw [← text_grant]
  unfold authorization algorithm Scheme.authorization
  with_reducible rfl

theorem signedHeaders_eq {r : UnsignedRequest} (h : r.headers = []) : signedHeaders c r =
    canonicalHeaders (Scheme.signedHeaders r.host r.payloadHash c.time.timestamp) := by
  unfold signedHeaders Scheme.signedHeaders
  rw [h]

/-- The authorization that a request gets is the one that its verifier expects. -/
theorem authorization_signRequest (method host path payloadHash : Text) :
    (signRequest c { method, host, path, payloadHash }).authorization =
      Scheme.authorization c.credentials c.grant c.time.timestamp method
        (Percent.encodePath path) host payloadHash := by
  have hlower := lower_signedHeaders host payloadHash c.time.timestamp
  have hascending := ascending_signedHeaders host payloadHash c.time.timestamp
  have hrequest := canonicalRequest_eq_joinLines hlower hascending (List.cons_ne_nil _ _) method
    path [] payloadHash
  rw [canonicalQuery_nil] at hrequest
  apply authorization_grant
  · rw [signedHeaders_eq c rfl]
    exact signed_of_ascending hlower hascending
  · rw [signedHeaders_eq c rfl, ← sign_joinLines]
    exact congrArg c.sign hrequest

theorem signRequest_eq (method host path payloadHash : Text) :
    signRequest c { method, host, path, payloadHash } = ⟨payloadHash, c.time.timestamp,
      Scheme.authorization c.credentials c.grant c.time.timestamp method
        (Percent.encodePath path) host payloadHash⟩ :=
  congrArg (Signature.mk payloadHash c.time.timestamp)
    (authorization_signRequest c method host path payloadHash)

end Signing

end MachineImage
