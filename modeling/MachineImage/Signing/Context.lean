import MachineImage.Credentials
import MachineImage.Digest.Sha256
import MachineImage.Instant
import MachineImage.Region

/-!
Who signs, for which service and when, and the key that follows from it.
-/
namespace MachineImage.Signing

def algorithm : Text := "AWS4-HMAC-SHA256".toList

structure Context where
  credentials : Credentials
  region : Region
  service : Service
  time : Instant

/-- The date, the region and the service that a signature is good for. -/
def Context.scope (c : Context) : Text :=
  c.time.dateStamp ++ '/' :: c.region.name ++ '/' :: c.service.name ++ "/aws4_request".toList

def stringToSign (timestamp scope requestHash : Text) : Text :=
  algorithm ++ '\n' :: timestamp ++ '\n' :: scope ++ '\n' :: requestHash

/-- Hashes the date, the region and the service into the secret, one after the other. -/
def signingKey (secret date region service : Text) : Octets :=
  let hash := fun key s => Sha256.hmac key (Utf8.encode s)
  hash (hash (hash (hash (Utf8.encode ("AWS4".toList ++ secret)) date) region) service)
    "aws4_request".toList

def signature (key : Octets) (s : Text) : Text := Hex.encode (Sha256.hmac key (Utf8.encode s))

/-- The signature of a canonical request. -/
def Context.sign (c : Context) (canonicalRequest : Text) : Text :=
  signature
    (signingKey c.credentials.secret c.time.dateStamp c.region.name c.service.name)
    (stringToSign c.time.timestamp c.scope (Sha256.hexDigest (Utf8.encode canonicalRequest)))

end MachineImage.Signing
