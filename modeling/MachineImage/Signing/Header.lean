import MachineImage.Signing.Canonical
import MachineImage.Signing.Context

/-!
Signatures that travel in the headers of a request.
-/
namespace MachineImage.Signing

structure UnsignedRequest where
  method : Text
  host : Text
  /-- Not encoded. -/
  path : Text
  /-- Encoded already. -/
  query : Text := []
  /-- Headers to sign beside the host, the payload hash and the date. -/
  headers : List Header := []
  payloadHash : Text

/-- What a signed request carries. -/
structure Signature where
  payloadHash : Text
  timestamp : Text
  authorization : Text
  deriving DecidableEq, Repr

def signedHeaders (c : Context) (r : UnsignedRequest) : CanonicalHeaders :=
  canonicalHeaders
    (("host".toList, r.host) :: ("x-amz-content-sha256".toList, r.payloadHash) ::
      ("x-amz-date".toList, c.time.timestamp) :: r.headers)

/-- `ALGORITHM Credential=…,SignedHeaders=…,Signature=…`. -/
def authorization (keyId scope signed signature : Text) : Text :=
  algorithm ++ " Credential=".toList ++ keyId ++ '/' :: scope ++ ",SignedHeaders=".toList ++
    signed ++ ",Signature=".toList ++ signature

def signRequest (c : Context) (r : UnsignedRequest) : Signature :=
  let headers := signedHeaders c r
  ⟨r.payloadHash, c.time.timestamp,
    authorization c.credentials.keyId c.scope headers.signed
      (c.sign (canonicalRequest r.method r.path r.query headers r.payloadHash))⟩

end MachineImage.Signing
