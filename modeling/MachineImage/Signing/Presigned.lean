import MachineImage.Signing.Canonical
import MachineImage.Signing.Context

/-!
Signatures that travel in the query of a URL, so that whoever has the URL may use it for a while.
-/
namespace MachineImage.Signing

/-- Seconds for which the URLs of an upload are good: a week. -/
def expiry : Nat := 604800

/-- The query without its signature. -/
def unsignedQuery (c : Context) (expires : Nat) : Text :=
  "X-Amz-Algorithm=".toList ++ algorithm ++
    "&X-Amz-Credential=".toList ++ Percent.encode (c.credentials.keyId ++ '/' :: c.scope) ++
    "&X-Amz-Date=".toList ++ c.time.timestamp ++
    "&X-Amz-Expires=".toList ++ Decimal.digits expires ++ "&X-Amz-SignedHeaders=host".toList

/-- The query for a request whose payload is left out of the signature. -/
def presignedQuery (c : Context) (method host path : Text) (expires : Nat) : Text :=
  let query := unsignedQuery c expires
  let request := canonicalRequest method path query (canonicalHeaders [("host".toList, host)])
    "UNSIGNED-PAYLOAD".toList
  query ++ "&X-Amz-Signature=".toList ++ c.sign request

/-- The URL; its path stands in it as given. -/
def presignedUrl (c : Context) (method host path : Text) (expires : Nat) : Text :=
  "https://".toList ++ host ++ path ++ '?' :: presignedQuery c method host path expires

end MachineImage.Signing
