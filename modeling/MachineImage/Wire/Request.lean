import MachineImage.Signing.Header

/-!
Requests as they go over the wire. Each asks for the connection to be closed, so that the end of
the connection is the end of the response.
-/
namespace MachineImage.Wire

def lineEnd : Text := ['\r', '\n']

def headerLine (name : String) (value : Text) : Text :=
  name.toList ++ ": ".toList ++ value ++ lineEnd

/-- The lines that both kinds of request have in common. -/
def signedLines (host : Text) (s : Signing.Signature) (body : Octets) : Text :=
  headerLine "Host" host ++ headerLine "X-Amz-Date" s.timestamp ++
    headerLine "X-Amz-Content-SHA256" s.payloadHash ++
    headerLine "Authorization" s.authorization ++
    headerLine "Content-Length" (Decimal.digits body.length)

/-- Stores `body` under `path`. -/
def putRequest (host path : Text) (s : Signing.Signature) (body : Octets) : Octets :=
  Utf8.encode
      ("PUT ".toList ++ Percent.encodePath path ++ " HTTP/1.1".toList ++ lineEnd ++
        signedLines host s body ++ headerLine "Connection" "close".toList ++ lineEnd) ++
    body

/-- Posts an encoded form. -/
def apiRequest (host : Text) (s : Signing.Signature) (form : Text) : Octets :=
  let body := Utf8.encode form
  Utf8.encode
      ("POST / HTTP/1.0".toList ++ lineEnd ++ signedLines host s body ++
        headerLine "Content-Type" "application/x-www-form-urlencoded".toList ++
        headerLine "Connection" "close".toList ++ lineEnd) ++
    body

end MachineImage.Wire
