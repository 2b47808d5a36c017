import MachineImage.Duration
import MachineImage.Text.Quoted

/-!
What can go wrong between sending a request and having a valid response.
-/
namespace MachineImage

inductive ExchangeError
  | transport (host cause : Text)
  | timeout (host : Text) (limit : Duration)
  | tls (host problem : Text)
  /-- The first line of the response and the whole of it. -/
  | badStatus (line response : Text)
  | nulInResponse
  | missingSeparator (response : Text)
  | tooLarge (limit : Nat)
  | notUtf8
  deriving DecidableEq, Repr

def ExchangeError.message : ExchangeError → Text
  | .transport host cause => "request to ".toList ++ host ++ " failed: ".toList ++ cause
  | .timeout host limit =>
    "request to ".toList ++ host ++ " timed out after ".toList ++ limit.text
  | .tls host problem => "TLS setup for ".toList ++ host ++ " failed: ".toList ++ problem
  | .badStatus line response =>
    "request failed with status line ".toList ++ Text.quote line ++ ":\n".toList ++ response
  | .nulInResponse => "NUL byte in API response".toList
  | .missingSeparator response => "bad API response received:\n".toList ++ response
  | .tooLarge limit => "response exceeds ".toList ++ Decimal.digits limit ++ " bytes".toList
  | .notUtf8 => "response body is not valid UTF-8".toList

end MachineImage
