import MachineImage.Wire.Error
import MachineImage.Wire.ServerName

/-!
The secure transport, as far as it goes before a connection is opened.
-/
namespace MachineImage.Wire

structure Transport where
  /-- The time for one exchange. -/
  limit : Duration
  deriving DecidableEq, Repr

namespace Transport

/-- The text for diagnostics. -/
def diagnostic (t : Transport) : Text :=
  "TlsTransport \x7b timeout: ".toList ++ t.limit.text ++ ", .. \x7d".toList

/-- What stops a connection to the host: no server can prove that it has such a name. -/
def refusal? (_ : Transport) (host : Text) : Option ExchangeError :=
  if isServerName host then none else some (.tls host "invalid dns name".toList)

end Transport

end MachineImage.Wire
