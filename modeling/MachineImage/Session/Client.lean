import MachineImage.Session.Outcome
import MachineImage.Signing.Presigned
import MachineImage.Wire.Request

/-!
Carrying out orders: every attempt reads the clock, signs afresh, sends and checks what comes back.
-/
namespace MachineImage

structure Client where
  credentials : Credentials
  /-- Attempts at an order that may be repeated. -/
  maxAttempts : Nat

namespace Client

/-- The request for an order, signed at that time. -/
def request (c : Client) (order : Order) (time : Instant) : Request :=
  match order with
  | .put region bucket path body =>
    let host := bucketHost bucket
    let signature := Signing.signRequest ⟨c.credentials, region, .storage, time⟩
      { method := "PUT".toList, host, path, payloadHash := Sha256.hexDigest body }
    ⟨order, Service.storage.endpoint region, Wire.putRequest host path signature body⟩
  | .call service region form =>
    let host := service.endpoint region
    let body := form.encode
    let signature := Signing.signRequest ⟨c.credentials, region, service, time⟩
      { method := "POST".toList, host, path := ['/'],
        payloadHash := Sha256.hexDigest (Utf8.encode body) }
    ⟨order, host, Wire.apiRequest host signature body⟩

/-- One attempt at an order; `check` says what its response is worth. -/
def attempt {α : Type} (c : Client) (order : Order)
    (check : Octets → Except ExchangeError α) : Action ExchangeError α := do
  let time ← Action.readClock
  let response ← Action.send (c.request order time)
  Action.ofExcept (check response)

/-- Stores an object, with repetitions. -/
def put (c : Client) (region : Region) (bucket path : Text) (body : Octets) :
    Action ExchangeError Unit :=
  retry c.maxAttempts fun _ => c.attempt (.put region bucket path body) Wire.checkStatus

/-- Makes a call once and gives the body of its response. -/
def call (c : Client) (service : Service) (region : Region) (form : Form) :
    Action ExchangeError Text :=
  c.attempt (.call service region form) Wire.apiBody

/-- Makes a call, with repetitions. -/
def callRepeatedly (c : Client) (service : Service) (region : Region) (form : Form) :
    Action ExchangeError Text :=
  retry c.maxAttempts fun _ => c.call service region form

/-- A URL that lets whoever has it use an object for a while, good from now on. -/
def presign {ε : Type} (c : Client) (region : Region) (bucket method path : Text) (expires : Nat) :
    Action ε Text := do
  let time ← Action.readClock
  return Signing.presignedUrl ⟨c.credentials, region, .storage, time⟩ method (bucketHost bucket)
    path expires

theorem outcome_attempt {α : Type} (c : Client) (order : Order)
    (check : Octets → Except ExchangeError α) (s : Session) :
    (c.attempt order check).outcome s = match s.replies with
      | [] => (check exhausted, { s with
          readings := s.readings + 1
          log := .exchanged (c.request order (s.clock s.readings)) (.response exhausted) ::
            s.log })
      | reply :: replies =>
        (reply.received (c.request order (s.clock s.readings)).host >>= check, { s with
          readings := s.readings + 1
          replies
          log := .exchanged (c.request order (s.clock s.readings)) reply :: s.log }) := by
  unfold attempt
  rw [Action.outcome_bind]
  simp only [Action.outcome_readClock]
  rw [Action.outcome_bind, Action.outcome_send]
  rcases s with ⟨clock, readings, replies, progress, log⟩
  cases replies with
  | nil => rfl
  | cons reply replies => cases reply <;> rfl

theorem consumes_attempt {α : Type} (c : Client) (order : Order)
    {check : Octets → Except ExchangeError α}
    (refuses : ∀ x, check exhausted ≠ .ok x) : (c.attempt order check).Consumes := by
  constructor
  · intro s
    rw [outcome_attempt]
    split
    · exact Nat.le_refl _
    · next h => simp [h]
  · intro s x hx
    rw [outcome_attempt] at hx ⊢
    split at hx
    · exact absurd hx (refuses x)
    · next h => simp [h]

/-- A session without replies refuses every call. -/
theorem apiBody_exhausted (body : Text) : Wire.apiBody exhausted ≠ .ok body := by
  have h : Wire.isAccepted exhausted = false := by decide +kernel
  unfold Wire.apiBody Wire.checkStatus
  rw [h]
  split <;> simp

theorem consumes_callRepeatedly (c : Client) (service : Service) (region : Region) (form : Form) :
    (c.callRepeatedly service region form).Consumes :=
  Action.consumes_retry (fun _ => c.consumes_attempt _ apiBody_exhausted) _

end Client

end MachineImage
