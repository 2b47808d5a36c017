import MachineImage.Proofs.Verified

/-!
Repeating an order: how many requests it gets, and that each is signed at its own time and is for
the rest the same as the others.
-/
namespace MachineImage

namespace Order

def method : Order → Text
  | .put .. => "PUT".toList
  | .call .. => "POST".toList

/-- The host that the request names; an object is addressed under its bucket. -/
def hostName : Order → Text
  | .put _ bucket _ _ => bucketHost bucket
  | .call service region _ => service.endpoint region

/-- The path before it is encoded. -/
def path : Order → Text
  | .put _ _ path _ => path
  | .call .. => ['/']

def version : Order → Text
  | .put .. => "HTTP/1.1".toList
  | .call .. => "HTTP/1.0".toList

/-- The headers behind those that all requests have. -/
def furtherHeaders : Order → List Signing.Header
  | .put .. => [("Connection".toList, "close".toList)]
  | .call .. =>
    [("Content-Type".toList, "application/x-www-form-urlencoded".toList),
      ("Connection".toList, "close".toList)]

/-- The scope of a signature for the order on that day. -/
def scope (o : Order) (date : Text) : Scheme.Scope := ⟨date, o.region.name, o.service.name⟩

/-- The octets of a request for the order; what changes from one to the next are the values of two
headers. -/
def octets (o : Order) (timestamp authorization : Text) : Octets :=
  Utf8.encode (Wire.headText ((o.method ++ ' ' :: Percent.encodePath o.path ++ ' ' :: o.version) ::
    (Wire.requestHeaders o.hostName ⟨Sha256.hexDigest o.body, timestamp, authorization⟩ o.body
      o.furtherHeaders).map Wire.headerText)) ++ o.body

end Order

/-- What comes back for the requests from here on. -/
def Session.reply (s : Session) (i : Nat) : Reply := s.replies.getD i (.response exhausted)

theorem Session.Exchanged.replies_eq {s t : Session} {xs : List Exchange} (h : s.Exchanged xs t) :
    xs.map (·.reply) = (List.range xs.length).map s.reply := by
  obtain ⟨k, hk⟩ := h.replies
  apply List.ext_getElem
  · simp
  · intro i hi _
    have hget := congrArg (fun replies => replies.getD i (.response exhausted)) hk
    simp only [List.getD_eq_getElem?_getD, List.getElem?_append_left hi,
      List.getElem?_eq_getElem hi, Option.getD_some] at hget
    simp only [List.getElem_map] at hget
    simp only [List.getElem_map, List.getElem_range]
    rw [reply, List.getD_eq_getElem?_getD, ← hget]
    -- Where the replies of the session end, the others are no different.
    by_cases his : i < s.replies.length
    · rw [List.getElem?_append_left his]
    · have hle := Nat.le_of_not_lt his
      have hnone := List.getElem?_eq_none hle
      rw [List.getElem?_append_right hle, hnone]
      cases hr : (List.replicate k (Reply.response exhausted))[i - s.replies.length]? with
      | none => rfl
      | some reply => exact List.eq_of_mem_replicate (List.mem_of_getElem? hr)

namespace Client

/-- The authorization for the order at that time. -/
def authorization (c : Client) (order : Order) (time : Instant) : Text :=
  Scheme.authorization c.credentials (order.scope time.dateStamp) time.timestamp order.method
    (Percent.encodePath order.path) order.hostName (Sha256.hexDigest order.body)

/-- Of a request the order and the time tell all there is, and the time only in two values. -/
theorem request_eq (c : Client) (order : Order) (time : Instant) :
    c.request order time = ⟨order, order.service.endpoint order.region,
      order.octets time.timestamp (c.authorization order time)⟩ := by
  cases order with
  | put region bucket path body =>
    rw [request, Wire.putRequest_eq, Signing.signRequest_eq]
    rfl
  | call service region form =>
    rw [request, Wire.apiRequest_eq, Signing.signRequest_eq]
    rfl

/-- The exchange for the order that comes so many exchanges later, if all are for it. -/
def exchangeAt (c : Client) (order : Order) (s : Session) (i : Nat) : Exchange :=
  ⟨c.request order (s.clock (s.readings + i)), s.reply i⟩

/-- Up to the first valid response, or as many as may be. -/
def attemptCount (c : Client) (order : Order) (s : Session) : Nat :=
  let limit := max 1 c.maxAttempts
  min ((List.range limit).findIdx (fun i => (c.exchangeAt order s i).isAccepted) + 1) limit

namespace Attempts

variable {c : Client} {clock : Nat → Instant} {order : Order} {further reading : Nat}
  {xs : List Exchange} {r : Except ExchangeError Text}

/-- Each attempt reads the clock once. -/
theorem map_request (h : c.Attempts clock order further reading xs r) :
    xs.map (·.request) =
      (List.range xs.length).map fun i => c.request order (clock (reading + i)) := by
  induction h with
  | success | failure => rfl
  | @again further reading reply e xs r _ _ ih =>
    rw [List.map_cons, ih, List.length_cons, List.range_succ_eq_map, List.map_cons, List.map_map]
    refine congrArg _ (List.map_congr_left fun i _ => ?_)
    simp only [Function.comp_apply, Nat.succ_eq_add_one, Nat.add_assoc, Nat.add_comm 1 i]

theorem refused_dropLast (h : c.Attempts clock order further reading xs r) :
    ∀ x ∈ xs.dropLast, x.isAccepted = false := by
  induction h with
  | success | failure => exact nofun
  | again hb h ih =>
    rw [List.dropLast_cons_of_ne_nil h.ne_nil]
    exact List.forall_mem_cons.2 ⟨Exchange.isAccepted_of_error hb, ih⟩

theorem getLast?_body (h : c.Attempts clock order further reading xs r) :
    ∃ x, xs.getLast? = some x ∧ x.body = r := by
  induction h with
  | success hb => exact ⟨_, rfl, hb⟩
  | failure hb => exact ⟨_, rfl, hb⟩
  | again _ h ih => rwa [List.getLast?_cons_of_ne_nil h.ne_nil]

/-- Only when no more are left, a failure is the end. -/
theorem length_of_error {e : ExchangeError}
    (h : c.Attempts clock order further reading xs (.error e)) : xs.length = further + 1 := by
  generalize hr : Except.error e = r at h
  induction h with
  | success => cases hr
  | failure => rfl
  | again _ _ ih => rw [List.length_cons, ih hr]

theorem length_eq {s : Session} (h : c.Attempts s.clock order (c.maxAttempts - 1) s.readings xs r)
    (hxs : xs = (List.range xs.length).map (c.exchangeAt order s)) :
    xs.length = c.attemptCount order s := by
  have hlimit : max 1 c.maxAttempts = c.maxAttempts - 1 + 1 := by omega
  have hle := h.length_le
  have hpos : 0 < xs.length := List.length_pos_iff.2 h.ne_nil
  have hget : ∀ i (hi : i < xs.length), xs[i] = c.exchangeAt order s i := by
    intro i hi
    rw [List.getElem_of_eq hxs hi, List.getElem_map, List.getElem_range]
  have hrefused : ∀ i, i + 1 < xs.length → (c.exchangeAt order s i).isAccepted = false := by
    intro i hi
    rw [← hget i (by omega)]
    apply h.refused_dropLast
    rw [← List.getElem_dropLast (by rw [List.length_dropLast]; omega)]
    exact List.getElem_mem _
  obtain ⟨x, hx, hbody⟩ := h.getLast?_body
  have hlast : x = c.exchangeAt order s (xs.length - 1) := by
    rw [List.getLast?_eq_getElem?, List.getElem?_eq_getElem (by omega)] at hx
    rw [← hget _ (by omega), Option.some.inj hx]
  rw [attemptCount, hlimit]
  cases r with
  | ok b =>
    have hfirst : (List.range (c.maxAttempts - 1 + 1)).findIdx
        (fun i => (c.exchangeAt order s i).isAccepted) = xs.length - 1 := by
      rw [List.findIdx_eq (by rw [List.length_range]; omega)]
      refine ⟨?_, fun j hj => ?_⟩
      · rw [List.getElem_range, ← hlast]
        exact Exchange.isAccepted_of_ok hbody
      · rw [List.getElem_range]
        exact hrefused j (by omega)
    rw [hfirst]
    omega
  | error e =>
    have hall := h.length_of_error
    have hnone : (List.range (c.maxAttempts - 1 + 1)).findIdx
        (fun i => (c.exchangeAt order s i).isAccepted) =
          (List.range (c.maxAttempts - 1 + 1)).length := by
      refine List.findIdx_eq_length.2 fun i hi => ?_
      have hi := List.mem_range.1 hi
      rw [← hget i (by omega)]
      exact h.refused _ (List.getElem_mem _)
    rw [List.length_range] at hnone
    rw [hnone]
    omega

end Attempts

theorem map_injective {ε α β : Type} {f : α → β} (h : Function.Injective f) :
    Function.Injective (Except.map f : Except ε α → Except ε β) := by
  intro a b hab
  cases a with
  | error e => cases b with
    | error e' => exact congrArg _ (Except.error.inj hab)
    | ok y => cases hab
  | ok x => cases b with
    | error e => cases hab
    | ok y => exact congrArg _ (h (Except.ok.inj hab))

/-- The order is carried out by repeating it: one request after the other until a response is valid
or enough have failed, and the last one tells the outcome. -/
structure Repeats {α : Type} (c : Client) (order : Order)
    (check : Octets → Except ExchangeError α) (a : Action ExchangeError α) (s : Session) :
    Prop where
  exchanges : a.exchanges s =
    (List.range (c.attemptCount order s)).map (c.exchangeAt order s)
  /-- Each request is dated and signed at its own reading of the clock, and depends on the time in
  nothing else. -/
  request : ∀ i, let time := s.clock (s.readings + i)
    (c.exchangeAt order s i).request = ⟨order, order.service.endpoint order.region,
      order.octets time.timestamp (Scheme.authorization c.credentials (order.scope time.dateStamp)
        time.timestamp order.method (Percent.encodePath order.path) order.hostName
        (Sha256.hexDigest order.body))⟩
  readings : (a.outcome s).2.readings = s.readings + c.attemptCount order s
  outcome : (a.outcome s).1 = (s.reply (c.attemptCount order s - 1)).received
    (order.service.endpoint order.region) >>= check

theorem attemptCount_bounds (c : Client) (order : Order) (s : Session) :
    1 ≤ c.attemptCount order s ∧ c.attemptCount order s ≤ max 1 c.maxAttempts := by
  unfold attemptCount
  dsimp only
  omega

theorem Repeats.length_exchanges {α : Type} {c : Client} {order : Order}
    {check : Octets → Except ExchangeError α} {a : Action ExchangeError α} {s : Session}
    (h : c.Repeats order check a s) : (a.exchanges s).length = c.attemptCount order s := by
  rw [h.exchanges, List.length_map, List.length_range]

theorem repeats_retry {α : Type} (c : Client) (order : Order)
    (check : Octets → Except ExchangeError α) (text : α → Text)
    (reads : ∀ response, order.read response = (check response).map text)
    (hinj : Function.Injective text) (s : Session) :
    c.Repeats order check (retry c.maxAttempts fun _ => c.attempt order check) s := by
  obtain ⟨xs, hx, hn, h⟩ := c.attempts_retryFrom order check text reads (c.maxAttempts - 1) 1 s
  have hxs : xs = (List.range xs.length).map (c.exchangeAt order s) := by
    have hrequests := h.map_request
    have hreplies := hx.replies_eq
    apply List.ext_getElem
    · simp
    · intro i hi _
      have hq := congrArg (·[i]?) hrequests
      have hr := congrArg (·[i]?) hreplies
      simp only [List.getElem?_map, List.getElem?_eq_getElem hi, List.getElem?_range hi,
        Option.map_some, Option.some.injEq] at hq hr
      rw [List.getElem_map, List.getElem_range, exchangeAt, ← hq, ← hr]
  have hcount := h.length_eq hxs
  have hlast := h.getLast?_body
  rw [hcount] at hxs hn
  constructor
  case exchanges => rw [retry, Action.exchanges_eq hx, hxs]
  case request => exact fun i => request_eq c order _
  case readings => exact hn
  case outcome =>
    -- The last exchange tells the outcome, and all that a text may hide of it is nothing.
    obtain ⟨x, hx, hbody⟩ := hlast
    have hpos : 0 < c.attemptCount order s := by
      rw [← hcount]
      exact List.length_pos_iff.2 h.ne_nil
    have hx' : x = c.exchangeAt order s (c.attemptCount order s - 1) := by
      rw [hxs, List.getLast?_eq_getElem?, List.length_map, List.length_range, List.getElem?_map,
        List.getElem?_range (by omega)] at hx
      exact (Option.some.inj hx).symm
    have hhost : (c.exchangeAt order s (c.attemptCount order s - 1)).request.host =
        order.service.endpoint order.region := by rw [exchangeAt, request_eq]
    apply map_injective hinj
    rw [retry, ← hbody, hx', Exchange.body, hhost]
    simp only [exchangeAt, order_request]
    cases Reply.received _ _ with
    | error e => rfl
    | ok response => exact reads response

theorem repeats_callRepeatedly (c : Client) (service : Service) (region : Region) (form : Form)
    (s : Session) : c.Repeats (.call service region form) Wire.apiBody
      (c.callRepeatedly service region form) s := by
  refine c.repeats_retry _ _ id (fun response => ?_) Function.injective_id s
  rw [Order.read]
  cases Wire.apiBody response <;> rfl

theorem repeats_put (c : Client) (region : Region) (bucket path : Text) (body : Octets)
    (s : Session) : c.Repeats (.put region bucket path body) Wire.checkStatus
      (c.put region bucket path body) s :=
  c.repeats_retry _ _ (fun _ => []) (fun _ => rfl) (fun _ _ _ => rfl) s

/-- Every order that may be repeated is repeated so, whatever the clock shows and whatever comes
back. -/
theorem repeats_order (c : Client) (s : Session) (region : Region) :
    (∀ service form, c.Repeats (.call service region form) Wire.apiBody
      (c.callRepeatedly service region form) s) ∧
    ∀ bucket path body, c.Repeats (.put region bucket path body) Wire.checkStatus
      (c.put region bucket path body) s :=
  ⟨fun service form => c.repeats_callRepeatedly service region form s,
    fun bucket path body => c.repeats_put region bucket path body s⟩

end Client

end MachineImage
