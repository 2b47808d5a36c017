import MachineImage.Session.Client

/-!
What a session has exchanged, and the attempts that make up one call.
-/
namespace MachineImage

/-- A request with what came back for it. -/
structure Exchange where
  request : Request
  reply : Reply

def Order.region : Order → Region
  | .put region .. | .call _ region _ => region

/-- The body that a valid response to an order has; there is none to read when an object is
stored. -/
def Order.read : Order → Octets → Except ExchangeError Text
  | .put .. => fun response => (Wire.checkStatus response).map fun _ => []
  | .call .. => Wire.apiBody

namespace Exchange

def body (x : Exchange) : Except ExchangeError Text :=
  x.reply.received x.request.host >>= x.request.order.read

/-- Whether what came back is a valid response. -/
def isAccepted (x : Exchange) : Bool := x.body.isOk

/-- Consecutive attempts at one thing stand together; a valid response ends them. -/
def calls : List Exchange → List (List Exchange)
  | [] => []
  | x :: xs =>
    if x.isAccepted then [x] :: calls xs
    else match calls xs with
      | [] => [[x]]
      | attempts :: more => (x :: attempts) :: more

theorem isAccepted_of_ok {x : Exchange} {b : Text} (h : x.body = .ok b) : x.isAccepted = true := by
  simp [isAccepted, h, Except.isOk, Except.toBool]

theorem isAccepted_of_error {x : Exchange} {e : ExchangeError} (h : x.body = .error e) :
    x.isAccepted = false := by
  simp [isAccepted, h, Except.isOk, Except.toBool]

theorem calls_cons_accepted {x : Exchange} (h : x.isAccepted = true) (xs : List Exchange) :
    calls (x :: xs) = [x] :: calls xs := by
  rw [calls, if_pos h]

theorem calls_cons_refused {x : Exchange} (h : x.isAccepted = false) (xs : List Exchange) :
    calls (x :: xs) = (x :: (calls xs).headD []) :: (calls xs).tail := by
  rw [calls, if_neg (by simp [h])]
  cases calls xs <;> rfl

theorem ne_nil_of_mem_calls {attempts : List Exchange} {xs : List Exchange}
    (h : attempts ∈ calls xs) : attempts ≠ [] := by
  induction xs generalizing attempts with
  | nil => simp [calls] at h
  | cons x xs ih =>
    cases hx : x.isAccepted with
    | true =>
      rw [calls_cons_accepted hx] at h
      rcases List.mem_cons.1 h with rfl | h
      · simp
      · exact ih h
    | false =>
      rw [calls_cons_refused hx] at h
      rcases List.mem_cons.1 h with rfl | h
      · simp
      · exact ih (List.mem_of_mem_tail h)

theorem flatten_calls (xs : List Exchange) : (calls xs).flatten = xs := by
  induction xs with
  | nil => rfl
  | cons x xs ih =>
    cases hx : x.isAccepted with
    | true => rw [calls_cons_accepted hx, List.flatten_cons, ih, List.singleton_append]
    | false =>
      rw [calls_cons_refused hx]
      conv => rhs; rw [← ih]
      cases calls xs <;> rfl

end Exchange

def Event.exchange? : Event → Option Exchange
  | .exchanged request reply => some ⟨request, reply⟩
  | _ => none

namespace Session

/-- The exchanges so far, the first one first. -/
def exchanges (s : Session) : List Exchange := s.log.reverse.filterMap Event.exchange?

/-- These exchanges lead from one session to the other. -/
structure Exchanged (s : Session) (xs : List Exchange) (t : Session) : Prop where
  clock : t.clock = s.clock
  exchanges : t.exchanges = s.exchanges ++ xs
  replies : ∃ k, s.replies ++ List.replicate k (.response exhausted) =
    xs.map (·.reply) ++ t.replies

theorem Exchanged.refl (s : Session) : s.Exchanged [] s := ⟨rfl, by simp, 0, by simp⟩

theorem Exchanged.trans {s t u : Session} {xs ys : List Exchange} (h : s.Exchanged xs t)
    (h' : t.Exchanged ys u) : s.Exchanged (xs ++ ys) u := by
  obtain ⟨k, hk⟩ := h.replies
  obtain ⟨l, hl⟩ := h'.replies
  refine ⟨h'.clock.trans h.clock, ?_, k + l, ?_⟩
  · rw [h'.exchanges, h.exchanges, List.append_assoc]
  · rw [← List.replicate_append_replicate, ← List.append_assoc, hk, List.append_assoc, hl,
      List.map_append, List.append_assoc]

/-- As long as there are replies, they are what comes back. -/
theorem Exchanged.take_replies {s t : Session} {xs : List Exchange} (h : s.Exchanged xs t) :
    (xs.take s.replies.length).map (·.reply) <+: s.replies := by
  obtain ⟨k, hk⟩ := h.replies
  have htake := congrArg (List.take s.replies.length) hk
  rw [List.take_left, List.take_append, ← List.map_take] at htake
  exact ⟨_, htake.symm⟩

end Session

/-- The exchanges that an action makes from the session on. -/
def Action.exchanges {ε α : Type} (a : Action ε α) (s : Session) : List Exchange :=
  (a.outcome s).2.exchanges.drop s.exchanges.length

theorem Action.exchanges_eq {ε α : Type} {a : Action ε α} {s : Session} {xs : List Exchange}
    (h : s.Exchanged xs (a.outcome s).2) : a.exchanges s = xs := by
  simp [Action.exchanges, h.exchanges]

/-- The action exchanges nothing and always succeeds. -/
def Action.Silent {ε : Type} (a : Action ε Unit) : Prop :=
  ∀ s, ∃ t, a.outcome s = (.ok (), t) ∧ t.readings = s.readings ∧ s.Exchanged [] t

theorem Action.silent_write {ε : Type} (text : Text) : (write text : Action ε Unit).Silent :=
  fun s => ⟨_, rfl, rfl, rfl, by simp [Session.exchanges, Event.exchange?], 0, by simp⟩

theorem Action.silent_done {ε : Type} : (done : Action ε Unit).Silent :=
  fun s => ⟨_, rfl, rfl, rfl, by simp [Session.exchanges, Event.exchange?], 0, by simp⟩

/-- What is exchanged first, `count` times at most, where the replies never end. -/
def Action.firstExchanges {ε α : Type} (a : Action ε α) (s : Session) (replies : Nat → Reply)
    (count : Nat) : List Exchange :=
  (a.exchanges { s with replies := (List.range count).map replies }).take count

namespace Client

/-- Attempts at an order, the first at that reading of the clock: as long as they fail, up to
`further` more follow. -/
inductive Attempts (c : Client) (clock : Nat → Instant) (order : Order) :
    Nat → Nat → List Exchange → Except ExchangeError Text → Prop
  | success {further reading : Nat} {reply : Reply} {b : Text} :
    Exchange.body ⟨c.request order (clock reading), reply⟩ = .ok b →
      Attempts c clock order further reading [⟨c.request order (clock reading), reply⟩] (.ok b)
  | failure {reading : Nat} {reply : Reply} {e : ExchangeError} :
    Exchange.body ⟨c.request order (clock reading), reply⟩ = .error e →
      Attempts c clock order 0 reading [⟨c.request order (clock reading), reply⟩] (.error e)
  | again {further reading : Nat} {reply : Reply} {e : ExchangeError} {xs : List Exchange}
      {r : Except ExchangeError Text} :
    Exchange.body ⟨c.request order (clock reading), reply⟩ = .error e →
      Attempts c clock order further (reading + 1) xs r →
      Attempts c clock order (further + 1) reading
        (⟨c.request order (clock reading), reply⟩ :: xs) r

theorem order_request (c : Client) (order : Order) (time : Instant) :
    (c.request order time).order = order := by
  cases order <;> rfl

variable {α : Type}

/-- One attempt takes one reply. -/
theorem exchanged_attempt (c : Client) (order : Order) (check : Octets → Except ExchangeError α)
    (s : Session) :
    ∃ reply, s.Exchanged [⟨c.request order (s.clock s.readings), reply⟩]
        ((c.attempt order check).outcome s).2 ∧
      ((c.attempt order check).outcome s).2.readings = s.readings + 1 ∧
      ((c.attempt order check).outcome s).1 =
        reply.received (c.request order (s.clock s.readings)).host >>= check := by
  rw [outcome_attempt]
  rcases s with ⟨clock, readings, replies, progress, log⟩
  cases replies with
  | nil =>
    refine ⟨.response exhausted, ⟨rfl, ?_, 1, ?_⟩, rfl, rfl⟩
    · simp [Session.exchanges, Event.exchange?]
    · simp
  | cons reply replies =>
    refine ⟨reply, ⟨rfl, ?_, 0, ?_⟩, rfl, rfl⟩
    · simp [Session.exchanges, Event.exchange?]
    · simp

/-- Repeating an attempt makes attempts at the order, and their outcome is its outcome. -/
theorem attempts_retryFrom (c : Client) (order : Order) (check : Octets → Except ExchangeError α)
    (text : α → Text) (reads : ∀ response, order.read response = (check response).map text)
    (further attempt : Nat) (s : Session) :
    let o := Action.outcome (retryFrom (fun _ => c.attempt order check) attempt further) s
    ∃ xs, s.Exchanged xs o.2 ∧ o.2.readings = s.readings + xs.length ∧
      Attempts c s.clock order further s.readings xs (o.1.map text) := by
  have body_eq : ∀ reply time, Exchange.body ⟨c.request order time, reply⟩ =
      (reply.received (c.request order time).host >>= check).map text := by
    intro reply time
    simp only [Exchange.body, order_request]
    cases reply.received (c.request order time).host with
    | error e => rfl
    | ok response => exact reads response
  induction further generalizing attempt s with
  | zero =>
    obtain ⟨reply, hx, hr, ho⟩ := c.exchanged_attempt order check s
    refine ⟨_, hx, hr, ?_⟩
    simp only [retryFrom]
    have hb := body_eq reply (s.clock s.readings)
    rw [← ho] at hb
    cases hc : ((c.attempt order check).outcome s).1 with
    | ok x => exact .success (by rw [hb, hc]; rfl)
    | error e => exact .failure (by rw [hb, hc]; rfl)
  | succ further ih =>
    obtain ⟨reply, hx, hr, ho⟩ := c.exchanged_attempt order check s
    have hb := body_eq reply (s.clock s.readings)
    rw [← ho] at hb
    simp only [retryFrom]
    rw [Action.outcome_tryCatch]
    rcases hc : (c.attempt order check).outcome s with ⟨r, t⟩
    rw [hc] at hx hr hb
    cases r with
    | ok x => exact ⟨_, hx, hr, .success hb⟩
    | error e =>
      obtain ⟨xs, hxs, hn, ha⟩ := ih (attempt + 1) t
      simp only at hr
      refine ⟨_, hx.trans hxs, ?_, ?_⟩
      · simp only [hn, hr, List.cons_append, List.nil_append, List.length_cons]
        omega
      · rw [hx.clock, hr] at ha
        exact .again hb ha

end Client

end MachineImage
