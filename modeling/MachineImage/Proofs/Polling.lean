import Mathlib.Data.Set.List
import MachineImage.Proofs.Conversion
import MachineImage.Proofs.Repetition
import MachineImage.Proofs.Replay
import MachineImage.Proofs.StatusRuns

/-!
Waiting for a volume, a snapshot or an image: one question more than there are pauses, each pause
between two questions, and nothing but attempts within a question. The replies alone decide how many
questions there are, what is shown between them and how the wait ends.
-/
namespace MachineImage

variable {ε α β : Type}

def Exchange.event (x : Exchange) : Event := .exchanged x.request x.reply

namespace Action

/-- The action shows nothing and does not sleep. -/
def Plain (a : Action ε α) : Prop :=
  ∀ s, ∃ xs : List Exchange, (a.outcome s).2.log = (xs.map Exchange.event).reverse ++ s.log ∧
    (a.outcome s).2.progress = s.progress

theorem Plain.tryCatch {a : Action ε α} {f : ε → Action ε α} (h : a.Plain)
    (hf : ∀ e, (f e).Plain) : Plain (tryCatch a f) := by
  intro s
  obtain ⟨xs, hlog, hprogress⟩ := h s
  rw [outcome_tryCatch]
  rcases ho : a.outcome s with ⟨r, t⟩
  rw [ho] at hlog hprogress
  cases r with
  | ok x => exact ⟨xs, hlog, hprogress⟩
  | error e =>
    obtain ⟨ys, hlog', hprogress'⟩ := hf e t
    refine ⟨xs ++ ys, hlog'.trans ?_, hprogress'.trans hprogress⟩
    rw [show t.log = _ from hlog, List.map_append, List.reverse_append, List.append_assoc]

end Action

namespace Client.Attempts

variable {c : Client} {clock : Nat → Instant} {order : Order} {further reading : Nat}
  {xs ys : List Exchange} {r r' : Except ExchangeError Text}

/-- An attempt comes first, and its response says whether there are more. -/
theorem exists_cons (h : c.Attempts clock order further reading xs r) : ∃ reply rest,
    xs = ⟨c.request order (clock reading), reply⟩ :: rest ∧
      match Exchange.body ⟨c.request order (clock reading), reply⟩, further with
      | .ok b, _ => rest = [] ∧ r = .ok b
      | .error e, 0 => rest = [] ∧ r = .error e
      | .error _, further + 1 => c.Attempts clock order further (reading + 1) rest r := by
  cases h with
  | success hb | failure hb =>
    refine ⟨_, _, rfl, ?_⟩
    rw [hb]
    exact ⟨rfl, rfl⟩
  | again hb h =>
    refine ⟨_, _, rfl, ?_⟩
    rw [hb]
    exact h

/-- The replies decide the attempts. -/
theorem unique {replies : List Reply} (h : c.Attempts clock order further reading xs r)
    (h' : c.Attempts clock order further reading ys r') (hx : xs.map (·.reply) <+: replies)
    (hy : ys.map (·.reply) <+: replies) : xs = ys ∧ r = r' := by
  induction h generalizing ys replies with
  | success hb | failure hb =>
    obtain ⟨reply, rest, rfl, h'⟩ := h'.exists_cons
    obtain ⟨more, rfl⟩ := hx
    obtain ⟨rfl, -⟩ := List.cons_prefix_cons.1 hy
    rw [hb] at h'
    obtain ⟨rfl, rfl⟩ := h'
    exact ⟨rfl, rfl⟩
  | again hb _ ih =>
    obtain ⟨reply, rest, rfl, h'⟩ := h'.exists_cons
    obtain ⟨more, rfl⟩ := hx
    obtain ⟨rfl, hrest⟩ := List.cons_prefix_cons.1 hy
    rw [hb] at h'
    obtain ⟨rfl, rfl⟩ := ih h' (List.prefix_append _ _) hrest
    exact ⟨rfl, rfl⟩

theorem exists_request (h : c.Attempts clock order further reading xs r) :
    ∀ x ∈ xs, ∃ time, x.request = c.request order time := by
  intro x hx
  have hmem : x.request ∈ xs.map (·.request) := List.mem_map_of_mem hx
  rw [h.map_request] at hmem
  obtain ⟨i, -, hi⟩ := List.mem_map.1 hmem
  exact ⟨_, hi.symm⟩

end Client.Attempts

namespace Notice

/-- What is shown with a notice. -/
def text (p : Progress) : Notice → Text
  | .dot => ['.']
  | .status heading text => p.statusText heading text

def next (p : Progress) : Notice → Progress
  | .dot => p
  | .status _ text => p.report text

/-- What is shown with one notice after the other. -/
def texts : Progress → List Notice → List Text
  | _, [] => []
  | p, n :: notices => n.text p :: texts (n.next p) notices

end Notice

/-- Questions in turn, each with what is exchanged for it, and what is shown behind each but the
last. -/
inductive Wait
  | last (xs : List Exchange)
  | pending (xs : List Exchange) (n : Notice) (more : Wait)

namespace Wait

def questions : Wait → List (List Exchange)
  | last xs => [xs]
  | pending xs _ more => xs :: more.questions

def notices : Wait → List Notice
  | last _ => []
  | pending _ n more => n :: more.notices

def exchanges (w : Wait) : List Exchange := w.questions.flatten

theorem exchanges_last (xs : List Exchange) : (last xs).exchanges = xs := List.flatten_singleton

theorem exchanges_pending (xs : List Exchange) (n : Notice) (more : Wait) :
    (pending xs n more).exchanges = xs ++ more.exchanges := List.flatten_cons

/-- All that happens: no sleep stands behind the last question, and one behind each other. -/
def events (interval : Nat) : Progress → Wait → List Event
  | _, last xs => xs.map Exchange.event
  | p, pending xs n more => xs.map Exchange.event ++
      .shown (n.text p) :: .slept interval :: more.events interval (n.next p)

end Wait

/-- Something that is waited for: the call that asks for it, and what is read from an answer. -/
structure Inquiry (α : Type) where
  operation : Operation
  region : Region
  form : Form
  read : Text → Except RunError (Poll α)

namespace Inquiry

def volume (region : Region) (task : Text) : Inquiry Text where
  operation := .describeConversionTasks
  region
  form := Compute.describeConversionTask task
  read body := (Compute.conversionStatus body).map fun
    | .completed volume => .ready volume
    | .inProgress message => .pending (.status "Importing volume".toList message)

def snapshot (region : Region) (id : Text) : Inquiry Unit where
  operation := .describeSnapshots
  region
  form := Compute.describeSnapshot id
  read body := (Compute.snapshotReadiness body).map Provisioner.poll

def image (region : Region) (id : Text) : Inquiry Unit where
  operation := .describeImages
  region
  form := Compute.describeImage id
  read body := (Compute.imageReadiness body).map Provisioner.poll

def order (q : Inquiry α) : Order := .call .compute q.region q.form

/-- One question: attempts at the call until a response is valid or enough have failed, and what is
read from the response. -/
def Asks (q : Inquiry α) (c : Client) (clock : Nat → Instant) (reading : Nat) (xs : List Exchange)
    (r : Except RunError (Poll α)) : Prop :=
  ∃ body, c.Attempts clock q.order (c.maxAttempts - 1) reading xs body ∧
    r = body.mapError (.request q.operation) >>= q.read

/-- Questions in turn: each but the last finds something pending, and the last one does not. -/
def Polls (q : Inquiry α) (c : Client) (clock : Nat → Instant) :
    Nat → Wait → Except RunError α → Prop
  | reading, .last xs, r => q.Asks c clock reading xs (r.map .ready)
  | reading, .pending xs n more, r => q.Asks c clock reading xs (.ok (.pending n)) ∧
    q.Polls c clock (reading + xs.length) more r

/-- The questions that the replies of the session lead to, and how the last one ends. -/
def Meets (q : Inquiry α) (c : Client) (s : Session) (w : Wait) (r : Except RunError α) : Prop :=
  q.Polls c s.clock s.readings w r ∧
    ∃ k, w.exchanges.map (·.reply) <+: s.replies ++ List.replicate k (.response exhausted)

variable {q : Inquiry α} {c : Client} {clock : Nat → Instant} {reading : Nat}

theorem Asks.unique {xs ys : List Exchange} {r r' : Except RunError (Poll α)}
    {replies : List Reply} (h : q.Asks c clock reading xs r) (h' : q.Asks c clock reading ys r')
    (hx : xs.map (·.reply) <+: replies) (hy : ys.map (·.reply) <+: replies) :
    xs = ys ∧ r = r' := by
  obtain ⟨body, h, rfl⟩ := h
  obtain ⟨body', h', rfl⟩ := h'
  obtain ⟨rfl, rfl⟩ := h.unique h' hx hy
  exact ⟨rfl, rfl⟩

theorem map_ready_ne_pending (r : Except RunError α) (n : Notice) :
    r.map Poll.ready ≠ .ok (.pending n) := by
  cases r <;> nofun

/-- The replies decide the questions and how they end. -/
theorem Polls.unique {w w' : Wait} {r r' : Except RunError α} {replies : List Reply}
    (h : q.Polls c clock reading w r) (h' : q.Polls c clock reading w' r')
    (hx : w.exchanges.map (·.reply) <+: replies) (hy : w'.exchanges.map (·.reply) <+: replies) :
    w = w' ∧ r = r' := by
  induction w generalizing w' reading replies with
  | last xs =>
    rw [Wait.exchanges_last] at hx
    cases w' with
    | last ys =>
      rw [Wait.exchanges_last] at hy
      obtain ⟨rfl, hr⟩ := Asks.unique h h' hx hy
      exact ⟨rfl, Client.map_injective (fun _ _ => Poll.ready.inj) hr⟩
    | pending ys n more =>
      rw [Wait.exchanges_pending, List.map_append] at hy
      have hfirst := (List.prefix_append _ _).trans hy
      exact absurd (Asks.unique h h'.1 hx hfirst).2 (map_ready_ne_pending _ _)
  | pending xs n more ih =>
    rw [Wait.exchanges_pending, List.map_append] at hx
    obtain ⟨rest, rfl⟩ := (List.prefix_append _ _).trans hx
    cases w' with
    | last ys =>
      rw [Wait.exchanges_last] at hy
      have hne := (Asks.unique h.1 h' (List.prefix_append _ _) hy).2
      exact absurd hne.symm (map_ready_ne_pending _ _)
    | pending ys n' more' =>
      rw [Wait.exchanges_pending, List.map_append] at hy
      have hfirst := (List.prefix_append _ _).trans hy
      obtain ⟨rfl, hr⟩ := Asks.unique h.1 h'.1 (List.prefix_append _ _) hfirst
      cases hr
      obtain ⟨rfl, rfl⟩ := ih h.2 h'.2 ((List.prefix_append_right_inj _).1 hx)
        ((List.prefix_append_right_inj _).1 hy)
      exact ⟨rfl, rfl⟩

theorem Meets.unique {s : Session} {w w' : Wait} {r r' : Except RunError α}
    (h : q.Meets c s w r) (h' : q.Meets c s w' r') : w = w' ∧ r = r' := by
  obtain ⟨hpolls, k, hk⟩ := h
  obtain ⟨hpolls', k', hk'⟩ := h'
  -- Both come with the replies of a session that has no more of them for long enough.
  have hlong : ∀ {k n}, k ≤ n → s.replies ++ List.replicate k (.response exhausted) <+:
      s.replies ++ List.replicate n (.response exhausted) := fun {k n} hle =>
    ⟨List.replicate (n - k) _, by
      rw [List.append_assoc, List.replicate_append_replicate, Nat.add_sub_cancel' hle]⟩
  exact hpolls.unique hpolls' (hk.trans (hlong (Nat.le_max_left k k')))
    (hk'.trans (hlong (Nat.le_max_right k k')))

variable {p : Provisioner}

/-- The end of a wait: a step is done only where that which was waited for is there. -/
def ending : Except RunError α → List Event
  | .ok _ => [.shown Progress.doneText]
  | .error _ => []

theorem Asks.exists_attempts {xs : List Exchange} {r : Except RunError (Poll α)}
    (h : q.Asks c clock reading xs r) :
    ∃ body, c.Attempts clock q.order (c.maxAttempts - 1) reading xs body := by
  obtain ⟨body, h, -⟩ := h
  exact ⟨body, h⟩

theorem Asks.calls_append {xs : List Exchange} {x : Poll α}
    (h : q.Asks c clock reading xs (.ok x)) (ys : List Exchange) :
    Exchange.calls (xs ++ ys) = xs :: Exchange.calls ys := by
  obtain ⟨body, h, hbody⟩ := h
  cases body with
  | error e => cases hbody
  | ok body => exact h.calls_append ys

theorem Asks.calls_eq {xs : List Exchange} {r : Except RunError (Poll α)}
    (h : q.Asks c clock reading xs r) : Exchange.calls xs = [xs] := by
  obtain ⟨body, h⟩ := h.exists_attempts
  cases body with
  | error e => exact h.calls_eq
  | ok body =>
    have hcalls := h.calls_append []
    rwa [List.append_nil] at hcalls

theorem Polls.calls_eq {w : Wait} {r : Except RunError α} (h : q.Polls c clock reading w r) :
    Exchange.calls w.exchanges = w.questions := by
  induction w generalizing reading with
  | last xs =>
    rw [Wait.exchanges_last]
    exact Asks.calls_eq h
  | pending xs n more ih =>
    rw [Wait.exchanges_pending, h.1.calls_append, ih h.2]
    rfl

theorem Asks.sent {xs : List Exchange} {r : Except RunError (Poll α)}
    (h : q.Asks c clock reading xs r) : ∀ x ∈ xs,
      x.request.order = q.order ∧ x.request.host = Service.compute.endpoint q.region := by
  intro x hx
  obtain ⟨body, h⟩ := h.exists_attempts
  obtain ⟨time, hrequest⟩ := h.exists_request x hx
  rw [hrequest]
  exact ⟨Client.order_request _ _ _, by rw [Client.request_eq]; rfl⟩

theorem Polls.sent {w : Wait} {r : Except RunError α} (h : q.Polls c clock reading w r) :
    ∀ x ∈ w.exchanges,
      x.request.order = q.order ∧ x.request.host = Service.compute.endpoint q.region := by
  induction w generalizing reading with
  | last xs =>
    rw [Wait.exchanges_last]
    exact Asks.sent h
  | pending xs n more ih =>
    rw [Wait.exchanges_pending]
    exact List.forall_mem_append.2 ⟨h.1.sent, ih h.2⟩

end Inquiry

end MachineImage
