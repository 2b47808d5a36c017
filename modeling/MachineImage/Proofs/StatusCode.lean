import MachineImage.Proofs.Repetition
import MachineImage.Proofs.Response

/-!
The code in the first line of a response. It is looked for in the whole line, so that a reason can
hold it behind another code.
-/
namespace MachineImage

/-- A mark does not begin where its first item does not stand. -/
theorem Text.infix_append_iff {α : Type} {m : α} {mark s : List α} (h : m ∉ s) (t : List α) :
    m :: mark <:+: s ++ t ↔ m :: mark <:+: t := by
  induction s with
  | nil => rfl
  | cons a s ih =>
    obtain ⟨ha, hs⟩ : m ≠ a ∧ m ∉ s := by simpa using h
    rw [List.cons_append, List.infix_cons_iff, List.cons_prefix_cons,
      or_iff_right fun hm => ha hm.1, ih hs]

namespace Wire

/-- The first line of a response: a version of the protocol, a code of three digits and any reason
for it. -/
structure StatusLine where
  version : Octets
  code : Octets
  reason : Octets
  not_mem_version : 0x20 ∉ version
  length_code : code.length = 3
  digits : ∀ o ∈ code, 0x30 ≤ o ∧ o ≤ 0x39

/-- The code of a valid response. -/
def success : Octets := Utf8.encode "200".toList

theorem accepted_eq : accepted = 0x20 :: (success ++ [0x20]) := rfl

namespace StatusLine

def octets (l : StatusLine) : Octets :=
  Utf8.encode "HTTP/".toList ++ l.version ++ 0x20 :: l.code ++ 0x20 :: l.reason

/-- The code is 200, or the reason has that word with a space behind it. -/
def Accepted (l : StatusLine) : Prop := l.code = success ∨ accepted <:+: 0x20 :: l.reason

variable (l : StatusLine)

theorem not_mem_code : 0x20 ∉ l.code :=
  fun h => absurd (l.digits _ h) (by decide)

/-- At the space in front of the code there are just as many octets for it as it has. -/
theorem accepted_prefix_iff : accepted <+: 0x20 :: (l.code ++ 0x20 :: l.reason) ↔
    l.code = success := by
  rw [accepted_eq, List.cons_prefix_cons, and_iff_right rfl]
  constructor
  · rintro ⟨t, ht⟩
    rw [List.append_assoc] at ht
    exact (List.append_inj ht l.length_code.symm).1.symm
  · intro h
    rw [h, List.prefix_append_right_inj]
    exact ⟨l.reason, rfl⟩

theorem accepted_infix_octets : accepted <:+: l.octets ↔ l.Accepted := by
  have hprotocol : 0x20 ∉ Utf8.encode "HTTP/".toList := by decide
  have hfront : 0x20 ∉ Utf8.encode "HTTP/".toList ++ l.version :=
    List.not_mem_append hprotocol l.not_mem_version
  have hoctets : l.octets = Utf8.encode "HTTP/".toList ++ l.version ++
      0x20 :: (l.code ++ 0x20 :: l.reason) := by simp [octets]
  -- Only the two spaces around the code and those of the reason can begin it.
  rw [hoctets, accepted_eq, Text.infix_append_iff hfront, ← accepted_eq, List.infix_cons_iff,
    l.accepted_prefix_iff, accepted_eq, Text.infix_append_iff l.not_mem_code, ← accepted_eq]
  rfl

end StatusLine

/-- What else is asked of a response before it has a body. -/
def Readable (response : Octets) : Prop :=
  0 ∉ response ∧ ∃ head body, Splits response head (Utf8.encode body)

section

variable {response : Octets}

theorem checkStatus_eq_ok_iff :
    checkStatus response = .ok () ↔ accepted <:+: statusLine response := by
  rw [← isAccepted_iff, checkStatus]
  split
  · next h => exact iff_of_true rfl h
  · next h => exact iff_of_false (by simp) h

theorem exists_apiBody_iff : (∃ body, apiBody response = .ok body) ↔
    accepted <:+: statusLine response ∧ Readable response := by
  simp only [apiBody_eq_iff, outcome_ok_iff, Readable]
  constructor
  · rintro ⟨body, hnul, hstatus, head, hsplits⟩
    exact ⟨hstatus, hnul, head, body, hsplits⟩
  · rintro ⟨hstatus, hnul, head, body, hsplits⟩
    exact ⟨body, hnul, hstatus, head, hsplits⟩

end

end Wire

namespace Client

variable {α : Type} (c : Client) {s : Session} {order : Order}
  {check : Octets → Except ExchangeError α} {response : Octets}

theorem outcome_attempt_reply (h : s.reply 0 = .response response) :
    ((c.attempt order check).outcome s).1 = check response := by
  rw [outcome_attempt]
  unfold Session.reply at h
  cases hreplies : s.replies with
  | nil =>
    rw [hreplies] at h
    rw [Reply.response.inj h.symm]
  | cons reply replies =>
    rw [hreplies] at h
    obtain rfl : reply = .response response := h
    rfl

/-- The last of the repetitions tells the outcome. -/
theorem Repeats.outcome_reply {c : Client} {a : Action ExchangeError α}
    (h : c.Repeats order check a s)
    (hreply : s.reply (c.attemptCount order s - 1) = .response response) :
    (a.outcome s).1 = check response := by
  rw [h.outcome, hreply]
  rfl

end Client

namespace Wire.StatusLine

/-- An object is stored exactly if the response that decides it has the code 200 in its first line
or that word in the reason, and a call is made exactly if its response has a body as well. -/
theorem succeeds_iff (l : StatusLine) {response : Octets} (h : statusLine response = l.octets) :
    (checkStatus response = .ok () ↔ l.Accepted) ∧
      ((∃ body, apiBody response = .ok body) ↔ l.Accepted ∧ Readable response) ∧
      ∀ (c : Client) (s : Session) (region : Region),
        (∀ bucket path body,
          s.reply (c.attemptCount (.put region bucket path body) s - 1) = .response response →
          (((c.put region bucket path body).outcome s).1 = .ok () ↔ l.Accepted)) ∧
        ∀ service form,
          (s.reply 0 = .response response →
            ((∃ body, ((c.call service region form).outcome s).1 = .ok body) ↔
              l.Accepted ∧ Readable response)) ∧
          (s.reply (c.attemptCount (.call service region form) s - 1) = .response response →
            ((∃ body, ((c.callRepeatedly service region form).outcome s).1 = .ok body) ↔
              l.Accepted ∧ Readable response)) := by
  have hstatus : checkStatus response = .ok () ↔ l.Accepted := by
    rw [checkStatus_eq_ok_iff, h, l.accepted_infix_octets]
  have hbody : (∃ body, apiBody response = .ok body) ↔ l.Accepted ∧ Readable response := by
    rw [exists_apiBody_iff, h, l.accepted_infix_octets]
  refine ⟨hstatus, hbody, fun c s region => ?_⟩
  refine ⟨fun bucket path body hreply => ?_, fun service form => ⟨fun hreply => ?_,
    fun hreply => ?_⟩⟩
  · rw [(c.repeats_put region bucket path body s).outcome_reply hreply, hstatus]
  · rw [Client.call, c.outcome_attempt_reply hreply, hbody]
  · rw [(c.repeats_callRepeatedly service region form s).outcome_reply hreply, hbody]

/-- A code of three digits that a server gives with this reason. -/
def of (code reason : String) (hlength : (Utf8.encode code.toList).length = 3)
    (hdigits : ∀ o ∈ Utf8.encode code.toList, 0x30 ≤ o ∧ o ≤ 0x39) : StatusLine :=
  ⟨Utf8.encode "1.1".toList, Utf8.encode code.toList, Utf8.encode reason.toList, by decide,
    hlength, hdigits⟩

/-- A response without a reason, and one for what is not found. -/
theorem succeeds_iff_plain :
    let plain := of "200" "" rfl (by decide +kernel)
    let missing := of "404" "Not Found" rfl (by decide +kernel)
    statusLine (plain.octets ++ separator) = plain.octets ∧
      statusLine (missing.octets ++ separator) = missing.octets ∧
      checkStatus (plain.octets ++ separator) = .ok () ∧
      checkStatus (missing.octets ++ separator) ≠ .ok () := by
  intro plain missing
  have hplain : statusLine (plain.octets ++ separator) = plain.octets := by decide +kernel
  have hmissing : statusLine (missing.octets ++ separator) = missing.octets := by decide +kernel
  refine ⟨hplain, hmissing, (succeeds_iff plain hplain).1.2 (.inl rfl), fun h => ?_⟩
  rcases (succeeds_iff missing hmissing).1.1 h with hcode | hreason
  · exact absurd hcode (by decide)
  · rw [← Text.includes_eq_true_iff] at hreason
    exact absurd hreason (by decide +kernel)

/-- Another code is taken for 200 if its reason has that word. -/
theorem not_checkStatus_iff_success :
    ¬ ∀ (l : StatusLine) (response : Octets), statusLine response = l.octets →
      (checkStatus response = .ok () ↔ l.code = success) := by
  intro h
  let l := of "500" "not 200 yet" rfl (by decide +kernel)
  have hcode := (h l l.octets (by decide +kernel)).1
  have haccepted : checkStatus l.octets = .ok () := if_pos (by decide +kernel)
  exact absurd (hcode haccepted) (by decide)

end Wire.StatusLine

end MachineImage
