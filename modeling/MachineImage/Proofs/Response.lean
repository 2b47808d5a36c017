import MachineImage.Proofs.Begun
import MachineImage.Wire.Response

/-!
Responses: what reading one comes to, whatever pieces it comes in, and what its body is, which the
first empty line parts from its head.
-/
namespace MachineImage.Wire

/-- How the reads of a connection end. -/
inductive Ending
  | closed
  | failed (atEnd : Bool) (cause : Text)
  deriving DecidableEq, Repr

/-- The octets that come before the end. -/
def delivered : List Read → Octets
  | [] => []
  | .octets [] :: _ => []
  | .octets (o :: b) :: reads => o :: b ++ delivered reads
  | .failed .. :: _ => []

def ending : List Read → Ending
  | [] => .closed
  | .octets [] :: _ => .closed
  | .octets (_ :: _) :: reads => ending reads
  | .failed atEnd cause :: _ => .failed atEnd cause

/-- What octets within the limit come to. -/
def Ending.within (host : Text) (octets : Octets) : Ending → Except ExchangeError Octets
  | .closed => .ok octets
  | .failed atEnd cause =>
    if atEnd ∧ octets.length ≠ 0 then .ok octets else .error (.transport host cause)

/-- What the octets come to that were delivered before the ending. -/
def Ending.result (host : Text) (limit : Nat) (octets : Octets) (e : Ending) :
    Except ExchangeError Octets :=
  if limit < octets.length then .error (.tooLarge limit) else e.within host octets

section

variable {host : Text} {limit : Nat}

/-- What has been read is within the limit, and it counts as if it had come in one piece. -/
theorem readFrom_eq {seen : List Octets} {octets : Octets} (hseen : seen.reverse.flatten = octets)
    (hlimit : octets.length ≤ limit) (reads : List Read) :
    readFrom host limit octets.length seen reads =
      (ending reads).result host limit (octets ++ delivered reads) := by
  induction reads generalizing seen octets with
  | nil =>
    rw [delivered, List.append_nil, Ending.result, if_neg (Nat.not_lt.2 hlimit), ← hseen]
    rfl
  | cons read reads ih =>
    match read with
    | .octets [] | .failed .. =>
      rw [delivered, List.append_nil, Ending.result, if_neg (Nat.not_lt.2 hlimit), ← hseen]
      rfl
    | .octets (o :: b) =>
      have hnext : ((o :: b) :: seen).reverse.flatten = octets ++ (o :: b) := by simp [← hseen]
      rw [readFrom, delivered, ending, ← List.append_assoc, ← List.length_append]
      · split
        · next hover =>
          -- What is still to come only adds to octets that already pass the limit.
          have hall : limit < (octets ++ (o :: b) ++ delivered reads).length :=
            List.length_append ▸ Nat.lt_add_right _ hover
          rw [Ending.result, if_pos hall]
        · next hwithin => exact ih hnext (Nat.not_lt.1 hwithin)
      · exact List.cons_ne_nil _ _

theorem readResponse_eq (reads : List Read) :
    readResponse host limit reads = (ending reads).result host limit (delivered reads) :=
  @readFrom_eq host limit [] [] rfl (Nat.zero_le limit) reads

end

theorem Ending.result_eq_tooLarge_iff {host : Text} {limit : Nat} {octets : Octets} {e : Ending} :
    e.result host limit octets = .error (.tooLarge limit) ↔ limit < octets.length := by
  rw [result]
  split
  · next h => exact iff_of_true rfl h
  · next h =>
    refine iff_of_false (fun hw => ?_) h
    unfold within at hw
    split at hw
    · cases hw
    · split at hw <;> cases hw

theorem Ending.result_eq_ok {host : Text} {limit : Nat} {octets read : Octets} {e : Ending}
    (h : e.result host limit octets = .ok read) : read = octets ∧ octets.length ≤ limit := by
  unfold result at h
  split at h
  · cases h
  · next hwithin =>
    refine ⟨?_, Nat.not_lt.1 hwithin⟩
    unfold within at h
    split at h
    · exact (Except.ok.inj h).symm
    · split at h
      · exact (Except.ok.inj h).symm
      · cases h

/-- A response is the octets that were delivered, in whatever pieces: too many are refused, and so
is a failure before there are any or one that is not an unannounced end. -/
theorem readResponse_delivered (host : Text) (limit : Nat) (reads : List Read) :
    (readResponse host limit reads = .error (.tooLarge limit) ↔ limit < (delivered reads).length) ∧
      ((delivered reads).length ≤ limit →
        (ending reads = .closed ∨
            delivered reads ≠ [] ∧ (∃ cause, ending reads = .failed true cause) →
          readResponse host limit reads = .ok (delivered reads)) ∧
        ∀ atEnd cause, ending reads = .failed atEnd cause →
          ¬ (atEnd = true ∧ delivered reads ≠ []) →
          readResponse host limit reads = .error (.transport host cause)) ∧
      (∀ others, delivered others = delivered reads → ending others = ending reads →
        readResponse host limit others = readResponse host limit reads) ∧
      ∀ read, readResponse host limit reads = .ok read →
        read = delivered reads ∧ read.length ≤ limit := by
  simp only [readResponse_eq]
  refine ⟨Ending.result_eq_tooLarge_iff, fun hlimit => ?_, fun others hd he => by rw [hd, he],
    fun read hread => ?_⟩
  · rw [Ending.result, if_neg (Nat.not_lt.2 hlimit)]
    constructor
    · rintro (he | ⟨hne, cause, he⟩) <;> rw [he, Ending.within]
      exact if_pos ⟨rfl, mt List.eq_nil_of_length_eq_zero hne⟩
    · intro atEnd cause he hnot
      rw [he, Ending.within]
      exact if_neg (mt (And.imp_right (mt List.length_eq_zero_iff.2)) hnot)
  · obtain ⟨rfl, hlimit⟩ := Ending.result_eq_ok hread
    exact ⟨rfl, hlimit⟩

/-- A connection that is cut off behind three octets, with room for just as many or for fewer. -/
theorem readResponse_delivered_three :
    let cut := Read.failed true "unexpected end of file".toList
    let reads := [.octets [1, 2], .octets [3], cut, .octets [4]]
    readResponse "h".toList 3 reads = .ok [1, 2, 3] ∧
      readResponse "h".toList 3 [.octets [1], .octets [2, 3], cut] =
        readResponse "h".toList 3 reads ∧
      readResponse "h".toList 2 reads = .error (.tooLarge 2) ∧
      readResponse "h".toList 2 [cut] =
        .error (.transport "h".toList "unexpected end of file".toList) := by
  intro cut reads
  obtain ⟨-, hwithin, hpieces, -⟩ := readResponse_delivered "h".toList 3 reads
  refine ⟨(hwithin (by decide)).1 (.inr ⟨by decide, _, rfl⟩), hpieces _ (by decide) (by decide),
    (readResponse_delivered _ _ reads).1.2 (by decide), ?_⟩
  exact ((readResponse_delivered _ _ [cut]).2.1 (by decide)).2 _ _ rfl (by decide)

/-- The response is a head, the first separator and what stands behind it. -/
def Splits (response head rest : Octets) : Prop :=
  response = head ++ separator ++ rest ∧ ¬ separator <:+: head ++ [0x0D, 0x0A, 0x0D]

theorem breakAfter_separator_iff {response before rest : Octets} :
    Text.breakAfter separator [] response = some (before, rest) ↔
      ∃ head, before = head ++ separator ∧ Splits response head rest :=
  Text.breakAfter_eq_some_iff (by decide)

/-- What may be wrong with a response and the error for it, in the order in which it counts. -/
def faults (response : Octets) : List (Prop × ExchangeError) :=
  [(0 ∈ response, .nulInResponse),
    (¬ accepted <:+: statusLine response,
      .badStatus (Utf8.decodeLossy (statusLine response)) (Utf8.decodeLossy response)),
    (¬ separator <:+: response, .missingSeparator (Utf8.decodeLossy response)),
    (∃ head rest, Splits response head rest ∧ ∀ body, rest ≠ Utf8.encode body, .notUtf8)]

/-- The error is that of the first fault which is there. -/
def IsFirst (error : ExchangeError) : List (Prop × ExchangeError) → Prop
  | [] => False
  | (fault, e) :: faults => fault ∧ error = e ∨ ¬ fault ∧ IsFirst error faults

/-- What a response comes to. -/
inductive Outcome (response : Octets) : Except ExchangeError Text → Prop
  | nul : 0 ∈ response → Outcome response (.error .nulInResponse)
  | status : 0 ∉ response → ¬ accepted <:+: statusLine response →
    Outcome response
      (.error (.badStatus (Utf8.decodeLossy (statusLine response)) (Utf8.decodeLossy response)))
  | unseparated : 0 ∉ response → accepted <:+: statusLine response → ¬ separator <:+: response →
    Outcome response (.error (.missingSeparator (Utf8.decodeLossy response)))
  | notUtf8 {head rest : Octets} : 0 ∉ response → accepted <:+: statusLine response →
    Splits response head rest → (∀ body, rest ≠ Utf8.encode body) →
    Outcome response (.error .notUtf8)
  | body {head : Octets} {body : Text} : 0 ∉ response → accepted <:+: statusLine response →
    Splits response head (Utf8.encode body) → Outcome response (.ok body)

section

variable {response : Octets}

theorem exists_splits (h : separator <:+: response) : ∃ head rest, Splits response head rest := by
  have hsome : Text.breakAfter separator [] response ≠ none :=
    fun hnone => (Text.breakAfter_eq_none_iff (by decide)).1 hnone h
  obtain ⟨⟨before, rest⟩, hbreak⟩ := Option.ne_none_iff_exists'.1 hsome
  obtain ⟨head, -, hsplits⟩ := breakAfter_separator_iff.1 hbreak
  exact ⟨head, rest, hsplits⟩

theorem Splits.infix {head rest : Octets} (h : Splits response head rest) :
    separator <:+: response :=
  ⟨head, rest, h.1.symm⟩

theorem exists_outcome (response : Octets) : ∃ result, Outcome response result := by
  by_cases hnul : 0 ∈ response
  · exact ⟨_, .nul hnul⟩
  by_cases hstatus : ¬ accepted <:+: statusLine response
  · exact ⟨_, .status hnul hstatus⟩
  by_cases hseparator : ¬ separator <:+: response
  · exact ⟨_, .unseparated hnul (Classical.not_not.1 hstatus) hseparator⟩
  obtain ⟨head, rest, hsplits⟩ := exists_splits (Classical.not_not.1 hseparator)
  cases hdecode : Utf8.decode? rest with
  | none =>
    refine ⟨_, .notUtf8 hnul (Classical.not_not.1 hstatus) hsplits ?_⟩
    rintro body rfl
    rw [Utf8.decode?_encode] at hdecode
    cases hdecode
  | some body =>
    obtain rfl := Utf8.decode?_iff_encode.1 hdecode
    exact ⟨_, .body hnul (Classical.not_not.1 hstatus) hsplits⟩

theorem isAccepted_iff : isAccepted response = true ↔ accepted <:+: statusLine response :=
  Text.includes_eq_true_iff

theorem checkStatus_eq_ok (h : accepted <:+: statusLine response) :
    checkStatus response = .ok () :=
  if_pos (isAccepted_iff.2 h)

theorem not_contains_zero (h : 0 ∉ response) : ¬ response.contains 0 = true :=
  mt List.contains_iff_mem.1 h

theorem Outcome.apiBody_eq {result : Except ExchangeError Text} (h : Outcome response result) :
    apiBody response = result := by
  cases h with
  | nul h => rw [apiBody, if_pos (List.contains_iff_mem.2 h)]
  | status hnul h =>
    rw [apiBody, if_neg (not_contains_zero hnul), checkStatus, if_neg (mt isAccepted_iff.1 h)]
  | unseparated hnul hstatus h =>
    have hbreak : Text.breakAfter separator [] response = none :=
      (Text.breakAfter_eq_none_iff (by decide)).2 h
    simp only [apiBody, if_neg (not_contains_zero hnul), checkStatus_eq_ok hstatus, hbreak]
  | @notUtf8 head rest hnul hstatus hsplits h =>
    have hbreak := breakAfter_separator_iff.2 ⟨head, rfl, hsplits⟩
    have hdecode : Utf8.decode? rest = none :=
      Option.eq_none_iff_forall_ne_some.2 fun body hbody => h body (Utf8.decode?_iff_encode.1 hbody)
    simp only [apiBody, if_neg (not_contains_zero hnul), checkStatus_eq_ok hstatus, hbreak, hdecode]
  | @body head body hnul hstatus hsplits =>
    have hbreak := breakAfter_separator_iff.2 ⟨head, rfl, hsplits⟩
    simp only [apiBody, if_neg (not_contains_zero hnul), checkStatus_eq_ok hstatus, hbreak,
      Utf8.decode?_encode]

theorem apiBody_eq_iff {result : Except ExchangeError Text} :
    apiBody response = result ↔ Outcome response result := by
  refine ⟨fun h => ?_, Outcome.apiBody_eq⟩
  obtain ⟨other, hother⟩ := exists_outcome response
  rwa [← h, hother.apiBody_eq]

theorem outcome_ok_iff {body : Text} :
    Outcome response (.ok body) ↔ 0 ∉ response ∧ accepted <:+: statusLine response ∧
      ∃ head, Splits response head (Utf8.encode body) := by
  constructor
  · intro h
    cases h with
    | body hnul hstatus hsplits => exact ⟨hnul, hstatus, _, hsplits⟩
  · rintro ⟨hnul, hstatus, head, hsplits⟩
    exact .body hnul hstatus hsplits

theorem outcome_error_iff {e : ExchangeError} :
    Outcome response (.error e) ↔ IsFirst e (faults response) := by
  constructor
  · intro h
    cases h with
    | nul h => exact .inl ⟨h, rfl⟩
    | status hnul h => exact .inr ⟨hnul, .inl ⟨h, rfl⟩⟩
    | unseparated hnul hstatus h =>
      exact .inr ⟨hnul, .inr ⟨not_not_intro hstatus, .inl ⟨h, rfl⟩⟩⟩
    | notUtf8 hnul hstatus hsplits h =>
      exact .inr ⟨hnul, .inr ⟨not_not_intro hstatus, .inr ⟨not_not_intro hsplits.infix,
        .inl ⟨⟨_, _, hsplits, h⟩, rfl⟩⟩⟩⟩
  · rintro (⟨h, rfl⟩ | ⟨hnul, ⟨h, rfl⟩ | ⟨hstatus, ⟨h, rfl⟩ | ⟨-, ⟨⟨_, _, hsplits, h⟩, rfl⟩ |
      ⟨-, h⟩⟩⟩⟩)
    · exact .nul h
    · exact .status hnul h
    · exact .unseparated hnul (Classical.not_not.1 hstatus) h
    · exact .notUtf8 hnul (Classical.not_not.1 hstatus) hsplits h
    · cases h

end

theorem statusLine_append (head : Octets) {rest : Octets} (h : statusLine rest = []) :
    statusLine (head ++ rest) = statusLine head := by
  induction head with
  | nil => exact h
  | cons o head ih =>
    simp only [statusLine, List.cons_append, List.takeWhile_cons] at ih ⊢
    rw [ih]

theorem zero_not_mem_encode {s : Text} (h : '\x00' ∉ s) : 0 ∉ Utf8.encode s := by
  intro hm
  obtain ⟨c, hc, hn⟩ := Utf8.exists_of_mem_encode hm (by decide)
  obtain rfl : c = '\x00' := Char.toNat_inj.1 hn
  exact h hc

/-- A body comes back as it was sent behind a good head, whatever else stands in the two. -/
theorem outcome_body {head : Octets} {body : Text} (hstatus : accepted <:+: statusLine head)
    (hhead : 0 ∉ head) (hblank : ¬ separator <:+: head ++ [0x0D, 0x0A, 0x0D])
    (hbody : '\x00' ∉ body) : Outcome (head ++ separator ++ Utf8.encode body) (.ok body) := by
  have hnul : 0 ∉ head ++ separator ++ Utf8.encode body := by
    simp only [List.mem_append, not_or]
    exact ⟨⟨hhead, by decide⟩, zero_not_mem_encode hbody⟩
  refine .body hnul ?_ ⟨rfl, hblank⟩
  rwa [List.append_assoc, statusLine_append _ rfl]

/-- There is a body exactly if the response has no octet nought, has a good status and reads as a
text behind the first separator; otherwise its first fault is told. -/
theorem apiBody_splits (response : Octets) :
    (∀ body, apiBody response = .ok body ↔ 0 ∉ response ∧ accepted <:+: statusLine response ∧
        ∃ head, Splits response head (Utf8.encode body)) ∧
      (∀ e, apiBody response = .error e ↔ IsFirst e (faults response)) ∧
      ∀ head body, response = head ++ separator ++ Utf8.encode body →
        accepted <:+: statusLine head → 0 ∉ head →
        ¬ separator <:+: head ++ [0x0D, 0x0A, 0x0D] → '\x00' ∉ body →
        apiBody response = .ok body := by
  refine ⟨fun body => apiBody_eq_iff.trans outcome_ok_iff,
    fun e => apiBody_eq_iff.trans outcome_error_iff, ?_⟩
  rintro head body rfl hstatus hhead hblank hbody
  exact (outcome_body hstatus hhead hblank hbody).apiBody_eq

/-- The head ends in a line end of its own, and the body has an empty line too. -/
theorem apiBody_splits_twice :
    let head := Utf8.encode "HTTP/1.1 200 OK\r\nServer: x\r".toList
    let body := "<r>\r\n\r\n</r>".toList
    apiBody (head ++ separator ++ Utf8.encode body) = .ok body := by
  intro head body
  have hstatus : isAccepted head = true := by decide +kernel
  have hblank : ¬ Text.includes separator (head ++ [0x0D, 0x0A, 0x0D]) = true := by decide +kernel
  exact (apiBody_splits _).2.2 head body rfl (isAccepted_iff.1 hstatus) (by decide +kernel)
    (mt Text.includes_eq_true_iff.2 hblank) (by decide +kernel)

end MachineImage.Wire
