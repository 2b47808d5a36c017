import MachineImage.Proofs.Framed
import MachineImage.Proofs.Repetition
import MachineImage.Proofs.Stage
import Mathlib.Data.List.DropRight

/-!
What the octets of a request say, read from these alone: its first line, its form and its body are
those of the order that the request is for.
-/
namespace MachineImage

open Text

namespace Wire

/-- The parts of the first line, which ends at the first return. What stands in the lines behind it
does not count. -/
def firstLine? (octets : Octets) : Option (List Text) :=
  (Utf8.decode? (octets.takeWhile (· != 0x0D))).map (split (· == ' '))

/-- The pairs of the form that is posted. No line ends in a form, which is what stands behind the
last end of a line. -/
def form? (octets : Octets) : Option (List (Text × Text)) := do
  let line ← firstLine? octets
  if line.head? = some "POST".toList then
    Form.read? (← Utf8.decode? (octets.rtakeWhile (· != 0x0A)))
  else none

theorem takeWhile_headText {line : Text} (h : OnLine line) (lines : List Text)
    (body : Octets) : (Utf8.encode (headText (line :: lines)) ++ body).takeWhile (· != 0x0D) =
      Utf8.encode line := by
  have hline : ∀ o ∈ Utf8.encode line, (o != 0x0D) = true := by
    intro o ho
    rw [bne_iff_ne]
    rintro rfl
    exact not_mem_encode_of_onLine h ho
  have hend : Utf8.encode lineEnd = 0x0D :: [0x0A] := rfl
  rw [headText_cons, Utf8.encode_append, Utf8.encode_append, hend, List.append_assoc,
    List.takeWhile_append_of_pos hline, List.cons_append, List.cons_append,
    List.takeWhile_cons_of_neg (by decide), List.append_nil]

theorem firstLine?_headText {method target version : Text} (hm : Visible method)
    (ht : Visible target) (hv : Visible version) (lines : List Text) (body : Octets) :
    firstLine? (Utf8.encode (headText ((method ++ ' ' :: target ++ ' ' :: version) :: lines)) ++
      body) = some [method, target, version] := by
  rw [firstLine?, takeWhile_headText (onLine_requestLine hm ht hv), Utf8.decode?_encode,
    Option.map_some, split_requestLine hm ht hv]

/-- A head ends with the end of a line, and so does what stands before a body without any. -/
theorem rtakeWhile_headText (lines : List Text) {body : Octets} (h : 0x0A ∉ body) :
    (Utf8.encode (headText lines) ++ body).rtakeWhile (· != 0x0A) = body := by
  have hbody : ∀ o ∈ body.reverse, (o != 0x0A) = true := by
    intro o ho
    rw [bne_iff_ne]
    rintro rfl
    exact h (List.mem_reverse.1 ho)
  have hend : Utf8.encode lineEnd = [0x0D] ++ [0x0A] := rfl
  rw [List.rtakeWhile, headText, Utf8.encode_append, hend, List.reverse_append,
    List.takeWhile_append_of_pos hbody, ← List.append_assoc, List.reverse_concat,
    List.takeWhile_cons_of_neg (by decide), List.append_nil, List.reverse_reverse]

theorem newline_not_mem_encode {s : Text} (h : OnLine s) : 0x0A ∉ Utf8.encode s := by
  intro hm
  obtain ⟨c, hc, hn⟩ := Utf8.exists_of_mem_encode hm (by decide)
  exact (h c hc).2 (Char.toNat_inj.1 hn)

end Wire

theorem Form.visible_encode (f : Form) : Visible f.encode := by
  have hencode : ∀ s, Visible (Percent.encode s) := by
    intro s c hc
    obtain ⟨o, -, ho⟩ := List.mem_flatMap.1 hc
    exact (mem_encodeOctet o c ho).1
  apply forall_mem_intercalate
  · exact List.forall_mem_singleton.2 (by decide)
  · intro piece hp
    obtain ⟨p, -, rfl⟩ := List.mem_map.1 hp
    exact (hencode p.1).append ((hencode p.2).cons (by decide))

/-- The pairs that a request for the order posts. -/
def Order.posted : Order → Option (List (Text × Text))
  | .put .. => none
  | .call _ _ form => some form.pairs

/-- What can be read in the octets of a request is what its order asks for, and they go to the
service that is asked. -/
structure Request.Carries (q : Request) (keyId : Text) : Prop where
  host : q.host = q.order.service.endpoint q.order.region
  firstLine : ∃ target, Wire.firstLine? q.octets = some [q.order.method, target, q.order.version] ∧
    Percent.decode? target = some (Percent.rooted q.order.path)
  form : Wire.form? q.octets = q.order.posted
  body : OnLine keyId → q.order.OnLine →
    ∃ r, Wire.receive? q.octets = some r ∧ r.body = q.order.body

namespace Order

variable (o : Order) (timestamp authorization : Text)

theorem firstLine?_octets : Wire.firstLine? (o.octets timestamp authorization) =
    some [o.method, Percent.encodePath o.path, o.version] := by
  have hmethod : Visible o.method := by
    unfold method
    split <;> decide
  have hversion : Visible o.version := by
    unfold version
    split <;> decide
  exact Wire.firstLine?_headText hmethod (visible_encodePath _) hversion _ _

theorem form?_octets : Wire.form? (o.octets timestamp authorization) = o.posted := by
  simp only [Wire.form?, firstLine?_octets, Option.bind_eq_bind, Option.bind_some,
    List.head?_cons]
  cases o with
  | put region bucket path body =>
    have hmethod : some "PUT".toList ≠ some "POST".toList := by decide
    exact if_neg hmethod
  | call service region form =>
    have hbody := Wire.newline_not_mem_encode form.visible_encode.onLine
    have hlast : (octets (.call service region form) timestamp authorization).rtakeWhile
        (· != 0x0A) = Utf8.encode form.encode := Wire.rtakeWhile_headText _ hbody
    rw [hlast, Utf8.decode?_encode, Option.bind_some, Form.read?_encode]
    rfl

end Order

/-- Every request carries its order, at whatever time it is made. -/
theorem Client.carries_request (c : Client) (order : Order) (time : Instant) :
    (c.request order time).Carries c.credentials.keyId where
  host := by rw [request_eq]
  firstLine := by
    rw [request_eq]
    exact ⟨_, order.firstLine?_octets _ _, Percent.decode?_encodePath _⟩
  form := by
    rw [request_eq]
    exact order.form?_octets _ _
  body hkey ho := by
    rw [order_request] at ho ⊢
    obtain ⟨r, hr, hverifies⟩ := (c.verified_request order time hkey ho).received
    rw [order_request] at hverifies
    exact ⟨r, hr, hverifies.body⟩

theorem Client.Attempts.carries {c : Client} {clock : Nat → Instant} {order : Order}
    {further reading : Nat} {xs : List Exchange} {r : Except ExchangeError Text}
    (h : c.Attempts clock order further reading xs r) :
    ∀ x ∈ xs, x.request.Carries c.credentials.keyId := by
  induction h with
  | success | failure => exact List.forall_mem_singleton.2 (c.carries_request _ _)
  | again _ _ ih => exact List.forall_mem_cons.2 ⟨c.carries_request _ _, ih⟩

/-- So does every request of a run. -/
theorem Run.Steps.carries {u : Run} {a b : RunState} {xs : List Exchange} (h : u.Steps a xs b) :
    ∀ x ∈ xs, x.request.Carries u.client.credentials.keyId := by
  induction h with
  | refl => exact nofun
  | step _ ih => exact List.forall_mem_cons.2 ⟨u.client.carries_request _ _, ih⟩

end MachineImage
