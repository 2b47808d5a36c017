import MachineImage.Proofs.Exchange

/-!
Orders that are carried out one after the other: the next one only when the one before it has
succeeded.
-/
namespace MachineImage

namespace Client.Attempts

variable {c : Client} {clock : Nat → Instant} {order : Order} {further reading : Nat}
  {xs : List Exchange} {r : Except ExchangeError Text}

theorem ne_nil (h : c.Attempts clock order further reading xs r) : xs ≠ [] := by
  cases h <;> simp

theorem order_eq (h : c.Attempts clock order further reading xs r) :
    ∀ x ∈ xs, x.request.order = order := by
  induction h with
  | success | failure =>
    intro x hx
    rw [List.mem_singleton.1 hx]
    exact order_request _ _ _
  | again _ _ ih => exact List.forall_mem_cons.2 ⟨order_request _ _ _, ih⟩

theorem length_le (h : c.Attempts clock order further reading xs r) :
    xs.length ≤ further + 1 := by
  induction h with
  | success => simp
  | failure => simp
  | again _ _ ih => exact Nat.succ_le_succ ih

open Exchange

theorem isAccepted_last {b : Text} (h : c.Attempts clock order further reading xs (.ok b)) :
    ∃ x, xs.getLast? = some x ∧ x.isAccepted = true := by
  generalize hr : Except.ok b = r at h
  induction h with
  | success hb => exact ⟨_, rfl, isAccepted_of_ok hb⟩
  | failure => cases hr
  | again _ h ih =>
    rw [List.getLast?_cons_of_ne_nil h.ne_nil]
    exact ih hr

theorem refused {e : ExchangeError} (h : c.Attempts clock order further reading xs (.error e)) :
    ∀ x ∈ xs, x.isAccepted = false := by
  generalize hr : Except.error e = r at h
  induction h with
  | success => cases hr
  | failure hb =>
    intro x hx
    rw [List.mem_singleton.1 hx]
    exact isAccepted_of_error hb
  | again hb _ ih => exact List.forall_mem_cons.2 ⟨isAccepted_of_error hb, ih hr⟩

/-- Attempts that succeed are one call, whatever follows them. -/
theorem calls_append {b : Text} (h : c.Attempts clock order further reading xs (.ok b))
    (ys : List Exchange) : calls (xs ++ ys) = xs :: calls ys := by
  generalize hr : Except.ok b = r at h
  induction h with
  | success hb => exact calls_cons_accepted (isAccepted_of_ok hb) ys
  | failure => cases hr
  | again hb _ ih =>
    rw [List.cons_append, calls_cons_refused (isAccepted_of_error hb), ih hr]
    rfl

theorem calls_eq {e : ExchangeError} (h : c.Attempts clock order further reading xs (.error e)) :
    calls xs = [xs] := by
  generalize hr : Except.error e = r at h
  induction h with
  | success => cases hr
  | failure hb => exact calls_cons_refused (isAccepted_of_error hb) []
  | again hb _ ih =>
    rw [calls_cons_refused (isAccepted_of_error hb), ih hr]
    rfl

end Client.Attempts

/-- The orders of the calls. -/
def Exchange.orders (xs : List Exchange) : List Order :=
  (calls xs).filterMap fun attempts => attempts.head?.map (·.request.order)

/-- The calls are for these orders in turn, as far as they go, and all but the last have got a valid
response. -/
structure Exchange.InTurn (orders : List Order) (xs : List Exchange) : Prop where
  prefix_orders : Exchange.orders xs <+: orders
  alike : ∀ attempts ∈ calls xs, ∃ order ∈ orders, ∀ x ∈ attempts, x.request.order = order
  accepted : ∀ attempts ∈ (calls xs).dropLast,
    ∃ x, attempts.getLast? = some x ∧ x.isAccepted = true

/-- The orders that were fulfilled: each valid response fulfils one. -/
def Exchange.fulfilled (xs : List Exchange) : List Order :=
  (xs.filter (·.isAccepted)).map (·.request.order)

open Exchange

theorem Exchange.fulfilled_append (xs ys : List Exchange) :
    fulfilled (xs ++ ys) = fulfilled xs ++ fulfilled ys := by
  rw [fulfilled, List.filter_append, List.map_append, fulfilled, fulfilled]

theorem Client.Attempts.fulfilled_ok {c : Client} {clock : Nat → Instant} {order : Order}
    {further reading : Nat} {xs : List Exchange} {b : Text}
    (h : c.Attempts clock order further reading xs (.ok b)) : fulfilled xs = [order] := by
  generalize hr : Except.ok b = r at h
  induction h with
  | success hb =>
    rw [fulfilled, List.filter_cons_of_pos (isAccepted_of_ok hb), List.filter_nil,
      List.map_singleton, order_request]
  | failure => cases hr
  | again hb _ ih =>
    rw [fulfilled, List.filter_cons_of_neg (by simp [isAccepted_of_error hb])]
    exact ih hr

theorem Client.Attempts.fulfilled_error {c : Client} {clock : Nat → Instant} {order : Order}
    {further reading : Nat} {xs : List Exchange} {e : ExchangeError}
    (h : c.Attempts clock order further reading xs (.error e)) : fulfilled xs = [] := by
  have hnone : xs.filter (·.isAccepted) = [] :=
    List.filter_eq_nil_iff.2 fun x hx => by simp [h.refused x hx]
  rw [fulfilled, hnone, List.map_nil]

/-- The orders are carried out up to the first that fails. -/
inductive Client.CarriesOut (c : Client) (clock : Nat → Instant) :
    List Order → List Exchange → Except ExchangeError Unit → Prop
  | nil : CarriesOut c clock [] [] (.ok ())
  | next {order : Order} {orders : List Order} {reading : Nat} {xs ys : List Exchange} {b : Text}
      {r : Except ExchangeError Unit} :
    c.Attempts clock order (c.maxAttempts - 1) reading xs (.ok b) →
      CarriesOut c clock orders ys r → CarriesOut c clock (order :: orders) (xs ++ ys) r
  | failed {order : Order} {orders : List Order} {reading : Nat} {xs : List Exchange}
      {e : ExchangeError} :
    c.Attempts clock order (c.maxAttempts - 1) reading xs (.error e) →
      CarriesOut c clock (order :: orders) xs (.error e)

namespace Client.CarriesOut

variable {c : Client} {clock : Nat → Instant} {orders orders' : List Order} {last : Order}
  {xs ys : List Exchange} {r : Except ExchangeError Unit}

theorem append (h : c.CarriesOut clock orders xs (.ok ())) (h' : c.CarriesOut clock orders' ys r) :
    c.CarriesOut clock (orders ++ orders') (xs ++ ys) r := by
  generalize hr : Except.ok () = r' at h
  induction h with
  | nil => exact h'
  | next ha _ ih =>
    rw [List.cons_append, List.append_assoc]
    exact .next ha (ih hr)
  | failed => cases hr

theorem append_failed {e : ExchangeError} (h : c.CarriesOut clock orders xs (.error e))
    (orders' : List Order) : c.CarriesOut clock (orders ++ orders') xs (.error e) := by
  generalize hr : Except.error e = r' at h
  induction h with
  | nil => cases hr
  | next ha _ ih => exact .next ha (ih hr)
  | failed ha => exact .failed ha

theorem exists_sent (h : c.CarriesOut clock (last :: orders) xs r) :
    ∃ x ∈ xs, x.request.order = last := by
  cases h with
  | next ha _ =>
    obtain ⟨x, hx⟩ := List.exists_mem_of_ne_nil _ ha.ne_nil
    exact ⟨x, List.mem_append_left _ hx, ha.order_eq x hx⟩
  | failed ha =>
    obtain ⟨x, hx⟩ := List.exists_mem_of_ne_nil _ ha.ne_nil
    exact ⟨x, hx, ha.order_eq x hx⟩

theorem inTurn (h : c.CarriesOut clock orders xs r) : InTurn orders xs := by
  induction h with
  | nil => exact ⟨List.prefix_refl _, nofun, nofun⟩
  | @next order orders reading xs ys b r ha h ih =>
    obtain ⟨x, rest, rfl⟩ := List.exists_cons_of_ne_nil ha.ne_nil
    have hc := ha.calls_append ys
    refine ⟨?_, ?_, ?_⟩
    · rw [Exchange.orders, hc]
      simp only [List.filterMap_cons, List.head?_cons, Option.map_some,
        ha.order_eq x List.mem_cons_self]
      exact List.cons_prefix_cons.2 ⟨rfl, ih.prefix_orders⟩
    · rw [hc]
      refine List.forall_mem_cons.2 ⟨⟨order, List.mem_cons_self, ha.order_eq⟩, ?_⟩
      intro attempts hm
      obtain ⟨o, ho, hx⟩ := ih.alike attempts hm
      exact ⟨o, List.mem_cons_of_mem _ ho, hx⟩
    · -- The attempts that succeeded are not the last only if something follows them.
      rw [hc]
      cases hy : calls ys with
      | nil => exact nofun
      | cons attempts more =>
        have hacc := ih.accepted
        rw [hy] at hacc
        rw [List.dropLast_cons_cons]
        exact List.forall_mem_cons.2 ⟨ha.isAccepted_last, hacc⟩
  | @failed order orders reading xs e ha =>
    obtain ⟨x, rest, rfl⟩ := List.exists_cons_of_ne_nil ha.ne_nil
    have hc := ha.calls_eq
    refine ⟨?_, ?_, ?_⟩
    · rw [Exchange.orders, hc]
      simp only [List.filterMap_cons, List.filterMap_nil, List.head?_cons, Option.map_some,
        ha.order_eq x List.mem_cons_self]
      exact List.cons_prefix_cons.2 ⟨rfl, List.nil_prefix⟩
    · rw [hc, List.forall_mem_singleton]
      exact ⟨order, List.mem_cons_self, ha.order_eq⟩
    · rw [hc]
      exact nofun

theorem isPrefix_fulfilled (h : c.CarriesOut clock orders xs r) : fulfilled xs <+: orders := by
  induction h with
  | nil => exact List.nil_prefix
  | next ha _ ih =>
    rw [fulfilled_append, ha.fulfilled_ok]
    exact List.cons_prefix_cons.2 ⟨rfl, ih⟩
  | failed ha =>
    rw [ha.fulfilled_error]
    exact List.nil_prefix

/-- All orders are fulfilled exactly if none has failed. -/
theorem length_fulfilled_iff (h : c.CarriesOut clock orders xs r) :
    (fulfilled xs).length = orders.length ↔ r = .ok () := by
  induction h with
  | nil => exact iff_of_true rfl rfl
  | next ha _ ih =>
    rw [fulfilled_append, ha.fulfilled_ok, List.singleton_append, List.length_cons,
      List.length_cons, Nat.succ_inj, ih]
  | failed ha =>
    rw [ha.fulfilled_error]
    exact iff_of_false nofun nofun

/-- What stands last is sent only when all before it have been accepted. -/
theorem accepted_of_sent (h : c.CarriesOut clock (orders ++ [last]) xs r) (hn : last ∉ orders)
    (hx : ∃ x ∈ xs, x.request.order = last) :
    ∀ order ∈ orders, ∃ y ∈ xs, y.request.order = order ∧ y.isAccepted = true := by
  induction orders generalizing xs with
  | nil => exact nofun
  | cons order orders ih =>
    obtain ⟨x, hx, ho⟩ := hx
    have hne : order ≠ last := fun he => hn (by rw [← he]; exact List.mem_cons_self)
    cases h with
    | failed ha => exact absurd ((ha.order_eq x hx).symm.trans ho) hne
    | @next _ _ _ seg ys _ _ ha h =>
      obtain ⟨y, hy, hacc⟩ := ha.isAccepted_last
      have hys : y ∈ seg := List.mem_of_getLast? hy
      refine List.forall_mem_cons.2
        ⟨⟨y, List.mem_append_left _ hys, ha.order_eq y hys, hacc⟩, ?_⟩
      intro o hm
      rcases List.mem_append.1 hx with hx | hx
      · exact absurd ((ha.order_eq x hx).symm.trans ho) hne
      · obtain ⟨z, hz, hzo⟩ := ih h (fun hm => hn (List.mem_cons_of_mem _ hm)) ⟨x, hx, ho⟩ o hm
        exact ⟨z, List.mem_append_right _ hz, hzo⟩

/-- Once all before it have been accepted, it is sent. -/
theorem sent_of_accepted (h : c.CarriesOut clock (orders ++ [last]) xs r) (hd : orders.Nodup)
    (hall : ∀ order ∈ orders, ∃ y ∈ xs, y.request.order = order ∧ y.isAccepted = true) :
    ∃ x ∈ xs, x.request.order = last := by
  induction orders generalizing xs with
  | nil => exact h.exists_sent
  | cons order orders ih =>
    obtain ⟨⟨y, hy, hyo, hacc⟩, hall⟩ := List.forall_mem_cons.1 hall
    obtain ⟨hnot, hd⟩ := List.nodup_cons.1 hd
    cases h with
    | failed ha => exact nomatch hacc.symm.trans (ha.refused y hy)
    | @next _ _ _ seg ys _ _ ha h =>
      obtain ⟨x, hx, hxo⟩ := ih h hd (by
        intro o hm
        obtain ⟨z, hz, hzo, hzacc⟩ := hall o hm
        rcases List.mem_append.1 hz with hz | hz
        · rw [ha.order_eq z hz] at hzo
          exact absurd (hzo ▸ hm) hnot
        · exact ⟨z, hz, hzo, hzacc⟩)
      exact ⟨x, List.mem_append_right _ hx, hxo⟩

theorem order_mem (h : c.CarriesOut clock orders xs r) : ∀ x ∈ xs, x.request.order ∈ orders := by
  intro x hx
  rw [← flatten_calls xs] at hx
  obtain ⟨attempts, hm, hx⟩ := List.mem_flatten.1 hx
  obtain ⟨order, ho, hall⟩ := h.inTurn.alike attempts hm
  rw [hall x hx]
  exact ho

end Client.CarriesOut

/-- From the session on the action makes exchanges and has an outcome such as these. -/
def Action.Does {ε α : Type} (a : Action ε α) (s : Session)
    (q : List Exchange → Except ε α → Prop) : Prop :=
  ∃ xs, s.Exchanged xs (a.outcome s).2 ∧ q xs (a.outcome s).1

namespace Action

variable {ε δ α β : Type} {s : Session} {q : List Exchange → Except ε β → Prop}

theorem Does.bind {a : Action ε α} {f : α → Action ε β} {m : List Exchange → Except ε α → Prop}
    (ha : a.Does s m)
    (hf : ∀ xs x t, t.clock = s.clock → m xs (.ok x) → (f x).Does t fun ys r => q (xs ++ ys) r)
    (he : ∀ xs e, m xs (.error e) → q xs (.error e)) : (a >>= f).Does s q := by
  obtain ⟨xs, hx, hm⟩ := ha
  unfold Does
  rw [outcome_bind]
  rcases ho : a.outcome s with ⟨r, t⟩
  rw [ho] at hx hm
  cases r with
  | error e => exact ⟨xs, hx, he xs e hm⟩
  | ok x =>
    obtain ⟨ys, hy, hq⟩ := hf xs x t hx.clock hm
    exact ⟨xs ++ ys, hx.trans hy, hq⟩

theorem Does.pure {x : β} (h : q [] (.ok x)) : (Pure.pure x : Action ε β).Does s q :=
  ⟨[], .refl s, h⟩

theorem Does.after_silent {a : Action ε Unit} (h : a.Silent) {b : Action ε β}
    (hb : ∀ t, t.clock = s.clock → b.Does t q) : (a >>= fun _ => b).Does s q := by
  obtain ⟨t, ho, -, hx⟩ := h s
  refine Does.bind (m := fun xs r => xs = [] ∧ r = .ok ()) ⟨[], ?_, ?_⟩ ?_ ?_
  · rw [ho]
    exact hx
  · rw [ho]
    exact ⟨rfl, rfl⟩
  · rintro xs x t ht ⟨rfl, -⟩
    exact hb t ht
  · rintro xs e ⟨-, he⟩
    cases he

theorem Does.after_presign (c : Client) (region : Region) (bucket method path : Text)
    (expires : Nat) {f : Text → Action ε β}
    (hf : ∀ ctx t, t.clock = s.clock →
      (f (Signing.presignedUrl ctx method (bucketHost bucket) path expires)).Does t q) :
    (c.presign region bucket method path expires >>= f).Does s q := by
  have ho : ∃ ctx, (c.presign region bucket method path expires : Action ε Text).outcome s =
      (.ok (Signing.presignedUrl ctx method (bucketHost bucket) path expires),
        { s with readings := s.readings + 1 }) := ⟨_, rfl⟩
  obtain ⟨ctx, ho⟩ := ho
  obtain ⟨xs, hx, hq⟩ := hf ctx { s with readings := s.readings + 1 } rfl
  unfold Does
  rw [outcome_bind, ho]
  exact ⟨xs, ⟨hx.clock, hx.exchanges, hx.replies⟩, hq⟩

end Action

end MachineImage
