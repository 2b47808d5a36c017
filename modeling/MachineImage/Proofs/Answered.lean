import MachineImage.Proofs.Repetition
import MachineImage.Proofs.StageOrder

/-!
A run that succeeds is a row of calls that were answered, each answer leading to the next call.
-/
namespace MachineImage

/-- The exchange is for the order: it goes where the order is carried out, and its octets post what
the order says. -/
structure Exchange.IsFor (x : Exchange) (o : Order) : Prop where
  order : x.request.order = o
  host : x.request.host = o.service.endpoint o.region
  form : Wire.form? x.request.octets = o.posted

/-- Attempts at an order of which the last alone has got a valid response, with that body. -/
structure Exchange.Answered (order : Order) (call : List Exchange) (body : Text) : Prop where
  sent : ∀ x ∈ call, x.IsFor order
  refused : ∀ x ∈ call.dropLast, x.isAccepted = false
  last : ∃ x, call.getLast? = some x ∧ x.body = .ok body

open Exchange

namespace Exchange.Answered

variable {order : Order} {call : List Exchange} {body : Text}

theorem ne_nil (h : Answered order call body) : call ≠ [] := by
  obtain ⟨x, hx, -⟩ := h.last
  exact List.ne_nil_of_mem (List.mem_of_getLast? hx)

theorem cons {x : Exchange} (h : Answered order call body) (hx : x.isAccepted = false)
    (hsent : x.IsFor order) :
    Answered order (x :: call) body where
  sent := List.forall_mem_cons.2 ⟨hsent, h.sent⟩
  refused := by
    rw [List.dropLast_cons_of_ne_nil h.ne_nil]
    exact List.forall_mem_cons.2 ⟨hx, h.refused⟩
  last := by
    rw [List.getLast?_cons_of_ne_nil h.ne_nil]
    exact h.last

theorem operation_eq (h : Answered order call body) :
    ∀ x ∈ call, x.request.order.operation = order.operation := by
  intro x hx
  rw [(h.sent x hx).order]

/-- The response that answers the question for the regions tells them. -/
theorem toldRegions_append {regions : List Region} (h : Answered order call body)
    (hr : Compute.regions body = .ok regions) (xs : List Exchange) :
    toldRegions (call ++ xs) = regions := by
  obtain ⟨x, hx, hb⟩ := h.last
  obtain ⟨before, rfl⟩ := List.getLast?_eq_some_iff.1 hx
  have hrefused := h.refused
  rw [List.dropLast_concat] at hrefused
  clear h hx
  induction before with
  | nil => exact toldRegions_accepted hb hr xs
  | cons y before ih =>
    obtain ⟨hy, hrefused⟩ := List.forall_mem_cons.1 hrefused
    rw [List.cons_append, List.cons_append, toldRegions_refused hy]
    exact ih hrefused

end Exchange.Answered

namespace Run

variable {u : Run} {images : RegionImages}

/-- Answered calls lead from one state to the other. -/
inductive Leads (u : Run) : RunState → List (List Exchange) → RunState → Prop
  | refl {a : RunState} : Leads u a [] a
  | next {σ : Stage} {failures readings later : Nat} {call : List Exchange} {body : Text}
      {calls : List (List Exchange)} {b : RunState} :
    Answered (u.order σ) call body → call.length + failures ≤ u.further σ + 1 →
      Leads u (u.answered body later σ) calls b →
      Leads u (.due σ failures readings) (call :: calls) b

theorem isFor_request (σ : Stage) (readings : Nat) (reply : Reply) :
    IsFor ⟨u.request σ readings, reply⟩ (u.order σ) := by
  have hcarries := u.client.carries_request (u.order σ) (u.clock readings)
  have horder := order_request (u := u) σ readings
  have hhost := hcarries.host
  have hform := hcarries.form
  rw [Client.order_request] at hhost hform
  exact ⟨horder, hhost, hform⟩

/-- The calls of a run that succeeds are answered one after the other. -/
theorem Steps.leads {σ : Stage} {failures readings : Nat} {xs : List Exchange}
    (h : u.Steps (.due σ failures readings) xs (.ended (.ok images))) (hσ : u.Fits σ)
    (hf : failures ≤ u.further σ) :
    u.Leads (.due σ failures readings) (calls xs) (.ended (.ok images)) := by
  generalize ha : RunState.due σ failures readings = a at h
  generalize hb : RunState.ended (.ok images) = b at h
  induction h generalizing σ failures readings with
  | refl => exact nomatch ha.trans hb.symm
  | @step σ failures readings reply xs b h ih =>
    cases ha
    subst hb
    have hm := met_replied (u := u) hσ failures readings reply
    generalize u.replied σ failures readings reply = c at h ih hm
    cases hm with
    | again hx hlt =>
      -- A failed attempt stands before those of the same call.
      have hleads := ih hσ hlt rfl rfl
      rw [calls_cons_refused hx]
      generalize calls xs = row at hleads
      cases hleads with
      | next ha hl hrest =>
        refine .next (ha.cons hx (isFor_request σ readings _)) ?_ hrest
        rw [List.headD_cons, List.length_cons]
        omega
    | wrong _ => exact nomatch h.of_ended.2
    | unreadable _ _ _ _ => exact nomatch h.of_ended.2
    | @going body hb hv hg =>
      rw [calls_cons_accepted (isAccepted_of_ok hb)]
      have hanswered : Answered (u.order σ) [⟨u.request σ readings, reply⟩] body :=
        ⟨List.forall_mem_singleton.2 (isFor_request σ readings _), nofun, _, rfl, hb⟩
      have hmore : u.Leads (u.answered body (readings + 1) σ) (calls xs) (.ended (.ok images)) := by
        generalize u.answered body (readings + 1) σ = c at h ih hg
        cases hg with
        | ended =>
          obtain ⟨rfl, he⟩ := h.of_ended
          rw [he]
          exact .refl
        | due hfits _ => exact ih hfits (Nat.zero_le _) rfl rfl
      exact .next hanswered (by rw [List.length_singleton]; omega) hmore

namespace Leads

variable {row : List (List Exchange)} {failures readings : Nat}

/-- What is answered has been read. -/
theorem of_onward {α : Type} {answer : Except RunError α} {next : α → RunState}
    (h : u.Leads (.onward answer next) row (.ended (.ok images))) :
    ∃ x, answer = .ok x ∧ u.Leads (next x) row (.ended (.ok images)) := by
  cases answer with
  | error e => cases h
  | ok x => exact ⟨x, rfl, h⟩

theorem of_ended {r : Except RunError RegionImages}
    (h : u.Leads (.ended r) row (.ended (.ok images))) : row = [] ∧ r = .ok images := by
  cases h
  exact ⟨rfl, rfl⟩

/-- The first call is that of the stage. -/
theorem exists_call {σ : Stage} (h : u.Leads (.due σ failures readings) row (.ended (.ok images))) :
    ∃ call body rest later, row = call :: rest ∧ Answered (u.order σ) call body ∧
      call.length + failures ≤ u.further σ + 1 ∧
      u.Leads (u.answered body later σ) rest (.ended (.ok images)) := by
  cases h with
  | next ha hl h => exact ⟨_, _, _, _, rfl, ha, hl, h⟩

end Leads

end Run

end MachineImage
