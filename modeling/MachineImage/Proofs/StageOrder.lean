import MachineImage.Proofs.Carried
import MachineImage.Proofs.Course
import MachineImage.Proofs.Replay
import MachineImage.Proofs.Verdict

/-!
The calls of every run stand in the order of its course, and the run succeeds exactly if it gets to
the end of it.
-/
namespace MachineImage

namespace Exchange

/-- The regions that the first valid response names. -/
def toldRegions (xs : List Exchange) : List Region :=
  match xs.find? isAccepted with
  | some x => (x.body.toOption.bind fun body => (Compute.regions body).toOption).getD []
  | none => []

/-- With the last of the attempts nothing is wrong. -/
def Succeeded (attempts : List Exchange) : Prop :=
  ∃ x, attempts.getLast? = some x ∧ x.verdict = .ok ()

theorem toldRegions_accepted {x : Exchange} {body : Text} {regions : List Region}
    (h : x.body = .ok body) (hr : Compute.regions body = .ok regions) (xs : List Exchange) :
    toldRegions (x :: xs) = regions := by
  rw [toldRegions, List.find?_cons_of_pos (isAccepted_of_ok h)]
  simp [h, hr, Except.toOption]

theorem toldRegions_refused {x : Exchange} (h : x.isAccepted = false) (xs : List Exchange) :
    toldRegions (x :: xs) = toldRegions xs := by
  rw [toldRegions, List.find?_cons_of_neg (by simp [h]), toldRegions]

theorem calls_singleton (x : Exchange) : calls [x] = [[x]] := by
  cases h : x.isAccepted with
  | true => rw [calls_cons_accepted h]; rfl
  | false => rw [calls_cons_refused h]; rfl

theorem kinds_singleton (x : Exchange) : kinds [x] = [x.kind] := by
  rw [kinds, calls_singleton]
  rfl

/-- Behind a failed attempt, another at the same thing is no call of its own. -/
theorem kinds_again {x y : Exchange} (h : x.isAccepted = false) (hk : x.kind = y.kind)
    (xs : List Exchange) : kinds (x :: y :: xs) = kinds (y :: xs) := by
  rw [kinds_cons_refused h, hk]
  cases hy : y.isAccepted with
  | true => rw [kinds_cons_accepted hy]; rfl
  | false => rw [kinds_cons_refused hy]; rfl

theorem succeeded_singleton {x : Exchange} (h : x.verdict = .ok ()) : Succeeded [x] := ⟨x, rfl, h⟩

theorem Succeeded.cons {attempts : List Exchange} (h : Succeeded attempts) (x : Exchange) :
    Succeeded (x :: attempts) := by
  obtain ⟨y, hy, hv⟩ := h
  refine ⟨y, ?_, hv⟩
  rw [List.getLast?_cons, hy]
  rfl

/-- The last attempt of the last call is the last attempt. -/
theorem getLast?_of_calls {xs attempts : List Exchange} (h : (calls xs).getLast? = some attempts) :
    attempts.getLast? = xs.getLast? := by
  obtain ⟨earlier, hc⟩ := List.getLast?_eq_some_iff.1 h
  have hne : attempts ≠ [] := ne_nil_of_mem_calls (by rw [hc]; simp : attempts ∈ calls xs)
  rw [← flatten_calls xs, hc, List.flatten_append, List.flatten_singleton, List.getLast?_append,
    List.getLast?_eq_some_getLast hne, Option.some_or]

end Exchange

/-- The attempts that an operation gets. -/
def Client.attemptLimit (c : Client) (operation : Operation) : Nat :=
  if operation.isRepeated then max c.maxAttempts 1 else 1

/-- Attempts at one order, not more than its operation gets. -/
def Client.IsCall (c : Client) (attempts : List Exchange) : Prop :=
  ∃ order, (∀ x ∈ attempts, x.request.order = order) ∧
    attempts.length ≤ c.attemptLimit order.operation

open Exchange

namespace Run

variable {u : Run}

theorem further_lt (u : Run) (σ : Stage) :
    u.further σ + 1 = u.client.attemptLimit (u.order σ).operation := by
  rw [operation_order, further, Client.attemptLimit]
  split <;> omega

/-- The first of the calls is for a stage at which so many attempts have failed, and all but the
last of them have succeeded. -/
structure Issued (u : Run) (σ : Stage) (failures : Nat) (first : List Exchange)
    (more : List (List Exchange)) : Prop where
  order : ∀ x ∈ first, x.request.order = u.order σ
  length : first.length + failures ≤ u.further σ + 1
  isCall : ∀ attempts ∈ more, u.client.IsCall attempts
  succeeded : ∀ attempts ∈ (first :: more).dropLast, Succeeded attempts

theorem Issued.single {σ : Stage} {failures : Nat} (h : failures ≤ u.further σ) (readings : Nat)
    (reply : Reply) : u.Issued σ failures [⟨u.request σ readings, reply⟩] [] where
  order x hx := by
    rw [List.mem_singleton.1 hx]
    exact order_request σ readings
  length := by simp only [List.length_singleton]; omega
  isCall := nofun
  succeeded := nofun

theorem Issued.isCall_first {σ : Stage} {failures : Nat} {first : List Exchange}
    {more : List (List Exchange)} (h : u.Issued σ failures first more) : u.client.IsCall first := by
  refine ⟨u.order σ, h.order, ?_⟩
  rw [← further_lt]
  have := h.length
  omega

theorem Steps.issued {σ : Stage} {failures readings : Nat} {xs : List Exchange} {b : RunState}
    (h : u.Steps (.due σ failures readings) xs b) (hσ : u.Fits σ)
    (hf : failures ≤ u.further σ) (hne : xs ≠ []) :
    ∃ first more, calls xs = first :: more ∧ u.Issued σ failures first more := by
  generalize ha : RunState.due σ failures readings = a at h
  induction h generalizing σ failures readings with
  | refl => exact absurd rfl hne
  | @step σ failures readings reply xs b h ih =>
    cases ha
    have alone : xs = [] →
        ∃ first more, calls (⟨u.request σ readings, reply⟩ :: xs) = first :: more ∧
          u.Issued σ failures first more := by
      rintro rfl
      exact ⟨_, [], calls_singleton _, .single hf readings reply⟩
    have hm := met_replied (u := u) hσ failures readings reply
    generalize u.replied σ failures readings reply = c at h ih hm
    cases hm with
    | again hx hl =>
      -- What follows is the rest of the same call.
      by_cases hxs : xs = []
      · exact alone hxs
      · obtain ⟨first, more, hc, hi⟩ := ih hσ hl hxs rfl
        refine ⟨⟨u.request σ readings, reply⟩ :: first, more, ?_, ?_, ?_, hi.isCall, ?_⟩
        · rw [calls_cons_refused hx, hc]
          rfl
        · intro x hx
          rcases List.mem_cons.1 hx with rfl | hx
          · exact order_request σ readings
          · exact hi.order x hx
        · have := hi.length
          simp only [List.length_cons]
          omega
        · have hs := hi.succeeded
          cases more with
          | nil => exact nofun
          | cons second more =>
            rw [List.dropLast_cons_cons, List.forall_mem_cons] at hs ⊢
            exact ⟨hs.1.cons _, hs.2⟩
    | wrong _ => exact alone h.of_ended.1
    | unreadable _ _ _ _ => exact alone h.of_ended.1
    | going hb hv hg =>
      -- What follows is the next call.
      generalize u.answered _ _ σ = c at h ih hg
      by_cases hxs : xs = []
      · exact alone hxs
      · cases hg with
        | ended => exact absurd h.of_ended.1 hxs
        | due hfits _ =>
          obtain ⟨first, more, hc, hi⟩ := ih hfits (Nat.zero_le _) hxs rfl
          refine ⟨[⟨u.request σ readings, reply⟩], first :: more, ?_, ?_, ?_, ?_, ?_⟩
          · rw [calls_cons_accepted (isAccepted_of_ok hb), hc]
          · exact (Issued.single hf readings reply).order
          · exact (Issued.single hf readings reply).length
          · exact List.forall_mem_cons.2 ⟨hi.isCall_first, hi.isCall⟩
          · rw [List.dropLast_cons_cons, List.forall_mem_cons]
            exact ⟨succeeded_singleton hv, hi.succeeded⟩

/-- What is called is for the places ahead, and fills them if the run has succeeded. -/
def Follows (u : Run) (told : List Region) (σ : Stage) (xs : List Exchange) (b : RunState) : Prop :=
  ∃ w, Fills (u.ahead told σ) w ∧ kinds xs <+: w ∧
    ∀ images, b = .ended (.ok images) → kinds xs = w

/-- The call of a stage takes the first place ahead, whatever comes of it. -/
theorem follows_singleton (told : List Region) (σ : Stage) (readings : Nat) (reply : Reply)
    {b : RunState} (hb : ∀ images, b ≠ .ended (.ok images)) :
    u.Follows told σ [⟨u.request σ readings, reply⟩] b := by
  obtain ⟨w, hw⟩ := exists_fills_ahead (u := u) told σ
  refine ⟨_, hw, ?_, fun images h => absurd h (hb images)⟩
  rw [kinds_singleton, Exchange.kind, order_request]
  exact List.prefix_append [_] w

/-- Behind a call that succeeded, the places are filled that its answer leads to. -/
theorem follows_cons (hp : 1 ≤ u.provisioner.partSize) {told : List Region} {σ : Stage}
    {readings : Nat} {reply : Reply} {body : Text} {xs : List Exchange} {b : RunState}
    {w : List Kind} (hb : Exchange.body ⟨u.request σ readings, reply⟩ = .ok body)
    (hl : σ = .listRegions → Compute.regions body = .ok told)
    (hw : u.FilledBy told (u.answered body (readings + 1) σ) w) (hk : kinds xs <+: w)
    (he : ∀ images, b = .ended (.ok images) → kinds xs = w) :
    u.Follows told σ (⟨u.request σ readings, reply⟩ :: xs) b := by
  have hkinds : kinds (⟨u.request σ readings, reply⟩ :: xs) = (u.order σ).kind :: kinds xs := by
    rw [kinds_cons_accepted (isAccepted_of_ok hb), Exchange.kind, order_request]
  refine ⟨_, fills_of_answered hp hl hw, ?_, ?_⟩
  · rw [hkinds]
    exact List.cons_prefix_cons.2 ⟨rfl, hk⟩
  · intro images hi
    rw [hkinds, he images hi]

/-- Behind an attempt that failed, the same stage is met again. -/
theorem Steps.kinds_again {σ : Stage} {failures readings : Nat} {xs : List Exchange} {b : RunState}
    (h : u.Steps (.due σ failures (readings + 1)) xs b) (hne : xs ≠ []) {reply : Reply}
    (hx : isAccepted ⟨u.request σ readings, reply⟩ = false) :
    kinds (⟨u.request σ readings, reply⟩ :: xs) = kinds xs := by
  cases h with
  | refl => exact absurd rfl hne
  | step h =>
    refine Exchange.kinds_again hx ?_ _
    simp only [Exchange.kind, order_request]

theorem Steps.follows (hp : 1 ≤ u.provisioner.partSize) {told : List Region} {σ : Stage}
    {failures readings : Nat} {xs : List Exchange} {b : RunState}
    (h : u.Steps (.due σ failures readings) xs b) (hσ : u.Fits σ)
    (ht : σ = .listRegions → toldRegions xs = told) : u.Follows told σ xs b := by
  generalize ha : RunState.due σ failures readings = a at h
  induction h generalizing σ failures readings with
  | refl =>
    obtain ⟨w, hw⟩ := exists_fills_ahead (u := u) told σ
    refine ⟨_, hw, List.nil_prefix, ?_⟩
    intro images hb
    exact nomatch ha.trans hb
  | @step σ failures readings reply xs b h ih =>
    cases ha
    have hm := met_replied (u := u) hσ failures readings reply
    have failed : ∀ e, u.Steps (.ended (.error e)) xs b →
        u.Follows told σ (⟨u.request σ readings, reply⟩ :: xs) b := by
      intro e he
      obtain ⟨rfl, rfl⟩ := he.of_ended
      exact follows_singleton told σ readings reply nofun
    generalize u.replied σ failures readings reply = c at h ih hm
    cases hm with
    | again hx _ =>
      by_cases hxs : xs = []
      · subst hxs
        refine follows_singleton told σ readings reply fun images hb => ?_
        rw [hb] at h
        cases h
      · have hfollows := ih hσ (fun hs => by rw [← ht hs, toldRegions_refused hx]) rfl
        unfold Follows at hfollows ⊢
        rwa [h.kinds_again hxs hx]
    | wrong _ => exact failed _ h
    | unreadable _ _ _ _ => exact failed _ h
    | @going body hb hv hg =>
      -- The places behind the upload depend on the regions that the first answer tells.
      have hl : σ = .listRegions → Compute.regions body = .ok told := by
        intro hs
        subst hs
        rw [← ht rfl]
        cases hr : Compute.regions body with
        | error e =>
          simp only [answered, hr, RunState.onward] at hg
          cases hg
        | ok regions => rw [toldRegions_accepted hb hr]
      have onward : ∀ w, u.FilledBy told (u.answered body (readings + 1) σ) w → kinds xs <+: w →
          (∀ images, b = .ended (.ok images) → kinds xs = w) →
          u.Follows told σ (⟨u.request σ readings, reply⟩ :: xs) b := fun _ => follows_cons hp hb hl
      generalize u.answered body (readings + 1) σ = c at h ih hg onward
      cases hg with
      | ended =>
        obtain ⟨rfl, -⟩ := h.of_ended
        exact onward [] rfl (List.prefix_refl _) fun _ _ => rfl
      | due hfits hs =>
        obtain ⟨w, hw, hk, he⟩ := ih hfits (fun h => absurd h hs) rfl
        exact onward w hw hk he

/-- A run that has ended tells what was wrong with the last reply, if not with the image itself. -/
theorem Steps.exists_last {σ : Stage} {failures readings : Nat} {xs : List Exchange}
    {r : Except RunError RegionImages}
    (h : u.Steps (.due σ failures readings) xs (.ended r)) (hσ : u.Fits σ) :
    ∃ x, xs.getLast? = some x ∧ (x.verdict = r.map (fun _ => ()) ∨
      x.verdict = .ok () ∧ σ = .listRegions ∧ kinds xs = [(u.order σ).kind] ∧
        ∃ e, u.contents = .error e ∧ r = .error e) := by
  generalize ha : RunState.due σ failures readings = a at h
  generalize hb : RunState.ended r = b at h
  induction h generalizing σ failures readings with
  | refl => exact nomatch ha.trans hb.symm
  | @step σ failures readings reply xs b h ih =>
    cases ha
    subst hb
    have hm := met_replied (u := u) hσ failures readings reply
    generalize u.replied σ failures readings reply = c at h ih hm
    cases hm with
    | again hx _ =>
      have hxs : xs ≠ [] := by
        rintro rfl
        cases h
      rw [h.kinds_again hxs hx, List.getLast?_cons_of_ne_nil hxs]
      exact ih hσ rfl rfl
    | wrong hv =>
      obtain ⟨rfl, he⟩ := h.of_ended
      cases he
      exact ⟨_, rfl, .inl hv⟩
    | unreadable hs hc _ hv =>
      obtain ⟨rfl, he⟩ := h.of_ended
      cases he
      refine ⟨_, rfl, .inr ⟨hv, hs, ?_, _, hc, rfl⟩⟩
      rw [kinds_singleton, Exchange.kind, order_request]
    | @going body hb hv hg =>
      generalize u.answered body (readings + 1) σ = c at h ih hg
      cases hg with
      | ended =>
        obtain ⟨rfl, he⟩ := h.of_ended
        cases he
        exact ⟨_, rfl, .inl hv⟩
      | due hfits hs =>
        have hxs : xs ≠ [] := by
          rintro rfl
          cases h
        rw [List.getLast?_cons_of_ne_nil hxs]
        obtain ⟨x, hx, hr | ⟨-, hl, -⟩⟩ := ih hfits rfl rfl
        · exact ⟨x, hx, .inl hr⟩
        · exact absurd hl hs

/-- The calls are those of the course as far as they go, each at one order and not more often than
its operation may be repeated, and nothing follows a call that failed. What is sent for an order is
what it asks for. -/
structure Ordered (u : Run) (xs : List Exchange) : Prop where
  word : ∃ w, Fills (u.course (toldRegions xs)) w ∧ kinds xs <+: w
  isCall : ∀ attempts ∈ calls xs, u.client.IsCall attempts
  succeeded : ∀ attempts ∈ (calls xs).dropLast, Succeeded attempts
  carries : ∀ x ∈ xs, x.request.Carries u.client.credentials.keyId

/-- The run succeeds exactly if it has made all calls of its course and all have succeeded. A call
that fails is the last one, and the run fails with what was wrong with it; it fails with nothing
else, unless its image cannot be read. -/
structure Concluded (u : Run) (xs : List Exchange) (r : Except RunError RegionImages) : Prop where
  ok_iff : (∃ images, r = .ok images) ↔
    Fills (u.course (toldRegions xs)) (kinds xs) ∧ ∀ attempts ∈ calls xs, Succeeded attempts
  failed : ∀ attempts ∈ calls xs, ∀ x e, attempts.getLast? = some x → x.verdict = .error e →
    (calls xs).getLast? = some attempts ∧ r = .error e
  error : ∀ e, r = .error e →
    (∃ attempts ∈ calls xs, ∃ x, attempts.getLast? = some x ∧ x.verdict = .error e) ∨
      kinds xs = [calling u.home .describeRegions] ∧ u.contents = .error e

theorem Steps.ordered (hp : 1 ≤ u.provisioner.partSize) {readings : Nat} {xs : List Exchange}
    {b : RunState} (h : u.Steps (.due .listRegions 0 readings) xs b) : u.Ordered xs := by
  obtain ⟨w, hw, hk, -⟩ := h.follows hp trivial fun _ => rfl
  by_cases hxs : xs = []
  · subst hxs
    exact ⟨⟨w, hw, hk⟩, nofun, nofun, nofun⟩
  · obtain ⟨first, more, hc, hi⟩ := h.issued trivial (Nat.zero_le _) hxs
    refine ⟨⟨w, hw, hk⟩, ?_, ?_, h.carries⟩
    · rw [hc]
      exact List.forall_mem_cons.2 ⟨hi.isCall_first, hi.isCall⟩
    · rw [hc]
      exact hi.succeeded

/-- The last call of a run that has ended, with its last attempt. -/
theorem Steps.exists_final {readings : Nat} {xs : List Exchange} {r : Except RunError RegionImages}
    (h : u.Steps (.due .listRegions 0 readings) xs (.ended r)) :
    ∃ earlier final y, calls xs = earlier ++ [final] ∧ final.getLast? = some y ∧
      (y.verdict = r.map (fun _ => ()) ∨ y.verdict = .ok () ∧
        kinds xs = [calling u.home .describeRegions] ∧
          ∃ e, u.contents = .error e ∧ r = .error e) := by
  obtain ⟨y, hy, hv⟩ := h.exists_last trivial
  have hne : calls xs ≠ [] := by
    intro hc
    rw [← flatten_calls xs, hc] at hy
    cases hy
  have hfinal := List.getLast?_eq_some_getLast hne
  obtain ⟨earlier, hsplit⟩ := List.getLast?_eq_some_iff.1 hfinal
  refine ⟨earlier, _, y, hsplit, (getLast?_of_calls hfinal).trans hy, ?_⟩
  rcases hv with hv | ⟨hv, -, hk, hc⟩
  · exact .inl hv
  · exact .inr ⟨hv, hk, hc⟩

theorem not_fills_course (regions : List Region) (k : Kind) : ¬ Fills (u.course regions) [k] := by
  intro h
  have hlen := h.length_le
  simp [course, importing] at hlen

theorem Steps.concluded (hp : 1 ≤ u.provisioner.partSize) {readings : Nat} {xs : List Exchange}
    {r : Except RunError RegionImages}
    (h : u.Steps (.due .listRegions 0 readings) xs (.ended r)) : u.Concluded xs r := by
  obtain ⟨w, hw, -, hend⟩ := h.follows hp trivial fun _ => rfl
  obtain ⟨earlier, final, y, hsplit, hy, hverdict⟩ := h.exists_final
  have hsucceeded := (h.ordered hp).succeeded
  rw [hsplit, List.dropLast_concat] at hsucceeded
  -- All calls before the last have succeeded, so that its last attempt tells how the run ended.
  have last : ∀ {x}, final.getLast? = some x → x = y := fun hx => Option.some.inj (hx.symm.trans hy)
  constructor
  · constructor
    · rintro ⟨images, rfl⟩
      refine ⟨hend images rfl ▸ hw, ?_⟩
      rw [hsplit, List.forall_mem_append, List.forall_mem_singleton]
      refine ⟨hsucceeded, y, hy, ?_⟩
      rcases hverdict with hv | ⟨hv, -⟩
      · exact hv
      · exact hv
    · rintro ⟨hfills, hall⟩
      rw [hsplit, List.forall_mem_append, List.forall_mem_singleton] at hall
      obtain ⟨-, x, hx, hok⟩ := hall
      rw [last hx] at hok
      rcases hverdict with hv | ⟨-, hk, -⟩
      · cases r with
        | ok images => exact ⟨images, rfl⟩
        | error e => exact nomatch hok.symm.trans hv
      · rw [hk] at hfills
        exact absurd hfills (not_fills_course _ _)
  · intro attempts ha x e hx hv
    rw [hsplit, List.mem_append, List.mem_singleton] at ha
    rcases ha with ha | rfl
    · obtain ⟨z, hz, hok⟩ := hsucceeded attempts ha
      rw [Option.some.inj (hz.symm.trans hx)] at hok
      exact nomatch hok.symm.trans hv
    · refine ⟨by rw [hsplit, List.getLast?_concat], ?_⟩
      rw [last hx] at hv
      rcases hverdict with hw | ⟨hok, -⟩
      · cases r with
        | ok images => exact nomatch hv.symm.trans hw
        | error e' => rw [Except.error.inj (hv.symm.trans hw)]
      · exact nomatch hok.symm.trans hv
  · rintro e rfl
    rcases hverdict with hv | ⟨-, hk, e', hc, he⟩
    · exact .inl ⟨final, by simp [hsplit], y, hy, hv⟩
    · cases he
      exact .inr ⟨hk, hc⟩

end Run

namespace Provisioner

variable (p : Provisioner) (job : ImageJob) (nonce : Octets) (s : Session) (replies : Nat → Reply)
  (count : Nat)

/-- Where fewer than `count` exchanges come first, the run is over. -/
theorem steps_firstExchanges :
    ∃ b, (Run.mk p job nonce s.clock).Steps (.due .listRegions 0 s.readings)
      ((p.run job nonce).firstExchanges s replies count) b ∧
      (((p.run job nonce).firstExchanges s replies count).length < count → ∃ r, b = .ended r) := by
  have hs := (Run.steps_run p job nonce { s with replies := (List.range count).map replies }).2
  unfold Action.firstExchanges
  by_cases hlen : ((p.run job nonce).exchanges
      { s with replies := (List.range count).map replies }).length ≤ count
  · rw [List.take_of_length_le hlen]
    exact ⟨_, hs, fun _ => ⟨_, rfl⟩⟩
  · rw [← List.take_append_drop count ((p.run job nonce).exchanges _)] at hs
    obtain ⟨b, hb, -⟩ := hs.of_append
    refine ⟨b, hb, fun hlt => ?_⟩
    rw [List.length_take] at hlt
    omega

theorem replies_firstExchanges :
    ((p.run job nonce).firstExchanges s replies count).map (·.reply) <+:
      (List.range count).map replies := by
  have hx := (Run.steps_run p job nonce
    { s with replies := (List.range count).map replies }).1.take_replies
  rwa [List.length_map, List.length_range] at hx

theorem firstExchanges_prefix :
    (p.run job nonce).firstExchanges s replies count <+:
      (p.run job nonce).firstExchanges s replies (count + 1) := by
  obtain ⟨b, hb, -⟩ := p.steps_firstExchanges job nonce s replies count
  obtain ⟨c, hc, hended⟩ := p.steps_firstExchanges job nonce s replies (count + 1)
  have hx := p.replies_firstExchanges job nonce s replies count
  have hy := p.replies_firstExchanges job nonce s replies (count + 1)
  have hmore : (List.range count).map replies <+: (List.range (count + 1)).map replies := by
    rw [List.range_succ, List.map_append]
    exact List.prefix_append _ _
  have hlen := hx.length_le
  generalize (p.run job nonce).firstExchanges s replies count = xs at *
  generalize (p.run job nonce).firstExchanges s replies (count + 1) = ys at *
  rcases List.prefix_or_prefix_of_prefix (hx.trans hmore) hy with hxy | hyx
  · exact hb.isPrefix hc hxy
  · -- The run is over behind the second, so that the first is no longer.
    obtain ⟨zs, rfl⟩ := hc.isPrefix hb hyx
    simp only [List.length_map, List.length_range, List.length_append] at hlen
    obtain ⟨r, rfl⟩ := hended (by omega)
    obtain ⟨m, hm, hz⟩ := hb.of_append
    obtain ⟨-, rfl⟩ := hm.unique hc rfl
    simp [hz.of_ended.1]

/-- What a run exchanges follows its course, however long the replies go on. -/
theorem ordered_run (hp : 1 ≤ p.partSize) :
    ((Run.mk p job nonce s.clock).Ordered ((p.run job nonce).exchanges s) ∧
      (Run.mk p job nonce s.clock).Concluded ((p.run job nonce).exchanges s)
        ((p.run job nonce).outcome s).1) ∧
      ∀ replies count,
        (Run.mk p job nonce s.clock).Ordered ((p.run job nonce).firstExchanges s replies count) ∧
        ((p.run job nonce).firstExchanges s replies count).map (·.reply) <+:
          (List.range count).map replies ∧
        (p.run job nonce).firstExchanges s replies count <+:
          (p.run job nonce).firstExchanges s replies (count + 1) := by
  have hsteps := (Run.steps_run p job nonce s).2
  refine ⟨⟨hsteps.ordered hp, hsteps.concluded hp⟩, fun replies count => ?_⟩
  obtain ⟨b, hb, -⟩ := p.steps_firstExchanges job nonce s replies count
  exact ⟨hb.ordered hp, p.replies_firstExchanges job nonce s replies count,
    p.firstExchanges_prefix job nonce s replies count⟩

/-- The whole course of an image of two parts, which is copied to one region besides its own. Of the
first request there are two attempts. -/
theorem ordered_run_public :
    let u := Run.ofImage ['a'] [1, 2, 3]
    let s : Session :=
      { clock := u.clock, replies := .broken [] :: Reply.allWell 2 [['b'], ['a']] [['j']] }
    let xs := (u.provisioner.run u.job u.nonce).exchanges s
    let images : RegionImages := [(⟨['b']⟩, ['j']), (⟨['a']⟩, ['i'])]
    1 ≤ u.provisioner.partSize ∧ u.Ordered xs ∧ u.Concluded xs (.ok images) ∧
      ((u.provisioner.run u.job u.nonce).outcome s).1 = .ok images ∧
      (calls xs).map List.length = 2 :: List.replicate 14 1 ∧
      Fills (u.course [⟨['b']⟩, ⟨['a']⟩]) (kinds xs) := by
  intro u s xs images
  have hp : 1 ≤ u.provisioner.partSize := by decide
  have hrun : ((u.provisioner.run u.job u.nonce).outcome s).1 = .ok images ∧
      xs = (u.follow (.due .listRegions 0 s.readings) s.replies).1 :=
    Run.outcome_of_result? (by decide +kernel)
  obtain ⟨hordered, hconcluded⟩ := (ordered_run u.provisioner u.job u.nonce s hp).1
  rw [hrun.1] at hconcluded
  have hlengths : (calls xs).map List.length = 2 :: List.replicate 14 1 := by
    rw [hrun.2]
    decide +kernel
  have htold : toldRegions xs = [⟨['b']⟩, ⟨['a']⟩] := by
    rw [hrun.2]
    decide +kernel
  refine ⟨hp, hordered, hconcluded, hrun.1, hlengths, ?_⟩
  rw [← htold]
  exact (hconcluded.ok_iff.1 ⟨images, rfl⟩).1

end Provisioner

end MachineImage
