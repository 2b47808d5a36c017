import MachineImage.Proofs.Simulation

/-!
Runs followed reply by reply: where the replies of a session lead the machine to an end, the run of
the session ends there.
-/
namespace MachineImage

namespace Run

variable {u : Run}

/-- What is exchanged from a state on while these replies come back, and the state behind it. -/
def follow (u : Run) : RunState → List Reply → List Exchange × RunState
  | .due σ failures readings, reply :: replies =>
    let behind := u.follow (u.replied σ failures readings reply) replies
    (⟨u.request σ readings, reply⟩ :: behind.1, behind.2)
  | a, _ => ([], a)

theorem steps_follow (a : RunState) (replies : List Reply) :
    u.Steps a (u.follow a replies).1 (u.follow a replies).2 := by
  induction replies generalizing a with
  | nil => cases a <;> exact .refl
  | cons reply replies ih =>
    cases a with
    | due σ failures readings => exact .step (ih _)
    | ended r => exact .refl

theorem replies_follow (a : RunState) (replies : List Reply) :
    (u.follow a replies).1.map (·.reply) <+: replies := by
  induction replies generalizing a with
  | nil => cases a <;> exact List.nil_prefix
  | cons reply replies ih =>
    cases a with
    | due σ failures readings => exact List.cons_prefix_cons.2 ⟨rfl, ih _⟩
    | ended r => exact List.nil_prefix

/-- What the replies of a longer row lead to is what those of a shorter one do, if that is an
end. -/
theorem Steps.eq_of_ended {a : RunState} {xs ys : List Exchange} {replies : List Reply}
    {r r' : Except RunError RegionImages} (h : u.Steps a xs (.ended r))
    (h' : u.Steps a ys (.ended r')) (hx : xs.map (·.reply) <+: replies)
    (hy : ys.map (·.reply) <+: replies) : xs = ys ∧ r = r' := by
  have key : ∀ {xs ys r r'}, u.Steps a xs (.ended r) → u.Steps a ys (.ended r') →
      xs.map (·.reply) <+: ys.map (·.reply) → xs = ys ∧ r = r' := by
    intro xs ys r r' h h' hp
    obtain ⟨zs, rfl⟩ := h.isPrefix h' hp
    obtain ⟨m, hm, hz⟩ := h'.of_append
    obtain ⟨-, rfl⟩ := h.unique hm rfl
    obtain ⟨rfl, hr⟩ := hz.of_ended
    cases hr
    exact ⟨(List.append_nil xs).symm, rfl⟩
  rcases List.prefix_or_prefix_of_prefix hx hy with hp | hp
  · exact key h h' hp
  · obtain ⟨hxs, hr⟩ := key h' h hp
    exact ⟨hxs.symm, hr.symm⟩

/-- A run ends where the machine does with the replies of the session. -/
theorem outcome_of_follow {p : Provisioner} {job : ImageJob} {nonce : Octets} {s : Session}
    {r : Except RunError RegionImages}
    (h : ((Run.mk p job nonce s.clock).follow (.due .listRegions 0 s.readings) s.replies).2 =
      .ended r) :
    ((p.run job nonce).outcome s).1 = r ∧ (p.run job nonce).exchanges s =
      ((Run.mk p job nonce s.clock).follow (.due .listRegions 0 s.readings) s.replies).1 := by
  obtain ⟨hx, hsteps⟩ := steps_run p job nonce s
  obtain ⟨k, hk⟩ := hx.replies
  have hfollow := steps_follow (u := ⟨p, job, nonce, s.clock⟩) (.due .listRegions 0 s.readings)
    s.replies
  have hreplies := replies_follow (u := ⟨p, job, nonce, s.clock⟩) (.due .listRegions 0 s.readings)
    s.replies
  rw [h] at hfollow
  have hprefix : ((p.run job nonce).exchanges s).map (·.reply) <+:
      s.replies ++ List.replicate k (.response exhausted) := ⟨_, hk.symm⟩
  obtain ⟨hxs, hr⟩ := hsteps.eq_of_ended hfollow hprefix (hreplies.trans (List.prefix_append _ _))
  exact ⟨hr, hxs⟩

/-- The images of a run that has succeeded. -/
def result? : RunState → Option RegionImages
  | .ended (.ok images) => some images
  | _ => none

theorem outcome_of_result? {p : Provisioner} {job : ImageJob} {nonce : Octets} {s : Session}
    {images : RegionImages}
    (h : result? ((Run.mk p job nonce s.clock).follow (.due .listRegions 0 s.readings)
      s.replies).2 = some images) :
    ((p.run job nonce).outcome s).1 = .ok images ∧ (p.run job nonce).exchanges s =
      ((Run.mk p job nonce s.clock).follow (.due .listRegions 0 s.readings) s.replies).1 := by
  refine outcome_of_follow ?_
  generalize Run.follow _ _ _ = behind at h ⊢
  obtain ⟨xs, a⟩ := behind
  cases a with
  | due => cases h
  | ended r =>
    cases r with
    | error e => cases h
    | ok images => cases h; rfl

end Run

/-- A valid response with that body. -/
def Reply.valid (body : Text) : Reply :=
  .response (Utf8.encode ("HTTP/1.1 200 OK\r\n\r\n".toList ++ body))

open Markup in
/-- Replies with which all goes well for a public image of so many parts, where these are the
regions and these the ids of its copies. -/
def Reply.allWell (parts : Nat) (regions copies : List Text) : List Reply :=
  (element "regionInfo" (regions.flatMap (element "regionName")) ::
    List.replicate (parts + 1) [] ++ element "conversionTaskId" ['t'] ::
    element "volume" (element "id" ['v']) :: element "snapshotId" ['s'] ::
    element "status" "completed".toList :: element "return" "true".toList ::
    element "imageId" ['i'] :: element "imageState" "available".toList ::
    copies.map (element "imageId") ++
    copies.map (fun _ => element "imageState" "available".toList) ++
    List.replicate (copies.length + 1) (element "return" "true".toList)).map valid

/-- A run for an image that is to be public, in parts of two octets. -/
def Run.ofImage (home : Text) (image : Octets) : Run where
  provisioner := ⟨⟨⟨['k'], ['s']⟩, 3⟩, ⟨[], [], []⟩, 2, 10⟩
  job :=
    { home := ⟨home⟩, bucket := [], image := ⟨[], .contents image⟩,
      spec := ⟨[], [], .x86, false, false⟩, isPublic := true }
  nonce := []
  clock _ := ⟨0, false⟩

end MachineImage
