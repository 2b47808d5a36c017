import MachineImage.Proofs.Parts
import MachineImage.Proofs.Stage

/-!
What is made of one response alone, and that a run goes on exactly as long as nothing is wrong with
what comes back.
-/
namespace MachineImage

/-- The operations of the compute service in a run. -/
def Operation.inRun : List Operation :=
  [.describeRegions, .importVolume, .describeConversionTasks, .createSnapshot, .describeSnapshots,
    .deleteVolume, .modifySnapshotAttribute, .registerImage, .describeImages, .copyImage,
    .modifyImageAttribute]

/-- An action that is none of a run is that of an announcement. -/
def Order.operation : Order → Operation
  | .put .. => .storagePut
  | .call _ _ form => (Operation.inRun.find? (·.name = form.action)).getD .publish

/-- What is wrong with the body of a valid response, if anything is. -/
def Operation.review (operation : Operation) (body : Text) : Except RunError Unit :=
  match operation with
  | .describeRegions => (Compute.regions body).map fun _ => ()
  | .importVolume => (Compute.required operation "conversionTaskId".toList body).map fun _ => ()
  | .describeConversionTasks => (Compute.conversionStatus body).map fun _ => ()
  | .createSnapshot => (Compute.required operation "snapshotId".toList body).map fun _ => ()
  | .describeSnapshots => (Compute.snapshotReadiness body).map fun _ => ()
  | .deleteVolume | .modifySnapshotAttribute | .modifyImageAttribute =>
    Compute.confirmed operation body
  | .registerImage | .copyImage =>
    (Compute.required operation "imageId".toList body).map fun _ => ()
  | .describeImages => (Compute.imageReadiness body).map fun _ => ()
  | .storagePut | .publish => .ok ()

/-- What is wrong with a reply, if anything is. -/
def Exchange.verdict (x : Exchange) : Except RunError Unit :=
  x.body.mapError (.request x.request.order.operation) >>= x.request.order.operation.review

theorem Operation.find?_name {operation : Operation} (h : operation ∈ inRun) :
    inRun.find? (·.name = operation.name) = some operation := by
  revert operation
  decide +kernel

namespace Run

variable (u : Run)

/-- Whether a stage fits what was stored before it. -/
def Fits : Stage → Prop
  | .storePart _ draft left start index =>
    draft.Awaits u.provisioner.partSize u.image left start index ∧ start < u.image.length
  | _ => True

/-- The states behind responses with which nothing is wrong. -/
inductive Going : RunState → Prop
  | due {σ : Stage} {readings : Nat} : u.Fits σ → σ ≠ .listRegions → Going (.due σ 0 readings)
  | ended {images : RegionImages} : Going (.ended (.ok images))

/-- The state that follows a response depends on what is wrong with it; besides, an image may turn
out to be unreadable. -/
inductive Reviewed (σ : Stage) : Except RunError Unit → RunState → Prop
  | wrong {e : RunError} : Reviewed σ (.error e) (.ended (.error e))
  | going {a : RunState} : u.Going a → Reviewed σ (.ok ()) a
  | unreadable {e : RunError} :
    σ = .listRegions → u.contents = .error e → Reviewed σ (.ok ()) (.ended (.error e))

variable {u}

theorem reviewed_onward {σ : Stage} {α : Type} {answer : Except RunError α} {next : α → RunState}
    (h : ∀ x, answer = .ok x → u.Going (next x)) :
    u.Reviewed σ (answer.map fun _ => ()) (.onward answer next) := by
  cases answer with
  | error e => exact .wrong
  | ok x => exact .going (h x rfl)

theorem reviewed_onward_unit {σ : Stage} {answer : Except RunError Unit} {next : Unit → RunState}
    (h : u.Going (next ())) : u.Reviewed σ answer (.onward answer next) := by
  cases answer with
  | error e => exact .wrong
  | ok x => exact .going h

theorem going_storing {regions : List Region} {draft : ManifestDraft} {left : Octets}
    {start index : Nat} (h : draft.Awaits u.provisioner.partSize u.image left start index)
    (readings : Nat) : u.Going (u.storing regions draft left start index readings) := by
  unfold storing
  split
  · next hlt => exact .due ⟨h, hlt⟩ nofun
  · next hge =>
    rw [finishing, h.finish hge]
    exact .due trivial nofun

theorem going_uploading {image : Octets} (h : u.contents = .ok image) (regions : List Region)
    (readings : Nat) : u.Going (u.uploading regions readings) := by
  obtain ⟨hs, -, -, hlt⟩ := contents_eq_ok.1 h
  rw [uploading, h]
  obtain rfl := image_eq h
  exact going_storing (ManifestDraft.awaits_image _ _ hs hlt) _

theorem going_publishing (images later : RegionImages) (readings : Nat) :
    u.Going (publishing images later readings) := by
  cases later with
  | nil => exact .ended
  | cons entry later => exact .due trivial nofun

theorem going_awaiting (images later : RegionImages) (readings : Nat) :
    u.Going (u.awaiting images later readings) := by
  induction later with
  | nil => exact going_publishing images images readings
  | cons entry later ih =>
    obtain ⟨region, copy⟩ := entry
    by_cases hr : region = u.home
    · rw [awaiting_home hr]
      exact ih
    · rw [awaiting_other hr]
      exact .due trivial nofun

theorem going_copying (image : Text) (made : RegionImages) (later : List Region) (readings : Nat) :
    u.Going (u.copying image made later readings) := by
  induction later generalizing made with
  | nil => exact going_awaiting made made readings
  | cons region later ih =>
    by_cases hr : region = u.home
    · rw [copying_home hr]
      exact ih _
    · rw [copying_other hr]
      exact .due trivial nofun

theorem going_unlessPending {pending ready : RunState} (hp : u.Going pending) (hr : u.Going ready)
    (readiness : Compute.Readiness) : u.Going (.unlessPending pending ready readiness) :=
  RunState.unlessPending_of hp fun _ => hr

theorem operation_order (σ : Stage) : (u.order σ).operation = σ.operation := by
  have named : ∀ {operation region form}, form.action = operation.name →
      operation ∈ Operation.inRun →
      (Order.call .compute region form).operation = operation := by
    intro operation region form hf hm
    simp only [Order.operation, hf, Operation.find?_name hm, Option.getD_some]
  cases σ with
  | storePart | storeManifest => rfl
  | registerImage =>
    exact named (Compute.action_registerImage _ _) (by simp [Stage.operation, Operation.inRun])
  | _ => exact named rfl (by simp [Stage.operation, Operation.inRun])

/-- A run goes on behind a response with which nothing is wrong, and else ends with what is. -/
theorem reviewed_answered {σ : Stage} (hf : u.Fits σ) (body : Text) (readings : Nat) :
    u.Reviewed σ (σ.operation.review body) (u.answered body readings σ) := by
  cases σ with
  | listRegions =>
    cases hb : Compute.regions body with
    | error e =>
      simp only [Stage.operation, Operation.review, answered, hb]
      exact .wrong
    | ok regions =>
      -- Before the first part is stored the image is read, and that may fail.
      simp only [Stage.operation, Operation.review, answered, hb]
      cases hc : u.contents with
      | error e =>
        have he : u.uploading regions readings = .ended (.error e) := by rw [uploading, hc]; rfl
        simp only [RunState.onward, he]
        exact .unreadable rfl hc
      | ok image => exact .going (going_uploading hc _ _)
  | storePart regions draft left start index =>
    -- The numbers of a part that fits are within their range.
    obtain ⟨hawaits, hlt⟩ := hf
    simp only [answered, partLength, hawaits.round hlt]
    exact .going (going_storing (hawaits.push hlt rfl) _)
  | storeManifest => exact .going (.due trivial nofun)
  | importVolume | createSnapshot | registerImage =>
    exact reviewed_onward fun _ _ => .due trivial nofun
  | awaitVolume =>
    refine reviewed_onward fun status _ => ?_
    cases status <;> exact .due trivial nofun
  | awaitSnapshot =>
    refine reviewed_onward fun readiness _ => ?_
    apply going_unlessPending
    · exact .due trivial nofun
    · exact .due trivial nofun
  | deleteVolume =>
    refine reviewed_onward_unit ?_
    split <;> exact .due trivial nofun
  | publishSnapshot => exact reviewed_onward_unit (.due trivial nofun)
  | awaitImage =>
    refine reviewed_onward fun readiness _ => ?_
    apply going_unlessPending
    · exact .due trivial nofun
    · split
      · exact going_copying _ _ _ _
      · exact .ended
  | copyImage => exact reviewed_onward fun _ _ => going_copying _ _ _ _
  | awaitCopy =>
    refine reviewed_onward fun readiness _ => ?_
    apply going_unlessPending
    · exact .due trivial nofun
    · exact going_awaiting _ _ _
  | publishImage => exact reviewed_onward_unit (going_publishing _ _ _)

/-- All that can follow an attempt. -/
inductive Met (u : Run) (σ : Stage) (failures readings : Nat) (x : Exchange) : RunState → Prop
  | again : x.isAccepted = false → failures < u.further σ →
    Met u σ failures readings x (.due σ (failures + 1) (readings + 1))
  | wrong {e : RunError} : x.verdict = .error e → Met u σ failures readings x (.ended (.error e))
  | unreadable {e : RunError} : σ = .listRegions → u.contents = .error e → x.isAccepted = true →
    x.verdict = .ok () → Met u σ failures readings x (.ended (.error e))
  | going {body : Text} : x.body = .ok body → x.verdict = .ok () →
    u.Going (u.answered body (readings + 1) σ) →
    Met u σ failures readings x (u.answered body (readings + 1) σ)

theorem order_request (σ : Stage) (readings : Nat) :
    (u.request σ readings).order = u.order σ := Client.order_request _ _ _

theorem met_replied {σ : Stage} (hf : u.Fits σ) (failures readings : Nat) (reply : Reply) :
    u.Met σ failures readings ⟨u.request σ readings, reply⟩
      (u.replied σ failures readings reply) := by
  have verdict_eq : Exchange.verdict ⟨u.request σ readings, reply⟩ =
      (Exchange.body ⟨u.request σ readings, reply⟩).mapError (.request σ.operation) >>=
        σ.operation.review := by
    simp only [Exchange.verdict, order_request, operation_order]
  unfold replied
  split
  · next body hb =>
    rw [hb] at verdict_eq
    have hr := reviewed_answered (u := u) hf body (readings + 1)
    generalize hv : σ.operation.review body = v at hr
    have hx : Exchange.verdict ⟨u.request σ readings, reply⟩ = v := by rw [verdict_eq, ← hv]; rfl
    generalize ha : u.answered body (readings + 1) σ = a at hr
    cases hr with
    | wrong => exact .wrong hx
    | going hg => rw [← ha] at hg ⊢; exact .going hb hx hg
    | unreadable hs hc => exact .unreadable hs hc (Exchange.isAccepted_of_ok hb) hx
  · next e hb =>
    rw [hb] at verdict_eq
    split
    · next h => exact .again (Exchange.isAccepted_of_error hb) h
    · exact .wrong verdict_eq

end Run

end MachineImage
