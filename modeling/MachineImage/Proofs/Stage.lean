import MachineImage.Proofs.Exchange
import MachineImage.Provision

/-!
A run as a machine: the stages that it goes through, the order of each, and the state that a reply
leads to.
-/
namespace MachineImage

/-- What a run is given. -/
structure Run where
  provisioner : Provisioner
  job : ImageJob
  nonce : Octets
  clock : Nat → Instant

/-- The call that comes next, with what it and the calls behind it have to know. -/
inductive Stage
  | listRegions
  | storePart (regions : List Region) (draft : ManifestDraft) (left : Octets) (start index : Nat)
  | storeManifest (regions : List Region) (manifest : Manifest)
  | importVolume (regions : List Region) (manifestUrl : Text) (size gibibytes : Nat)
  | awaitVolume (regions : List Region) (task : Text)
  | createSnapshot (regions : List Region) (volume : Text)
  | awaitSnapshot (regions : List Region) (volume snapshot : Text)
  | deleteVolume (regions : List Region) (volume snapshot : Text)
  | publishSnapshot (regions : List Region) (snapshot : Text)
  | registerImage (regions : List Region) (snapshot : Text)
  | awaitImage (regions : List Region) (image : Text)
  | copyImage (image : Text) (made : RegionImages) (region : Region) (later : List Region)
  | awaitCopy (images : RegionImages) (region : Region) (copy : Text) (later : RegionImages)
  | publishImage (images : RegionImages) (region : Region) (image : Text) (later : RegionImages)

inductive RunState
  /-- An attempt at a stage is due, after `failures` that failed and `readings` of the clock. -/
  | due (stage : Stage) (failures readings : Nat)
  | ended (outcome : Except RunError RegionImages)

/-- Goes on with an answer; one that is none ends the run. -/
def RunState.onward {α : Type} (answer : Except RunError α) (next : α → RunState) : RunState :=
  match answer with
  | .ok x => next x
  | .error e => .ended (.error e)

/-- Goes on if something is ready, and else asks once more. -/
def RunState.unlessPending (pending ready : RunState) : Compute.Readiness → RunState
  | .pending => pending
  | .ready => ready

/-- What holds of every failure, and behind every answer, holds behind what may be either. -/
theorem RunState.onward_of {P : RunState → Prop} {α : Type} {answer : Except RunError α}
    {next : α → RunState} (herror : ∀ e, P (.ended (.error e)))
    (h : ∀ x, answer = .ok x → P (next x)) : P (.onward answer next) := by
  cases answer with
  | error e => exact herror e
  | ok x => exact h x rfl

theorem RunState.unlessPending_of {P : RunState → Prop} {pending ready : RunState}
    {readiness : Compute.Readiness} (hp : P pending) (hr : readiness = .ready → P ready) :
    P (.unlessPending pending ready readiness) := by
  cases readiness with
  | pending => exact hp
  | ready => exact hr rfl

/-- Whether a failed attempt at the operation may be followed by another. -/
def Operation.isRepeated : Operation → Bool
  | .importVolume | .createSnapshot | .deleteVolume | .registerImage | .copyImage | .publish =>
    false
  | _ => true

def Stage.operation : Stage → Operation
  | .listRegions => .describeRegions
  | .storePart .. | .storeManifest .. => .storagePut
  | .importVolume .. => .importVolume
  | .awaitVolume .. => .describeConversionTasks
  | .createSnapshot .. => .createSnapshot
  | .awaitSnapshot .. => .describeSnapshots
  | .deleteVolume .. => .deleteVolume
  | .publishSnapshot .. => .modifySnapshotAttribute
  | .registerImage .. => .registerImage
  | .awaitImage .. | .awaitCopy .. => .describeImages
  | .copyImage .. => .copyImage
  | .publishImage .. => .modifyImageAttribute

/-- The URL that is signed with a reading of the clock. -/
def Client.urlAt (c : Client) (d : Destination) (time : Instant) (method : String) (path : Text) :
    Text :=
  Signing.presignedUrl ⟨c.credentials, d.region, .storage, time⟩ method.toList
    (bucketHost d.bucket) path Signing.expiry

/-- What a manifest says of a part if its URLs are signed from that reading on. -/
def Client.partAt (c : Client) (d : Destination) (clock : Nat → Instant) (index start stop : Nat)
    (reading : Nat) : Part where
  index := index
  start := start
  stop := stop
  key := d.partKey index
  headUrl := c.urlAt d (clock reading) "HEAD" (d.partPath index)
  getUrl := c.urlAt d (clock (reading + 1)) "GET" (d.partPath index)
  deleteUrl := c.urlAt d (clock (reading + 2)) "DELETE" (d.partPath index)

namespace Run

variable (u : Run)

abbrev client : Client := u.provisioner.client

abbrev home : Region := u.job.home

abbrev destination : Destination := ⟨u.job.home, u.job.bucket, u.nonce⟩

/-- The octets of the image; its file must have some, and not more than 64 bits can count. -/
def contents : Except RunError Octets :=
  if u.provisioner.partSize = 0 then .error .outOfRange
  else match u.job.image.found with
  | .nothing fault => .error (.unreadableImage u.job.image.path fault)
  | .directory => .error (.unreadableImage u.job.image.path .isDirectory)
  | .contents [] => .error (.emptyImage u.job.image.path)
  | .contents image =>
    if image.length < UInt64.size then .ok image
    else .error (.unreadableImage u.job.image.path .tooLarge)

def image : Octets := u.contents.toOption.getD []

/-- The octets of the part that begins there. -/
def partLength (start : Nat) : Nat := min (u.image.length - start) u.provisioner.partSize

def order : Stage → Order
  | .listRegions => .call .compute u.home Compute.describeRegions
  | .storePart _ _ left start index =>
    .put u.home u.job.bucket (u.destination.partPath index) (left.take (u.partLength start))
  | .storeManifest _ manifest =>
    .put u.home u.job.bucket u.destination.manifestPath (Utf8.encode manifest.document)
  | .importVolume _ url size gibibytes =>
    .call .compute u.home (Compute.importVolume u.home url size gibibytes)
  | .awaitVolume _ task => .call .compute u.home (Compute.describeConversionTask task)
  | .createSnapshot _ volume => .call .compute u.home (Compute.createSnapshot volume)
  | .awaitSnapshot _ _ snapshot => .call .compute u.home (Compute.describeSnapshot snapshot)
  | .deleteVolume _ volume _ => .call .compute u.home (Compute.deleteVolume volume)
  | .publishSnapshot _ snapshot => .call .compute u.home (Compute.publishSnapshot snapshot)
  | .registerImage _ snapshot => .call .compute u.home (Compute.registerImage snapshot u.job.spec)
  | .awaitImage _ image => .call .compute u.home (Compute.describeImage image)
  | .copyImage image _ region _ => .call .compute region (Compute.copyImage u.home image)
  | .awaitCopy _ region copy _ => .call .compute region (Compute.describeImage copy)
  | .publishImage _ region image _ => .call .compute region (Compute.publishImage image)

/-- The attempts that may follow the first at a stage. -/
def further (σ : Stage) : Nat :=
  if σ.operation.isRepeated then u.client.maxAttempts - 1 else 0

/-- The request of an attempt that reads the clock so late. -/
def request (σ : Stage) (reading : Nat) : Request :=
  u.client.request (u.order σ) (u.clock reading)

/-- Before the manifest, if the draft can be finished. -/
def finishing (regions : List Region) (draft : ManifestDraft) (readings : Nat) : RunState :=
  .onward (draft.finish.mapError .manifest) fun manifest =>
    .due (.storeManifest regions manifest) 0 readings

/-- Before the next part, if the image goes on. -/
def storing (regions : List Region) (draft : ManifestDraft) (left : Octets)
    (start index readings : Nat) : RunState :=
  if start < u.image.length then .due (.storePart regions draft left start index) 0 readings
  else finishing regions draft readings

/-- Before the first part, if the image has any. -/
def uploading (regions : List Region) (readings : Nat) : RunState :=
  .onward u.contents fun image => u.storing regions
    ⟨u.provisioner.maker, u.client.urlAt u.destination (u.clock readings) "DELETE"
      u.destination.manifestPath, image.length, []⟩ image 0 0 (readings + 1)

/-- Before the import of what was uploaded; the URL of its manifest is signed in between. -/
def uploaded (regions : List Region) (upload : UploadedImage) (readings : Nat) : RunState :=
  .due (.importVolume regions
    (u.client.urlAt u.destination (u.clock readings) "GET" upload.manifestPath)
    upload.size upload.gibibytes) 0 (readings + 1)

/-- Before the next image of those that are left is published. -/
def publishing (images later : RegionImages) (readings : Nat) : RunState :=
  match later with
  | (region, image) :: later => .due (.publishImage images region image later) 0 readings
  | [] => .ended (.ok images)

/-- Before the next copy of those that are left is waited for. -/
def awaiting (images later : RegionImages) (readings : Nat) : RunState :=
  match later with
  | (region, copy) :: later =>
    if region ≠ u.home then .due (.awaitCopy images region copy later) 0 readings
    else awaiting images later readings
  | [] => publishing images images readings

/-- Before the next copy into one of the regions that are left is started. -/
def copying (image : Text) (made : RegionImages) (later : List Region) (readings : Nat) :
    RunState :=
  match later with
  | region :: later =>
    if region = u.home then copying image (made ++ [(region, image)]) later readings
    else .due (.copyImage image made region later) 0 readings
  | [] => u.awaiting made made readings

variable {u} in
theorem copying_home {image : Text} {made : RegionImages} {region : Region} {later : List Region}
    (h : region = u.home) :
    u.copying image made (region :: later) = u.copying image (made ++ [(region, image)]) later := by
  funext n
  rw [copying, if_pos h]

variable {u} in
theorem copying_other {image : Text} {made : RegionImages} {region : Region} {later : List Region}
    (h : region ≠ u.home) :
    u.copying image made (region :: later) = .due (.copyImage image made region later) 0 := by
  funext n
  rw [copying, if_neg h]

variable {u} in
theorem awaiting_home {images later : RegionImages} {region : Region} {copy : Text}
    (h : region = u.home) :
    u.awaiting images ((region, copy) :: later) = u.awaiting images later := by
  funext n
  rw [awaiting, if_neg fun hn => hn h]

variable {u} in
theorem awaiting_other {images later : RegionImages} {region : Region} {copy : Text}
    (h : region ≠ u.home) :
    u.awaiting images ((region, copy) :: later) = .due (.awaitCopy images region copy later) 0 := by
  funext n
  rw [awaiting, if_pos h]

/-- The state behind an accepted response with that body. -/
def answered (body : Text) (readings : Nat) : Stage → RunState
  | .listRegions => .onward (Compute.regions body) fun regions => u.uploading regions readings
  | .storePart regions draft left start index =>
    .onward (RunError.inRange (Round.of? start (u.partLength start) index)) fun round =>
      u.storing regions
        (draft.push (u.client.partAt u.destination u.clock index start round.stop readings))
        (left.drop (u.partLength start)) round.next round.following (readings + 3)
  | .storeManifest regions _ =>
    u.uploaded regions
      ⟨u.destination.manifestPath, u.image.length, volumeGibibytes u.image.length⟩ readings
  | .importVolume regions _ _ _ =>
    .onward (Compute.required .importVolume "conversionTaskId".toList body) fun task =>
      .due (.awaitVolume regions task) 0 readings
  | .awaitVolume regions task =>
    .onward (Compute.conversionStatus body) fun
      | .completed volume => .due (.createSnapshot regions volume) 0 readings
      | .inProgress _ => .due (.awaitVolume regions task) 0 readings
  | .createSnapshot regions volume =>
    .onward (Compute.required .createSnapshot "snapshotId".toList body) fun snapshot =>
      .due (.awaitSnapshot regions volume snapshot) 0 readings
  | .awaitSnapshot regions volume snapshot =>
    .onward (Compute.snapshotReadiness body)
      (.unlessPending (.due (.awaitSnapshot regions volume snapshot) 0 readings)
        (.due (.deleteVolume regions volume snapshot) 0 readings))
  | .deleteVolume regions _ snapshot =>
    .onward (Compute.confirmed .deleteVolume body) fun _ =>
      if u.job.hasPublicSnapshot then .due (.publishSnapshot regions snapshot) 0 readings
      else .due (.registerImage regions snapshot) 0 readings
  | .publishSnapshot regions snapshot =>
    .onward (Compute.confirmed .modifySnapshotAttribute body) fun _ =>
      .due (.registerImage regions snapshot) 0 readings
  | .registerImage regions _ =>
    .onward (Compute.required .registerImage "imageId".toList body) fun image =>
      .due (.awaitImage regions image) 0 readings
  | .awaitImage regions image =>
    .onward (Compute.imageReadiness body)
      (.unlessPending (.due (.awaitImage regions image) 0 readings)
        (if u.job.isPublic then
          u.copying image [] (Provisioner.targets u.home regions) readings
        else .ended (.ok [(u.home, image)])))
  | .copyImage image made region later =>
    .onward (Compute.required .copyImage "imageId".toList body) fun copy =>
      u.copying image (made ++ [(region, copy)]) later readings
  | .awaitCopy images region copy later =>
    .onward (Compute.imageReadiness body)
      (.unlessPending (.due (.awaitCopy images region copy later) 0 readings)
        (u.awaiting images later readings))
  | .publishImage images _ _ later =>
    .onward (Compute.confirmed .modifyImageAttribute body) fun _ =>
      publishing images later readings

/-- The state behind a reply to an attempt. -/
def replied (σ : Stage) (failures readings : Nat) (reply : Reply) : RunState :=
  match Exchange.body ⟨u.request σ readings, reply⟩ with
  | .ok body => u.answered body (readings + 1) σ
  | .error e =>
    if failures < u.further σ then .due σ (failures + 1) (readings + 1)
    else .ended (.error (.request σ.operation e))

/-- These exchanges lead from one state to the other. -/
inductive Steps : RunState → List Exchange → RunState → Prop
  | refl {a : RunState} : Steps a [] a
  | step {σ : Stage} {failures readings : Nat} {reply : Reply} {xs : List Exchange} {a : RunState} :
    Steps (u.replied σ failures readings reply) xs a →
      Steps (.due σ failures readings) (⟨u.request σ readings, reply⟩ :: xs) a

variable {u}

theorem contents_eq_ok {image : Octets} : u.contents = .ok image ↔ 1 ≤ u.provisioner.partSize ∧
    u.job.image.found = .contents image ∧ image ≠ [] ∧ image.length < UInt64.size := by
  unfold contents
  by_cases hs : u.provisioner.partSize = 0
  · rw [if_pos hs, hs]
    exact iff_of_false nofun fun h => absurd h.1 (by decide)
  · rw [if_neg hs]
    split
    · next hf => exact iff_of_false nofun fun h => nomatch hf.symm.trans h.2.1
    · next hf => exact iff_of_false nofun fun h => nomatch hf.symm.trans h.2.1
    · next hf =>
      refine iff_of_false nofun fun h => ?_
      exact h.2.2.1 (Found.contents.inj (hf.symm.trans h.2.1)).symm
    · next found hne hf =>
      rw [hf, Found.contents.injEq]
      split
      · next hlt =>
        rw [Except.ok.injEq]
        constructor
        · rintro rfl
          exact ⟨Nat.pos_of_ne_zero hs, rfl, hne, hlt⟩
        · exact fun h => h.2.1
      · next hlt =>
        refine iff_of_false nofun ?_
        rintro ⟨-, rfl, -, h⟩
        exact hlt h

theorem image_eq {image : Octets} (h : u.contents = .ok image) : u.image = image := by
  rw [Run.image, h]
  rfl

theorem Steps.trans {a b c : RunState} {xs ys : List Exchange} (h : u.Steps a xs b)
    (h' : u.Steps b ys c) : u.Steps a (xs ++ ys) c := by
  induction h with
  | refl => exact h'
  | step _ ih => exact .step (ih h')

/-- What each reply preserves, of what was exchanged and the state behind it, holds on every way
through the stages. -/
theorem Steps.invariant {P : List Exchange → RunState → Prop}
    (hstep : ∀ before σ failures readings reply, P before (.due σ failures readings) →
      P (before ++ [⟨u.request σ readings, reply⟩]) (u.replied σ failures readings reply))
    {a b : RunState} {before xs : List Exchange} (h : u.Steps a xs b) (ha : P before a) :
    P (before ++ xs) b := by
  induction h generalizing before with
  | refl => rwa [List.append_nil]
  | step _ ih =>
    have hb := ih (hstep _ _ _ _ _ ha)
    rwa [List.append_assoc] at hb

/-- Where a run has ended nothing more is exchanged. -/
theorem Steps.of_ended {r : Except RunError RegionImages} {xs : List Exchange} {a : RunState}
    (h : u.Steps (.ended r) xs a) : xs = [] ∧ a = .ended r := by
  cases h
  exact ⟨rfl, rfl⟩

theorem Steps.of_append {a c : RunState} {xs ys : List Exchange} (h : u.Steps a (xs ++ ys) c) :
    ∃ b, u.Steps a xs b ∧ u.Steps b ys c := by
  induction xs generalizing a with
  | nil => exact ⟨a, .refl, h⟩
  | cons x xs ih =>
    cases h with
    | step h =>
      obtain ⟨b, hx, hy⟩ := ih h
      exact ⟨b, .step hx, hy⟩

/-- What is exchanged, and where it leads, follows from the replies. -/
theorem Steps.unique {a b c : RunState} {xs ys : List Exchange} (h : u.Steps a xs b)
    (h' : u.Steps a ys c) (hr : xs.map (·.reply) = ys.map (·.reply)) : xs = ys ∧ b = c := by
  induction h generalizing ys with
  | refl =>
    obtain rfl : ys = [] := by simpa using hr.symm
    cases h'
    exact ⟨rfl, rfl⟩
  | step _ ih =>
    cases h' with
    | refl => simp at hr
    | step h' =>
      simp only [List.map_cons, List.cons.injEq] at hr
      obtain ⟨rfl, hr⟩ := hr
      obtain ⟨rfl, rfl⟩ := ih h' hr
      exact ⟨rfl, rfl⟩

theorem Steps.isPrefix {a b c : RunState} {xs ys : List Exchange} (h : u.Steps a xs b)
    (h' : u.Steps a ys c) (hr : xs.map (·.reply) <+: ys.map (·.reply)) : xs <+: ys := by
  have htake := List.prefix_iff_eq_take.1 hr
  rw [← List.map_take] at htake
  rw [← List.take_append_drop (xs.map (·.reply)).length ys] at h'
  obtain ⟨m, hm, -⟩ := h'.of_append
  rw [(h.unique hm htake).1]
  exact List.take_prefix _ _

end Run

end MachineImage
