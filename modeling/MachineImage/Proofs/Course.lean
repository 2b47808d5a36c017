import MachineImage.Proofs.Parts
import MachineImage.Proofs.Simulation

/-!
The course of a run: what its calls are for, in their order, and that every answer leads along it.
-/
namespace MachineImage

/-- What an order is for, without what it carries. -/
inductive Kind
  | stored (path : Text)
  | called (region : Region) (action : Text)
  deriving DecidableEq

def Order.kind : Order → Kind
  | .put _ _ path _ => .stored path
  | .call _ region form => .called region form.action

/-- A place in the course of a run: a call, or one call or more of one kind. -/
inductive Place
  | once (kind : Kind)
  | repeatedly (kind : Kind)

/-- The calls fill the places in their order. -/
inductive Fills : List Place → List Kind → Prop
  | nil : Fills [] []
  | once {k : Kind} {places : List Place} {w : List Kind} :
    Fills places w → Fills (.once k :: places) (k :: w)
  | last {k : Kind} {places : List Place} {w : List Kind} :
    Fills places w → Fills (.repeatedly k :: places) (k :: w)
  | more {k : Kind} {places : List Place} {w : List Kind} :
    Fills (.repeatedly k :: places) w → Fills (.repeatedly k :: places) (k :: w)

theorem Fills.exists : ∀ places, ∃ w, Fills places w
  | [] => ⟨[], .nil⟩
  | .once k :: places => (Fills.exists places).imp' (k :: ·) fun _ => .once
  | .repeatedly k :: places => (Fills.exists places).imp' (k :: ·) fun _ => .last

theorem Fills.length_le {places : List Place} {w : List Kind} (h : Fills places w) :
    places.length ≤ w.length := by
  induction h with
  | nil => exact Nat.le_refl _
  | once _ ih | last _ ih => exact Nat.succ_le_succ ih
  | more _ ih => exact Nat.le_succ_of_le ih

namespace Exchange

def kind (x : Exchange) : Kind := x.request.order.kind

/-- The kinds of the calls. -/
def kinds (xs : List Exchange) : List Kind :=
  (calls xs).filterMap fun attempts => attempts.head?.map kind

theorem kinds_cons_accepted {x : Exchange} (h : x.isAccepted = true) (xs : List Exchange) :
    kinds (x :: xs) = x.kind :: kinds xs := by
  rw [kinds, calls_cons_accepted h]
  rfl

theorem kinds_cons_refused {x : Exchange} (h : x.isAccepted = false) (xs : List Exchange) :
    kinds (x :: xs) = x.kind :: (kinds xs).tail := by
  rw [kinds, calls_cons_refused h, kinds]
  cases hc : calls xs with
  | nil => rfl
  | cons attempts more =>
    have hne : attempts ≠ [] := ne_nil_of_mem_calls (by rw [hc]; exact List.mem_cons_self)
    obtain ⟨y, ys, rfl⟩ := List.exists_cons_of_ne_nil hne
    rfl

end Exchange

namespace Run

variable (u : Run)

/-- A call of an operation in a region. -/
def calling (region : Region) (operation : Operation) : Kind := .called region operation.name

/-- The parts that the image is stored in. -/
def partPlaces (first count : Nat) : List Place :=
  (List.range' first count).map fun i => .once (.stored (u.destination.partPath i))

/-- Starting the copies. -/
def copyPlaces (regions : List Region) : List Place :=
  (regions.filter (· ≠ u.home)).map fun region => .once (calling region .copyImage)

/-- Waiting for the copies. -/
def awaitPlaces (regions : List Region) : List Place :=
  (regions.filter (· ≠ u.home)).map fun region => .repeatedly (calling region .describeImages)

def publishPlaces (regions : List Region) : List Place :=
  regions.map fun region => .once (calling region .modifyImageAttribute)

/-- What follows for a public image once it is ready in its home region. -/
def replication (regions : List Region) : List Place :=
  if u.job.isPublic then
    let targets := Provisioner.targets u.home regions
    u.copyPlaces targets ++ u.awaitPlaces targets ++ publishPlaces targets
  else []

/-- What follows the snapshot. -/
def registration (regions : List Region) : List Place :=
  .once (calling u.home .registerImage) :: .repeatedly (calling u.home .describeImages) ::
    u.replication regions

def sharing (regions : List Region) : List Place :=
  if u.job.hasPublicSnapshot then
    .once (calling u.home .modifySnapshotAttribute) :: u.registration regions
  else u.registration regions

/-- What follows the last part. -/
def importing (regions : List Region) : List Place :=
  .once (.stored u.destination.manifestPath) :: .once (calling u.home .importVolume) ::
    .repeatedly (calling u.home .describeConversionTasks) ::
    .once (calling u.home .createSnapshot) :: .repeatedly (calling u.home .describeSnapshots) ::
    .once (calling u.home .deleteVolume) :: u.sharing regions

/-- A whole run where these are the regions. -/
def course (regions : List Region) : List Place :=
  .once (calling u.home .describeRegions) ::
    (u.partPlaces 0 (partCount u.image.length u.provisioner.partSize) ++ u.importing regions)

/-- What a stage and those behind it have to fill, if `told` are the regions. -/
def ahead (told : List Region) : Stage → List Place
  | .listRegions => u.course told
  | .storePart regions _ _ start index =>
    u.partPlaces index (partCount (u.image.length - start - u.provisioner.partSize)
      u.provisioner.partSize + 1) ++ u.importing regions
  | .storeManifest regions _ => u.importing regions
  | .importVolume regions .. => (u.importing regions).drop 1
  | .awaitVolume regions _ => (u.importing regions).drop 2
  | .createSnapshot regions _ => (u.importing regions).drop 3
  | .awaitSnapshot regions .. => (u.importing regions).drop 4
  | .deleteVolume regions .. => (u.importing regions).drop 5
  | .publishSnapshot regions _ =>
    .once (calling u.home .modifySnapshotAttribute) :: u.registration regions
  | .registerImage regions _ => u.registration regions
  | .awaitImage regions _ => (u.registration regions).drop 1
  | .copyImage _ made region later =>
    .once (calling region .copyImage) :: (u.copyPlaces later ++
      u.awaitPlaces (made.map (·.1) ++ region :: later) ++
      publishPlaces (made.map (·.1) ++ region :: later))
  | .awaitCopy images region _ later =>
    .repeatedly (calling region .describeImages) ::
      (u.awaitPlaces (later.map (·.1)) ++ publishPlaces (images.map (·.1)))
  | .publishImage _ region _ later => publishPlaces (region :: later.map (·.1))

/-- The calls that fill what is ahead of a state. -/
def FilledBy (told : List Region) : RunState → List Kind → Prop
  | .due σ _ _, w => Fills (u.ahead told σ) w
  | .ended (.ok _), w => w = []
  | .ended (.error _), _ => False

variable {u} {told : List Region} {w : List Kind}

theorem exists_of_filledBy_onward {α : Type} {answer : Except RunError α} {next : α → RunState}
    (h : u.FilledBy told (.onward answer next) w) :
    ∃ x, answer = .ok x ∧ u.FilledBy told (next x) w := by
  cases answer with
  | error e => exact h.elim
  | ok x => exact ⟨x, rfl, h⟩

/-- What is left of the image behind the part that begins there. -/
theorem sub_partLength (start : Nat) : u.image.length - (start + u.partLength start) =
    u.image.length - start - u.provisioner.partSize := by
  unfold partLength
  omega

theorem fills_storing {regions : List Region} {draft : ManifestDraft} {left : Octets}
    {start index n : Nat} (hp : 1 ≤ u.provisioner.partSize)
    (h : u.FilledBy told (u.storing regions draft left start index n) w) :
    Fills (u.partPlaces index (partCount (u.image.length - start) u.provisioner.partSize) ++
      u.importing regions) w := by
  unfold storing at h
  split at h
  · next hlt =>
    rw [partCount_eq_succ hp (Nat.sub_pos_of_lt hlt)]
    exact h
  · next hge =>
    obtain ⟨manifest, -, hm⟩ := exists_of_filledBy_onward h
    rw [Nat.sub_eq_zero_of_le (Nat.le_of_not_lt hge), partCount_zero]
    exact hm

theorem fills_uploading {regions : List Region} {n : Nat} (hp : 1 ≤ u.provisioner.partSize)
    (h : u.FilledBy told (u.uploading regions n) w) :
    Fills (u.partPlaces 0 (partCount u.image.length u.provisioner.partSize) ++ u.importing regions)
      w := by
  obtain ⟨image, -, hi⟩ := exists_of_filledBy_onward h
  exact fills_storing hp hi

theorem fills_publishing {images later : RegionImages} {n : Nat}
    (h : u.FilledBy told (publishing images later n) w) :
    Fills (publishPlaces (later.map (·.1))) w := by
  cases later with
  | nil =>
    have hw : w = [] := h
    rw [hw]
    exact .nil
  | cons entry later => exact h

theorem fills_awaiting {images later : RegionImages} {n : Nat}
    (h : u.FilledBy told (u.awaiting images later n) w) :
    Fills (u.awaitPlaces (later.map (·.1)) ++ publishPlaces (images.map (·.1))) w := by
  induction later with
  | nil => exact fills_publishing h
  | cons entry later ih =>
    -- The entry of the home region is no copy and has no place.
    obtain ⟨region, copy⟩ := entry
    by_cases hr : region = u.home
    · rw [awaiting_home hr] at h
      simpa [awaitPlaces, hr] using ih h
    · rw [awaiting_other hr] at h
      simpa [awaitPlaces, hr, FilledBy, ahead] using h

theorem fills_copying {image : Text} {made : RegionImages} {later : List Region} {n : Nat}
    (h : u.FilledBy told (u.copying image made later n) w) :
    Fills (u.copyPlaces later ++ u.awaitPlaces (made.map (·.1) ++ later) ++
      publishPlaces (made.map (·.1) ++ later)) w := by
  induction later generalizing made with
  | nil => simpa [copyPlaces] using fills_awaiting h
  | cons region later ih =>
    by_cases hr : region = u.home
    · rw [copying_home hr] at h
      simpa [copyPlaces, hr] using ih h
    · rw [copying_other hr] at h
      simpa [copyPlaces, hr, FilledBy, ahead] using h

theorem kind_order_registerImage (regions : List Region) (snapshot : Text) :
    (u.order (.registerImage regions snapshot)).kind = calling u.home .registerImage := by
  simp only [order, Order.kind, Compute.action_registerImage, calling]

/-- What an answered call makes of the places ahead: it takes the first, or stays at it. -/
theorem fills_of_answered {σ : Stage} {body : Text} {n : Nat} (hp : 1 ≤ u.provisioner.partSize)
    (hl : σ = .listRegions → Compute.regions body = .ok told)
    (h : u.FilledBy told (u.answered body n σ) w) :
    Fills (u.ahead told σ) ((u.order σ).kind :: w) := by
  cases σ with
  | listRegions =>
    obtain ⟨regions, hr, hu⟩ := exists_of_filledBy_onward h
    rw [hl rfl, Except.ok.injEq] at hr
    rw [← hr] at hu
    exact .once (fills_uploading hp hu)
  | storePart regions draft left start index =>
    obtain ⟨round, hround, hs⟩ := exists_of_filledBy_onward h
    obtain ⟨-, -, -, rfl⟩ := Round.of?_eq_some.1 (RunError.inRange_eq_ok.1 hround)
    have hfills := fills_storing hp hs
    rw [sub_partLength] at hfills
    simp only [ahead, partPlaces, List.range'_succ, List.map_cons, List.cons_append]
    exact .once hfills
  | storeManifest regions manifest => exact .once h
  | importVolume regions url size gibibytes =>
    obtain ⟨task, -, ht⟩ := exists_of_filledBy_onward h
    exact .once ht
  | awaitVolume regions task =>
    -- A place for repeated calls is left only when something is ready.
    obtain ⟨status, -, hs⟩ := exists_of_filledBy_onward h
    cases status with
    | completed volume => exact .last hs
    | inProgress message => exact .more hs
  | createSnapshot regions volume =>
    obtain ⟨snapshot, -, hs⟩ := exists_of_filledBy_onward h
    exact .once hs
  | awaitSnapshot regions volume snapshot =>
    obtain ⟨readiness, -, hs⟩ := exists_of_filledBy_onward h
    cases readiness with
    | pending => exact .more hs
    | ready => exact .last hs
  | deleteVolume regions volume snapshot =>
    obtain ⟨-, -, hs⟩ := exists_of_filledBy_onward h
    refine .once ?_
    simp only [sharing]
    split at hs
    · next hq => rwa [if_pos hq]
    · next hq => rwa [if_neg hq]
  | publishSnapshot regions snapshot =>
    obtain ⟨-, -, hs⟩ := exists_of_filledBy_onward h
    exact .once hs
  | registerImage regions snapshot =>
    obtain ⟨image, -, hi⟩ := exists_of_filledBy_onward h
    rw [kind_order_registerImage]
    exact .once hi
  | awaitImage regions image =>
    obtain ⟨readiness, -, hs⟩ := exists_of_filledBy_onward h
    cases readiness with
    | pending => exact .more hs
    | ready =>
      refine .last ?_
      simp only [replication]
      simp only [RunState.unlessPending] at hs
      split at hs
      · next hq => rw [if_pos hq]; exact fills_copying hs
      · next hq =>
        have hw : w = [] := hs
        rw [if_neg hq, hw]
        exact .nil
  | copyImage image made region later =>
    obtain ⟨copy, -, hs⟩ := exists_of_filledBy_onward h
    have hc := fills_copying hs
    refine .once ?_
    simpa using hc
  | awaitCopy images region copy later =>
    obtain ⟨readiness, -, hs⟩ := exists_of_filledBy_onward h
    cases readiness with
    | pending => exact .more hs
    | ready => exact .last (fills_awaiting hs)
  | publishImage images region image later =>
    obtain ⟨-, -, hs⟩ := exists_of_filledBy_onward h
    exact .once (fills_publishing hs)

/-- The call of a stage may always come next. -/
theorem exists_fills_ahead (told : List Region) (σ : Stage) :
    ∃ w, Fills (u.ahead told σ) ((u.order σ).kind :: w) := by
  have once : ∀ {k places}, ∃ w, Fills (.once k :: places) (k :: w) :=
    (Fills.exists _).imp fun _ => .once
  have last : ∀ {k places}, ∃ w, Fills (.repeatedly k :: places) (k :: w) :=
    (Fills.exists _).imp fun _ => .last
  cases σ with
  | awaitVolume | awaitSnapshot | awaitImage | awaitCopy => exact last
  | registerImage => rw [kind_order_registerImage]; exact once
  | _ => exact once

end Run

end MachineImage
