import MachineImage.Proofs.Carried
import MachineImage.Proofs.Simulation
import MachineImage.Proofs.Verdict

/-!
Where the values in a request come from: each is what an earlier reply said, and what has to be
ready before a request was seen to be ready in an earlier reply.
-/
namespace MachineImage

/-- The values that pairs give a key. -/
def valuesOf (pairs : List (Text × Text)) (key : String) : List Text :=
  (pairs.filter (·.1 = key.toList)).map (·.2)

/-- The values that a form gives a key. -/
def Form.values (f : Form) (key : String) : List Text :=
  valuesOf f.parameters key

/-- The key of a parameter, and not one of those that every form has. -/
def IsParameter (key : String) : Prop :=
  "Action".toList ≠ key.toList ∧ "Version".toList ≠ key.toList

instance (key : String) : Decidable (IsParameter key) := instDecidableAnd

theorem Form.valuesOf_pairs (f : Form) {key : String} (h : IsParameter key) :
    valuesOf f.pairs key = f.values key := by
  let isKey := fun p : Text × Text => decide (p.1 = key.toList)
  have haction : ¬ isKey ("Action".toList, f.action) = true := fun hd => h.1 (of_decide_eq_true hd)
  have hversion : ¬ isKey ("Version".toList, f.version) = true :=
    fun hd => h.2 (of_decide_eq_true hd)
  rw [valuesOf, pairs, List.filter_append, List.filter_cons_of_neg haction,
    List.filter_cons_of_neg hversion, List.filter_nil, List.append_nil, values, valuesOf]

@[simp]
theorem Form.values_param (f : Form) (name value : Text) (key : String) :
    (f.param name value).values key =
      f.values key ++ if name = key.toList then [value] else [] := by
  by_cases h : name = key.toList <;> simp [values, valuesOf, param, h]

@[simp]
theorem Form.values_paramIf (f : Form) (enabled : Bool) (name value : Text) (key : String) :
    (f.paramIf enabled name value).values key = f.values key ++
      if enabled then (if name = key.toList then [value] else []) else [] := by
  cases enabled <;> simp [paramIf]

theorem Compute.values_registerImage (snapshot : Text) (spec : ImageSpec) :
    (registerImage snapshot spec).values "BlockDeviceMapping.1.Ebs.SnapshotId" = [snapshot] := by
  have hform : Form.values ⟨Operation.registerImage.name, "2016-11-15".toList, []⟩
      "BlockDeviceMapping.1.Ebs.SnapshotId" = [] := rfl
  simp only [registerImage, List.foldl_cons, List.foldl_nil, addEphemeralDevice,
    Form.values_param, Form.values_paramIf, hform]
  simp (disch := decide +kernel) only [if_neg, if_pos, ite_self, List.nil_append, List.append_nil]

/-- Whether the answer gives a name to what was made. -/
def Operation.isNaming : Operation → Bool
  | .describeConversionTasks | .createSnapshot | .registerImage | .copyImage => true
  | _ => false

def Order.values (key : String) : Order → List Text
  | .put .. => []
  | .call _ _ form => form.values key

namespace Exchange

def operation (x : Exchange) : Operation := x.request.order.operation

def region (x : Exchange) : Region := x.request.order.region

/-- The values of a key in the form that was posted, as it is read in the octets. -/
def values (x : Exchange) (key : String) : List Text :=
  valuesOf ((Wire.form? x.request.octets).getD []) key

/-- What a valid response to a request for that operation says. -/
def answer? {α : Type} (x : Exchange) (operation : Operation) (read : Text → Option α) : Option α :=
  if x.operation = operation then x.body.toOption.bind read else none

/-- The text of the first such element of a body. -/
def elementText (field : String) (body : Text) : Option Text :=
  (Markup.extractText body field.toList).toOption.join

/-- The id of the volume, if the body reads as that of a completed import. -/
def completedVolume (body : Text) : Option Text :=
  match Compute.conversionStatus body with
  | .ok (.completed volume) => some volume
  | _ => none

/-- The volumes whose import was completed. -/
def volumes (xs : List Exchange) : List Text :=
  xs.filterMap (·.answer? .describeConversionTasks completedVolume)

/-- The snapshots that were created. -/
def snapshots (xs : List Exchange) : List Text :=
  xs.filterMap (·.answer? .createSnapshot (elementText "snapshotId"))

/-- The images that were registered. -/
def images (xs : List Exchange) : List Text :=
  xs.filterMap (·.answer? .registerImage (elementText "imageId"))

/-- The copies that were started, with their regions. -/
def copies (xs : List Exchange) : RegionImages :=
  xs.filterMap fun x => (x.answer? .copyImage (elementText "imageId")).map (x.region, ·)

/-- A reply about the snapshot said that it is completed. -/
def IsCompleted (xs : List Exchange) (snapshot : Text) : Prop :=
  ∃ x ∈ xs, x.values "SnapshotId.1" = [snapshot] ∧
    x.answer? .describeSnapshots (elementText "status") = some "completed".toList

/-- A reply about the image in that region said that it is available. -/
def IsAvailable (xs : List Exchange) (entry : Region × Text) : Prop :=
  ∃ x ∈ xs, x.region = entry.1 ∧ x.values "ImageId.1" = [entry.2] ∧
    x.answer? .describeImages (elementText "imageState") = some "available".toList

/-- All that the replies have told of things that were made. -/
structure Told (xs : List Exchange) (v s i : List Text) (c : RegionImages) : Prop where
  volumes : volumes xs = v
  snapshots : snapshots xs = s
  images : images xs = i
  copies : copies xs = c

variable {α : Type} {x : Exchange} {before : List Exchange} {v s i : List Text} {c : RegionImages}

theorem values_eq {keyId : Text} (h : x.request.Carries keyId) {key : String}
    (hkey : IsParameter key) : x.values key = x.request.order.values key := by
  rw [values, h.form]
  cases x.request.order with
  | put => rfl
  | call service region form => exact form.valuesOf_pairs hkey

theorem answer?_of_refused (h : x.isAccepted = false) (operation : Operation)
    (read : Text → Option α) : x.answer? operation read = none := by
  unfold isAccepted at h
  unfold answer?
  cases hb : x.body with
  | error e => split <;> rfl
  | ok body => simp [hb, Except.isOk, Except.toBool] at h

theorem answer?_of_ok {operation : Operation} {body : Text} (ho : x.operation = operation)
    (h : x.body = .ok body) (asked : Operation) (read : Text → Option α) :
    x.answer? asked read = if operation = asked then read body else none := by
  rw [answer?, ho, h]
  rfl

theorem Told.nil : Told [] [] [] [] [] := ⟨rfl, rfl, rfl, rfl⟩

theorem filterMap_concat {β : Type} (f : Exchange → Option β) (before : List Exchange)
    (x : Exchange) : (before ++ [x]).filterMap f = before.filterMap f ++ (f x).toList := by
  rw [List.filterMap_append]
  cases h : f x <;> simp [h]

theorem Told.append (h : Told before v s i c) (x : Exchange) :
    Told (before ++ [x])
      (v ++ (x.answer? .describeConversionTasks completedVolume).toList)
      (s ++ (x.answer? .createSnapshot (elementText "snapshotId")).toList)
      (i ++ (x.answer? .registerImage (elementText "imageId")).toList)
      (c ++ ((x.answer? .copyImage (elementText "imageId")).map (x.region, ·)).toList) where
  volumes := by rw [Exchange.volumes, filterMap_concat, ← h.volumes, Exchange.volumes]
  snapshots := by rw [Exchange.snapshots, filterMap_concat, ← h.snapshots, Exchange.snapshots]
  images := by rw [Exchange.images, filterMap_concat, ← h.images, Exchange.images]
  copies := by rw [Exchange.copies, filterMap_concat, ← h.copies, Exchange.copies]

theorem Told.refused (h : Told before v s i c) (hx : x.isAccepted = false) :
    Told (before ++ [x]) v s i c := by
  have ha := h.append x
  simp only [answer?_of_refused hx, Option.map_none, Option.toList_none, List.append_nil] at ha
  exact ha

theorem IsCompleted.append {snapshot : Text} (h : IsCompleted before snapshot)
    (ys : List Exchange) : IsCompleted (before ++ ys) snapshot := by
  obtain ⟨x, hx, hs⟩ := h
  exact ⟨x, List.mem_append_left ys hx, hs⟩

theorem IsAvailable.append {entry : Region × Text} (h : IsAvailable before entry)
    (ys : List Exchange) : IsAvailable (before ++ ys) entry := by
  obtain ⟨x, hx, ha⟩ := h
  exact ⟨x, List.mem_append_left ys hx, ha⟩

end Exchange

theorem Compute.elementText_of_required {operation : Operation} {field : String} {body text : Text}
    (h : required operation field.toList body = .ok text) :
    Exchange.elementText field body = some text := by
  unfold required at h
  unfold Exchange.elementText
  split at h
  · cases h
  · cases h
  · next he =>
    cases h
    rw [he]
    rfl

theorem Compute.elementText_of_ready {operation : Operation} {field done : String} {body : Text}
    (h : readiness operation field done body = .ok .ready) :
    Exchange.elementText field body = some done.toList := by
  unfold readiness at h
  cases hr : required operation field.toList body with
  | error e =>
    rw [hr] at h
    cases h
  | ok status =>
    have hs : (if status = "pending".toList then .ok .pending
        else if status = done.toList then .ok .ready
        else .error (.unexpectedStatus operation status) : Except RunError Readiness) =
          .ok .ready := by
      rw [hr] at h
      exact h
    rw [elementText_of_required hr]
    split at hs
    · cases hs
    · split at hs
      · next hd => rw [hd]
      · cases hs

open Exchange

namespace Run

variable (u : Run)

/-- The copies that were started of the image, which is there in its home region. -/
structure Copied (before : List Exchange) (image : Text) (made : RegionImages) : Prop where
  told : ∃ v s, Told before [v] [s] [image] (made.filter (·.1 ≠ u.home))
  home : ∀ e ∈ made, e.1 = u.home → e.2 = image
  available : IsAvailable before (u.home, image)

/-- The manifest has just been stored, and this is what is told of it. -/
structure Stored (before : List Exchange) (url : Text) (size gibibytes : Nat) : Prop where
  last : ∃ earlier y body, before = earlier ++ [y] ∧ y.isAccepted = true ∧
    y.request.order = .put u.home u.job.bucket u.destination.manifestPath body
  url : ∃ reading,
    url = u.client.urlAt u.destination (u.clock reading) "GET" u.destination.manifestPath
  size : ∃ image, u.contents = .ok image ∧ size = image.length ∧
    gibibytes = volumeGibibytes image.length

/-- What the replies have told before a stage. -/
def Founded (before : List Exchange) : Stage → Prop
  | .listRegions | .awaitVolume .. => Told before [] [] [] []
  | .storePart .. | .storeManifest .. =>
    Told before [] [] [] [] ∧ ∃ image, u.contents = .ok image
  | .importVolume _ url size gibibytes =>
    Told before [] [] [] [] ∧ u.Stored before url size gibibytes
  | .createSnapshot _ volume => Told before [volume] [] [] []
  | .awaitSnapshot _ volume snapshot => Told before [volume] [snapshot] [] []
  | .deleteVolume _ volume snapshot =>
    Told before [volume] [snapshot] [] [] ∧ IsCompleted before snapshot
  | .publishSnapshot _ snapshot | .registerImage _ snapshot =>
    (∃ v, Told before [v] [snapshot] [] []) ∧ IsCompleted before snapshot
  | .awaitImage _ image => ∃ v s, Told before [v] [s] [image] []
  | .copyImage image made region _ => u.Copied before image made ∧ region ≠ u.home
  | .awaitCopy images region copy later =>
    (∃ image, u.Copied before image images) ∧
      ∀ e ∈ images, e ∈ (region, copy) :: later ∨ IsAvailable before e
  | .publishImage images region image later =>
    (∃ image, u.Copied before image images) ∧ (∀ e ∈ images, IsAvailable before e) ∧
      (region, image) :: later ⊆ images

/-- The same for a state; the images of a run that has succeeded are the one that it registered and
its copies. -/
def FoundedAt (before : List Exchange) : RunState → Prop
  | .due σ _ _ => u.Founded before σ
  | .ended (.ok images) => ∃ image v s, (∀ e ∈ images, e.1 = u.home → e.2 = image) ∧
    Told before [v] [s] [image] (images.filter (·.1 ≠ u.home))
  | .ended (.error _) => True

variable {u} {before : List Exchange}

theorem foundedAt_onward {α : Type} {answer : Except RunError α} {next : α → RunState}
    (h : ∀ x, answer = .ok x → u.FoundedAt before (next x)) :
    u.FoundedAt before (.onward answer next) :=
  RunState.onward_of (fun _ => trivial) h

theorem foundedAt_unlessPending {pending ready : RunState} {readiness : Compute.Readiness}
    (hp : u.FoundedAt before pending) (hr : readiness = .ready → u.FoundedAt before ready) :
    u.FoundedAt before (.unlessPending pending ready readiness) :=
  RunState.unlessPending_of hp hr

theorem foundedAt_storing {regions : List Region} {draft : ManifestDraft} {left : Octets}
    {start index : Nat} (h : Told before [] [] [] []) (hc : ∃ image, u.contents = .ok image)
    (readings : Nat) : u.FoundedAt before (u.storing regions draft left start index readings) := by
  unfold storing
  split
  · exact ⟨h, hc⟩
  · exact foundedAt_onward fun _ _ => ⟨h, hc⟩

theorem foundedAt_publishing {image : Text} {images later : RegionImages}
    (h : u.Copied before image images) (ha : ∀ e ∈ images, IsAvailable before e)
    (hl : later ⊆ images) (readings : Nat) :
    u.FoundedAt before (publishing images later readings) := by
  cases later with
  | nil =>
    obtain ⟨v, s, ht⟩ := h.told
    exact ⟨image, v, s, h.home, ht⟩
  | cons entry later => exact ⟨⟨image, h⟩, ha, hl⟩

theorem foundedAt_awaiting {image : Text} {images later : RegionImages}
    (h : u.Copied before image images) (hl : ∀ e ∈ images, e ∈ later ∨ IsAvailable before e)
    (readings : Nat) : u.FoundedAt before (u.awaiting images later readings) := by
  induction later with
  | nil =>
    refine foundedAt_publishing h ?_ (List.Subset.refl _) readings
    intro e he
    exact (hl e he).resolve_left List.not_mem_nil
  | cons entry later ih =>
    obtain ⟨region, copy⟩ := entry
    by_cases hr : region = u.home
    · rw [awaiting_home hr]
      -- What is entered for the home region is the image itself, which is there.
      apply ih
      intro e he
      rcases hl e he with hm | ha
      · rcases List.mem_cons.1 hm with rfl | hm
        · have hi := h.home _ he hr
          simp only at hi
          rw [hi, hr]
          exact .inr h.available
        · exact .inl hm
      · exact .inr ha
    · rw [awaiting_other hr]
      exact ⟨⟨image, h⟩, hl⟩

theorem foundedAt_copying {image : Text} {made : RegionImages} {later : List Region}
    (h : u.Copied before image made) (readings : Nat) :
    u.FoundedAt before (u.copying image made later readings) := by
  induction later generalizing made with
  | nil => exact foundedAt_awaiting h (fun e he => .inl he) readings
  | cons region later ih =>
    by_cases hr : region = u.home
    · rw [copying_home hr]
      apply ih
      refine ⟨?_, ?_, h.available⟩
      · simpa [List.filter_append, hr] using h.told
      · intro e he hh
        rcases List.mem_append.1 he with he | he
        · exact h.home e he hh
        · rw [List.mem_singleton.1 he]
    · rw [copying_other hr]
      exact ⟨h, hr⟩

/-- The exchange is for a stage, and has brought a valid response with that body. -/
structure Answers (u : Run) (σ : Stage) (x : Exchange) (body : Text) : Prop where
  order : x.request.order = u.order σ
  carries : x.request.Carries u.client.credentials.keyId
  body : x.body = .ok body

namespace Answers

variable {σ : Stage} {x : Exchange} {body : Text}

theorem operation_eq (h : u.Answers σ x body) : x.operation = σ.operation := by
  rw [Exchange.operation, h.order, operation_order]

theorem region_eq (h : u.Answers σ x body) : x.region = (u.order σ).region := by
  rw [Exchange.region, h.order]

theorem values_eq (h : u.Answers σ x body) {key : String} (hkey : IsParameter key) :
    x.values key = (u.order σ).values key := by
  rw [Exchange.values_eq h.carries hkey, h.order]

/-- What one answer adds to what was told. -/
theorem told (h : u.Answers σ x body) {v s i : List Text} {c : RegionImages}
    (ht : Told before v s i c) :
    Told (before ++ [x])
      (v ++ (if σ.operation = .describeConversionTasks then completedVolume body else none).toList)
      (s ++ (if σ.operation = .createSnapshot then elementText "snapshotId" body else none).toList)
      (i ++ (if σ.operation = .registerImage then elementText "imageId" body else none).toList)
      (c ++ ((if σ.operation = .copyImage then elementText "imageId" body else none).map
        (x.region, ·)).toList) := by
  have ha := ht.append x
  simp only [answer?_of_ok h.operation_eq h.body] at ha
  exact ha

/-- An answer that gives no name leaves what was told as it is. -/
theorem told_same (h : u.Answers σ x body) {v s i : List Text} {c : RegionImages}
    (hσ : σ.operation.isNaming = false) (ht : Told before v s i c) :
    Told (before ++ [x]) v s i c := by
  have ha := h.told ht
  have hne : ∀ operation : Operation, operation.isNaming = true → σ.operation ≠ operation := by
    rintro _ ho rfl
    exact nomatch hσ.symm.trans ho
  rw [if_neg (hne _ rfl), if_neg (hne _ rfl), if_neg (hne _ rfl), if_neg (hne _ rfl)] at ha
  simpa using ha

theorem isCompleted (h : u.Answers σ x body) {snapshot : Text}
    (ho : σ.operation = .describeSnapshots)
    (hv : (u.order σ).values "SnapshotId.1" = [snapshot])
    (hs : Compute.snapshotReadiness body = .ok .ready) : IsCompleted (before ++ [x]) snapshot := by
  refine ⟨x, by simp, (h.values_eq (by decide)).trans hv, ?_⟩
  rw [answer?_of_ok (h.operation_eq.trans ho) h.body, if_pos rfl]
  exact Compute.elementText_of_ready hs

theorem isAvailable (h : u.Answers σ x body) {entry : Region × Text}
    (ho : σ.operation = .describeImages) (hr : (u.order σ).region = entry.1)
    (hv : (u.order σ).values "ImageId.1" = [entry.2])
    (hs : Compute.imageReadiness body = .ok .ready) : IsAvailable (before ++ [x]) entry := by
  refine ⟨x, by simp, h.region_eq.trans hr, (h.values_eq (by decide)).trans hv, ?_⟩
  rw [answer?_of_ok (h.operation_eq.trans ho) h.body, if_pos rfl]
  exact Compute.elementText_of_ready hs

end Answers

theorem Copied.append {image : Text} {made : RegionImages} (h : u.Copied before image made)
    {x : Exchange} (ht : ∀ {v s i c}, Told before v s i c → Told (before ++ [x]) v s i c) :
    u.Copied (before ++ [x]) image made := by
  obtain ⟨v, s, h'⟩ := h.told
  exact ⟨⟨v, s, ht h'⟩, h.home, h.available.append _⟩

theorem foundedAt_answered {σ : Stage} {x : Exchange} {body : Text} (hx : u.Answers σ x body)
    (h : u.Founded before σ) (readings : Nat) :
    u.FoundedAt (before ++ [x]) (u.answered body readings σ) := by
  have told := fun {v s i} {c : RegionImages} (ht : Told before v s i c) => hx.told ht
  have same := fun {v s i} {c : RegionImages} hσ (ht : Told before v s i c) => hx.told_same hσ ht
  cases σ with
  | listRegions =>
    refine foundedAt_onward fun regions _ => foundedAt_onward fun image hc => ?_
    exact foundedAt_storing (same rfl h) ⟨image, hc⟩ _
  | storePart regions draft left start index =>
    exact foundedAt_onward fun _ _ => foundedAt_storing (same rfl h.1) h.2 _
  | storeManifest regions manifest =>
    -- The manifest has just been stored, and its URL is the next thing to be signed.
    obtain ⟨h, image, hc⟩ := h
    refine ⟨same rfl h, ?_, ⟨readings, rfl⟩, image, hc, ?_⟩
    · exact ⟨before, x, _, rfl, isAccepted_of_ok hx.body, hx.order⟩
    · rw [image_eq hc]
      exact ⟨rfl, rfl⟩
  | importVolume regions url size gibibytes =>
    exact foundedAt_onward fun _ _ => same rfl h.1
  | awaitVolume regions task =>
    have ht := told h
    refine foundedAt_onward fun status hs => ?_
    cases status with
    | completed volume =>
      have hc : completedVolume body = some volume := by rw [completedVolume, hs]
      simpa [FoundedAt, Founded, Stage.operation, hc] using ht
    | inProgress message =>
      have hc : completedVolume body = none := by rw [completedVolume, hs]
      simpa [FoundedAt, Founded, Stage.operation, hc] using ht
  | createSnapshot regions volume =>
    have ht := told h
    refine foundedAt_onward fun snapshot hs => ?_
    simpa [FoundedAt, Founded, Stage.operation, Compute.elementText_of_required hs] using ht
  | awaitSnapshot regions volume snapshot =>
    have ht := same rfl h
    refine foundedAt_onward fun readiness hs => ?_
    apply foundedAt_unlessPending
    · exact ht
    · rintro rfl
      exact ⟨ht, hx.isCompleted rfl rfl hs⟩
  | deleteVolume regions volume snapshot =>
    have ht := same rfl h.1
    refine foundedAt_onward fun _ _ => ?_
    split
    · exact ⟨⟨volume, ht⟩, h.2.append _⟩
    · exact ⟨⟨volume, ht⟩, h.2.append _⟩
  | publishSnapshot regions snapshot =>
    obtain ⟨⟨v, h⟩, hs⟩ := h
    exact foundedAt_onward fun _ _ => ⟨⟨v, same rfl h⟩, hs.append _⟩
  | registerImage regions snapshot =>
    obtain ⟨⟨v, h⟩, -⟩ := h
    have ht := told h
    refine foundedAt_onward fun image hi => ⟨v, snapshot, ?_⟩
    simpa [Stage.operation, Compute.elementText_of_required hi] using ht
  | awaitImage regions image =>
    obtain ⟨v, s, h⟩ := h
    have ht := same rfl h
    refine foundedAt_onward fun readiness hs => ?_
    apply foundedAt_unlessPending
    · exact ⟨v, s, ht⟩
    · rintro rfl
      split
      · exact foundedAt_copying ⟨⟨v, s, ht⟩, by simp, hx.isAvailable rfl rfl rfl hs⟩ _
      · refine ⟨image, v, s, ?_, by simpa using ht⟩
        intro e he _
        rw [List.mem_singleton.1 he]
  | copyImage image made region later =>
    -- The copy is in another region than the image that it is made of.
    obtain ⟨⟨⟨v, s, h⟩, hm, ha⟩, hne⟩ := h
    have ht := told h
    refine foundedAt_onward fun copy hc => foundedAt_copying ⟨⟨v, s, ?_⟩, ?_, ha.append _⟩ _
    · have hr : x.region = region := hx.region_eq
      simpa [Stage.operation, Compute.elementText_of_required hc, List.filter_append, hne, hr]
        using ht
    · intro e he hh
      rcases List.mem_append.1 he with he | he
      · exact hm e he hh
      · rw [List.mem_singleton.1 he] at hh
        exact absurd hh hne
  | awaitCopy images region copy later =>
    obtain ⟨⟨image, hc⟩, hl⟩ := h
    have hc := hc.append (same rfl)
    refine foundedAt_onward fun readiness hs => ?_
    apply foundedAt_unlessPending
    · exact ⟨⟨image, hc⟩, fun e he => (hl e he).imp_right fun h => h.append _⟩
    · rintro rfl
      refine foundedAt_awaiting hc ?_ _
      -- An entry that is not waited for any more has become available before, or just now.
      intro e he
      rcases hl e he with hm | ha
      · rcases List.mem_cons.1 hm with rfl | hm
        · exact .inr (hx.isAvailable rfl rfl rfl hs)
        · exact .inl hm
      · exact .inr (ha.append _)
  | publishImage images region id later =>
    obtain ⟨⟨image, hc⟩, ha, hs⟩ := h
    have hc := hc.append (same rfl)
    refine foundedAt_onward fun _ _ => ?_
    exact foundedAt_publishing hc (fun e he => (ha e he).append _) (List.subset_of_cons_subset hs) _

/-- A failed attempt that may be repeated has told nothing. -/
theorem Founded.refused {σ : Stage} (h : u.Founded before σ) {x : Exchange}
    (hx : x.isAccepted = false) (ho : σ.operation.isRepeated = true) :
    u.Founded (before ++ [x]) σ := by
  have told : ∀ {v s i c}, Told before v s i c → Told (before ++ [x]) v s i c :=
    fun h => h.refused hx
  cases σ with
  | listRegions => exact told h
  | awaitVolume => exact told h
  | storePart | storeManifest => exact ⟨told h.1, h.2⟩
  | awaitSnapshot => exact told h
  | publishSnapshot => exact ⟨h.1.imp fun _ => told, h.2.append _⟩
  | awaitImage =>
    obtain ⟨v, s, h⟩ := h
    exact ⟨v, s, told h⟩
  | awaitCopy =>
    obtain ⟨⟨image, hc⟩, hl⟩ := h
    exact ⟨⟨image, hc.append told⟩, fun e he => (hl e he).imp_right fun h => h.append _⟩
  | publishImage =>
    obtain ⟨⟨image, hc⟩, ha, hs⟩ := h
    exact ⟨⟨image, hc.append told⟩, fun e he => (ha e he).append _, hs⟩
  | _ => cases ho

theorem foundedAt_replied {σ : Stage} (h : u.Founded before σ) (failures readings : Nat)
    (reply : Reply) :
    u.FoundedAt (before ++ [⟨u.request σ readings, reply⟩])
      (u.replied σ failures readings reply) := by
  unfold replied
  split
  · next body hb =>
    exact foundedAt_answered ⟨order_request _ _, u.client.carries_request _ _, hb⟩ h _
  · next e hb =>
    split
    · next hf =>
      have ho : σ.operation.isRepeated = true := by
        cases hr : σ.operation.isRepeated with
        | true => rfl
        | false => simp [further, hr] at hf
      exact h.refused (isAccepted_of_error hb) ho
    · trivial

/-- On every way through the stages, what a stage relies on was told before it. -/
theorem Steps.foundedAt {a b : RunState} {xs : List Exchange} (h : u.Steps a xs b)
    (ha : u.FoundedAt before a) : u.FoundedAt (before ++ xs) b :=
  h.invariant (fun _ _ failures readings reply hσ => foundedAt_replied hσ failures readings reply)
    ha

theorem Steps.of_cons {a b : RunState} {x : Exchange} {xs : List Exchange}
    (h : u.Steps a (x :: xs) b) : ∃ σ failures readings, a = .due σ failures readings ∧
      x.request = u.request σ readings ∧ u.Steps (u.replied σ failures readings x.reply) xs b := by
  cases h with
  | step h => exact ⟨_, _, _, rfl, rfl, h⟩

/-- Only images are published any more. -/
def IsPublishing : RunState → Prop
  | .due (.publishImage ..) _ _ | .ended _ => True
  | _ => False

theorem isPublishing_replied {images later : RegionImages} {region : Region} {image : Text}
    (failures readings : Nat) (reply : Reply) :
    IsPublishing (u.replied (.publishImage images region image later) failures readings reply) := by
  unfold replied
  split
  · next body _ =>
    simp only [answered]
    cases Compute.confirmed .modifyImageAttribute body with
    | error e => trivial
    | ok _ => cases later <;> trivial
  · split <;> trivial

theorem Steps.operation_of_isPublishing {a b : RunState} {xs : List Exchange} (h : u.Steps a xs b)
    (ha : IsPublishing a) : ∀ x ∈ xs, x.operation = .modifyImageAttribute := by
  induction h with
  | refl => exact nofun
  | @step σ failures readings reply xs b h ih =>
    cases σ with
    | publishImage images region image later =>
      refine List.forall_mem_cons.2 ⟨?_, ih (isPublishing_replied _ _ _)⟩
      rw [Exchange.operation, order_request, operation_order]
      rfl
    | _ => exact ha.elim

theorem copies_append_eq {xs : List Exchange} (h : ∀ x ∈ xs, x.operation ≠ .copyImage)
    (before : List Exchange) : copies (before ++ xs) = copies before := by
  have hnone : copies xs = [] := by
    refine List.filterMap_eq_nil_iff.2 fun x hx => ?_
    rw [answer?, if_neg (h x hx)]
    rfl
  rw [copies, List.filterMap_append, ← copies, ← copies, hnone, List.append_nil]

/-- What a request carries was told by the replies before it, and it comes when they have told that
what it needs is ready. Its values are those in its octets, which say what it is for. -/
structure Grounded (u : Run) (before : List Exchange) (x : Exchange) (after : List Exchange) :
    Prop where
  carries : x.request.Carries u.client.credentials.keyId
  importVolume : x.operation = .importVolume →
    ∃ earlier y body reading image gibibytes, before = earlier ++ [y] ∧ y.isAccepted = true ∧
      y.request.order = .put u.home u.job.bucket u.destination.manifestPath body ∧
      x.values "Image.ImportManifestUrl" =
        [u.client.urlAt u.destination (u.clock reading) "GET" u.destination.manifestPath] ∧
      u.contents = .ok image ∧ x.values "Image.Bytes" = [Decimal.digits image.length] ∧
      x.values "Volume.Size" = [Decimal.digits gibibytes] ∧
      image.length ≤ gibibytes * gibibyte ∧ gibibytes * gibibyte < image.length + gibibyte
  createSnapshot : x.operation = .createSnapshot →
    ∃ volume, volumes before = [volume] ∧ x.values "VolumeId" = [volume]
  describeSnapshots : x.operation = .describeSnapshots →
    ∃ snapshot, snapshots before = [snapshot] ∧ x.values "SnapshotId.1" = [snapshot]
  deleteVolume : x.operation = .deleteVolume →
    ∃ volume snapshot, volumes before = [volume] ∧ x.values "VolumeId" = [volume] ∧
      snapshots before = [snapshot] ∧ IsCompleted before snapshot
  modifySnapshotAttribute : x.operation = .modifySnapshotAttribute →
    ∃ snapshot, snapshots before = [snapshot] ∧ x.values "SnapshotId" = [snapshot]
  registerImage : x.operation = .registerImage →
    ∃ snapshot, snapshots before = [snapshot] ∧ IsCompleted before snapshot ∧
      x.values "BlockDeviceMapping.1.Ebs.SnapshotId" = [snapshot]
  copyImage : x.operation = .copyImage →
    ∃ image, images before = [image] ∧ x.values "SourceImageId" = [image] ∧
      IsAvailable before (u.home, image)
  modifyImageAttribute : x.operation = .modifyImageAttribute →
    ∃ image id, images before = [image] ∧ copies (before ++ x :: after) = copies before ∧
      (∀ e ∈ (u.home, image) :: copies before, IsAvailable before e) ∧
      x.values "ImageId" = [id] ∧ (x.region, id) ∈ (u.home, image) :: copies before

theorem volumeGibibytes_bounds (size : Nat) :
    size ≤ volumeGibibytes size * gibibyte ∧
      volumeGibibytes size * gibibyte < size + gibibyte := by
  unfold volumeGibibytes gibibyte
  omega

theorem grounded_of_founded {σ : Stage} {x : Exchange} {after : List Exchange}
    (hσ : u.Founded before σ) (hx : x.request.order = u.order σ)
    (hcarries : x.request.Carries u.client.credentials.keyId)
    (hcopies : x.operation = .modifyImageAttribute →
      copies (before ++ x :: after) = copies before) : u.Grounded before x after := by
  have hop : x.operation = σ.operation := by rw [Exchange.operation, hx, operation_order]
  have hv : ∀ {key}, IsParameter key → x.values key = (u.order σ).values key := by
    intro key hkey
    rw [Exchange.values_eq hcarries hkey, hx]
  -- The operation of the request leaves one stage, and that stage is founded.
  constructor
  case carries => exact hcarries
  case importVolume =>
    intro h
    rw [hop] at h
    cases σ with
    | importVolume regions url size gibibytes =>
      obtain ⟨-, ⟨earlier, y, body, hb, hacc, hy⟩, ⟨reading, rfl⟩, image, hc, rfl, rfl⟩ := hσ
      exact ⟨earlier, y, body, reading, image, _, hb, hacc, hy, hv (by decide), hc,
        hv (by decide), hv (by decide), volumeGibibytes_bounds _⟩
    | _ => cases h
  case createSnapshot =>
    intro h
    rw [hop] at h
    cases σ with
    | createSnapshot regions volume => exact ⟨volume, hσ.volumes, hv (by decide)⟩
    | _ => cases h
  case describeSnapshots =>
    intro h
    rw [hop] at h
    cases σ with
    | awaitSnapshot regions volume snapshot => exact ⟨snapshot, hσ.snapshots, hv (by decide)⟩
    | _ => cases h
  case deleteVolume =>
    intro h
    rw [hop] at h
    cases σ with
    | deleteVolume regions volume snapshot =>
      exact ⟨volume, snapshot, hσ.1.volumes, hv (by decide), hσ.1.snapshots, hσ.2⟩
    | _ => cases h
  case modifySnapshotAttribute =>
    intro h
    rw [hop] at h
    cases σ with
    | publishSnapshot regions snapshot =>
      obtain ⟨⟨v, ht⟩, -⟩ := hσ
      exact ⟨snapshot, ht.snapshots, hv (by decide)⟩
    | _ => cases h
  case registerImage =>
    intro h
    rw [hop] at h
    cases σ with
    | registerImage regions snapshot =>
      obtain ⟨⟨v, ht⟩, hs⟩ := hσ
      exact ⟨snapshot, ht.snapshots, hs, (hv (by decide)).trans (Compute.values_registerImage _ _)⟩
    | _ => cases h
  case copyImage =>
    intro h
    rw [hop] at h
    cases σ with
    | copyImage image made region later =>
      obtain ⟨v, s, ht⟩ := hσ.1.told
      exact ⟨image, ht.images, hv (by decide), hσ.1.available⟩
    | _ => cases h
  case modifyImageAttribute =>
    intro h
    have hc := hcopies h
    rw [hop] at h
    cases σ with
    | publishImage images region id later =>
      obtain ⟨⟨image, hm⟩, ha, hs⟩ := hσ
      obtain ⟨v, s, ht⟩ := hm.told
      have hmem : (region, id) ∈ images := hs List.mem_cons_self
      have hr : x.region = region := by rw [Exchange.region, hx]; rfl
      refine ⟨image, id, ht.images, hc, ?_, hv (by decide), ?_⟩
      · rw [ht.copies]
        refine List.forall_mem_cons.2 ⟨hm.available, ?_⟩
        intro e he
        exact ha e (List.mem_filter.1 he).1
      · rw [hr, ht.copies]
        by_cases hh : region = u.home
        · have hi : id = image := hm.home _ hmem hh
          rw [hh, hi]
          exact List.mem_cons_self
        · refine List.mem_cons_of_mem _ (List.mem_filter.2 ⟨hmem, ?_⟩)
          simpa using hh
    | _ => cases h

theorem Steps.grounded {readings : Nat} {after : List Exchange} {x : Exchange} {b : RunState}
    (h : u.Steps (.due .listRegions 0 readings) (before ++ x :: after) b) :
    u.Grounded before x after := by
  obtain ⟨a, hbefore, hx⟩ := h.of_append
  have ha : u.FoundedAt ([] ++ before) a := hbefore.foundedAt Told.nil
  rw [List.nil_append] at ha
  obtain ⟨σ, failures, n, rfl, hr, hafter⟩ := hx.of_cons
  have ho : x.request.order = u.order σ := by rw [hr, order_request]
  have hcarries := h.carries x (List.mem_append_right _ List.mem_cons_self)
  refine grounded_of_founded ha ho hcarries fun hm => ?_
  apply copies_append_eq
  -- From the first image that is published on, nothing is copied any more.
  have hpublishing : IsPublishing (.due σ failures n) := by
    rw [Exchange.operation, ho, operation_order] at hm
    cases σ with
    | publishImage => trivial
    | _ => cases hm
  intro y hy hcopy
  have hp := hx.operation_of_isPublishing hpublishing y hy
  exact nomatch hcopy.symm.trans hp

end Run

namespace Provisioner

/-- Whatever a run sends is grounded in what came before it, and the images that it gives are the
one that was registered in its home region and the copies that were started. -/
theorem grounded_run (p : Provisioner) (job : ImageJob) (nonce : Octets) (s : Session) :
    let u := Run.mk p job nonce s.clock
    let run := p.run job nonce
    (∀ before x after, run.exchanges s = before ++ x :: after → u.Grounded before x after) ∧
      ∀ result, (run.outcome s).1 = .ok result → ∃ image, images (run.exchanges s) = [image] ∧
        ∀ e ∈ result, e ∈ (u.home, image) :: copies (run.exchanges s) := by
  have hsteps := (Run.steps_run p job nonce s).2
  refine ⟨fun before x after hx => ?_, fun result hr => ?_⟩
  · rw [hx] at hsteps
    exact hsteps.grounded
  · have hend : (Run.mk p job nonce s.clock).FoundedAt ([] ++ (p.run job nonce).exchanges s) _ :=
      hsteps.foundedAt Told.nil
    rw [hr, List.nil_append] at hend
    obtain ⟨image, v, s', hhome, ht⟩ := hend
    refine ⟨image, ht.images, fun e he => ?_⟩
    rw [ht.copies]
    by_cases hh : e.1 = job.home
    · have hi : e = (job.home, image) := Prod.ext hh (hhome e he hh)
      rw [hi]
      exact List.mem_cons_self
    · refine List.mem_cons_of_mem _ (List.mem_filter.2 ⟨he, ?_⟩)
      simpa using hh

end Provisioner

end MachineImage
