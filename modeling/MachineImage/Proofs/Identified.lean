import MachineImage.Proofs.Conversion
import MachineImage.Proofs.Distinct
import MachineImage.Proofs.SentOnce

/-!
Where the identifiers in requests come from: each is the name that an earlier reply gave, taken as
it is. The id of a volume is never empty; any other identifier is empty where its element is.
-/
namespace MachineImage

open Exchange

/-- The keys of a form. -/
def Form.keys (f : Form) : List Text := f.parameters.map (·.1)

@[simp]
theorem Form.keys_param (f : Form) (name value : Text) :
    (f.param name value).keys = f.keys ++ [name] := by
  simp [keys, param]

@[simp]
theorem Form.keys_paramIf (f : Form) (enabled : Bool) (name value : Text) :
    (f.paramIf enabled name value).keys = f.keys ++ if enabled then [name] else [] := by
  cases enabled <;> simp [paramIf]

theorem Form.values_eq_nil {f : Form} {key : String} (h : key.toList ∉ f.keys) :
    f.values key = [] := by
  rw [values, valuesOf, List.map_eq_nil_iff, List.filter_eq_nil_iff]
  intro parameter hp hkey
  exact h (List.mem_map.2 ⟨parameter, hp, of_decide_eq_true hkey⟩)

/-- The name that the answer to an operation gives. -/
def Operation.nameIn : Operation → Text → Option Text
  | .importVolume => elementText "conversionTaskId"
  | .describeConversionTasks => completedVolume
  | .createSnapshot => elementText "snapshotId"
  | .registerImage | .copyImage => elementText "imageId"
  | _ => fun _ => none

/-- The parameters that hold an identifier, with the operations that it may be from. -/
def Exchange.identifiers : List (String × List Operation) := [
  ("ConversionTaskId.1", [.importVolume]),
  ("VolumeId", [.describeConversionTasks]),
  ("SnapshotId.1", [.createSnapshot]),
  ("SnapshotId", [.createSnapshot]),
  ("BlockDeviceMapping.1.Ebs.SnapshotId", [.createSnapshot]),
  ("ImageId.1", [.registerImage, .copyImage]),
  ("SourceImageId", [.registerImage]),
  ("ImageId", [.registerImage, .copyImage])]

/-- The parameter that the next request has, behind one that makes something, for what was made. -/
def Operation.carrier? : Operation → Option String
  | .importVolume => some "ConversionTaskId.1"
  | .createSnapshot => some "SnapshotId.1"
  | .registerImage => some "ImageId.1"
  | _ => none

/-- The identifier in the request of a stage, with its parameter. -/
def Stage.identifier? : Stage → Option (String × Text)
  | .listRegions | .storePart .. | .storeManifest .. | .importVolume .. => none
  | .awaitVolume _ task => some ("ConversionTaskId.1", task)
  | .createSnapshot _ volume | .deleteVolume _ volume _ => some ("VolumeId", volume)
  | .awaitSnapshot _ _ snapshot => some ("SnapshotId.1", snapshot)
  | .publishSnapshot _ snapshot => some ("SnapshotId", snapshot)
  | .registerImage _ snapshot => some ("BlockDeviceMapping.1.Ebs.SnapshotId", snapshot)
  | .awaitImage _ image => some ("ImageId.1", image)
  | .copyImage image _ _ _ => some ("SourceImageId", image)
  | .awaitCopy _ _ copy _ => some ("ImageId.1", copy)
  | .publishImage _ _ image _ => some ("ImageId", image)

namespace Exchange

/-- The name that came back. -/
def named? (x : Exchange) : Option Text := x.body.toOption.bind x.operation.nameIn

/-- An earlier reply to one of these operations gave that name. -/
def Named (before : List Exchange) (origins : List Operation) (id : Text) : Prop :=
  ∃ y ∈ before, y.operation ∈ origins ∧ y.named? = some id

variable {before : List Exchange} {origins : List Operation} {id : Text}

theorem Named.append (h : Named before origins id) (ys : List Exchange) :
    Named (before ++ ys) origins id := by
  obtain ⟨y, hy, hn⟩ := h
  exact ⟨y, List.mem_append_left ys hy, hn⟩

theorem Named.mono {origins' : List Operation} (h : Named before origins id)
    (ho : origins ⊆ origins') : Named before origins' id := by
  obtain ⟨y, hy, hn, hi⟩ := h
  exact ⟨y, hy, ho hn, hi⟩

/-- A volume that is complete has an id that is not empty. -/
theorem completedVolume_ne_nil {body volume : Text} (h : completedVolume body = some volume) :
    volume ≠ [] := by
  unfold completedVolume at h
  split at h
  · next volume' hs =>
    cases h
    obtain ⟨-, contents, -, hid⟩ := Compute.conversionStatus_eq_completed_iff.1 hs
    unfold Compute.volumeId at hid
    split at hid
    · cases hid
    · next found _ =>
      have hfilter : found.filter (· ≠ []) = some volume := Except.ok.inj hid
      simpa using (Option.filter_eq_some_iff.1 hfilter).2
  · cases h

end Exchange

/-- An element that is there is what a call reads that needs it. -/
theorem Compute.required_of_elementText {field : String} {body text : Text}
    (h : elementText field body = some text) (operation : Operation) :
    required operation field.toList body = .ok text := by
  unfold elementText at h
  unfold required
  cases hx : Markup.extractText body field.toList with
  | error e => simp [hx, Except.toOption] at h
  | ok found =>
    obtain rfl : found = some text := by simpa [hx, Except.toOption] using h
    rfl

/-- Which keys there are in a registration is decided by the two that it may lack. -/
theorem Compute.keys_registerImage (snapshot : Text) (spec : ImageSpec) :
    (registerImage snapshot spec).keys =
      (registerImage [] ⟨[], [], .x86, spec.sriov, spec.ena⟩).keys := by
  simp only [registerImage, List.foldl_cons, List.foldl_nil, addEphemeralDevice, Form.keys_param,
    Form.keys_paramIf]

theorem Compute.values_registerImage_of_ne {key : String} (hk : key ∈ identifiers.map (·.1))
    (hne : key ≠ "BlockDeviceMapping.1.Ebs.SnapshotId") (snapshot : Text) (spec : ImageSpec) :
    (registerImage snapshot spec).values key = [] := by
  apply Form.values_eq_nil
  rw [keys_registerImage]
  generalize spec.sriov = sriov, spec.ena = ena
  revert sriov ena key
  decide +kernel

namespace Run

variable {u : Run} {before : List Exchange}

/-- A request holds the identifier of its stage and no other. -/
theorem values_order (σ : Stage) {key : String} (hk : key ∈ identifiers.map (·.1)) :
    (u.order σ).values key = ((σ.identifier?.filter (·.1 = key)).map (·.2)).toList := by
  cases σ with
  | registerImage regions snapshot =>
    by_cases hkey : key = "BlockDeviceMapping.1.Ebs.SnapshotId"
    · rw [hkey]
      exact Compute.values_registerImage snapshot u.job.spec
    · have hnone := Compute.values_registerImage_of_ne hk hkey snapshot u.job.spec
      have hother :
          ((Stage.registerImage regions snapshot).identifier?.filter (·.1 = key)) = none := by
        simp [Stage.identifier?, Option.filter, Ne.symm hkey]
      rw [hother]
      exact hnone
  | _ =>
    simp only [identifiers, List.map_cons, List.map_nil, List.mem_cons, List.not_mem_nil, or_false]
      at hk
    rcases hk with rfl | rfl | rfl | rfl | rfl | rfl | rfl | rfl <;> rfl

/-- The identifiers that a stage has, for its own request and for those behind it, were given by
earlier replies. -/
def Identified (before : List Exchange) : Stage → Prop
  | .listRegions | .storePart .. | .storeManifest .. | .importVolume .. => True
  | .awaitVolume _ task => Named before [.importVolume] task
  | .createSnapshot _ volume => Named before [.describeConversionTasks] volume
  | .awaitSnapshot _ volume snapshot | .deleteVolume _ volume snapshot =>
    Named before [.describeConversionTasks] volume ∧ Named before [.createSnapshot] snapshot
  | .publishSnapshot _ snapshot | .registerImage _ snapshot =>
    Named before [.createSnapshot] snapshot
  | .awaitImage _ image => Named before [.registerImage] image
  | .copyImage image made _ _ =>
    Named before [.registerImage] image ∧ ∀ e ∈ made, Named before [.registerImage, .copyImage] e.2
  | .awaitCopy images region image later | .publishImage images region image later =>
    ∀ e ∈ (region, image) :: later ++ images, Named before [.registerImage, .copyImage] e.2

def IdentifiedAt (before : List Exchange) : RunState → Prop
  | .due σ _ _ => Identified before σ
  | .ended _ => True

theorem Identified.append {σ : Stage} (h : Identified before σ) (ys : List Exchange) :
    Identified (before ++ ys) σ := by
  cases σ with
  | listRegions | storePart | storeManifest | importVolume => trivial
  | awaitVolume | createSnapshot | publishSnapshot | registerImage | awaitImage =>
    exact Named.append h ys
  | awaitSnapshot | deleteVolume => exact ⟨h.1.append ys, h.2.append ys⟩
  | copyImage => exact ⟨h.1.append ys, fun e he => (h.2 e he).append ys⟩
  | awaitCopy | publishImage => exact fun e he => (h e he).append ys

theorem identifiedAt_onward {α : Type} {answer : Except RunError α} {next : α → RunState}
    (h : ∀ x, answer = .ok x → IdentifiedAt before (next x)) :
    IdentifiedAt before (.onward answer next) :=
  RunState.onward_of (fun _ => trivial) h

theorem identifiedAt_storing (regions : List Region) (draft : ManifestDraft) (left : Octets)
    (start index readings : Nat) :
    IdentifiedAt before (u.storing regions draft left start index readings) := by
  unfold storing
  split
  · trivial
  · exact identifiedAt_onward fun _ _ => trivial

theorem identifiedAt_publishing {images later : RegionImages}
    (h : ∀ e ∈ later ++ images, Named before [.registerImage, .copyImage] e.2) (readings : Nat) :
    IdentifiedAt before (publishing images later readings) := by
  cases later with
  | nil => trivial
  | cons entry later => exact h

theorem identifiedAt_awaiting {images later : RegionImages}
    (h : ∀ e ∈ later ++ images, Named before [.registerImage, .copyImage] e.2) (readings : Nat) :
    IdentifiedAt before (u.awaiting images later readings) := by
  induction later with
  | nil =>
    refine identifiedAt_publishing (fun e he => ?_) readings
    rcases List.mem_append.1 he with he | he <;> exact h e he
  | cons entry later ih =>
    obtain ⟨region, copy⟩ := entry
    by_cases hr : region = u.home
    · rw [awaiting_home hr]
      exact ih fun e he => h e (List.mem_cons_of_mem _ he)
    · rw [awaiting_other hr]
      exact h

theorem identifiedAt_copying {image : Text} {made : RegionImages} {later : List Region}
    (hi : Named before [.registerImage] image)
    (hm : ∀ e ∈ made, Named before [.registerImage, .copyImage] e.2) (readings : Nat) :
    IdentifiedAt before (u.copying image made later readings) := by
  induction later generalizing made with
  | nil =>
    refine identifiedAt_awaiting (fun e he => ?_) readings
    rcases List.mem_append.1 he with he | he <;> exact hm e he
  | cons region later ih =>
    by_cases hr : region = u.home
    · rw [copying_home hr]
      refine ih (List.forall_mem_append.2 ⟨hm, List.forall_mem_singleton.2 (hi.mono ?_)⟩)
      simp
    · rw [copying_other hr]
      exact ⟨hi, hm⟩

/-- An answer gives the name that is in it. -/
theorem Answers.named {σ : Stage} {x : Exchange} {body id : Text} (hx : u.Answers σ x body)
    {origins : List Operation} (ho : σ.operation ∈ origins)
    (h : σ.operation.nameIn body = some id) :
    Named (before ++ [x]) origins id := by
  refine ⟨x, by simp, hx.operation_eq ▸ ho, ?_⟩
  rw [named?, hx.operation_eq, hx.body]
  exact h

theorem identifiedAt_answered {σ : Stage} {x : Exchange} {body : Text} (hx : u.Answers σ x body)
    (h : Identified before σ) (readings : Nat) :
    IdentifiedAt (before ++ [x]) (u.answered body readings σ) := by
  have h := h.append [x]
  cases σ with
  | listRegions =>
    exact identifiedAt_onward fun _ _ => identifiedAt_onward fun _ _ =>
      identifiedAt_storing _ _ _ _ _ _
  | storePart => exact identifiedAt_onward fun _ _ => identifiedAt_storing _ _ _ _ _ _
  | storeManifest => trivial
  | importVolume =>
    exact identifiedAt_onward fun task ht =>
      hx.named (by simp [Stage.operation]) (Compute.elementText_of_required ht)
  | awaitVolume =>
    refine identifiedAt_onward fun status hs => ?_
    cases status with
    | completed volume =>
      refine hx.named (by simp [Stage.operation]) ?_
      rw [Stage.operation, Operation.nameIn, completedVolume, hs]
    | inProgress message => exact h
  | createSnapshot =>
    exact identifiedAt_onward fun snapshot hs =>
      ⟨h, hx.named (by simp [Stage.operation]) (Compute.elementText_of_required hs)⟩
  | awaitSnapshot => exact identifiedAt_onward fun _ _ => RunState.unlessPending_of h fun _ => h
  | deleteVolume =>
    refine identifiedAt_onward fun _ _ => ?_
    split <;> exact h.2
  | publishSnapshot => exact identifiedAt_onward fun _ _ => h
  | registerImage =>
    exact identifiedAt_onward fun image hi =>
      hx.named (by simp [Stage.operation]) (Compute.elementText_of_required hi)
  | awaitImage =>
    refine identifiedAt_onward fun _ _ => RunState.unlessPending_of h fun _ => ?_
    split
    · exact identifiedAt_copying h (List.forall_mem_nil _) _
    · trivial
  | copyImage =>
    refine identifiedAt_onward fun copy hc => identifiedAt_copying h.1 ?_ _
    refine List.forall_mem_append.2 ⟨h.2, List.forall_mem_singleton.2 ?_⟩
    exact hx.named (by simp [Stage.operation]) (Compute.elementText_of_required hc)
  | awaitCopy =>
    refine identifiedAt_onward fun _ _ => RunState.unlessPending_of h fun _ => ?_
    exact identifiedAt_awaiting (fun e he => h e (List.mem_cons_of_mem _ he)) _
  | publishImage =>
    refine identifiedAt_onward fun _ _ => ?_
    exact identifiedAt_publishing (fun e he => h e (List.mem_cons_of_mem _ he)) _

theorem identifiedAt_replied {σ : Stage} (h : Identified before σ) (failures readings : Nat)
    (reply : Reply) :
    IdentifiedAt (before ++ [⟨u.request σ readings, reply⟩])
      (u.replied σ failures readings reply) := by
  unfold replied
  split
  · next body hb =>
    exact identifiedAt_answered ⟨order_request _ _, u.client.carries_request _ _, hb⟩ h _
  · split
    · exact h.append _
    · trivial

theorem Steps.identifiedAt {a b : RunState} {xs : List Exchange} (h : u.Steps a xs b)
    (ha : IdentifiedAt before a) : IdentifiedAt (before ++ xs) b :=
  h.invariant
    (fun _ _ failures readings reply hσ => identifiedAt_replied hσ failures readings reply) ha

/-- The identifier of a stage is from an operation that its parameter is for. -/
theorem Identified.named {σ : Stage} (h : Identified before σ) {key : String} {id : Text}
    (hid : σ.identifier? = some (key, id)) {origins : List Operation}
    (hk : (key, origins) ∈ identifiers) : Named before origins id := by
  simp only [identifiers, List.mem_cons, List.not_mem_nil, or_false, Prod.mk.injEq] at hk
  cases σ with
  | listRegions | storePart | storeManifest | importVolume => cases hid
  | awaitVolume | createSnapshot | publishSnapshot | registerImage =>
    cases hid
    obtain rfl : origins = _ := by simpa using hk
    exact h
  | awaitSnapshot =>
    cases hid
    obtain rfl : origins = _ := by simpa using hk
    exact h.2
  | deleteVolume =>
    cases hid
    obtain rfl : origins = _ := by simpa using hk
    exact h.1
  | awaitImage =>
    cases hid
    obtain rfl : origins = _ := by simpa using hk
    exact Named.mono h (by simp)
  | copyImage =>
    cases hid
    obtain rfl : origins = _ := by simpa using hk
    exact h.1
  | awaitCopy | publishImage =>
    cases hid
    obtain rfl : origins = _ := by simpa using hk
    exact h _ List.mem_cons_self

theorem isParameter_of_mem {key : String} {origins : List Operation}
    (hk : (key, origins) ∈ identifiers) : IsParameter key := by
  have hall : ∀ p ∈ identifiers, IsParameter p.1 := by decide
  exact hall _ hk

/-- Each identifier in a request was given by an earlier reply to one of its operations. -/
theorem Steps.named {readings : Nat} {x : Exchange} {after : List Exchange} {b : RunState}
    (h : u.Steps (.due .listRegions 0 readings) (before ++ x :: after) b) {key : String}
    {origins : List Operation} (hk : (key, origins) ∈ identifiers) {id : Text}
    (hid : id ∈ x.values key) : Named before origins id := by
  obtain ⟨a, hbefore, hx⟩ := h.of_append
  have ha : IdentifiedAt ([] ++ before) a := hbefore.identifiedAt trivial
  rw [List.nil_append] at ha
  obtain ⟨σ, failures, n, rfl, hr, -⟩ := hx.of_cons
  have hcarries := h.carries x (List.mem_append_right _ List.mem_cons_self)
  rw [Exchange.values_eq hcarries (isParameter_of_mem hk), hr, order_request,
    values_order σ (List.mem_map_of_mem hk), Option.mem_toList, Option.map_eq_some_iff] at hid
  obtain ⟨⟨key', id'⟩, hfilter, rfl⟩ := hid
  obtain ⟨hidentifier, hkey⟩ := Option.filter_eq_some_iff.1 hfilter
  obtain rfl : key' = key := of_decide_eq_true hkey
  exact Identified.named ha hidentifier hk

/-- A run does not end in front of a stage. -/
theorem Steps.exists_due {σ : Stage} {failures readings : Nat} {xs : List Exchange}
    {r : Except RunError RegionImages} (h : u.Steps (.due σ failures readings) xs (.ended r)) :
    ∃ z rest, xs = z :: rest ∧ z.request.order = u.order σ := by
  cases h with
  | step h => exact ⟨_, _, rfl, order_request _ _⟩

/-- The request behind one that makes something has the name that came back, whatever it is. -/
theorem Steps.carried {readings : Nat} {y : Exchange} {after : List Exchange}
    {r : Except RunError RegionImages}
    (h : u.Steps (.due .listRegions 0 readings) (before ++ y :: after) (.ended r)) {key : String}
    {id : Text} (hkey : y.operation.carrier? = some key) (hid : y.named? = some id) :
    ∃ z rest, after = z :: rest ∧ z.values key = [id] := by
  obtain ⟨a, -, hy⟩ := h.of_append
  obtain ⟨σ, failures, n, rfl, hr, hafter⟩ := hy.of_cons
  have hop : y.operation = σ.operation := by
    rw [Exchange.operation, hr, order_request, operation_order]
  obtain ⟨body, hb, hname⟩ : ∃ body, y.body = .ok body ∧ σ.operation.nameIn body = some id := by
    rw [named?, hop] at hid
    cases hb : y.body with
    | error e => rw [hb] at hid; cases hid
    | ok body => rw [hb] at hid; exact ⟨body, rfl, hid⟩
  have hy : y = ⟨u.request σ n, y.reply⟩ := by rw [← hr]
  rw [hop] at hkey
  rw [replied, ← hy, hb] at hafter
  cases σ with
  | importVolume | createSnapshot | registerImage =>
    cases hkey
    simp only [answered, Compute.required_of_elementText hname, RunState.onward] at hafter
    obtain ⟨z, rest, rfl, hz⟩ := hafter.exists_due
    have hcarries := h.carries z (List.mem_append_right _
      (List.mem_cons_of_mem _ List.mem_cons_self))
    refine ⟨z, rest, rfl, ?_⟩
    rw [Exchange.values_eq hcarries (by decide), hz]
    rfl
  | _ => cases hkey

/-- A call of that kind is made in its region. -/
theorem region_of_kind {o : Order} {region : Region} {action : Text}
    (h : o.kind = .called region action) : o.region = region := by
  cases o with
  | put => cases h
  | call =>
    cases h
    rfl

/-- Copies are asked for in regions that the service has named. -/
theorem SentOnce.region_mem {xs : List Exchange} (h : u.SentOnce xs) {x : Exchange} (hx : x ∈ xs)
    (hcopy : x.operation = .copyImage) : x.region ∈ toldRegions xs := by
  have hfilter : x ∈ xs.filter (·.operation = .copyImage) :=
    List.mem_filter.2 ⟨hx, decide_eq_true hcopy⟩
  have hkind := h.copies.subset (List.mem_map_of_mem hfilter)
  split at hkind
  · rw [Provisioner.filter_targets] at hkind
    obtain ⟨region, hregion, heq⟩ := List.mem_map.1 hkind
    rw [Exchange.region, region_of_kind heq.symm]
    exact (List.mem_filter.1 hregion).1
  · exact absurd hkind List.not_mem_nil

end Run

namespace Provisioner

variable (p : Provisioner) (job : ImageJob) (nonce : Octets) (s : Session)

/-- Every identifier in a request is the name that an earlier reply gave, and the names that replies
give are sent on as they are: only a volume is never given an empty one. -/
theorem identified_run :
    (∀ replies count before x after,
      (p.run job nonce).firstExchanges s replies count = before ++ x :: after →
        (∀ key origins, (key, origins) ∈ identifiers → ∀ id ∈ x.values key,
          Named before origins id) ∧
        [] ∉ x.values "VolumeId" ∧
        (x.operation = .copyImage → x.region ∈ toldRegions (before ++ x :: after))) ∧
      ∀ before y after, (p.run job nonce).exchanges s = before ++ y :: after →
        ∀ key id, y.operation.carrier? = some key → y.named? = some id →
          ∃ z rest, after = z :: rest ∧ z.values key = [id] := by
  refine ⟨fun replies count before x after hx => ?_, fun before y after hy key id hkey hid => ?_⟩
  · obtain ⟨b, hb, -⟩ := p.steps_firstExchanges job nonce s replies count
    rw [hx] at hb
    refine ⟨fun key origins hk id hid => hb.named hk hid, fun hvolume => ?_,
      hb.sentOnce.region_mem (by simp)⟩
    -- An empty id would be that of a volume that is complete.
    have hk : ("VolumeId", [Operation.describeConversionTasks]) ∈ identifiers := by
      simp [identifiers]
    obtain ⟨y, -, ho, hn⟩ := hb.named hk hvolume
    rw [named?, List.mem_singleton.1 ho] at hn
    obtain ⟨body, -, hbody⟩ := Option.bind_eq_some_iff.1 hn
    exact completedVolume_ne_nil hbody rfl
  · have hsteps := (Run.steps_run p job nonce s).2
    rw [hy] at hsteps
    exact hsteps.carried hkey hid

/-- A snapshot without a name is asked after, and an image is registered on it. -/
theorem identified_run_empty :
    let u := Run.ofImage ['a'] [1, 2, 3]
    let replies := (Reply.allWell 2 [['a']] []).set 6 (.valid "<snapshotId/>".toList)
    let s : Session := { clock := u.clock, replies := replies }
    ((u.provisioner.run u.job u.nonce).outcome s).1 = .ok [(⟨['a']⟩, ['i'])] ∧
      ∀ key ∈ ["SnapshotId.1", "BlockDeviceMapping.1.Ebs.SnapshotId"],
        ∃ x ∈ (u.provisioner.run u.job u.nonce).exchanges s, x.values key = [[]] := by
  intro u replies s
  have h : ((u.provisioner.run u.job u.nonce).outcome s).1 = .ok [(⟨['a']⟩, ['i'])] ∧
      (u.provisioner.run u.job u.nonce).exchanges s =
        (u.follow (.due .listRegions 0 s.readings) s.replies).1 :=
    Run.outcome_of_result? (by decide +kernel)
  rw [h.2]
  refine ⟨h.1, fun key hkey => ?_⟩
  have hfound : ∀ key ∈ ["SnapshotId.1", "BlockDeviceMapping.1.Ebs.SnapshotId"],
      IsParameter key ∧ ∃ x ∈ (u.follow (.due .listRegions 0 s.readings) s.replies).1,
        x.request.order.values key = [[]] := by
    decide +kernel
  obtain ⟨hparameter, x, hx, hvalues⟩ := hfound key hkey
  have hcarries := (Run.steps_follow (.due .listRegions 0 s.readings) s.replies).carries x hx
  exact ⟨x, hx, (Exchange.values_eq hcarries hparameter).trans hvalues⟩

end Provisioner

end MachineImage
