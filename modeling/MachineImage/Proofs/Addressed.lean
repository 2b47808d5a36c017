import MachineImage.Proofs.Address
import MachineImage.Proofs.Provenance
import MachineImage.Proofs.Replay

/-!
The addresses that a run uses: what stores an object, what a manifest says of it and what is told
to the importer name one path.
-/
namespace MachineImage

/-- All that is told of a part is told of this path. -/
structure Part.Points (p : Part) (c : Client) (d : Destination) (path : Text) : Prop where
  key : '/' :: p.key = path
  head : c.Locates d "HEAD".toList path p.headUrl
  get : c.Locates d "GET".toList path p.getUrl
  delete : c.Locates d "DELETE".toList path p.deleteUrl

/-- A manifest names its own path and, in order, those of its parts. -/
structure ManifestDraft.Points (draft : ManifestDraft) (c : Client) (d : Destination) : Prop where
  selfDestruct : c.Locates d "DELETE".toList d.manifestPath draft.selfDestructUrl
  parts : ∀ (i : Nat) (p : Part), draft.parts[i]? = some p → p.Points c d (d.partPath i)

theorem ManifestDraft.Points.push {draft : ManifestDraft} {c : Client} {d : Destination} {p : Part}
    (h : draft.Points c d) (hp : p.Points c d (d.partPath draft.parts.length)) :
    (draft.push p).Points c d := by
  refine ⟨h.selfDestruct, fun i q hq => ?_⟩
  rw [ManifestDraft.push, List.getElem?_append] at hq
  split at hq
  · exact h.parts i q hq
  · next hi =>
    obtain ⟨hlast, rfl⟩ := List.getElem?_eq_some_iff.1 hq
    rw [List.length_singleton] at hlast
    obtain rfl : i = draft.parts.length := by omega
    simpa using hp

theorem Client.points_partAt (c : Client) (d : Destination)
    (hbucket : '/' ∉ d.bucket ∧ '?' ∉ d.bucket ∧ '#' ∉ d.bucket) (clock : Nat → Instant)
    (index start stop reading : Nat) :
    (c.partAt d clock index start stop reading).Points c d (d.partPath index) := by
  have hurl := c.locates_urlAt d (d.isObject_partPath index) hbucket
  exact ⟨rfl, hurl _ "HEAD", hurl _ "GET", hurl _ "DELETE"⟩

namespace Run

variable (u : Run)

/-- The parts in which the image of a run is stored. -/
def parts : List Octets := partsOf u.provisioner.partSize u.image

/-- A request for storage stores a part under its path, or under its own path a manifest that names
the paths of all the parts; the volume is imported from there. -/
structure Addresses (x : Exchange) : Prop where
  stored : x.operation = .storagePut →
    (∃ i part, u.parts[i]? = some part ∧
      x.request.StoresAt u.client u.destination (u.destination.partPath i) part) ∨
    ∃ draft : ManifestDraft, draft.parts.length = u.parts.length ∧
      draft.Points u.client u.destination ∧
      x.request.StoresAt u.client u.destination u.destination.manifestPath
        (Utf8.encode draft.render)
  imported : x.operation = .importVolume → ∃ url, x.values "Image.ImportManifestUrl" = [url] ∧
    u.client.Locates u.destination "GET".toList u.destination.manifestPath url

/-- What the stages of an upload have to go on with. -/
def AddressedAt : RunState → Prop
  | .due (.storePart _ draft left start index) _ _ =>
    draft.Points u.client u.destination ∧
      draft.Awaits u.provisioner.partSize u.image left start index ∧ start < u.image.length
  | .due (.storeManifest _ manifest) _ _ =>
    ∃ draft : ManifestDraft, manifest.document = draft.render ∧
      draft.parts.length = u.parts.length ∧ draft.Points u.client u.destination
  | .due (.importVolume _ url _ _) _ _ =>
    u.client.Locates u.destination "GET".toList u.destination.manifestPath url
  | _ => True

variable {u}

theorem addressedAt_onward {α : Type} {answer : Except RunError α} {next : α → RunState}
    (h : ∀ x, answer = .ok x → u.AddressedAt (next x)) : u.AddressedAt (.onward answer next) :=
  RunState.onward_of (fun _ => trivial) h

theorem length_parts {draft : ManifestDraft} {left : Octets} {start index : Nat}
    (h : draft.Awaits u.provisioner.partSize u.image left start index) :
    u.parts.length = partCount u.image.length u.provisioner.partSize := by
  rw [parts, length_partsOf h.partSize_pos]

theorem getElem?_parts {draft : ManifestDraft} {left : Octets} {start index : Nat}
    (h : draft.Awaits u.provisioner.partSize u.image left start index)
    (hlt : start < u.image.length) : u.parts[index]? = some (left.take (u.partLength start)) := by
  rw [parts, partsOf_eq h.partSize_pos, List.getElem?_map, List.getElem?_range (h.index_lt hlt),
    Option.map_some, partLength, h.take_left hlt]

theorem addressedAt_storing {regions : List Region} {draft : ManifestDraft} {left : Octets}
    {start index : Nat} (h : draft.Points u.client u.destination)
    (ha : draft.Awaits u.provisioner.partSize u.image left start index) (readings : Nat) :
    u.AddressedAt (u.storing regions draft left start index readings) := by
  unfold storing
  split
  · next hlt => exact ⟨h, ha, hlt⟩
  · next hge =>
    have hlength : draft.parts.length = u.parts.length := by
      rw [length_parts ha, ha.length, ha.index_eq hge]
    rw [finishing, ha.finish hge]
    exact ⟨draft, rfl, hlength, h⟩

/-- Behind the import nothing is stored any more. -/
theorem addressedAt_publishing (images later : RegionImages) (readings : Nat) :
    u.AddressedAt (publishing images later readings) := by
  cases later <;> trivial

theorem addressedAt_awaiting (images later : RegionImages) (readings : Nat) :
    u.AddressedAt (u.awaiting images later readings) := by
  induction later with
  | nil => exact addressedAt_publishing images images readings
  | cons entry later ih =>
    obtain ⟨region, copy⟩ := entry
    by_cases h : region = u.home
    · rw [awaiting_home h]
      exact ih
    · rw [awaiting_other h]
      trivial

theorem addressedAt_copying (image : Text) (made : RegionImages) (later : List Region)
    (readings : Nat) : u.AddressedAt (u.copying image made later readings) := by
  induction later generalizing made with
  | nil => exact addressedAt_awaiting made made readings
  | cons region later ih =>
    by_cases h : region = u.home
    · rw [copying_home h]
      exact ih _
    · rw [copying_other h]
      trivial

section

variable (hbucket : '/' ∉ u.job.bucket ∧ '?' ∉ u.job.bucket ∧ '#' ∉ u.job.bucket)

include hbucket

theorem locates_manifest (time : Instant) (method : String) :
    u.client.Locates u.destination method.toList u.destination.manifestPath
      (u.client.urlAt u.destination time method u.destination.manifestPath) :=
  u.client.locates_urlAt u.destination u.destination.isObject_manifestPath hbucket time method

theorem addressedAt_answered {σ : Stage} {failures : Nat} {readings : Nat}
    (h : u.AddressedAt (.due σ failures readings)) (body : Text) (reading : Nat) :
    u.AddressedAt (u.answered body reading σ) := by
  cases σ with
  | listRegions =>
    refine addressedAt_onward fun regions _ => addressedAt_onward fun image himage => ?_
    obtain ⟨hs, -, -, hlt⟩ := contents_eq_ok.1 himage
    obtain rfl := image_eq himage
    have hpoints : ManifestDraft.Points ⟨u.provisioner.maker, u.client.urlAt u.destination
        (u.clock reading) "DELETE" u.destination.manifestPath, u.image.length, []⟩ u.client
        u.destination :=
      ⟨locates_manifest hbucket _ _, fun i p hp => by simp at hp⟩
    exact addressedAt_storing hpoints (ManifestDraft.awaits_image _ _ hs hlt) _
  | storePart regions draft left start index =>
    obtain ⟨hpoints, hawaits, hlt⟩ := h
    obtain rfl := hawaits.length
    have hpart := fun stop => u.client.points_partAt u.destination hbucket u.clock
      draft.parts.length start stop reading
    simp only [answered, partLength, hawaits.round hlt]
    exact addressedAt_storing (hpoints.push (hpart _)) (hawaits.push hlt rfl) _
  | storeManifest => exact locates_manifest hbucket _ _
  | importVolume => exact addressedAt_onward fun _ _ => trivial
  | awaitVolume =>
    refine addressedAt_onward fun status _ => ?_
    cases status <;> trivial
  | createSnapshot => exact addressedAt_onward fun _ _ => trivial
  | awaitSnapshot =>
    exact addressedAt_onward fun _ _ => RunState.unlessPending_of trivial fun _ => trivial
  | deleteVolume =>
    refine addressedAt_onward fun _ _ => ?_
    split <;> trivial
  | publishSnapshot => exact addressedAt_onward fun _ _ => trivial
  | registerImage => exact addressedAt_onward fun _ _ => trivial
  | awaitImage =>
    refine addressedAt_onward fun _ _ => RunState.unlessPending_of trivial fun _ => ?_
    split
    · exact addressedAt_copying ..
    · trivial
  | copyImage => exact addressedAt_onward fun _ _ => addressedAt_copying ..
  | awaitCopy =>
    exact addressedAt_onward fun _ _ =>
      RunState.unlessPending_of trivial fun _ => addressedAt_awaiting ..
  | publishImage => exact addressedAt_onward fun _ _ => addressedAt_publishing ..

theorem addressedAt_replied {σ : Stage} {failures readings : Nat}
    (h : u.AddressedAt (.due σ failures readings)) (reply : Reply) :
    u.AddressedAt (u.replied σ failures readings reply) := by
  unfold replied
  split
  · exact addressedAt_answered hbucket h _ _
  · split
    · cases σ <;> exact h
    · trivial

end

/-- What a stage has to go on with is what its request says. -/
theorem addresses_of_addressedAt {σ : Stage} {failures readings : Nat}
    (h : u.AddressedAt (.due σ failures readings)) (reply : Reply) :
    u.Addresses ⟨u.request σ readings, reply⟩ := by
  have horder : (u.request σ readings).order = u.order σ := order_request _ _
  have hoperation : Exchange.operation ⟨u.request σ readings, reply⟩ = σ.operation := by
    rw [Exchange.operation, horder, operation_order]
  constructor
  case stored =>
    intro hstored
    rw [hoperation] at hstored
    cases σ with
    | storePart regions draft left start index =>
      exact .inl ⟨index, _, getElem?_parts h.2.1 h.2.2, u.client.storesAt_request u.destination
        (u.destination.isObject_partPath _) _ (u.clock readings)⟩
    | storeManifest regions manifest =>
      obtain ⟨draft, hdocument, hlength, hpoints⟩ := h
      have hstores := u.client.storesAt_request u.destination u.destination.isObject_manifestPath
        (Utf8.encode manifest.document) (u.clock readings)
      refine .inr ⟨draft, hlength, hpoints, ?_⟩
      rw [← hdocument]
      exact hstores
    | _ => cases hstored
  case imported =>
    intro himported
    rw [hoperation] at himported
    cases σ with
    | importVolume regions url size gibibytes =>
      have hcarries : (u.request (.importVolume regions url size gibibytes) readings).Carries
          u.client.credentials.keyId := u.client.carries_request _ _
      refine ⟨url, ?_, h⟩
      rw [Exchange.values_eq hcarries (by decide), horder]
      rfl
    | _ => cases himported

theorem Steps.addresses {readings : Nat} {xs : List Exchange} {b : RunState}
    (h : u.Steps (.due .listRegions 0 readings) xs b)
    (hbucket : '/' ∉ u.job.bucket ∧ '?' ∉ u.job.bucket ∧ '#' ∉ u.job.bucket) :
    ∀ x ∈ xs, u.Addresses x := by
  have hstart : (∀ x ∈ [], u.Addresses x) ∧ u.AddressedAt (.due .listRegions 0 readings) :=
    ⟨nofun, trivial⟩
  refine (h.invariant (P := fun before a => (∀ x ∈ before, u.Addresses x) ∧ u.AddressedAt a) ?_
    hstart).1
  rintro before σ failures n reply ⟨hbefore, hσ⟩
  refine ⟨List.forall_mem_append.2 ⟨hbefore, List.forall_mem_singleton.2 ?_⟩, ?_⟩
  · exact addresses_of_addressedAt hσ reply
  · exact addressedAt_replied hbucket hσ reply

end Run

namespace Provisioner

/-- Everything that a run sends of an object is sent of one path: the line of the request, what was
signed for it, the manifest and the URLs for the importer. The paths of an upload are different, and
so are those of two uploads whose directories were named at random with a different result. -/
theorem addressed_run (p : Provisioner) (job : ImageJob) (nonce : Octets) (s : Session)
    (hbucket : '/' ∉ job.bucket ∧ '?' ∉ job.bucket ∧ '#' ∉ job.bucket) :
    let u := Run.mk p job nonce s.clock
    (∀ x ∈ (p.run job nonce).exchanges s, u.Addresses x) ∧
      (∀ count, (u.destination.paths count).Nodup) ∧
      ∀ (d : Destination) (count count' : Nat), nonce ≠ d.nonce →
        (u.destination.paths count).Disjoint (d.paths count') :=
  ⟨(Run.steps_run p job nonce s).2.addresses hbucket, Destination.nodup_paths _,
    fun d count count' h => Destination.disjoint_paths _ d h count count'⟩

/-- A run that stores two parts and a manifest in a bucket with an unusual name. -/
theorem addressed_run_unusual :
    let u : Run := { Run.ofImage ['a'] [1, 2, 3] with
      job := { (Run.ofImage ['a'] [1, 2, 3]).job with bucket := "ä b%:&=".toList }
      nonce := (List.range 16).map UInt8.ofNat }
    let s : Session := { clock := u.clock, replies := Reply.allWell 2 [['a']] [] }
    let xs := (u.provisioner.run u.job u.nonce).exchanges s
    ('/' ∉ u.job.bucket ∧ '?' ∉ u.job.bucket ∧ '#' ∉ u.job.bucket) ∧
      (xs.map (·.operation)).filter (· = .storagePut) =
        [.storagePut, .storagePut, .storagePut] ∧
      .importVolume ∈ xs.map (·.operation) ∧ ∀ x ∈ xs, u.Addresses x := by
  intro u s xs
  have hbucket : '/' ∉ u.job.bucket ∧ '?' ∉ u.job.bucket ∧ '#' ∉ u.job.bucket := by decide +kernel
  have hrun : ((u.provisioner.run u.job u.nonce).outcome s).1 = .ok [(⟨['a']⟩, ['i'])] ∧
      xs = (u.follow (.due .listRegions 0 s.readings) s.replies).1 :=
    Run.outcome_of_result? (by decide +kernel)
  refine ⟨hbucket, ?_, ?_, (addressed_run u.provisioner u.job u.nonce s hbucket).1⟩
  · rw [hrun.2]
    decide +kernel
  · rw [hrun.2]
    decide +kernel

end Provisioner

end MachineImage
