import MachineImage.Announcement
import MachineImage.Proofs.Quoted
import MachineImage.Proofs.Replication

/-!
How often a region gets the image: as often as the service names it. The images are kept as a list,
which nothing keeps from having a region twice.
-/
namespace MachineImage

open Exchange

namespace Exchange

/-- The regions that copies are asked for in, as often as they are. -/
def destinations (xs : List Exchange) : List Region :=
  (xs.filter (·.operation = .copyImage)).map (·.region)

theorem destinations_append (xs ys : List Exchange) :
    destinations (xs ++ ys) = destinations xs ++ destinations ys := by
  rw [destinations, List.filter_append, List.map_append, ← destinations, ← destinations]

theorem destinations_eq_nil {xs : List Exchange} (h : ∀ x ∈ xs, x.operation ≠ .copyImage) :
    destinations xs = [] := by
  rw [destinations, List.filter_eq_nil_iff.2 fun x hx => by simpa using h x hx, List.map_nil]

/-- What rows that go together ask for, if that is known of each pair. -/
theorem destinations_of_forall₂ {α β : Type} {R : α → β → Prop} {f : β → List Exchange}
    {g : α → List Region} (h : ∀ a b, R a b → destinations (f b) = g a) {l : List α} {l' : List β}
    (hl : List.Forall₂ R l l') : destinations (l'.flatMap f) = l.flatMap g := by
  induction hl with
  | nil => rfl
  | cons hab _ ih => rw [List.flatMap_cons, List.flatMap_cons, destinations_append, h _ _ hab, ih]

end Exchange

/-- The object of the regions in the message for programs. -/
def Announcement.regions? (a : Announcement) (imageName : Text) (images : RegionImages) :
    Option Json :=
  ((a.document imageName images).member? "v1".toList).bind (·.member? "Regions".toList)

theorem Announcement.regions?_eq (a : Announcement) (imageName : Text) (images : RegionImages) :
    a.regions? imageName images =
      some (.ofMembers (images.map fun i => (i.1.name, entry imageName i.2))) :=
  rfl

/-- The message has a key for a region as often as the images have the region. -/
theorem Announcement.nodup_keys_regions? (a : Announcement) (imageName : Text)
    (images : RegionImages) :
    (∃ regions, a.regions? imageName images = some regions ∧ regions.keys.Nodup) ↔
      (images.map (·.1)).Nodup := by
  have hname : Function.Injective Region.name := by
    rintro ⟨name⟩ ⟨name'⟩ rfl
    rfl
  rw [a.regions?_eq]
  simp only [Option.some.injEq, exists_eq_left']
  rw [Json.nodup_keys_ofMembers, List.map_map, ← List.nodup_map_iff hname, List.map_map]
  rfl

/-- The home region comes to the targets only where it is missing. -/
theorem Provisioner.nodup_targets {home : Region} {told : List Region} :
    (targets home told).Nodup ↔ told.Nodup := by
  unfold targets
  split
  · rfl
  · next h => rw [List.nodup_cons, and_iff_right h]

theorem Provisioner.filter_targets (home : Region) (told : List Region) :
    (targets home told).filter (· ≠ home) = told.filter (· ≠ home) := by
  unfold targets
  split
  · rfl
  · rw [List.filter_cons_of_neg (by simp)]

namespace Exchange

theorem Answered.destinations_eq_nil {order : Order} {call : List Exchange} {body : Text}
    (h : Answered order call body) (ho : order.operation ≠ .copyImage) :
    destinations call = [] := by
  refine Exchange.destinations_eq_nil fun x hx => ?_
  rw [Exchange.operation, h.operation_eq x hx]
  exact ho

theorem Awaited.destinations_eq_nil {entry : Region × Text} {polls : List (List Exchange)}
    (h : Awaited entry polls) : destinations polls.flatten = [] := by
  induction h with
  | available h _ =>
    rw [List.flatten_singleton]
    exact h.destinations_eq_nil nofun
  | pending h _ _ ih =>
    rw [List.flatten_cons, destinations_append, ih, h.destinations_eq_nil nofun, List.append_nil]

end Exchange

namespace Run

variable {u : Run}

/-- To start a copy is to ask for it in its region. -/
theorem CopyStarted.destinations_eq {image : Text} {entry : Region × Text} {x : Exchange}
    (h : u.CopyStarted image entry x) : destinations [x] = [entry.1] := by
  obtain ⟨body, h, -⟩ := h
  have horder := (h.sent x (List.mem_singleton.2 rfl)).order
  have hcopy : x.operation = .copyImage := by
    rw [Exchange.operation, horder]
    rfl
  have hregion : x.region = entry.1 := by
    rw [Exchange.region, horder]
    rfl
  simp [destinations, hcopy, hregion]

theorem Registered.destinations_eq_nil {call : List Exchange} {image : Text}
    (h : u.Registered call image) : destinations call = [] := by
  obtain ⟨snapshot, body, h, -⟩ := h
  have hregister := operation_order (u := u) (.registerImage [] snapshot)
  rw [order] at hregister
  exact h.destinations_eq_nil (by simp [hregister, Stage.operation])

/-- A replication asks for the copies of its entries, in their order and of each once. -/
theorem Replicated.destinations_eq {told : List Region} {image : Text} {result : RegionImages}
    {copying : List Exchange} {waiting : List (List (List Exchange))}
    {publishing : List (List Exchange)}
    (h : u.Replicated told image result copying waiting publishing) :
    destinations (copying.map ([·]) ++ waiting.flatten ++ publishing).flatten =
      told.filter (· ≠ u.home) := by
  have hcopying : destinations (copying.map ([·])).flatten =
      (result.map (·.1)).filter (· ≠ u.home) := by
    rw [← List.flatMap_def, destinations_of_forall₂ (fun _ _ h => h.destinations_eq) h.copied,
      ← List.map_eq_flatMap, List.filter_map]
    rfl
  have hwaiting : destinations waiting.flatten.flatten = [] := by
    rw [List.flatten_flatten, ← List.flatMap_def,
      destinations_of_forall₂ (fun _ _ h => h.destinations_eq_nil) h.awaited]
    simp
  have hpublishing : destinations publishing.flatten = [] := by
    have hnone : ∀ entry call, Published entry call → destinations call = [] := by
      rintro entry call ⟨body, h, -⟩
      exact h.destinations_eq_nil nofun
    rw [← List.flatMap_id', destinations_of_forall₂ hnone h.published]
    simp
  rw [List.flatten_append, List.flatten_append, destinations_append, destinations_append, hcopying,
    hwaiting, hpublishing, List.append_nil, List.append_nil, h.regions]
  exact Provisioner.filter_targets u.home told

/-- A public image gets to its targets in their order, by one copy for each entry among them that is
not the home region. -/
theorem Replicates.targets {xs : List Exchange} {result : RegionImages}
    (h : u.Replicates (calls xs) result) (hpublic : u.job.isPublic) :
    result.map (·.1) = Provisioner.targets u.home (toldRegions xs) ∧
      destinations xs = (toldRegions xs).filter (· ≠ u.home) := by
  obtain ⟨listing, told, before, registering, image, polls, more, hrow, ⟨body, hlisted, htold⟩,
    hregistered, hpolls, hbefore, hmore⟩ := h
  rw [if_pos hpublic] at hmore
  obtain ⟨copying, waiting, publishing, rfl, hreplicated⟩ := hmore
  have hxs : xs = listing ++ (before.flatten ++ (registering ++ (polls.flatten ++
      (copying.map ([·]) ++ waiting.flatten ++ publishing).flatten))) := by
    rw [← flatten_calls xs, hrow]
    simp
  have htoldRegions : toldRegions xs = told := by
    rw [hxs]
    exact hlisted.toldRegions_append htold _
  have hnone : destinations before.flatten = [] := by
    refine destinations_eq_nil fun x hx hcopy => ?_
    obtain ⟨call, hcall, hx⟩ := List.mem_flatten.1 hx
    exact absurd (hbefore call hcall x hx) (by simp [hcopy])
  rw [htoldRegions]
  refine ⟨hreplicated.regions, ?_⟩
  rw [hxs, destinations_append, destinations_append, destinations_append, destinations_append,
    hlisted.destinations_eq_nil nofun, hnone, hregistered.destinations_eq_nil,
    hpolls.destinations_eq_nil, hreplicated.destinations_eq]
  rfl

end Run

namespace Provisioner

variable (p : Provisioner) (job : ImageJob) (nonce : Octets) (s : Session) {result : RegionImages}

theorem targets_run (h : ((p.run job nonce).outcome s).1 = .ok result) (hpublic : job.isPublic) :
    result.map (·.1) = targets job.home (toldRegions ((p.run job nonce).exchanges s)) ∧
      destinations ((p.run job nonce).exchanges s) =
        (toldRegions ((p.run job nonce).exchanges s)).filter (· ≠ job.home) := by
  have hsteps := (Run.steps_run p job nonce s).2
  rw [h] at hsteps
  exact hsteps.replicates.targets hpublic

/-- The images of a public run have every region once, and so does the message that announces them,
exactly if the service names none twice; and one copy at most is asked for in every region exactly
if it names no other region than the home region twice. -/
theorem distinct_run (h : ((p.run job nonce).outcome s).1 = .ok result) (hpublic : job.isPublic)
    (a : Announcement) (imageName : Text) :
    let xs := (p.run job nonce).exchanges s
    ((result.map (·.1)).Nodup ↔ (toldRegions xs).Nodup) ∧
      ((destinations xs).Nodup ↔ ((toldRegions xs).filter (· ≠ job.home)).Nodup) ∧
      ((∃ regions, a.regions? imageName result = some regions ∧ regions.keys.Nodup) ↔
        (toldRegions xs).Nodup) := by
  intro xs
  obtain ⟨hregions, hdestinations⟩ := targets_run p job nonce s h hpublic
  have hnodup : (result.map (·.1)).Nodup ↔ (toldRegions xs).Nodup := by
    rw [hregions, nodup_targets]
  exact ⟨hnodup, by rw [hdestinations], (a.nodup_keys_regions? imageName result).trans hnodup⟩

/-- A region that is named twice is entered twice, gets two copies and has two keys. -/
theorem distinct_run_twice :
    let u := Run.ofImage ['a'] [1, 2, 3]
    let s : Session :=
      { clock := u.clock, replies := Reply.allWell 2 [['b'], ['b']] [['j'], ['k']] }
    let result : RegionImages := [(⟨['a']⟩, ['i']), (⟨['b']⟩, ['j']), (⟨['b']⟩, ['k'])]
    let xs := (u.provisioner.run u.job u.nonce).exchanges s
    ((u.provisioner.run u.job u.nonce).outcome s).1 = .ok result ∧ u.job.isPublic ∧
      ¬ (toldRegions xs).Nodup ∧ ¬ (destinations xs).Nodup ∧
      ∀ (a : Announcement) imageName,
        ¬ ∃ regions, a.regions? imageName result = some regions ∧ regions.keys.Nodup := by
  intro u s result xs
  have h : ((u.provisioner.run u.job u.nonce).outcome s).1 = .ok result :=
    (Run.outcome_of_result? (by decide +kernel)).1
  have hdistinct := distinct_run u.provisioner u.job u.nonce s h rfl
  have htold : ¬ (toldRegions xs).Nodup := fun hn =>
    absurd ((hdistinct ⟨[], [], []⟩ []).1.2 hn) (by decide)
  have hcopies : (toldRegions xs).filter (· ≠ u.home) = [⟨['b']⟩, ⟨['b']⟩] := by
    rw [← filter_targets, ← (targets_run u.provisioner u.job u.nonce s h rfl).1]
    decide
  refine ⟨h, rfl, htold, fun hn => ?_,
    fun a imageName hn => htold ((hdistinct a imageName).2.2.1 hn)⟩
  have htwice := (hdistinct ⟨[], [], []⟩ []).2.1.1 hn
  rw [hcopies] at htwice
  exact absurd htwice (by decide)

end Provisioner

end MachineImage
