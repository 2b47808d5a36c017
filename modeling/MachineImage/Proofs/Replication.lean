import MachineImage.Proofs.Answered
import MachineImage.Proofs.Provenance
import MachineImage.Proofs.Replay
import Mathlib.Data.List.Forall2

/-!
What a run that succeeds has made: the image of every region, each with the calls that made it,
waited for it and opened it to all.
-/
namespace MachineImage

open Exchange

/-- Waiting for the image of a region: every answer but the last says that it is pending. -/
inductive Exchange.Awaited (entry : Region × Text) : List (List Exchange) → Prop
  | available {call : List Exchange} {body : Text} :
    Answered (.call .compute entry.1 (Compute.describeImage entry.2)) call body →
      Compute.imageReadiness body = .ok .ready → Awaited entry [call]
  | pending {call : List Exchange} {body : Text} {more : List (List Exchange)} :
    Answered (.call .compute entry.1 (Compute.describeImage entry.2)) call body →
      Compute.imageReadiness body = .ok .pending → Awaited entry more →
      Awaited entry (call :: more)

/-- The call that opens the image of a region to all, and is confirmed. -/
def Exchange.Published (entry : Region × Text) (call : List Exchange) : Prop :=
  ∃ body, Answered (.call .compute entry.1 (Compute.publishImage entry.2)) call body ∧
    Compute.confirmed .modifyImageAttribute body = .ok ()

/-- Before the image is registered, with these regions to replicate it to. -/
def Stage.regions? : Stage → Option (List Region)
  | .storePart regions .. | .storeManifest regions _ | .importVolume regions .. |
    .awaitVolume regions _ | .createSnapshot regions _ | .awaitSnapshot regions .. |
    .deleteVolume regions .. | .publishSnapshot regions _ | .registerImage regions _ => some regions
  | _ => none

/-- On the way to the registration of the image, or failed. -/
def RunState.Heads (regions : List Region) : RunState → Prop
  | .due σ _ _ => σ.regions? = some regions
  | .ended (.ok _) => False
  | .ended (.error _) => True

namespace Run

variable (u : Run)

/-- The call that tells the regions. -/
def Listed (call : List Exchange) (regions : List Region) : Prop :=
  ∃ body, Answered (.call .compute u.home Compute.describeRegions) call body ∧
    Compute.regions body = .ok regions

/-- The call that registers the image, and is told its id. -/
def Registered (call : List Exchange) (image : Text) : Prop :=
  ∃ snapshot body,
    Answered (.call .compute u.home (Compute.registerImage snapshot u.job.spec)) call body ∧
      elementText "imageId" body = some image

/-- The one request that starts the copy of the image into another region, and is told its id. -/
def CopyStarted (image : Text) (entry : Region × Text) (x : Exchange) : Prop :=
  ∃ body, Answered (.call .compute entry.1 (Compute.copyImage u.home image)) [x] body ∧
    elementText "imageId" body = some entry.2

/-- The image is in every region: all copies are started, then each is waited for, and then all
images are opened, always in the order of the regions. -/
structure Replicated (told : List Region) (image : Text) (result : RegionImages)
    (copying : List Exchange) (waiting : List (List (List Exchange)))
    (publishing : List (List Exchange)) : Prop where
  regions : result.map (·.1) = if u.home ∈ told then told else u.home :: told
  home : ∀ e ∈ result, e.1 = u.home → e.2 = image
  copied : List.Forall₂ (u.CopyStarted image) (result.filter (·.1 ≠ u.home)) copying
  awaited : List.Forall₂ Awaited (result.filter (·.1 ≠ u.home)) waiting
  published : List.Forall₂ Published result publishing

variable {u} {regions : List Region}

theorem heads_onward {α : Type} {answer : Except RunError α} {next : α → RunState}
    (h : ∀ x, (next x).Heads regions) : (RunState.onward answer next).Heads regions :=
  RunState.onward_of (fun _ => trivial) fun x _ => h x

theorem heads_storing (draft : ManifestDraft) (left : Octets) (start index n : Nat) :
    (u.storing regions draft left start index n).Heads regions := by
  unfold storing
  split
  · exact rfl
  · exact heads_onward fun _ => rfl

theorem heads_uploading (n : Nat) : (u.uploading regions n).Heads regions :=
  heads_onward fun _ => heads_storing _ _ _ _ _

theorem heads_answered {σ : Stage} (hσ : σ.regions? = some regions)
    (hr : σ.operation ≠ .registerImage) (body : Text) (n : Nat) :
    (u.answered body n σ).Heads regions := by
  cases σ with
  | storePart => cases hσ; exact heads_onward fun _ => heads_storing _ _ _ _ _
  | storeManifest => exact hσ
  | importVolume => exact heads_onward fun _ => hσ
  | awaitVolume =>
    refine heads_onward fun status => ?_
    cases status <;> exact hσ
  | createSnapshot => exact heads_onward fun _ => hσ
  | awaitSnapshot => exact heads_onward fun _ => RunState.unlessPending_of hσ fun _ => hσ
  | deleteVolume =>
    refine heads_onward fun _ => ?_
    split <;> exact hσ
  | publishSnapshot => exact heads_onward fun _ => hσ
  | registerImage => exact absurd rfl hr
  | listRegions | awaitImage | copyImage | awaitCopy | publishImage => cases hσ

/-- Before the registration nothing is registered, copied or opened. -/
theorem operation_of_regions? {σ : Stage} (hσ : σ.regions? = some regions)
    (hr : σ.operation ≠ .registerImage) :
    σ.operation ∉ [Operation.registerImage, .copyImage, .modifyImageAttribute] := by
  cases σ with
  | registerImage => exact absurd rfl hr
  | listRegions | awaitImage | copyImage | awaitCopy | publishImage => cases hσ
  | _ => simp [Stage.operation]

namespace Leads

variable {row : List (List Exchange)} {images result : RegionImages} {n : Nat}

/-- On its way to success a run registers its image. -/
theorem exists_registered {a : RunState} (h : u.Leads a row (.ended (.ok result)))
    (ha : a.Heads regions) : ∃ before registering image later n,
      row = before ++ registering :: later ∧ u.Registered registering image ∧
      (∀ call ∈ before, ∀ x ∈ call,
        x.operation ∉ [Operation.registerImage, .copyImage, .modifyImageAttribute]) ∧
      u.Leads (.due (.awaitImage regions image) 0 n) later (.ended (.ok result)) := by
  generalize hb : RunState.ended (.ok result) = b at h
  induction h with
  | refl =>
    subst hb
    exact ha.elim
  | @next σ _ _ n call body row b hanswered _ hrest ih =>
    by_cases hr : σ.operation = .registerImage
    · cases σ with
      | registerImage regions' snapshot =>
        cases ha
        subst hb
        obtain ⟨image, hi, hlater⟩ := hrest.of_onward
        exact ⟨[], call, image, row, n, rfl,
          ⟨snapshot, body, hanswered, Compute.elementText_of_required hi⟩, nofun, hlater⟩
      | _ => cases hr
    · obtain ⟨before, registering, image, later, n, rfl, hreg, hbefore, hlater⟩ :=
        ih (heads_answered ha hr body n) hb
      refine ⟨call :: before, registering, image, later, n, rfl, hreg, ?_, hlater⟩
      refine List.forall_mem_cons.2 ⟨fun x hx => ?_, hbefore⟩
      rw [Exchange.operation, hanswered.operation_eq x hx, operation_order]
      exact operation_of_regions? ha hr

/-- Waiting for an image ends with an answer that it is there. -/
theorem exists_awaited {σ : Stage} {failures : Nat} {next : Nat → RunState} (entry : Region × Text)
    (horder : u.order σ = .call .compute entry.1 (Compute.describeImage entry.2))
    (hnext : ∀ body n, u.answered body n σ =
      .onward (Compute.imageReadiness body) (.unlessPending (.due σ 0 n) (next n)))
    (h : u.Leads (.due σ failures n) row (.ended (.ok result))) :
    ∃ polls later n, row = polls ++ later ∧ Awaited entry polls ∧
      u.Leads (next n) later (.ended (.ok result)) := by
  generalize ha : RunState.due σ failures n = a at h
  generalize hb : RunState.ended (.ok result) = b at h
  induction h generalizing failures n with
  | refl => exact nomatch ha.trans hb.symm
  | @next _ _ _ later call body row b hanswered _ hrest ih =>
    cases ha
    subst hb
    rw [horder] at hanswered
    rw [hnext] at hrest ih
    cases hready : Compute.imageReadiness body with
    | error e =>
      rw [hready] at hrest
      cases hrest
    | ok readiness =>
      rw [hready] at hrest ih
      cases readiness with
      | pending =>
        obtain ⟨polls, more, m, rfl, hpolls, hmore⟩ := ih rfl rfl
        exact ⟨call :: polls, more, m, rfl, .pending hanswered hready hpolls, hmore⟩
      | ready => exact ⟨[call], row, later, rfl, .available hanswered hready, hrest⟩

theorem published {later : RegionImages}
    (h : u.Leads (publishing images later n) row (.ended (.ok result))) :
    List.Forall₂ Published later row ∧ result = images := by
  induction later generalizing n row with
  | nil =>
    obtain ⟨rfl, hr⟩ := h.of_ended
    cases hr
    exact ⟨.nil, rfl⟩
  | cons entry later ih =>
    obtain ⟨call, body, rest, m, rfl, hanswered, -, hrest⟩ := h.exists_call
    obtain ⟨_, hc, hmore⟩ := hrest.of_onward
    obtain ⟨hlater, hr⟩ := ih hmore
    exact ⟨.cons ⟨body, hanswered, hc⟩ hlater, hr⟩

theorem awaited {later : RegionImages}
    (h : u.Leads (u.awaiting images later n) row (.ended (.ok result))) :
    ∃ waiting publishing, row = waiting.flatten ++ publishing ∧
      List.Forall₂ Awaited (later.filter (·.1 ≠ u.home)) waiting ∧
      List.Forall₂ Published images publishing ∧ result = images := by
  induction later generalizing n row with
  | nil =>
    obtain ⟨hpublished, hr⟩ := published h
    exact ⟨[], row, rfl, .nil, hpublished, hr⟩
  | cons entry later ih =>
    obtain ⟨region, copy⟩ := entry
    by_cases hh : region = u.home
    · rw [awaiting_home hh] at h
      obtain ⟨waiting, publishing, hrow, hwaiting, hrest⟩ := ih h
      refine ⟨waiting, publishing, hrow, ?_, hrest⟩
      rwa [List.filter_cons_of_neg (by simp [hh])]
    · rw [awaiting_other hh] at h
      obtain ⟨polls, rest, m, rfl, hpolls, hrest⟩ :=
        exists_awaited (region, copy) rfl (fun _ _ => rfl) h
      obtain ⟨waiting, publishing, rfl, hwaiting, hpublishing⟩ := ih hrest
      refine ⟨polls :: waiting, publishing, by simp, ?_, hpublishing⟩
      rw [List.filter_cons_of_pos (by simp [hh])]
      exact .cons hpolls hwaiting

theorem copied {image : Text} {made : RegionImages} {later : List Region}
    (h : u.Leads (u.copying image made later n) row (.ended (.ok result))) :
    ∃ entries copying rest m, row = copying.map ([·]) ++ rest ∧ entries.map (·.1) = later ∧
      (∀ e ∈ entries, e.1 = u.home → e.2 = image) ∧
      List.Forall₂ (u.CopyStarted image) (entries.filter (·.1 ≠ u.home)) copying ∧
      u.Leads (u.awaiting (made ++ entries) (made ++ entries) m) rest (.ended (.ok result)) := by
  induction later generalizing made n row with
  | nil => exact ⟨[], [], row, n, rfl, rfl, nofun, .nil, by rwa [List.append_nil]⟩
  | cons region later ih =>
    by_cases hh : region = u.home
    · rw [copying_home hh] at h
      obtain ⟨entries, copying, rest, m, hrow, hregions, hhome, hcopied, hrest⟩ := ih h
      rw [List.append_assoc] at hrest
      refine ⟨(region, image) :: entries, copying, rest, m, hrow, by rw [List.map_cons, hregions],
        List.forall_mem_cons.2 ⟨fun _ => rfl, hhome⟩, ?_, hrest⟩
      rwa [List.filter_cons_of_neg (by simp [hh])]
    · rw [copying_other hh] at h
      obtain ⟨call, body, rest, m, rfl, hanswered, hlength, hrest⟩ := h.exists_call
      obtain ⟨copy, hc, hmore⟩ := hrest.of_onward
      obtain ⟨entries, copying, rest, m, rfl, hregions, hhome, hcopied, hrest⟩ := ih hmore
      -- A copy is never started again, so that its call is one request.
      obtain ⟨x, rfl⟩ : ∃ x, call = [x] := by
        have hone : call.length ≤ 1 := hlength
        have hpos := List.length_pos_iff.2 hanswered.ne_nil
        exact List.length_eq_one_iff.1 (by omega)
      rw [List.append_assoc] at hrest
      refine ⟨(region, copy) :: entries, x :: copying, rest, m, rfl,
        by rw [List.map_cons, hregions],
        List.forall_mem_cons.2 ⟨fun h => absurd h hh, hhome⟩, ?_, hrest⟩
      rw [List.filter_cons_of_pos (by simp [hh])]
      exact .cons ⟨body, hanswered, Compute.elementText_of_required hc⟩ hcopied

end Leads

/-- The calls of a run that succeeds with these images: at one point the image is registered and
waited for, and what follows is the replication of a public image and nothing else. -/
def Replicates (u : Run) (row : List (List Exchange)) (result : RegionImages) : Prop :=
  ∃ listing told before registering image polls more,
    row = listing :: before ++ registering :: polls ++ more ∧
    u.Listed listing told ∧ u.Registered registering image ∧ Awaited (u.home, image) polls ∧
    (∀ call ∈ before, ∀ x ∈ call,
      x.operation ∉ [Operation.registerImage, .copyImage, .modifyImageAttribute]) ∧
    if u.job.isPublic then
      ∃ copying waiting publishing, more = copying.map ([·]) ++ waiting.flatten ++ publishing ∧
        u.Replicated told image result copying waiting publishing
    else more = [] ∧ result = [(u.home, image)]

theorem Steps.replicates {n : Nat} {xs : List Exchange} {result : RegionImages}
    (h : u.Steps (.due .listRegions 0 n) xs (.ended (.ok result))) :
    u.Replicates (calls xs) result := by
  have hleads := h.leads trivial (Nat.zero_le _)
  obtain ⟨listing, body, rest, m, hrow, hlisting, -, hrest⟩ := hleads.exists_call
  obtain ⟨told, htold, hrest⟩ := hrest.of_onward
  obtain ⟨before, registering, image, later, m, rfl, hregistered, hbefore, hlater⟩ :=
    hrest.exists_registered (heads_uploading _)
  obtain ⟨polls, more, m, rfl, hpolls, hmore⟩ :=
    Leads.exists_awaited (u.home, image) rfl (fun _ _ => rfl) hlater
  refine ⟨listing, told, before, registering, image, polls, more, ?_, ⟨body, hlisting, htold⟩,
    hregistered, hpolls, hbefore, ?_⟩
  · rw [hrow]
    simp
  · by_cases hpublic : u.job.isPublic
    · rw [if_pos hpublic] at hmore ⊢
      obtain ⟨entries, copying, rest, m, rfl, hregions, hhome, hcopied, hrest⟩ := hmore.copied
      obtain ⟨waiting, publishing, rfl, hwaiting, hpublishing, rfl⟩ := hrest.awaited
      exact ⟨copying, waiting, publishing, by simp,
        hregions, hhome, hcopied, hwaiting, hpublishing⟩
    · rw [if_neg hpublic] at hmore ⊢
      obtain ⟨hnil, hr⟩ := hmore.of_ended
      cases hr
      exact ⟨hnil, rfl⟩

end Run

namespace Provisioner

end Provisioner

end MachineImage
