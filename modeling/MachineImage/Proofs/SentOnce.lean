import MachineImage.Announcement
import MachineImage.Proofs.Provenance
import MachineImage.Proofs.Sequence
import MachineImage.Proofs.StageOrder

/-!
How often a request goes out: what makes or deletes something is sent once, all else as often in a
row as failed attempts may be repeated, and nothing that was answered is sent again.
-/
namespace MachineImage

/-- Whether the body of a valid response says that the question is to be put again. -/
def Operation.isPending (operation : Operation) (body : Text) : Bool :=
  match operation with
  | .describeConversionTasks =>
    match Compute.conversionStatus body with
    | .ok (.inProgress _) => true
    | _ => false
  | .describeSnapshots =>
    match Compute.snapshotReadiness body with
    | .ok .pending => true
    | _ => false
  | .describeImages =>
    match Compute.imageReadiness body with
    | .ok .pending => true
    | _ => false
  | _ => false

/-- The operation of an order of that kind. -/
def Kind.operation : Kind → Operation
  | .stored _ => .storagePut
  | .called _ action => (Operation.inRun.find? (·.name = action)).getD .publish

theorem Operation.isRepeated_of_isPending {operation : Operation} {body : Text}
    (h : operation.isPending body = true) : operation.isRepeated = true := by
  cases operation with
  | describeConversionTasks | describeSnapshots | describeImages => rfl
  | _ => cases h

def Place.kind : Place → Kind
  | .once k | .repeatedly k => k

namespace Exchange

/-- With the exchange a call is over: its response is valid and does not say to ask again. -/
def concludes (x : Exchange) : Bool :=
  x.body.toOption.any fun body => !x.operation.isPending body

theorem operation_kind (x : Exchange) : x.kind.operation = x.operation := by
  rw [kind, operation]
  cases x.request.order <;> rfl

/-- Attempts that only the last may end stand in one call. -/
theorem exists_prefix_calls {attempts : List Exchange} (hne : attempts ≠ [])
    (h : ∀ x ∈ attempts.dropLast, x.isAccepted = false) (after : List Exchange) :
    ∃ first more, calls (attempts ++ after) = first :: more ∧ attempts <+: first := by
  induction attempts with
  | nil => exact absurd rfl hne
  | cons x attempts ih =>
    cases attempts with
    | nil =>
      rw [List.singleton_append]
      cases hx : x.isAccepted with
      | true => exact ⟨_, _, calls_cons_accepted hx after, List.prefix_rfl⟩
      | false => exact ⟨_, _, calls_cons_refused hx after, List.prefix_append [x] _⟩
    | cons y attempts =>
      rw [List.dropLast_cons_cons, List.forall_mem_cons] at h
      obtain ⟨first, more, hc, hp⟩ := ih (List.cons_ne_nil _ _) h.2
      refine ⟨x :: first, more, ?_, List.cons_prefix_cons.2 ⟨rfl, hp⟩⟩
      rw [List.cons_append, calls_cons_refused h.1, hc]
      rfl

theorem exists_infix_calls {attempts : List Exchange} (hne : attempts ≠ [])
    (h : ∀ x ∈ attempts.dropLast, x.isAccepted = false) (before after : List Exchange) :
    ∃ call ∈ calls (before ++ attempts ++ after), attempts <:+: call := by
  induction before with
  | nil =>
    obtain ⟨first, more, hc, hp⟩ := exists_prefix_calls hne h after
    refine ⟨first, ?_, hp.isInfix⟩
    rw [List.nil_append, hc]
    exact List.mem_cons_self
  | cons x before ih =>
    obtain ⟨call, hcall, hwithin⟩ := ih
    rw [List.cons_append, List.cons_append]
    cases hx : x.isAccepted with
    | true =>
      rw [calls_cons_accepted hx]
      exact ⟨call, List.mem_cons_of_mem _ hcall, hwithin⟩
    | false =>
      rw [calls_cons_refused hx]
      cases hc : calls (before ++ attempts ++ after) with
      | nil => rw [hc] at hcall; cases hcall
      | cons first more =>
        rw [hc] at hcall
        rcases List.mem_cons.1 hcall with rfl | hcall
        · exact ⟨_, List.mem_cons_self, hwithin.trans (List.suffix_cons x call).isInfix⟩
        · exact ⟨call, List.mem_cons_of_mem _ hcall, hwithin⟩

theorem concludes_of_refused {x : Exchange} (h : x.isAccepted = false) : x.concludes = false := by
  cases hb : x.body with
  | ok body => exact nomatch h.symm.trans (isAccepted_of_ok hb)
  | error e => simp [concludes, hb, Except.toOption]

theorem concludes_of_ok {x : Exchange} {body : Text} (h : x.body = .ok body) :
    x.concludes = !x.operation.isPending body := by
  simp [concludes, h, Except.toOption]

end Exchange

theorem Client.IsCall.within {c : Client} {call attempts : List Exchange} (h : c.IsCall call)
    (hwithin : attempts <:+: call) : c.IsCall attempts := by
  obtain ⟨order, hall, hlength⟩ := h
  exact ⟨order, fun x hx => hall x (hwithin.subset hx), Nat.le_trans hwithin.length_le hlength⟩

open Exchange

namespace Run

variable (u : Run)

/-- The calls of a run where these are the regions, one letter for each. Questions that are put
until something is ready are calls of one letter. -/
def word (told : List Region) : List Kind :=
  calling u.home .describeRegions ::
    (u.partPlaces 0 (partsOf u.provisioner.partSize u.image).length ++
      u.importing told).map Place.kind

/-- The letters from a stage on. -/
def wordFrom (told : List Region) : Stage → List Kind
  | .listRegions => u.word told
  | σ => (u.ahead told σ).map Place.kind

/-- The letters that a state leaves. -/
def wordOf (told : List Region) : RunState → List Kind
  | .due σ _ _ => u.wordFrom told σ
  | .ended _ => []

variable {u} {told : List Region}

theorem exists_of_going_onward {α : Type} {answer : Except RunError α} {next : α → RunState}
    (h : u.Going (.onward answer next)) : ∃ x, answer = .ok x ∧ u.Going (next x) := by
  cases answer with
  | error e => cases h
  | ok x => exact ⟨x, rfl, h⟩

theorem wordOf_storing {regions : List Region} {draft : ManifestDraft} {left : Octets}
    {start index n : Nat} (h : u.Going (u.storing regions draft left start index n)) :
    u.wordOf told (u.storing regions draft left start index n) =
      (u.partPlaces index (partCount (u.image.length - start) u.provisioner.partSize) ++
        u.importing regions).map Place.kind := by
  unfold storing at h ⊢
  split at h
  · next hlt =>
    cases h with
    | due hfits _ =>
      rw [if_pos hlt, partCount_eq_succ hfits.1.partSize_pos (Nat.sub_pos_of_lt hlt)]
      rfl
  · next hge =>
    obtain ⟨manifest, hm, -⟩ := exists_of_going_onward h
    rw [if_neg hge, Nat.sub_eq_zero_of_le (Nat.le_of_not_lt hge), partCount_zero, finishing, hm]
    rfl

theorem wordOf_uploading {regions : List Region} {n : Nat} (h : u.Going (u.uploading regions n)) :
    u.wordOf told (u.uploading regions n) =
      (u.partPlaces 0 (partsOf u.provisioner.partSize u.image).length ++
        u.importing regions).map Place.kind := by
  obtain ⟨image, hc, hi⟩ := exists_of_going_onward h
  rw [uploading, hc, length_partsOf (contents_eq_ok.1 hc).1]
  exact wordOf_storing hi

theorem wordOf_publishing (images later : RegionImages) (n : Nat) :
    u.wordOf told (publishing images later n) =
      (publishPlaces (later.map (·.1))).map Place.kind := by
  cases later <;> rfl

theorem wordOf_awaiting (images later : RegionImages) (n : Nat) :
    u.wordOf told (u.awaiting images later n) =
      (u.awaitPlaces (later.map (·.1)) ++ publishPlaces (images.map (·.1))).map Place.kind := by
  induction later with
  | nil => exact wordOf_publishing images images n
  | cons entry later ih =>
    obtain ⟨region, copy⟩ := entry
    by_cases hr : region = u.home
    · rw [awaiting_home hr, ih]
      simp [awaitPlaces, hr]
    · rw [awaiting_other hr]
      simp [awaitPlaces, hr, wordOf, wordFrom, ahead]

theorem wordOf_copying (image : Text) (made : RegionImages) (later : List Region) (n : Nat) :
    u.wordOf told (u.copying image made later n) =
      (u.copyPlaces later ++ u.awaitPlaces (made.map (·.1) ++ later) ++
        publishPlaces (made.map (·.1) ++ later)).map Place.kind := by
  induction later generalizing made with
  | nil =>
    rw [copying, wordOf_awaiting]
    simp [copyPlaces]
  | cons region later ih =>
    by_cases hr : region = u.home
    · rw [copying_home hr, ih]
      simp [copyPlaces, hr]
    · rw [copying_other hr]
      simp [copyPlaces, hr, wordOf, wordFrom, ahead]

/-- A valid response takes the letter of its stage away, unless it says to ask again. -/
theorem wordFrom_of_answered {σ : Stage} {body : Text} {n : Nat}
    (hl : σ = .listRegions → Compute.regions body = .ok told) (h : u.Going (u.answered body n σ)) :
    u.wordFrom told σ = if σ.operation.isPending body then u.wordOf told (u.answered body n σ)
      else (u.order σ).kind :: u.wordOf told (u.answered body n σ) := by
  cases σ with
  | listRegions =>
    obtain ⟨regions, hr, hu⟩ := exists_of_going_onward h
    rw [hl rfl, Except.ok.injEq] at hr
    rw [answered, hl rfl, hr]
    exact congrArg _ (wordOf_uploading hu).symm
  | storePart regions draft left start index =>
    obtain ⟨round, hround, hr⟩ := exists_of_going_onward h
    obtain ⟨-, -, -, rfl⟩ := Round.of?_eq_some.1 (RunError.inRange_eq_ok.1 hround)
    rw [answered, hround, RunState.onward, wordOf_storing hr, sub_partLength, wordFrom, ahead,
      partPlaces, List.range'_succ]
    · rfl
    · intro h
      cases h
  | storeManifest regions manifest => rfl
  | importVolume regions url size gibibytes =>
    obtain ⟨task, ht, -⟩ := exists_of_going_onward h
    rw [answered, ht]
    rfl
  | awaitVolume regions task =>
    -- The letter stays as long as nothing is ready.
    obtain ⟨status, hs, -⟩ := exists_of_going_onward h
    simp only [answered, Stage.operation, Operation.isPending, hs]
    cases status <;> rfl
  | createSnapshot regions volume =>
    obtain ⟨snapshot, hs, -⟩ := exists_of_going_onward h
    rw [answered, hs]
    rfl
  | awaitSnapshot regions volume snapshot =>
    obtain ⟨readiness, hs, -⟩ := exists_of_going_onward h
    simp only [answered, Stage.operation, Operation.isPending, hs]
    cases readiness <;> rfl
  | deleteVolume regions volume snapshot =>
    obtain ⟨_, hc, -⟩ := exists_of_going_onward h
    have hshared : (u.sharing regions).map Place.kind = u.wordOf told
        (if u.job.hasPublicSnapshot then .due (.publishSnapshot regions snapshot) 0 n
          else .due (.registerImage regions snapshot) 0 n) := by
      rw [sharing]
      split <;> rfl
    rw [answered, hc]
    exact congrArg _ hshared
  | publishSnapshot regions snapshot =>
    obtain ⟨_, hc, -⟩ := exists_of_going_onward h
    rw [answered, hc]
    rfl
  | registerImage regions snapshot =>
    obtain ⟨image, hi, -⟩ := exists_of_going_onward h
    rw [answered, hi, kind_order_registerImage]
    rfl
  | awaitImage regions image =>
    obtain ⟨readiness, hs, -⟩ := exists_of_going_onward h
    simp only [answered, Stage.operation, Operation.isPending, hs]
    cases readiness with
    | pending => rfl
    | ready =>
      have hreplicated : (u.replication regions).map Place.kind = u.wordOf told
          (if u.job.isPublic then u.copying image [] (Provisioner.targets u.home regions) n
            else .ended (.ok [(u.home, image)])) := by
        rw [replication]
        split
        · exact (wordOf_copying image [] _ n).symm
        · rfl
      exact congrArg _ hreplicated
  | copyImage image made region later =>
    obtain ⟨copy, hc, -⟩ := exists_of_going_onward h
    have hmade : (made ++ [(region, copy)]).map (·.1) ++ later =
        made.map (·.1) ++ region :: later := by
      simp
    have hw : u.wordOf told (u.copying image (made ++ [(region, copy)]) later n) = _ :=
      wordOf_copying image _ later n
    rw [hmade] at hw
    rw [answered, hc]
    exact congrArg _ hw.symm
  | awaitCopy images region copy later =>
    obtain ⟨readiness, hs, -⟩ := exists_of_going_onward h
    simp only [answered, Stage.operation, Operation.isPending, hs]
    cases readiness with
    | pending => rfl
    | ready => exact congrArg _ (wordOf_awaiting images later n).symm
  | publishImage images region image later =>
    obtain ⟨_, hc, -⟩ := exists_of_going_onward h
    rw [answered, hc]
    exact congrArg _ (wordOf_publishing images later n).symm

/-- The letter of a stage is the next one. -/
theorem exists_wordFrom (told : List Region) (σ : Stage) :
    ∃ w, u.wordFrom told σ = (u.order σ).kind :: w := by
  cases σ with
  | storePart regions draft left start index =>
    rw [wordFrom, ahead, partPlaces, List.range'_succ]
    · exact ⟨_, rfl⟩
    · intro h
      cases h
  | registerImage =>
    rw [kind_order_registerImage]
    exact ⟨_, rfl⟩
  | _ => exact ⟨_, rfl⟩

/-- The exchanges from a stage on keep to its letters. -/
structure Keeps (u : Run) (told : List Region) (σ : Stage) (xs : List Exchange) : Prop where
  inTurn : ∀ before x after, xs = before ++ x :: after →
    (u.wordFrom told σ)[(before.filter concludes).length]? = some x.kind
  answered : ∀ before x after, xs = before ++ x :: after → x.isAccepted = true → after ≠ [] →
    x.verdict = .ok ()
  once : ((xs.filter (!·.operation.isRepeated)).map kind) <+:
    (u.wordFrom told σ).filter (!·.operation.isRepeated)

theorem keeps_nil (told : List Region) (σ : Stage) : u.Keeps told σ [] where
  inTurn before x after h := by simp at h
  answered before x after h := by simp at h
  once := List.nil_prefix

theorem kind_eq {σ : Stage} {x : Exchange} (h : x.request.order = u.order σ) :
    x.kind = (u.order σ).kind := by
  rw [kind, h]

/-- An exchange with which a run ends. -/
theorem keeps_singleton (told : List Region) {σ : Stage} {x : Exchange}
    (hx : x.request.order = u.order σ) : u.Keeps told σ [x] := by
  obtain ⟨w, hw⟩ := exists_wordFrom (u := u) told σ
  rw [← kind_eq hx] at hw
  have alone : ∀ {before y after},
      [x] = before ++ y :: after → before = [] ∧ y = x ∧ after = [] := by
    intro before y after h
    obtain ⟨rfl, h⟩ | ⟨-, h⟩ := List.singleton_eq_append_iff.1 h
    · obtain ⟨rfl, rfl⟩ := List.cons.inj h
      exact ⟨rfl, rfl, rfl⟩
    · cases h
  constructor
  · intro before y after h
    obtain ⟨rfl, rfl, -⟩ := alone h
    rw [hw]
    rfl
  · intro before y after h _ hne
    exact absurd (alone h).2.2 hne
  · rw [hw, List.filter_cons, List.filter_cons, operation_kind]
    split
    · exact List.prefix_append [_] _
    · exact List.nil_prefix

theorem Keeps.cons {σ σ' : Stage} {x : Exchange} {xs : List Exchange} (h : u.Keeps told σ' xs)
    (hx : x.request.order = u.order σ) (hok : x.isAccepted = true → x.verdict = .ok ())
    (hword : u.wordFrom told σ =
      if x.concludes then x.kind :: u.wordFrom told σ' else u.wordFrom told σ')
    (hrepeated : x.concludes = false → x.operation.isRepeated = true) :
    u.Keeps told σ (x :: xs) := by
  obtain ⟨w, hw⟩ := exists_wordFrom (u := u) told σ
  constructor
  · intro before y after heq
    cases before with
    | nil =>
      obtain ⟨rfl, -⟩ := List.cons.inj heq
      rw [hw, kind_eq hx]
      rfl
    | cons z before =>
      obtain ⟨rfl, hxs⟩ := List.cons.inj heq
      have hturn := h.inTurn before y after hxs
      rw [hword, List.filter_cons]
      split
      · exact hturn
      · exact hturn
  · intro before y after heq
    cases before with
    | nil =>
      obtain ⟨rfl, -⟩ := List.cons.inj heq
      exact fun hacc _ => hok hacc
    | cons z before => exact h.answered before y after (List.cons.inj heq).2
  · rw [hword]
    cases hc : x.concludes with
    | true =>
      rw [if_pos rfl, List.filter_cons, List.filter_cons, operation_kind]
      split
      · exact List.cons_prefix_cons.2 ⟨rfl, h.once⟩
      · exact h.once
    | false =>
      rw [List.filter_cons_of_neg (by simp [hrepeated hc]), if_neg Bool.false_ne_true]
      exact h.once

theorem Steps.keeps {told : List Region} {σ : Stage} {failures readings : Nat}
    {xs : List Exchange} {b : RunState} (h : u.Steps (.due σ failures readings) xs b)
    (hσ : u.Fits σ) (ht : σ = .listRegions → toldRegions xs = told) : u.Keeps told σ xs := by
  generalize ha : RunState.due σ failures readings = a at h
  induction h generalizing σ failures readings with
  | refl => exact keeps_nil told σ
  | @step σ failures readings reply xs b h ih =>
    cases ha
    have horder : (u.request σ readings).order = u.order σ := order_request σ readings
    have hop : Exchange.operation ⟨u.request σ readings, reply⟩ = σ.operation := by
      rw [Exchange.operation, horder, operation_order]
    have hm := met_replied (u := u) hσ failures readings reply
    have ended : ∀ r, u.Steps (.ended r) xs b →
        u.Keeps told σ (⟨u.request σ readings, reply⟩ :: xs) := by
      intro r hr
      obtain ⟨rfl, -⟩ := hr.of_ended
      exact keeps_singleton told horder
    generalize u.replied σ failures readings reply = c at h ih hm
    cases hm with
    | again hx hlt =>
      -- Only where attempts are left the same letter is tried again.
      have hs := ih hσ (fun hs => by rw [← ht hs, toldRegions_refused hx]) rfl
      refine hs.cons horder ?_ ?_ ?_
      · exact fun hacc => absurd (hx.symm.trans hacc) Bool.false_ne_true
      · rw [concludes_of_refused hx, if_neg Bool.false_ne_true]
      · intro _
        rw [hop]
        cases hrepeated : σ.operation.isRepeated with
        | true => rfl
        | false =>
          rw [further, hrepeated] at hlt
          exact absurd hlt (Nat.not_lt_zero _)
    | wrong _ => exact ended _ h
    | unreadable _ _ _ _ => exact ended _ h
    | @going body hb hv hg =>
      -- The regions that later letters name are known from the first answer.
      have hl : σ = .listRegions → Compute.regions body = .ok told := by
        intro hs
        subst hs
        obtain ⟨regions, hr, -⟩ := exists_of_going_onward hg
        rw [← ht rfl, toldRegions_accepted hb hr]
        exact hr
      have hword := wordFrom_of_answered hl hg
      generalize u.answered body (readings + 1) σ = c at h ih hg hword
      cases hg with
      | ended => exact ended _ h
      | @due σ' _ hfits hs =>
        have hconcludes : Exchange.concludes ⟨u.request σ readings, reply⟩ =
            !σ.operation.isPending body := by
          rw [concludes_of_ok hb, hop]
        refine (ih hfits (fun h => absurd h hs) rfl).cons horder (fun _ => hv) ?_ ?_
        · rw [hword, hconcludes, kind_eq horder]
          cases σ.operation.isPending body <;> rfl
        · intro hpending
          rw [hconcludes, Bool.not_eq_false'] at hpending
          rw [hop]
          exact Operation.isRepeated_of_isPending hpending

/-- What a run makes and deletes, in order. -/
def creating (u : Run) (told : List Region) : List Kind :=
  [.importVolume, .createSnapshot, .deleteVolume, .registerImage].map (calling u.home) ++
    if u.job.isPublic then
      ((Provisioner.targets u.home told).filter (· ≠ u.home)).map (calling · .copyImage)
    else []

theorem operation_calling {region : Region} {operation : Operation}
    (h : operation ∈ Operation.inRun) : (calling region operation).operation = operation := by
  rw [calling, Kind.operation, Operation.find?_name h, Option.getD_some]

theorem filter_calling {operation : Operation} (h : operation ∈ Operation.inRun)
    (regions : List Region) :
    (regions.map (calling · operation)).filter (!·.operation.isRepeated) =
      if operation.isRepeated then [] else regions.map (calling · operation) := by
  split
  · next hr =>
    refine List.filter_eq_nil_iff.2 fun k hk => ?_
    obtain ⟨region, -, rfl⟩ := List.mem_map.1 hk
    simp [operation_calling h, hr]
  · next hr =>
    refine List.filter_eq_self.2 fun k hk => ?_
    obtain ⟨region, -, rfl⟩ := List.mem_map.1 hk
    simp [operation_calling h, hr]

theorem filter_partPlaces (first count : Nat) :
    ((u.partPlaces first count).map Place.kind).filter (!·.operation.isRepeated) = [] := by
  refine List.filter_eq_nil_iff.2 fun k hk => ?_
  obtain ⟨place, hplace, rfl⟩ := List.mem_map.1 hk
  obtain ⟨i, -, rfl⟩ := List.mem_map.1 hplace
  exact nofun

theorem filter_replication (told : List Region) :
    ((u.replication told).map Place.kind).filter (!·.operation.isRepeated) =
      if u.job.isPublic then
        ((Provisioner.targets u.home told).filter (· ≠ u.home)).map (calling · .copyImage)
      else [] := by
  rw [replication]
  split
  · have hcopies := filter_calling (by decide : Operation.copyImage ∈ Operation.inRun)
      ((Provisioner.targets u.home told).filter (· ≠ u.home))
    have hpolls := filter_calling (by decide : Operation.describeImages ∈ Operation.inRun)
      ((Provisioner.targets u.home told).filter (· ≠ u.home))
    have hchanges := filter_calling (by decide : Operation.modifyImageAttribute ∈ Operation.inRun)
      (Provisioner.targets u.home told)
    have hletters : ∀ targets, (u.copyPlaces targets ++ u.awaitPlaces targets ++
        publishPlaces targets).map Place.kind =
          (targets.filter (· ≠ u.home)).map (calling · .copyImage) ++
            (targets.filter (· ≠ u.home)).map (calling · .describeImages) ++
            targets.map (calling · .modifyImageAttribute) := by
      intro targets
      simp [copyPlaces, awaitPlaces, publishPlaces, Function.comp_def, Place.kind]
    rw [hletters, List.filter_append, List.filter_append, hcopies, hpolls, hchanges]
    simp [Operation.isRepeated]
  · rfl

theorem filter_word (told : List Region) :
    (u.word told).filter (!·.operation.isRepeated) = u.creating told := by
  have hshared : ((u.sharing told).map Place.kind).filter (!·.operation.isRepeated) =
      calling u.home .registerImage ::
        ((u.replication told).map Place.kind).filter (!·.operation.isRepeated) := by
    rw [sharing]
    split <;> rfl
  have himporting : ((u.importing told).map Place.kind).filter (!·.operation.isRepeated) =
      [.importVolume, .createSnapshot, .deleteVolume].map (calling u.home) ++
        ((u.sharing told).map Place.kind).filter (!·.operation.isRepeated) := rfl
  have hregions : (!(calling u.home .describeRegions).operation.isRepeated) = false := rfl
  rw [creating, ← filter_replication, word, List.filter_cons, hregions, List.map_append,
    List.filter_append, filter_partPlaces, himporting, hshared]
  rfl

/-- Among what is made and deleted only the copies are many. -/
theorem filter_creating (told : List Region) (operation : Operation) :
    (u.creating told).filter (·.operation = operation) =
      (([.importVolume, .createSnapshot, .deleteVolume, .registerImage] : List Operation).filter
        (· = operation)).map (calling u.home) ++
      if u.job.isPublic ∧ operation = .copyImage then
        ((Provisioner.targets u.home told).filter (· ≠ u.home)).map (calling · .copyImage)
      else [] := by
  have hcopy : ∀ k ∈ ((Provisioner.targets u.home told).filter (· ≠ u.home)).map
      (calling · .copyImage), k.operation = .copyImage := by
    intro k hk
    obtain ⟨region, -, rfl⟩ := List.mem_map.1 hk
    rfl
  have hcopies : (if u.job.isPublic then
      ((Provisioner.targets u.home told).filter (· ≠ u.home)).map (calling · .copyImage)
      else []).filter (·.operation = operation) =
      if u.job.isPublic ∧ operation = .copyImage then
        ((Provisioner.targets u.home told).filter (· ≠ u.home)).map (calling · .copyImage)
      else [] := by
    by_cases hpublic : u.job.isPublic
    · by_cases ho : operation = .copyImage
      · rw [if_pos hpublic, if_pos ⟨hpublic, ho⟩]
        exact List.filter_eq_self.2 fun k hk => by simp [hcopy k hk, ho]
      · rw [if_pos hpublic, if_neg fun h => ho h.2]
        exact List.filter_eq_nil_iff.2 fun k hk => by simp [hcopy k hk, Ne.symm ho]
    · rw [if_neg hpublic, if_neg fun h => hpublic h.1]
      rfl
  rw [creating, List.filter_append, hcopies, List.filter_map]
  rfl

/-- The requests for an operation that is not repeated, in order. -/
theorem Keeps.prefix_creating {told : List Region} {xs : List Exchange}
    (h : u.Keeps told .listRegions xs) {operation : Operation}
    (hrepeated : operation.isRepeated = false) :
    (xs.filter (·.operation = operation)).map kind <+:
      (u.creating told).filter (·.operation = operation) := by
  have hsame : ∀ x : Exchange, (decide (x.kind.operation = operation) && !x.operation.isRepeated) =
      decide (x.operation = operation) := by
    intro x
    rw [operation_kind]
    by_cases hx : x.operation = operation
    · simp [hx, hrepeated]
    · simp [hx]
  have hsent := h.once.filter (fun k => k.operation = operation)
  rw [wordFrom, filter_word, List.filter_map, List.filter_filter] at hsent
  simpa only [Function.comp_def, hsame] using hsent

end Run

/-- What is sent keeps to the calls of the run, and what makes or deletes something is sent once. -/
structure Run.SentOnce (u : Run) (xs : List Exchange) : Prop where
  /-- Every request is for the call whose turn it is: those before it are over, each with a valid
  response, and with one that does not say to ask again where it was a question. -/
  inTurn : ∀ before x after, xs = before ++ x :: after →
    (u.word (toldRegions xs))[(before.filter concludes).length]? = some x.kind
  /-- Nothing follows a valid response in which something is wrong. -/
  answered : ∀ before x after, xs = before ++ x :: after → x.isAccepted = true → after ≠ [] →
    x.verdict = .ok ()
  once : ∀ operation ∈ [Operation.importVolume, .createSnapshot, .deleteVolume, .registerImage,
    .publish], (xs.filter (·.operation = operation)).length ≤ 1
  /-- One copy for each target but the home region, in order. -/
  copies : (xs.filter (·.operation = .copyImage)).map kind <+: if u.job.isPublic then
      ((Provisioner.targets u.home (toldRegions xs)).filter (· ≠ u.home)).map
        (Run.calling · .copyImage)
    else []
  /-- Attempts in a row, until one has got a valid response, are for one order and no more than its
  operation gets. -/
  inRow : ∀ before attempts after, xs = before ++ attempts ++ after → attempts ≠ [] →
    (∀ x ∈ attempts.dropLast, x.isAccepted = false) → u.client.IsCall attempts

namespace Run

variable {u : Run}

theorem Steps.sentOnce {readings : Nat} {xs : List Exchange} {b : RunState}
    (h : u.Steps (.due .listRegions 0 readings) xs b) : u.SentOnce xs := by
  have hkeeps := h.keeps trivial fun _ => rfl
  constructor
  case inTurn => exact hkeeps.inTurn
  case answered => exact hkeeps.answered
  case once =>
    intro operation hoperation
    have hone : operation.isRepeated = false ∧ operation ≠ .copyImage ∧
        (([.importVolume, .createSnapshot, .deleteVolume, .registerImage] : List Operation).filter
          (· = operation)).length ≤ 1 := by
      revert operation
      decide
    obtain ⟨hrepeated, hcopy, hlength⟩ := hone
    have hsent := (hkeeps.prefix_creating hrepeated).length_le
    rw [filter_creating, if_neg fun h => hcopy h.2, List.append_nil, List.length_map,
      List.length_map] at hsent
    exact Nat.le_trans hsent hlength
  case copies =>
    have hcopies := hkeeps.prefix_creating (rfl : Operation.copyImage.isRepeated = false)
    rw [filter_creating] at hcopies
    simpa using hcopies
  case inRow =>
    rintro before attempts after rfl hne hrefused
    -- Such attempts may be cut out of a call, whose bound they keep.
    obtain ⟨call, hcall, hwithin⟩ := exists_infix_calls hne hrefused before after
    have hxs : before ++ attempts ++ after ≠ [] := by simp [hne]
    obtain ⟨first, more, hc, hi⟩ := h.issued trivial (Nat.zero_le _) hxs
    rw [hc] at hcall
    rcases List.mem_cons.1 hcall with rfl | hcall
    · exact hi.isCall_first.within hwithin
    · exact (hi.isCall call hcall).within hwithin

end Run

/-- An announcement is sent once, if its topic names a region. -/
theorem Client.sentOnce_announce (c : Client) (a : Announcement) (imageName : Text)
    (images : RegionImages) (s : Session) :
    ((c.announce a imageName images).exchanges s).length ≤ 1 ∧
      ∀ x ∈ (c.announce a imageName images).exchanges s, x.operation = .publish := by
  have hdoes : (c.announce a imageName images).Does s fun xs _ =>
      xs.length ≤ 1 ∧ ∀ x ∈ xs, x.operation = .publish := by
    refine Action.Does.bind (m := fun xs _ => xs = []) ?_ ?_ ?_
    · exact ⟨[], .refl s, rfl⟩
    · rintro _ region t - rfl
      obtain ⟨reply, hx, -, -⟩ := c.exchanged_attempt
        (.call .notification region (a.form imageName images)) Wire.apiBody t
      refine Action.Does.bind (m := fun xs _ => xs.length ≤ 1 ∧ ∀ x ∈ xs, x.operation = .publish)
        ⟨_, hx, Nat.le_refl 1, ?_⟩ ?_ ?_
      · rw [List.forall_mem_singleton, Exchange.operation, order_request]
        rfl
      · rintro xs body t' - hxs
        exact ⟨[], .refl t', by simpa using hxs⟩
      · exact fun _ _ hxs => hxs
    · rintro _ e rfl
      exact ⟨Nat.zero_le 1, fun _ hx => absurd hx List.not_mem_nil⟩
  obtain ⟨xs, hx, hxs⟩ := hdoes
  rw [Action.exchanges_eq hx]
  exact hxs

namespace Provisioner

variable (p : Provisioner) (job : ImageJob) (nonce : Octets) (s : Session)

/-- A run sends so whatever comes back and however long the replies go on, and an announcement is
sent once at most. -/
theorem sentOnce_run :
    (Run.mk p job nonce s.clock).SentOnce ((p.run job nonce).exchanges s) ∧
      (∀ replies count,
        (Run.mk p job nonce s.clock).SentOnce ((p.run job nonce).firstExchanges s replies count)) ∧
      ∀ (c : Client) (a : Announcement) (imageName : Text) (images : RegionImages),
        ((c.announce a imageName images).exchanges s).length ≤ 1 ∧
          ∀ x ∈ (c.announce a imageName images).exchanges s, x.operation = .publish := by
  refine ⟨(Run.steps_run p job nonce s).2.sentOnce, fun replies count => ?_,
    fun c a imageName images => c.sentOnce_announce a imageName images s⟩
  obtain ⟨b, hb, -⟩ := p.steps_firstExchanges job nonce s replies count
  exact hb.sentOnce

end Provisioner

end MachineImage
