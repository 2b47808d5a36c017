import MachineImage.Proofs.Stage

/-!
Every run goes through its stages: the exchanges that a session sees are steps of the machine, and
the outcome is the one in which the machine ends.
-/
namespace MachineImage

variable {ε δ α β : Type}

namespace Action

theorem silent_pause (n : Notice) (interval : Nat) : (pause n interval : Action ε Unit).Silent := by
  intro s
  cases n with
  | dot => exact ⟨_, rfl, rfl, rfl, by simp [Session.exchanges, Event.exchange?], 0, by simp⟩
  | status heading text =>
    exact ⟨_, rfl, rfl, rfl, by simp [Session.exchanges, Event.exchange?], 0, by simp⟩

end Action

/-- The state of a run that a failure has ended. -/
def RunState.failed (e : RunError) : RunState := .ended (.error e)

namespace Run

variable {u : Run}

/-- Where the machine is when an action has ended so. -/
def behind (k : α → Nat → RunState) (fail : ε → RunState) (o : Except ε α × Session) : RunState :=
  match o.1 with
  | .ok x => k x o.2.readings
  | .error e => fail e

/-- Where the machine is behind a poll. -/
def polled (pending : Nat → RunState) (ready : α → Nat → RunState) : Poll α → Nat → RunState
  | .pending _ => pending
  | .ready x => ready x

/-- The action takes the machine from one state to another, which depends on its outcome. Each state
depends on how often the clock was read before it. -/
def Moves (u : Run) (a : Action ε α) (start : Nat → RunState) (k : α → Nat → RunState)
    (fail : ε → RunState) : Prop :=
  ∀ s : Session, s.clock = u.clock → ∃ xs, s.Exchanged xs (a.outcome s).2 ∧
    u.Steps (start s.readings) xs (behind k fail (a.outcome s))

theorem Moves.pure {start : Nat → RunState} {k : α → Nat → RunState} {fail : ε → RunState} (x : α)
    (h : ∀ n, start n = k x n) : u.Moves (pure x) start k fail :=
  fun s _ => ⟨[], .refl s, by rw [h]; exact .refl⟩

theorem Moves.throw {start : Nat → RunState} {k : α → Nat → RunState} {fail : ε → RunState} (e : ε)
    (h : ∀ n, start n = fail e) : u.Moves (throw e) start k fail :=
  fun s _ => ⟨[], .refl s, by rw [h]; exact .refl⟩

theorem Moves.bind {a : Action ε α} {f : α → Action ε β} {start : Nat → RunState}
    {m : α → Nat → RunState} {k : β → Nat → RunState} {fail : ε → RunState}
    (ha : u.Moves a start m fail) (hf : ∀ x, u.Moves (f x) (m x) k fail) :
    u.Moves (a >>= f) start k fail := by
  intro s hs
  obtain ⟨xs, hx, hsteps⟩ := ha s hs
  rw [Action.outcome_bind]
  rcases ho : a.outcome s with ⟨r, t⟩
  rw [ho] at hx hsteps
  cases r with
  | error e => exact ⟨xs, hx, hsteps⟩
  | ok x =>
    obtain ⟨ys, hy, hsteps'⟩ := hf x t (hx.clock.trans hs)
    exact ⟨xs ++ ys, hx.trans hy, hsteps.trans hsteps'⟩

theorem Moves.adapt {a : Action ε α} {f : ε → δ} {start : Nat → RunState}
    {k : α → Nat → RunState} {fail : δ → RunState}
    (h : u.Moves a start k fun e => fail (f e)) : u.Moves (a.adapt f) start k fail := by
  intro s hs
  obtain ⟨xs, hx, hsteps⟩ := h s hs
  refine ⟨xs, hx, ?_⟩
  simp only [behind, Action.outcome_adapt] at hsteps ⊢
  cases ho : (a.outcome s).1 with
  | ok x =>
    rw [ho] at hsteps
    exact hsteps
  | error e =>
    rw [ho] at hsteps
    exact hsteps

theorem Moves.silent {a : Action ε Unit} (h : a.Silent) {start : Nat → RunState}
    {k : Unit → Nat → RunState} {fail : ε → RunState} (hs : ∀ n, start n = k () n) :
    u.Moves a start k fail := by
  intro s _
  obtain ⟨t, ho, hr, hx⟩ := h s
  refine ⟨[], by rw [ho]; exact hx, ?_⟩
  rw [ho, hs, ← hr]
  exact .refl

/-- A silent action before another one changes nothing. -/
theorem Moves.after_silent {a : Action ε Unit} (h : a.Silent) {b : Action ε β}
    {start : Nat → RunState} {k : β → Nat → RunState} {fail : ε → RunState}
    (hb : u.Moves b start k fail) : u.Moves (a >>= fun _ => b) start k fail :=
  Moves.bind (Moves.silent h fun _ => rfl) fun _ => hb

theorem Moves.ofExcept {start : Nat → RunState} {k : α → Nat → RunState} (e : Except RunError α)
    (h : ∀ n, start n = .onward e fun x => k x n) :
    u.Moves (Action.ofExcept e) start k .failed := by
  intro s _
  refine ⟨[], .refl s, ?_⟩
  rw [h]
  cases e <;> exact .refl

/-- Signing a URL reads the clock. -/
theorem moves_presign (method : String) (path : Text) {start : Nat → RunState}
    {k : Text → Nat → RunState} {fail : RunError → RunState}
    (h : ∀ n, start n = k (u.client.urlAt u.destination (u.clock n) method path) (n + 1)) :
    u.Moves (u.client.presign u.home u.job.bucket method.toList path Signing.expiry) start k
      fail := by
  intro s hs
  refine ⟨[], ⟨rfl, by simp [Session.exchanges]; rfl, 0, ?_⟩, ?_⟩
  · simp
    rfl
  · rw [h, ← hs]
    exact .refl

/-- Asking until something is ready stays at the stage that asks. -/
theorem Moves.await {query : Action RunError (Poll α)} (consumes : query.Consumes) (interval : Nat)
    {start : Nat → RunState} {k : α → Nat → RunState}
    (h : u.Moves query start (polled start k) .failed) :
    u.Moves (Action.await query consumes interval) start k .failed := by
  have key : ∀ s : Session, s.clock = u.clock →
      ∃ xs, s.Exchanged xs (Action.awaitFrom query consumes interval s).2 ∧
        u.Steps (start s.readings) xs
          (behind k .failed (Action.awaitFrom query consumes interval s)) := by
    intro s hs
    -- Each poll leaves fewer replies; the recursion of the loop is the induction.
    induction s using Action.awaitFrom.induct query consumes interval with
    | case1 s e t ho =>
      obtain ⟨xs, hx, hsteps⟩ := h s hs
      rw [Action.awaitFrom, ho]
      rw [ho] at hx hsteps
      exact ⟨xs, hx, hsteps⟩
    | case2 s x t ho =>
      obtain ⟨xs, hx, hsteps⟩ := h s hs
      rw [Action.awaitFrom, ho]
      rw [ho] at hx hsteps
      exact ⟨xs, hx, hsteps⟩
    | case3 s n t ho ih =>
      obtain ⟨xs, hx, hsteps⟩ := h s hs
      rw [Action.awaitFrom, ho]
      rw [ho] at hx hsteps
      obtain ⟨p, hp, hr, hxp⟩ := Action.silent_pause (ε := RunError) n interval t
      simp only [hp] at ih ⊢
      obtain ⟨ys, hy, hsteps'⟩ := ih (hxp.clock.trans (hx.clock.trans hs))
      rw [hr] at hsteps'
      exact ⟨xs ++ ys, hx.trans (hxp.trans hy), hsteps.trans hsteps'⟩
  exact fun s hs => key s hs

/-- The state behind the last attempt at a stage. -/
def concluded (u : Run) (σ : Stage) (readings : Nat) : Except ExchangeError Text → RunState
  | .ok body => u.answered body readings σ
  | .error e => .failed (.request σ.operation e)

theorem steps_of_attempts {σ : Stage} {further failures reading : Nat} {xs : List Exchange}
    {r : Except ExchangeError Text}
    (h : u.client.Attempts u.clock (u.order σ) further reading xs r)
    (hf : failures + further = u.further σ) :
    u.Steps (.due σ failures reading) xs (u.concluded σ (reading + xs.length) r) := by
  induction h generalizing failures with
  | success hb =>
    refine .step ?_
    rw [replied, request, hb]
    exact .refl
  | failure hb =>
    refine .step ?_
    rw [replied, request, hb]
    simp only [if_neg (by omega : ¬ failures < u.further σ)]
    exact .refl
  | again hb _ ih =>
    refine .step ?_
    rw [replied, request, hb]
    simp only [if_pos (by omega : failures < u.further σ)]
    have hsteps := @ih (failures + 1) (by omega)
    rwa [List.length_cons, ← Nat.add_assoc, Nat.add_right_comm]

theorem moves_attempts (σ : Stage) (check : Octets → Except ExchangeError α) (text : α → Text)
    (reads : ∀ response, (u.order σ).read response = (check response).map text) :
    u.Moves (retryFrom (fun _ => u.client.attempt (u.order σ) check) 1 (u.further σ)) (.due σ 0)
      (fun x n => u.answered (text x) n σ) fun e => .failed (.request σ.operation e) := by
  intro s hs
  obtain ⟨xs, hx, hr, ha⟩ :=
    u.client.attempts_retryFrom (u.order σ) check text reads (u.further σ) 1 s
  refine ⟨xs, hx, ?_⟩
  rw [hs] at ha
  have hsteps := steps_of_attempts ha (Nat.zero_add _)
  rw [← hr] at hsteps
  revert hsteps
  rcases Action.outcome (retryFrom _ 1 (u.further σ)) s with ⟨r, t⟩
  cases r <;> exact id

/-- A stage at which the service is asked: what the answer means is what the machine makes of it. -/
theorem moves_answer {σ : Stage} {region : Region} {form : Form}
    (horder : u.order σ = .call .compute region form) {answer : Text → Except RunError α}
    {k : α → Nat → RunState}
    (hnext : ∀ body n, u.answered body n σ = .onward (answer body) fun x => k x n) :
    u.Moves (do
      let body ← (retryFrom (fun _ => u.client.call .compute region form) 1 (u.further σ)).adapt
        (.request σ.operation)
      Action.ofExcept (answer body)) (.due σ 0) k .failed := by
  refine Moves.bind (m := fun body n => u.answered body n σ) (Moves.adapt ?_) fun body => ?_
  · have h := moves_attempts (u := u) σ Wire.apiBody id fun response => by
      rw [horder, Order.read]
      cases Wire.apiBody response <;> rfl
    rw [horder] at h
    exact h
  · simp only [hnext]
    exact Moves.ofExcept _ fun _ => rfl

/-- A question that is asked once. -/
theorem moves_ask {σ : Stage} {region : Region} {form : Form}
    (horder : u.order σ = .call .compute region form) (hr : σ.operation.isRepeated = false)
    {answer : Text → Except RunError α} {k : α → Nat → RunState}
    (hnext : ∀ body n, u.answered body n σ = .onward (answer body) fun x => k x n) :
    u.Moves (u.client.ask σ.operation region form answer) (.due σ 0) k .failed := by
  have h := moves_answer horder hnext
  rwa [further, hr] at h

theorem moves_askRepeatedly {σ : Stage} {region : Region} {form : Form}
    (horder : u.order σ = .call .compute region form) (hr : σ.operation.isRepeated = true)
    {answer : Text → Except RunError α} {k : α → Nat → RunState}
    (hnext : ∀ body n, u.answered body n σ = .onward (answer body) fun x => k x n) :
    u.Moves (u.client.askRepeatedly σ.operation region form answer) (.due σ 0) k .failed := by
  have h := moves_answer horder hnext
  rwa [further, hr] at h

/-- A stage at which something is stored. -/
theorem moves_store {σ : Stage} {path : Text} {body : Octets}
    (horder : u.order σ = .put u.home u.job.bucket path body) (hop : σ.operation = .storagePut)
    {k : Nat → RunState} (hnext : ∀ n, u.answered [] n σ = k n) :
    u.Moves (u.client.store u.destination path body) (.due σ 0) (fun _ => k) .failed := by
  have h := moves_attempts (u := u) σ Wire.checkStatus (fun _ => []) fun response => by
    rw [horder, Order.read]
  rw [horder, further, hop] at h
  simp only [hnext] at h
  exact Moves.adapt h

/-- Signing the URLs of a part reads the clock for each. -/
theorem moves_listPart (index start stop : Nat) {state : Nat → RunState} {k : Part → Nat → RunState}
    (h : ∀ n, state n = k (u.client.partAt u.destination u.clock index start stop n) (n + 3)) :
    u.Moves (u.client.listPart u.destination index start stop) state k .failed := by
  let key := u.destination.partKey index
  let path := u.destination.partPath index
  let url := fun method n => u.client.urlAt u.destination (u.clock n) method path
  refine Moves.bind (m := fun head n =>
    k ⟨index, start, stop, key, head, url "GET" n, url "DELETE" (n + 1)⟩ (n + 2))
    (moves_presign "HEAD" path h) fun head => ?_
  refine Moves.bind (m := fun get n =>
    k ⟨index, start, stop, key, head, get, url "DELETE" n⟩ (n + 1))
    (moves_presign "GET" path fun _ => rfl) fun get => ?_
  exact Moves.bind (moves_presign "DELETE" path fun _ => rfl) fun _ => Moves.pure _ fun _ => rfl

theorem moves_storeParts (regions : List Region) (draft : ManifestDraft) (left : Octets)
    (start index : Nat) :
    u.Moves (u.client.storeParts u.destination u.provisioner.partSize u.image.length draft left
        start index)
      (u.storing regions draft left start index) (finishing regions) .failed := by
  induction draft, left, start, index using Client.storeParts.induct u.provisioner.partSize
      u.image.length with
  | case1 draft left start index hlt ih =>
    have hstate : u.storing regions draft left start index =
        .due (.storePart regions draft left start index) 0 := funext fun _ => if_pos hlt
    rw [Client.storeParts, if_pos hlt, hstate]
    refine Moves.after_silent (Action.silent_write _)
      (Moves.bind (moves_store (σ := .storePart regions draft left start index) rfl rfl
        fun _ => rfl) fun _ => ?_)
    -- The numbers of the round are worked out before the part is listed.
    split
    · next e he =>
      refine Moves.throw e fun n => ?_
      rw [answered, partLength, he]
      rfl
    · next round hround =>
      have hanswered : ∀ n, u.answered [] n (.storePart regions draft left start index) =
          u.storing regions
            (draft.push (u.client.partAt u.destination u.clock index start round.stop n))
            (left.drop (u.partLength start)) round.next round.following (n + 3) := by
        intro n
        rw [answered, partLength, hround]
        rfl
      exact Moves.bind (moves_listPart index start round.stop hanswered)
        fun part => ih round hround part
  | case2 draft left start index hge =>
    have hstate : u.storing regions draft left start index = finishing regions draft :=
      funext fun _ => if_neg hge
    rw [Client.storeParts, if_neg hge, hstate]
    exact Moves.pure draft fun _ => rfl

theorem moves_beginUpload {partSize size : Nat} {path : Text} {start : Nat → RunState}
    {k : Text → Nat → RunState}
    (h : ∀ n, start n =
      k (u.client.urlAt u.destination (u.clock n) "DELETE" u.destination.manifestPath) (n + 1)) :
    u.Moves (u.client.beginUpload u.destination partSize path size) start k .failed :=
  Moves.bind (moves_presign _ _ h) fun url =>
    Moves.after_silent (Action.silent_write _) (Moves.pure url fun _ => rfl)

theorem moves_uploadImage (regions : List Region) (path : Text) {image : Octets}
    (hc : u.contents = .ok image) :
    u.Moves
      (u.client.uploadImage u.provisioner.maker u.destination u.provisioner.partSize path image)
      (u.uploading regions) (u.uploaded regions) .failed := by
  obtain rfl := image_eq hc
  refine Moves.bind (moves_beginUpload (k := fun url =>
      u.storing regions ⟨_, url, _, []⟩ u.image 0 0) ?_)
    fun url => Moves.bind (moves_storeParts regions _ _ _ _) fun draft =>
    Moves.after_silent Action.silent_done <|
    Moves.bind (Moves.ofExcept _ fun _ => rfl) fun manifest =>
    Moves.after_silent (Action.silent_write _) <|
    Moves.bind (moves_store rfl rfl fun _ => rfl) fun _ =>
    Moves.after_silent Action.silent_done (Moves.pure _ fun _ => rfl)
  intro n
  rw [uploading, hc]
  rfl

theorem moves_upload (regions : List Region) :
    u.Moves (u.client.upload u.provisioner.maker u.destination u.provisioner.partSize u.job.image)
      (u.uploading regions) (u.uploaded regions) .failed := by
  have failed : ∀ {e}, u.contents = .error e → ∀ n,
      u.uploading regions n = RunState.failed e := by
    intro e he n
    rw [uploading, he]
    rfl
  unfold Client.upload
  by_cases hs : u.provisioner.partSize = 0
  · rw [if_pos hs]
    exact Moves.throw _ (failed (if_pos hs))
  rw [if_neg hs]
  cases hf : u.job.image.found with
  | nothing fault =>
    refine Moves.throw (RunError.unreadableImage u.job.image.path fault) (failed ?_)
    rw [contents, if_neg hs, hf]
  | directory =>
    refine Moves.bind (moves_beginUpload (k := fun _ _ =>
      .failed (.unreadableImage u.job.image.path .isDirectory)) (failed ?_)) fun _ =>
      Moves.after_silent (Action.silent_write _) (Moves.throw _ fun _ => rfl)
    rw [contents, if_neg hs, hf]
  | contents image =>
    cases image with
    | nil =>
      refine Moves.throw (RunError.emptyImage u.job.image.path) (failed ?_)
      rw [contents, if_neg hs, hf]
    | cons o rest =>
      have hcontents : u.contents = if (o :: rest).length < UInt64.size then .ok (o :: rest)
          else .error (.unreadableImage u.job.image.path .tooLarge) := by
        rw [contents, if_neg hs, hf]
      by_cases hlt : (o :: rest).length < UInt64.size
      · rw [if_pos hlt] at hcontents
        simp only [if_pos hlt]
        exact moves_uploadImage regions _ hcontents
      · rw [if_neg hlt] at hcontents
        simp only [if_neg hlt]
        exact Moves.throw _ (failed hcontents)

theorem moves_awaitVolume (regions : List Region) (task : Text) :
    u.Moves (u.provisioner.awaitVolume u.home task) (.due (.awaitVolume regions task) 0)
      (fun volume => .due (.createSnapshot regions volume) 0) .failed := by
  have hask := moves_askRepeatedly (u := u) (σ := .awaitVolume regions task) rfl rfl fun _ _ => rfl
  refine Moves.bind (Moves.await _ _ (Moves.bind hask fun status => ?_)) fun volume =>
    Moves.after_silent Action.silent_done (Moves.pure volume fun _ => rfl)
  cases status with
  | completed volume => exact Moves.pure (Poll.ready volume) fun _ => rfl
  | inProgress message => exact Moves.pure (Poll.pending _) fun _ => rfl

theorem moves_importImage (regions : List Region) :
    u.Moves (u.provisioner.importImage u.job u.nonce) (u.uploading regions)
      (fun volume => .due (.createSnapshot regions volume) 0) .failed :=
  Moves.bind (moves_upload regions) fun upload =>
    Moves.bind (moves_presign "GET" _ fun _ => rfl) fun url =>
    Moves.bind (moves_ask (σ := .importVolume regions url upload.size upload.gibibytes)
      rfl rfl fun _ _ => rfl) fun task => moves_awaitVolume regions task

/-- Something that is asked for by its readiness. -/
theorem moves_readiness {σ : Stage} {region : Region} {form : Form}
    (horder : u.order σ = .call .compute region form) (hr : σ.operation.isRepeated = true)
    {answer : Text → Except RunError Compute.Readiness} {k : Nat → RunState}
    (hk : ∀ body n, u.answered body n σ =
      .onward (answer body) (.unlessPending (.due σ 0 n) (k n))) :
    u.Moves (do
      let readiness ← u.client.askRepeatedly σ.operation region form answer
      return Provisioner.poll readiness) (.due σ 0)
      (polled (.due σ 0) fun _ => k) .failed := by
  refine Moves.bind (moves_askRepeatedly horder hr hk) fun readiness => ?_
  cases readiness with
  | pending => exact Moves.pure (Poll.pending .dot) fun _ => rfl
  | ready => exact Moves.pure (Poll.ready ()) fun _ => rfl

theorem moves_awaitSnapshot (regions : List Region) (volume snapshot : Text) :
    u.Moves (u.provisioner.awaitSnapshot u.home snapshot)
      (.due (.awaitSnapshot regions volume snapshot) 0)
      (fun _ => .due (.deleteVolume regions volume snapshot) 0) .failed :=
  Moves.bind (Moves.await _ _
      (moves_readiness (σ := .awaitSnapshot regions volume snapshot) rfl rfl fun _ _ => rfl))
    fun _ => Moves.silent Action.silent_done fun _ => rfl

theorem moves_snapshotVolume (regions : List Region) (volume : Text) :
    u.Moves (u.provisioner.snapshotVolume u.home volume) (.due (.createSnapshot regions volume) 0)
      (fun snapshot n =>
        if u.job.hasPublicSnapshot then .due (.publishSnapshot regions snapshot) 0 n
        else .due (.registerImage regions snapshot) 0 n) .failed :=
  Moves.after_silent (Action.silent_write _) (Moves.bind
    (moves_ask (σ := .createSnapshot regions volume) rfl rfl fun _ _ => rfl) fun snapshot =>
    Moves.bind (moves_awaitSnapshot regions volume snapshot) fun _ =>
    Moves.bind (moves_ask (σ := .deleteVolume regions volume snapshot) rfl rfl fun _ _ => rfl)
      fun _ => Moves.pure snapshot fun _ => rfl)

theorem moves_publishSnapshot (regions : List Region) (snapshot : Text) :
    u.Moves (u.provisioner.publishSnapshot u.home snapshot)
      (.due (.publishSnapshot regions snapshot) 0)
      (fun _ => .due (.registerImage regions snapshot) 0) .failed :=
  Moves.after_silent (Action.silent_write _) (Moves.bind
    (moves_askRepeatedly (σ := .publishSnapshot regions snapshot) rfl rfl fun _ _ => rfl)
    fun _ => Moves.silent Action.silent_done fun _ => rfl)

theorem moves_awaitImage {σ : Stage} {region : Region} {image : Text}
    (horder : u.order σ = .call .compute region (Compute.describeImage image))
    (hop : σ.operation = .describeImages) {k : Nat → RunState}
    (hk : ∀ body n, u.answered body n σ =
      .onward (Compute.imageReadiness body) (.unlessPending (.due σ 0 n) (k n))) :
    u.Moves (u.provisioner.awaitImage region image) (.due σ 0) (fun _ => k) .failed := by
  have hpoll := moves_readiness horder (by rw [hop]; rfl) hk
  rw [hop] at hpoll
  exact Moves.bind (Moves.await _ _ hpoll) fun _ => Moves.silent Action.silent_done fun _ => rfl

/-- Where a run goes on when its image is ready in the home region. -/
def registered (u : Run) (regions : List Region) (image : Text) (readings : Nat) : RunState :=
  if u.job.isPublic then u.copying image [] (Provisioner.targets u.home regions) readings
  else .ended (.ok [(u.home, image)])

theorem moves_registerImage (regions : List Region) (snapshot : Text) :
    u.Moves (u.provisioner.registerImage u.home snapshot u.job.spec)
      (.due (.registerImage regions snapshot) 0) (u.registered regions) .failed :=
  Moves.after_silent (Action.silent_write _) (Moves.bind
    (moves_ask (σ := .registerImage regions snapshot) rfl rfl fun _ _ => rfl) fun image =>
    Moves.bind (moves_awaitImage (σ := .awaitImage regions image) rfl rfl fun _ _ => rfl) fun _ =>
    Moves.pure image fun _ => rfl)

theorem moves_copyToEach (image : Text) (made : RegionImages) (later : List Region) :
    u.Moves (u.provisioner.copyToEach u.home image later) (u.copying image made later)
      (fun images => u.awaiting (made ++ images) (made ++ images)) .failed := by
  induction later generalizing made with
  | nil => exact Moves.pure [] fun n => by rw [List.append_nil]; rfl
  | cons region later ih =>
    have hrest : ∀ entry, u.Moves (do
          let images ← u.provisioner.copyToEach u.home image later
          return (region, entry) :: images) (u.copying image (made ++ [(region, entry)]) later)
        (fun images => u.awaiting (made ++ images) (made ++ images)) .failed := fun entry =>
      Moves.bind (ih (made ++ [(region, entry)])) fun images => Moves.pure _ fun n => by
        rw [List.append_assoc]
        rfl
    unfold Provisioner.copyToEach
    by_cases hr : region = u.home
    · rw [copying_home hr]
      simp only [if_pos hr]
      exact Moves.bind (Moves.pure image fun _ => rfl) hrest
    · rw [copying_other hr]
      simp only [if_neg hr]
      exact Moves.after_silent (Action.silent_write _) (Moves.bind
        (moves_ask (σ := .copyImage image made region later) rfl rfl fun _ _ => rfl) hrest)

theorem moves_awaitCopies (images later : RegionImages) :
    u.Moves (u.provisioner.awaitCopies u.home later) (u.awaiting images later)
      (fun _ => publishing images images) .failed := by
  induction later with
  | nil => exact Moves.pure () fun _ => rfl
  | cons entry later ih =>
    obtain ⟨region, copy⟩ := entry
    unfold Provisioner.awaitCopies
    by_cases hr : region = u.home
    · rw [awaiting_home hr]
      simp only [if_neg (fun hn => hn hr : ¬ region ≠ u.home)]
      exact ih
    · rw [awaiting_other hr]
      simp only [if_pos hr]
      exact Moves.after_silent (Action.silent_write _) (Moves.bind
        (moves_awaitImage (σ := .awaitCopy images region copy later) rfl rfl fun _ _ => rfl)
        fun _ => ih)

theorem moves_publishEach (images later : RegionImages) :
    u.Moves (u.provisioner.publishEach later) (publishing images later)
      (fun _ _ => .ended (.ok images)) .failed := by
  induction later with
  | nil => exact Moves.pure () fun _ => rfl
  | cons entry later ih =>
    obtain ⟨region, image⟩ := entry
    exact Moves.bind (moves_askRepeatedly (σ := .publishImage images region image later) rfl rfl
      fun _ _ => rfl) fun _ => ih

theorem moves_replicate (image : Text) (regions : List Region) :
    u.Moves (u.provisioner.replicate u.home image regions)
      (u.copying image [] (Provisioner.targets u.home regions))
      (fun images => publishing images images) .failed :=
  Moves.after_silent (Action.silent_write _) (Moves.bind (moves_copyToEach image [] _) fun images =>
    Moves.after_silent (Action.silent_write _) (Moves.bind (moves_awaitCopies images images)
      fun _ => Moves.pure images fun _ => rfl))

theorem moves_registered (regions : List Region) (image : Text) :
    u.Moves (if u.job.isPublic then do
        let images ← u.provisioner.replicate u.home image regions
        u.provisioner.publishImages images
        return images
      else return [(u.home, image)]) (u.registered regions image)
      (fun images _ => .ended (.ok images)) .failed := by
  by_cases hp : u.job.isPublic
  · have hr : u.registered regions image =
        u.copying image [] (Provisioner.targets u.home regions) := by
      funext n
      rw [registered, if_pos hp]
    rw [if_pos hp, hr]
    exact Moves.bind (moves_replicate image regions) fun images =>
      Moves.bind (Moves.after_silent (Action.silent_write _)
        (Moves.bind (moves_publishEach images images)
          fun _ => Moves.silent Action.silent_done fun _ => rfl)) fun _ =>
      Moves.pure images fun _ => rfl
  · have hr : u.registered regions image = fun _ => .ended (.ok [(u.home, image)]) := by
      funext n
      rw [registered, if_neg hp]
    rw [if_neg hp, hr]
    exact Moves.pure _ fun _ => rfl

/-- A run is the machine, from the question for the regions to its outcome. -/
theorem moves_run :
    u.Moves (u.provisioner.run u.job u.nonce) (.due .listRegions 0)
      (fun images _ => .ended (.ok images)) .failed := by
  refine Moves.bind (moves_askRepeatedly (σ := .listRegions) rfl rfl fun _ _ => rfl) fun regions =>
    Moves.bind (moves_importImage regions) fun volume =>
    Moves.bind (moves_snapshotVolume regions volume) fun snapshot => ?_
  have hrest := Moves.bind (moves_registerImage (u := u) regions snapshot)
    fun image => moves_registered regions image
  by_cases hs : u.job.hasPublicSnapshot
  · simp only [if_pos hs]
    exact Moves.bind (moves_publishSnapshot regions snapshot) fun _ => hrest
  · simp only [if_neg hs]
    exact hrest

/-- What a session exchanges in a run is what leads the machine to the outcome of the run. -/
theorem steps_run (p : Provisioner) (job : ImageJob) (nonce : Octets) (s : Session) :
    s.Exchanged ((p.run job nonce).exchanges s) ((p.run job nonce).outcome s).2 ∧
      (Run.mk p job nonce s.clock).Steps (.due .listRegions 0 s.readings)
        ((p.run job nonce).exchanges s) (.ended ((p.run job nonce).outcome s).1) := by
  obtain ⟨xs, hx, hsteps⟩ := moves_run (u := ⟨p, job, nonce, s.clock⟩) s rfl
  rw [Action.exchanges_eq hx]
  refine ⟨hx, ?_⟩
  revert hsteps
  rcases (p.run job nonce).outcome s with ⟨r, t⟩
  cases r <;> exact id

end Run

end MachineImage
