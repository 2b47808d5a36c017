import Mathlib.Data.List.SplitBy
import MachineImage.Session.Outcome

/-!
What is shown of statuses that are reported one after the other: each run of equal ones takes one
line, with a dot for every repetition, whatever else is shown in between; a step that is done begins
anew.
-/
namespace MachineImage

open Text

def Event.shown? : Event → Option Text
  | .shown text => some text
  | _ => none

/-- What an action adds to the log from the session on, the first event first. -/
def Action.events {ε α : Type} (a : Action ε α) (s : Session) : List Event :=
  (a.outcome s).2.log.reverse.drop s.log.length

theorem Action.events_eq {ε α : Type} {a : Action ε α} {s : Session} {events : List Event}
    (h : (a.outcome s).2.log = events.reverse ++ s.log) : a.events s = events := by
  rw [Action.events, h, List.reverse_append, List.reverse_reverse, ← List.length_reverse,
    List.drop_left]

/-- The texts that an action shows. -/
def Action.shown {ε α : Type} (a : Action ε α) (s : Session) : List Text :=
  (a.events s).filterMap Event.shown?

namespace Progress

/-- One thing that is shown; all statuses have the same heading. -/
inductive Remark
  | message (text : Text)
  | dot
  | done
  | status (text : Text)

namespace Remark

def action (heading : Text) : Remark → Action Empty Unit
  | message text => Action.write text
  | dot => Action.dot
  | done => Action.done
  | status text => Action.status heading text

def isDone : Remark → Bool
  | done => true
  | _ => false

def status? : Remark → Option Text
  | status text => some text
  | _ => none

/-- What is shown of the remark. -/
def text (heading : Text) (p : Progress) : Remark → Text
  | message text => text
  | dot => ['.']
  | done => doneText
  | status text => p.statusText heading text

def next (p : Progress) : Remark → Progress
  | message _ | dot => p
  | done => p.done
  | status text => p.report text

end Remark

variable (heading : Text)

/-- The remarks one after the other. -/
def inTurn : List Remark → Action Empty Unit
  | [] => pure ()
  | r :: remarks => do
    r.action heading
    inTurn remarks

/-- The texts that the statuses among the remarks show, one for each of them. -/
def statusTexts (remarks : List Remark) (s : Session) : List Text :=
  ((remarks.zip ((inTurn heading remarks).shown s)).filter fun shown =>
    shown.1.status?.isSome).map (·.2)

theorem Remark.outcome_action (r : Remark) (s : Session) :
    (r.action heading).outcome s = (.ok (), { s with
      progress := r.next s.progress
      log := .shown (r.text heading s.progress) :: s.log }) := by
  cases r <;> rfl

/-- The texts of the remarks. -/
def texts : Progress → List Remark → List Text
  | _, [] => []
  | p, r :: remarks => r.text heading p :: texts (r.next p) remarks

theorem log_inTurn (remarks : List Remark) (s : Session) :
    ((inTurn heading remarks).outcome s).2.log =
      ((texts heading s.progress remarks).map .shown).reverse ++ s.log := by
  induction remarks generalizing s with
  | nil => rfl
  | cons r remarks ih =>
    rw [inTurn, Action.outcome_bind, Remark.outcome_action]
    simp only [ih, texts, List.map_cons, List.reverse_cons, List.append_assoc,
      List.singleton_append]

theorem shown_inTurn (remarks : List Remark) (s : Session) :
    (inTurn heading remarks).shown s = texts heading s.progress remarks := by
  rw [Action.shown, Action.events_eq (log_inTurn heading remarks s)]
  exact List.filterMap_map.trans (List.filterMap_some)

theorem statusTexts_nil (s : Session) : statusTexts heading [] s = [] := by
  rw [statusTexts, shown_inTurn]
  rfl

theorem statusTexts_cons (r : Remark) (remarks : List Remark) (s : Session) :
    statusTexts heading (r :: remarks) s =
      (if r.status?.isSome then [r.text heading s.progress] else []) ++
        statusTexts heading remarks { s with progress := r.next s.progress } := by
  rw [statusTexts, statusTexts, shown_inTurn, shown_inTurn]
  cases r <;> rfl

/-- What is shown of statuses alone. -/
def reports : Progress → List Text → List Text
  | _, [] => []
  | p, status :: statuses => p.statusText heading status :: reports (p.report status) statuses

def statuses (remarks : List Remark) : List Text := remarks.filterMap Remark.status?

/-- The statuses of each step, from one that is done to the next. -/
def stretches (remarks : List Remark) : List (List Text) :=
  (split Remark.isDone remarks).map statuses

/-- Nothing but the statuses counts, and the remarks that end a step. -/
theorem statusTexts_eq (remarks : List Remark) (s : Session) :
    ∃ first more, stretches remarks = first :: more ∧ statusTexts heading remarks s =
      reports heading s.progress first ++ more.flatMap (reports heading {}) := by
  induction remarks generalizing s with
  | nil => exact ⟨[], [], rfl, statusTexts_nil heading s⟩
  | cons r remarks ih =>
    obtain ⟨first, more, hstretches, ih⟩ := ih { s with progress := r.next s.progress }
    obtain ⟨piece, pieces, hsplit⟩ :=
      List.exists_cons_of_ne_nil (split_ne_nil Remark.isDone remarks)
    rw [stretches, hsplit] at hstretches
    cases hstretches
    rw [statusTexts_cons, ih, stretches, split, hsplit]
    cases r with
    | message | dot | done | status => exact ⟨_, _, rfl, rfl⟩

/-- A run of a status on a line of its own, with a dot for every repetition. -/
def lineText : List Text → Text
  | [] => []
  | status :: again => heading ++ ": ".toList ++ status ++ again.map fun _ => '.'

/-- The longest pieces in which one status is repeated. -/
def runs (statuses : List Text) : List (List Text) := statuses.splitBy (· == ·)

/-- The runs of the statuses, one line each. -/
def collapsed (statuses : List Text) : Text :=
  ['\n'].intercalate ((runs statuses).map (lineText heading))

/-- A status and how often it is repeated. -/
abbrev Tally := Text × Nat

def Tally.statuses (t : Tally) : List Text := List.replicate (t.2 + 1) t.1

theorem eq_statuses_of_mem_runs {statuses run : List Text} (h : run ∈ runs statuses) :
    run = Tally.statuses (run.headD [], run.length - 1) := by
  have hchain := List.isChain_of_mem_splitBy h
  cases run with
  | nil => exact absurd h (List.nil_notMem_splitBy _ _)
  | cons status again =>
    simp only [beq_iff_eq] at hchain
    exact congrArg (status :: ·) (List.isChain_cons_eq_iff_eq_replicate.1 hchain)

/-- Runs are known by their status and their length, and no two that follow each other have the same
status. -/
theorem exists_tallies (statuses : List Text) : ∃ tallies : List Tally,
    runs statuses = tallies.map Tally.statuses ∧ tallies.IsChain fun t next => t.1 ≠ next.1 := by
  obtain ⟨tallies, htallies⟩ : ∃ tallies : List Tally,
      runs statuses = tallies.map Tally.statuses := by
    refine ⟨(runs statuses).map fun run => (run.headD [], run.length - 1), ?_⟩
    rw [List.map_map]
    exact (List.map_id _).symm.trans (List.map_congr_left fun run => eq_statuses_of_mem_runs)
  have hchain := List.isChain_getLast_head_splitBy (· == ·) statuses
  rw [← runs, htallies, List.isChain_map] at hchain
  refine ⟨tallies, htallies, hchain.imp ?_⟩
  rintro t next ⟨hlast, hhead, hne⟩
  simpa [Tally.statuses] using hne

theorem flatMap_statuses {statuses : List Text} {tallies : List Tally}
    (h : runs statuses = tallies.map Tally.statuses) :
    tallies.flatMap Tally.statuses = statuses := by
  rw [List.flatMap_def, ← h]
  exact List.flatten_splitBy _ _

/-- A status that is not the last one is shown on a line of its own. -/
theorem statusText_of_ne {p : Progress} {status : Text} (h : p.status ≠ some status) :
    p.statusText heading status =
      (if p.status.isSome then ['\n'] else []) ++ lineText heading [status] := by
  rcases p with ⟨_ | last⟩
  · simp [statusText, lineText]
  · have hne : last ≠ status := fun he => h (congrArg some he)
    simp [statusText, lineText, hne]

theorem statusText_ne_dot {p : Progress} {status : Text} (h : p.status ≠ some status) :
    p.statusText heading status ≠ ['.'] := by
  intro hdot
  have hsign : ' ' ∈ p.statusText heading status := by
    rw [statusText_of_ne heading h]
    simp [lineText]
  rw [hdot] at hsign
  exact absurd hsign (by decide)

theorem reports_replicate (status : Text) (n : Nat) (statuses : List Text) :
    reports heading ⟨some status⟩ (List.replicate n status ++ statuses) =
      List.replicate n ['.'] ++ reports heading ⟨some status⟩ statuses := by
  induction n with
  | zero => rfl
  | succ n ih =>
    rw [List.replicate_succ, List.cons_append, reports, report, ih, statusText]
    simp only [if_true]
    rfl

theorem reports_statuses {p : Progress} {t : Tally} (statuses : List Text) :
    reports heading p (t.statuses ++ statuses) = p.statusText heading t.1 ::
      (List.replicate t.2 ['.'] ++ reports heading ⟨some t.1⟩ statuses) := by
  rw [Tally.statuses, List.replicate_succ, List.cons_append, reports, report, reports_replicate]

theorem lineText_statuses (t : Tally) :
    lineText heading t.statuses = lineText heading [t.1] ++ List.replicate t.2 '.' := by
  simp [Tally.statuses, List.replicate_succ, lineText]

theorem flatten_dots (n : Nat) : (List.replicate n ['.']).flatten = List.replicate n '.' := by
  rw [List.flatten_replicate_singleton]

/-- Behind another status every run begins a line. -/
theorem flatten_reports_some {last : Tally} {tallies : List Tally}
    (h : (last :: tallies).IsChain fun t next => t.1 ≠ next.1) :
    (reports heading ⟨some last.1⟩ (tallies.flatMap Tally.statuses)).flatten =
      tallies.flatMap fun t => '\n' :: lineText heading t.statuses := by
  induction tallies generalizing last with
  | nil => rfl
  | cons t tallies ih =>
    obtain ⟨hne, hchain⟩ := List.isChain_cons_cons.1 h
    have hstatus : (Progress.mk (some last.1)).status ≠ some t.1 :=
      fun he => hne (Option.some.inj he)
    rw [List.flatMap_cons, List.flatMap_cons, reports_statuses, statusText_of_ne heading hstatus,
      List.flatten_cons, List.flatten_append, flatten_dots, ih hchain, lineText_statuses]
    simp

theorem intercalate_cons (line : Text) (lines : List Text) :
    ['\n'].intercalate (line :: lines) = line ++ lines.flatMap ('\n' :: ·) := by
  induction lines generalizing line with
  | nil => simp
  | cons next lines ih =>
    rw [List.intercalate_cons_cons, ih]
    simp

theorem flatten_reports (statuses : List Text) :
    (reports heading {} statuses).flatten = collapsed heading statuses := by
  obtain ⟨tallies, hruns, hchain⟩ := exists_tallies statuses
  rw [collapsed, hruns, ← flatMap_statuses hruns]
  cases tallies with
  | nil => rfl
  | cons t tallies =>
    have hnone : ({} : Progress).status ≠ some t.1 := nofun
    rw [List.flatMap_cons, reports_statuses, statusText_of_ne heading hnone, List.flatten_cons,
      List.flatten_append, flatten_dots, flatten_reports_some heading hchain, List.map_cons,
      List.map_cons, intercalate_cons, lineText_statuses]
    simp [List.flatMap_map]

/-- As many statuses show as dots as are no first of their run. -/
theorem count_reports {p : Progress} {tallies : List Tally}
    (hp : ∀ t ∈ tallies.head?, p.status ≠ some t.1)
    (h : tallies.IsChain fun t next => t.1 ≠ next.1) :
    (reports heading p (tallies.flatMap Tally.statuses)).count ['.'] + tallies.length =
      (tallies.flatMap Tally.statuses).length := by
  induction tallies generalizing p with
  | nil => rfl
  | cons t tallies ih =>
    have hne := statusText_ne_dot heading (hp t rfl)
    have hnext : ∀ next ∈ tallies.head?, (Progress.mk (some t.1)).status ≠ some next.1 := by
      intro next hm he
      exact (List.isChain_cons.1 h).1 next hm (Option.some.inj he)
    have hrest := ih hnext (List.isChain_cons.1 h).2
    rw [List.flatMap_cons, reports_statuses, List.count_cons_of_ne hne, List.count_append,
      List.count_replicate_self, List.length_append, ← hrest]
    simp only [Tally.statuses, List.length_replicate, List.length_cons]
    omega

theorem count_reports_add (statuses : List Text) :
    (reports heading {} statuses).count ['.'] + (runs statuses).length = statuses.length := by
  obtain ⟨tallies, hruns, hchain⟩ := exists_tallies statuses
  have hcount := count_reports heading (p := {}) (fun t _ => nofun) hchain
  rw [flatMap_statuses hruns] at hcount
  rw [hruns, List.length_map, hcount]

theorem statusTexts_fresh (remarks : List Remark) (s : Session) :
    statusTexts heading remarks { s with progress := {} } =
      (stretches remarks).flatMap (reports heading {}) := by
  obtain ⟨first, more, hstretches, htexts⟩ :=
    statusTexts_eq heading remarks { s with progress := {} }
  rw [htexts, hstretches]
  rfl

theorem statusTexts_done (before remarks : List Remark) (s : Session) :
    statusTexts heading (before ++ .done :: remarks) s =
      statusTexts heading before s ++ statusTexts heading remarks { s with progress := {} } := by
  induction before generalizing s with
  | nil =>
    rw [List.nil_append, statusTexts_cons, statusTexts_nil]
    rfl
  | cons r before ih =>
    rw [List.cons_append, statusTexts_cons, statusTexts_cons, ih, List.append_assoc]

theorem statusTexts_filter (remarks : List Remark) (s : Session) :
    statusTexts heading remarks s =
      statusTexts heading (remarks.filter fun r => r.isDone || r.status?.isSome) s := by
  induction remarks generalizing s with
  | nil => rfl
  | cons r remarks ih =>
    rw [statusTexts_cons, ih, List.filter_cons]
    cases r with
    | message | dot => rfl
    | done | status => exact (statusTexts_cons heading _ _ s).symm

theorem flatten_stretches (remarks : List Remark) :
    (stretches remarks).flatten = statuses remarks := by
  induction remarks with
  | nil => rfl
  | cons r remarks ih =>
    obtain ⟨piece, pieces, hsplit⟩ :=
      List.exists_cons_of_ne_nil (split_ne_nil Remark.isDone remarks)
    rw [stretches, hsplit] at ih
    rw [stretches, split, hsplit]
    cases r with
    | message | dot | done => exact ih
    | status text => exact congrArg (text :: ·) ih

theorem length_reports (p : Progress) (statuses : List Text) :
    (reports heading p statuses).length = statuses.length := by
  induction statuses generalizing p with
  | nil => rfl
  | cons status statuses ih => exact congrArg (· + 1) (ih _)

theorem reports_stretches (stretches : List (List Text)) :
    let shown := stretches.flatMap (reports heading {})
    shown.flatten = stretches.flatMap (collapsed heading) ∧
      shown.length = stretches.flatten.length ∧
      shown.count ['.'] + (stretches.flatMap runs).length = stretches.flatten.length := by
  induction stretches with
  | nil => exact ⟨rfl, rfl, rfl⟩
  | cons stretch more ih =>
    obtain ⟨hflatten, hlength, hcount⟩ := ih
    have hruns := count_reports_add heading stretch
    simp only [List.flatMap_cons, List.flatten_cons, List.flatten_append, List.length_append,
      List.count_append]
    refine ⟨by rw [flatten_reports, hflatten], by rw [length_reports, hlength], ?_⟩
    omega

/-- In every stretch between ends of steps the statuses show their runs, one line each, and all but
the first of a run show a dot: so it is from a state with no status remembered, and behind each end
of a step again. Other remarks change nothing in what statuses show. -/
theorem statusTexts_collapsed (remarks : List Remark) (s : Session) :
    let shown := statusTexts heading remarks { s with progress := {} }
    shown.flatten = (stretches remarks).flatMap (collapsed heading) ∧
      shown.length = (statuses remarks).length ∧
      shown.count ['.'] + ((stretches remarks).flatMap runs).length = (statuses remarks).length ∧
      (∀ before t, statusTexts heading (before ++ .done :: remarks) t =
        statusTexts heading before t ++ shown) ∧
      ∀ t, statusTexts heading remarks t = statusTexts heading
        (remarks.filter fun r => r.isDone || r.status?.isSome) t := by
  intro shown
  have hshown : shown = (stretches remarks).flatMap (reports heading {}) :=
    statusTexts_fresh heading remarks s
  obtain ⟨hflatten, hlength, hcount⟩ := reports_stretches heading (stretches remarks)
  rw [flatten_stretches, ← hshown] at hlength hcount
  rw [← hshown] at hflatten
  refine ⟨hflatten, hlength, hcount, fun before t => ?_, statusTexts_filter heading remarks⟩
  rw [statusTexts_done, statusTexts_fresh, hshown]

/-- Two runs of a status, the second one behind a step that is done. -/
example : (stretches [.status ['a'], .dot, .status ['a'], .status ['b'], .done,
    .status ['b']]).flatMap (collapsed ['h']) = "h: a.\nh: bh: b".toList := by
  decide

end Progress

end MachineImage
