import MachineImage.CommandLine.Arguments

/-!
Where flags stand among the positional arguments does not matter: what a command line means depends
on the row of its positional arguments and on the set of its flags alone.
-/
namespace MachineImage

/-- The row has the items of both others, each in their own order. -/
inductive Interleaved {α : Type} : List α → List α → List α → Prop
  | nil : Interleaved [] [] []
  | left {a : α} {s t u : List α} : Interleaved s t u → Interleaved (a :: s) t (a :: u)
  | right {a : α} {s t u : List α} : Interleaved s t u → Interleaved s (a :: t) (a :: u)

/-- How the flag is written. -/
def Flag.argument : Flag → Text
  | isPublic => "--public".toList
  | publicSnapshot => "--publicsnap".toList
  | sriov => "--sriov".toList
  | ena => "--ena".toList
  | arm => "--arm64".toList

namespace CommandLine

/-- The argument is positional wherever it stands. -/
structure IsOperand (s : Text) : Prop where
  ne_nil : s ≠ []
  head_ne : s.head? ≠ some '-'

instance (s : Text) : Decidable (IsOperand s) :=
  decidable_of_iff (s ≠ [] ∧ s.head? ≠ some '-') ⟨fun h => ⟨h.1, h.2⟩, fun h => ⟨h.1, h.2⟩⟩

theorem ofArgument_flag (f : Flag) : Token.ofArgument f.argument = .switch (.flag f) := by
  cases f <;> decide

theorem ofArgument_operand {s : Text} (h : IsOperand s) :
    Token.ofArgument s = .positional s := by
  obtain ⟨c, s, rfl⟩ := List.exists_cons_of_ne_nil h.ne_nil
  have hc : c ≠ '-' := fun hc => h.head_ne (congrArg some hc)
  simp [Token.ofArgument, hc]

namespace Reading

variable {r : Reading}

theorem settle_eq (h : ∀ s ∈ r.positionals, IsOperand s) : r.settle = .ok () := by
  refine if_neg fun hempty => ?_
  exact (h [] (List.mem_of_getLast? hempty.1)).ne_nil rfl

theorem addPositional_eq (h : ∀ s ∈ r.positionals, IsOperand s) (value : Text) :
    r.addPositional value =
      if r.positionals.length = 9 then .error .unknownArgument
      else .ok { r with positionals := r.positionals ++ [value] } := by
  rw [addPositional, settle_eq h]
  split <;> rfl

theorem addSwitch_flag (h : ∀ s ∈ r.positionals, IsOperand s) {f : Flag} (hf : f ∉ r.flags) :
    r.addSwitch (.flag f) = .ok { r with flags := r.flags ++ [f] } := by
  rw [addSwitch, settle_eq h]
  exact if_neg hf

/-- A tenth positional argument is refused; all else that is read is only gathered. -/
theorem addAll_interleaved {positionals arguments : List Text} {flags : List Flag}
    (h : Interleaved positionals (flags.map Flag.argument) arguments)
    (hr : ∀ s ∈ r.positionals, IsOperand s) (hlength : r.positionals.length ≤ 9)
    (hp : ∀ s ∈ positionals, IsOperand s) (hf : (r.flags ++ flags).Nodup) :
    r.addAll arguments =
      if r.positionals.length + positionals.length ≤ 9 then
        .ok ⟨r.positionals ++ positionals, r.flags ++ flags⟩
      else .error .unknownArgument := by
  generalize hrow : flags.map Flag.argument = row at h
  induction h generalizing r flags with
  | nil =>
    obtain rfl := List.map_eq_nil_iff.1 hrow
    rw [addAll, List.append_nil, List.append_nil]
    exact (if_pos hlength).symm
  | @left value positionals row arguments _ ih =>
    obtain ⟨hvalue, hp⟩ := List.forall_mem_cons.1 hp
    rw [addAll, ofArgument_operand hvalue]
    simp only [addPositional_eq hr, List.length_cons]
    by_cases hfull : r.positionals.length = 9
    · rw [if_pos hfull, if_neg (by omega)]
      rfl
    · have hr' : ∀ s ∈ r.positionals ++ [value], IsOperand s :=
        List.forall_mem_append.2 ⟨hr, List.forall_mem_singleton.2 hvalue⟩
      have hlength' : (r.positionals ++ [value]).length = r.positionals.length + 1 := by simp
      have hmore := ih (r := { r with positionals := r.positionals ++ [value] }) hr'
        (by dsimp only; omega) hp hf hrow
      dsimp only at hmore
      rw [hlength', Nat.add_assoc, Nat.add_comm 1, List.append_assoc] at hmore
      rw [if_neg hfull]
      exact hmore
  | @right argument positionals row arguments _ ih =>
    obtain ⟨f, flags, rfl, rfl, rfl⟩ := List.map_eq_cons_iff.1 hrow
    have hnew : f ∉ r.flags := fun hmem =>
      (List.nodup_append.1 hf).2.2 f hmem f List.mem_cons_self rfl
    have hsplit : r.flags ++ f :: flags = r.flags ++ [f] ++ flags := by simp
    rw [hsplit] at hf ⊢
    have hmore := ih (r := { r with flags := r.flags ++ [f] }) hr hlength hp hf rfl
    rw [addAll, ofArgument_flag]
    simp only [addSwitch_flag hr hnew]
    exact hmore

theorem finish_eq (h : ∀ s ∈ r.positionals, IsOperand s) :
    r.finish = match r.positionals with
      | [image, name, description, region, bucket, keyFile] =>
        .ok ⟨image, name, description, region, bucket, keyFile, none, r.flags⟩
      | [image, name, description, region, bucket, keyFile, topic, release, imageVersion] =>
        .ok ⟨image, name, description, region, bucket, keyFile,
          some ⟨topic, release, imageVersion⟩, r.flags⟩
      | _ => .error .missingArgument := by
  rw [finish, settle_eq h]
  rfl

end Reading

theorem parse_eq {positionals arguments : List Text} {flags : List Flag}
    (h : Interleaved positionals (flags.map Flag.argument) arguments)
    (hp : ∀ s ∈ positionals, IsOperand s) (hf : flags.Nodup) :
    parse arguments = if positionals.length ≤ 9 then (⟨positionals, flags⟩ : Reading).finish
      else .error .unknownArgument := by
  have hread := Reading.addAll_interleaved (r := {}) h nofun (Nat.zero_le 9) hp hf
  rw [parse, hread]
  simp only [List.length_nil, Nat.zero_add, List.nil_append]
  split <;> rfl

end CommandLine

namespace Arguments

/-- Each positional argument is a field as it was written, each flag turns on a switch of its own,
and the last three positional arguments are announced if the image is public. -/
structure Means (a : Arguments) (positionals : List Text) (flags : List Flag) : Prop where
  image : ∀ found, positionals[0]? = some (a.job found).image.path
  found : ∀ found, (a.job found).image.found = found
  name : ∀ found, positionals[1]? = some (a.job found).spec.name
  description : ∀ found, positionals[2]? = some (a.job found).spec.description
  region : ∀ found, positionals[3]? = some (a.job found).home.name
  bucket : ∀ found, positionals[4]? = some (a.job found).bucket
  keyFile : positionals[5]? = some a.keyFile
  isPublic : ∀ found, (a.job found).isPublic = true ↔ .isPublic ∈ flags
  publicSnapshot : ∀ found, (a.job found).hasPublicSnapshot = true ↔ .publicSnapshot ∈ flags
  sriov : ∀ found, (a.job found).spec.sriov = true ↔ .sriov ∈ flags
  ena : ∀ found, (a.job found).spec.ena = true ↔ .ena ∈ flags
  architecture : ∀ found, (a.job found).spec.architecture = if .arm ∈ flags then .arm else .x86
  isAnnounced : a.announcement?.isSome = true ↔ .isPublic ∈ flags ∧ positionals.length = 9
  announcement : ∀ n : Announcement, a.announcement? = some n ↔
    .isPublic ∈ flags ∧ positionals.drop 6 = [n.topic, n.release, n.imageVersion]

/-- The positional arguments that these were read from. -/
def operands (a : Arguments) : List Text :=
  [a.image, a.name, a.description, a.region, a.bucket, a.keyFile] ++
    match a.announcement with
    | none => []
    | some n => [n.topic, n.release, n.imageVersion]

theorem length_operands (a : Arguments) : a.operands.length = 6 ∨ a.operands.length = 9 := by
  unfold operands
  cases a.announcement with
  | none => exact .inl rfl
  | some n => exact .inr rfl

theorem length_operands_eq_nine_iff (a : Arguments) :
    a.operands.length = 9 ↔ a.announcement.isSome = true := by
  unfold operands
  cases a.announcement <;> simp

theorem drop_operands_eq_iff (a : Arguments) (n : Announcement) :
    a.operands.drop 6 = [n.topic, n.release, n.imageVersion] ↔ a.announcement = some n := by
  unfold operands
  cases a.announcement with
  | none => simp
  | some m =>
    cases m
    cases n
    simp

theorem means_operands (a : Arguments) : a.Means a.operands a.flags where
  image _ := rfl
  found _ := rfl
  name _ := rfl
  description _ := rfl
  region _ := rfl
  bucket _ := rfl
  keyFile := rfl
  isPublic _ := decide_eq_true_iff
  publicSnapshot _ := decide_eq_true_iff
  sriov _ := decide_eq_true_iff
  ena _ := decide_eq_true_iff
  architecture _ := rfl
  isAnnounced := by
    rw [length_operands_eq_nine_iff, announcement?]
    split <;> next hpublic => simp [hpublic]
  announcement n := by
    rw [drop_operands_eq_iff, announcement?]
    split <;> next hpublic => simp [hpublic]

variable {a : Arguments} {flags : List Flag} (h : ∀ f, f ∈ flags ↔ f ∈ a.flags)

include h

/-- Of the flags only the set matters. -/
theorem job_congr (found : Found) : ({ a with flags } : Arguments).job found = a.job found := by
  simp [job, h]

theorem announcement?_congr : ({ a with flags } : Arguments).announcement? = a.announcement? := by
  simp [announcement?, h]

end Arguments

namespace CommandLine

variable {positionals : List Text} {flags : List Flag}

/-- Positional arguments are those of some arguments, or their number is not right. -/
theorem finish_cases (hp : ∀ s ∈ positionals, IsOperand s) :
    (∃ a : Arguments, positionals = a.operands ∧
      ∀ flags, (⟨positionals, flags⟩ : Reading).finish = .ok { a with flags }) ∨
    (positionals.length ≠ 6 ∧ positionals.length ≠ 9 ∧
      ∀ flags, (⟨positionals, flags⟩ : Reading).finish = .error .missingArgument) := by
  have hfinish := fun flags => Reading.finish_eq (r := ⟨positionals, flags⟩) hp
  dsimp only at hfinish
  split at hfinish
  · next image name description region bucket keyFile =>
    exact .inl ⟨⟨image, name, description, region, bucket, keyFile, none, []⟩, rfl, hfinish⟩
  · next image name description region bucket keyFile topic release imageVersion =>
    exact .inl ⟨⟨image, name, description, region, bucket, keyFile,
      some ⟨topic, release, imageVersion⟩, []⟩, rfl, hfinish⟩
  · next hsix hnine =>
    refine .inr ⟨fun hlength => ?_, fun hlength => ?_, hfinish⟩
    · match positionals, hlength with
      | [_, _, _, _, _, _], _ => exact hsix _ _ _ _ _ _ rfl
    · match positionals, hlength with
      | [_, _, _, _, _, _, _, _, _], _ => exact hnine _ _ _ _ _ _ _ _ _ rfl

/-- All command lines with these positional arguments are accepted, or all refused with one
error. -/
theorem parse_cases (hp : ∀ s ∈ positionals, IsOperand s) :
    (∃ a : Arguments, positionals = a.operands ∧
      ∀ {flags : List Flag} {arguments : List Text}, flags.Nodup →
        Interleaved positionals (flags.map Flag.argument) arguments →
          parse arguments = .ok { a with flags }) ∨
    (positionals.length ≠ 6 ∧ positionals.length ≠ 9 ∧
      ∃ e, ∀ {flags : List Flag} {arguments : List Text}, flags.Nodup →
        Interleaved positionals (flags.map Flag.argument) arguments →
          parse arguments = .error e) := by
  obtain ⟨a, rfl, hfinish⟩ | ⟨hsix, hnine, hfinish⟩ := finish_cases hp
  · have hlength := a.length_operands
    refine .inl ⟨a, rfl, fun hf h => ?_⟩
    rw [parse_eq h hp hf, if_pos (by omega), hfinish]
  · refine .inr ⟨hsix, hnine, if positionals.length ≤ 9 then .missingArgument else .unknownArgument,
      fun hf h => ?_⟩
    rw [parse_eq h hp hf, hfinish]
    split <;> rfl

/-- A command line is accepted exactly if it has six positional arguments or nine. What it then
means can be told from these and the set of its flags, so that any other command line of the same
ones means the same, and is refused with the same error if it is refused. -/
theorem parse_interleaved {arguments : List Text} (hp : ∀ s ∈ positionals, IsOperand s)
    (hf : flags.Nodup) (h : Interleaved positionals (flags.map Flag.argument) arguments) :
    ((∃ a, parse arguments = .ok a) ↔ positionals.length = 6 ∨ positionals.length = 9) ∧
      (∀ a, parse arguments = .ok a → a.Means positionals flags) ∧
      ∀ (arguments' : List Text) (flags' : List Flag), (∀ f, f ∈ flags' ↔ f ∈ flags) →
        flags'.Nodup → Interleaved positionals (flags'.map Flag.argument) arguments' → ∀ found,
          (parse arguments').map (fun a => (a.job found, a.keyFile, a.announcement?)) =
            (parse arguments).map fun a => (a.job found, a.keyFile, a.announcement?) := by
  obtain ⟨a, rfl, hparse⟩ | ⟨hsix, hnine, e, hparse⟩ := parse_cases hp
  · rw [hparse hf h]
    refine ⟨⟨fun _ => a.length_operands, fun _ => ⟨_, rfl⟩⟩, fun b hb => ?_,
      fun arguments' flags' hset hf' h' found => ?_⟩
    · cases hb
      exact Arguments.means_operands { a with flags }
    · rw [hparse hf' h']
      have hjob := Arguments.job_congr (a := { a with flags }) hset found
      have hannouncement := Arguments.announcement?_congr (a := { a with flags }) hset
      exact congrArg Except.ok (Prod.ext hjob (Prod.ext rfl hannouncement))
  · rw [hparse hf h]
    refine ⟨⟨fun ⟨_, ha⟩ => (nomatch ha), fun hlength => ?_⟩, fun _ ha => (nomatch ha),
      fun arguments' flags' _ hf' h' found => ?_⟩
    · rcases hlength with hlength | hlength
      · exact absurd hlength hsix
      · exact absurd hlength hnine
    · rw [hparse hf' h']

/-- Two flags among the arguments of a release. -/
theorem parse_interleaved_release :
    let positionals := ["disk.img", "n", "d", "eu-west-1", "b", "aws.key", "arn:t", "14.1", "1"].map
      String.toList
    let flags : List Flag := [.arm, .isPublic]
    let arguments := ["disk.img", "n", "--arm64", "d", "eu-west-1", "b", "aws.key", "arn:t",
      "--public", "14.1", "1"].map String.toList
    (∀ s ∈ positionals, IsOperand s) ∧ flags.Nodup ∧
      Interleaved positionals (flags.map Flag.argument) arguments ∧
      ∃ a, parse arguments = .ok a ∧
        a.announcement? = some ⟨"arn:t".toList, "14.1".toList, "1".toList⟩ := by
  intro positionals flags arguments
  have hp : ∀ s ∈ positionals, IsOperand s := by decide
  have hf : flags.Nodup := by decide
  have h : Interleaved positionals (flags.map Flag.argument) arguments :=
    .left <| .left <| .right <| .left <| .left <| .left <| .left <| .left <| .right <| .left <|
      .left .nil
  obtain ⟨haccepted, hmeans, -⟩ := parse_interleaved hp hf h
  obtain ⟨a, ha⟩ := haccepted.2 (.inr rfl)
  exact ⟨hp, hf, h, a, ha, ((hmeans a ha).announcement _).2 ⟨by decide, rfl⟩⟩

end CommandLine

end MachineImage
