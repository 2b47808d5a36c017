/-!
Text as lists of characters and wire data as lists of octets, so that laws about them are
inductions, with the few ways in which this library cuts and measures them.
-/
namespace MachineImage

abbrev Text := List Char
abbrev Octets := List UInt8

namespace Text

variable {α : Type}

/-- The pieces between the items where `p` holds, one more than there are such items. -/
def split (p : α → Bool) : List α → List (List α)
  | [] => [[]]
  | a :: s =>
    if p a then [] :: split p s
    else match split p s with
      | [] => [[a]]
      | piece :: more => (a :: piece) :: more

theorem split_ne_nil (p : α → Bool) (s : List α) : split p s ≠ [] := by
  cases s with
  | nil => exact List.cons_ne_nil _ _
  | cons a s =>
    rw [split]
    split
    · exact List.cons_ne_nil _ _
    · split <;> exact List.cons_ne_nil _ _

theorem split_of_forall {p : α → Bool} {s : List α} (h : ∀ a ∈ s, p a = false) :
    split p s = [s] := by
  induction s with
  | nil => rfl
  | cons a s ih =>
    obtain ⟨ha, hs⟩ := List.forall_mem_cons.1 h
    rw [split, ih hs, if_neg (by simp [ha])]

theorem split_append {p : α → Bool} {s : List α} (h : ∀ a ∈ s, p a = false) {b : α}
    (hb : p b = true)
    (t : List α) : split p (s ++ b :: t) = s :: split p t := by
  induction s with
  | nil => rw [List.nil_append, split, if_pos hb]
  | cons a s ih =>
    obtain ⟨ha, hs⟩ := List.forall_mem_cons.1 h
    rw [List.cons_append, split, ih hs, if_neg (by simp [ha])]

/-- Pieces that are written item by item, with a mark for the sign between them, make up what is
written item by item throughout. -/
theorem intercalate_split {β : Type} [DecidableEq α] (sign : α) (mark : List β)
    (write : α → List β) (s : List α) :
    mark.intercalate ((split (· == sign) s).map (·.flatMap write)) =
      s.flatMap fun a => if a = sign then mark else write a := by
  induction s with
  | nil => rfl
  | cons a s ih =>
    rw [List.flatMap_cons, ← ih, split]
    cases hsplit : split (· == sign) s with
    | nil => exact absurd hsplit (split_ne_nil _ _)
    | cons piece more =>
      by_cases ha : a = sign
      · simp [ha, List.intercalate_cons_cons]
      · cases more <;> simp [ha, List.intercalate_cons_cons]

/-- What stands before the first item where `p` holds, and what stands after that item. -/
def cut (p : α → Bool) (s : List α) : Option (List α × List α) :=
  match s.dropWhile (fun a => !p a) with
  | [] => none
  | _ :: after => some (s.takeWhile (fun a => !p a), after)

theorem cut_append {p : α → Bool} {s : List α} (h : ∀ a ∈ s, p a = false) {b : α} (hb : p b = true)
    (t : List α) : cut p (s ++ b :: t) = some (s, t) := by
  have hs : ∀ a ∈ s, (!p a) = true := fun a ha => by rw [h a ha]; rfl
  have hb' : ¬ (!p b) = true := by simp [hb]
  rw [cut, List.dropWhile_append_of_pos hs, List.dropWhile_cons_of_neg (p := fun a => !p a) hb',
    List.takeWhile_append_of_pos hs, List.takeWhile_cons_of_neg (p := fun a => !p a) hb',
    List.append_nil]

section

variable [BEq α] [LawfulBEq α] {sign : α} {s : List α}

theorem beq_of_not_mem (h : sign ∉ s) : ∀ a ∈ s, (a == sign) = false := by
  intro a ha
  rw [beq_eq_false_iff_ne]
  rintro rfl
  exact h ha

/-- Nothing is cut where the sign does not stand. -/
theorem split_of_not_mem (h : sign ∉ s) : split (· == sign) s = [s] :=
  split_of_forall (beq_of_not_mem h)

theorem split_sign (h : sign ∉ s) (t : List α) :
    split (· == sign) (s ++ sign :: t) = s :: split (· == sign) t :=
  split_append (beq_of_not_mem h) BEq.rfl t

theorem cut_sign (h : sign ∉ s) (t : List α) :
    cut (· == sign) (s ++ sign :: t) = some (s, t) :=
  cut_append (beq_of_not_mem h) BEq.rfl t

theorem cut_of_not_mem (h : sign ∉ s) : cut (· == sign) s = none := by
  have hall : ∀ a ∈ s, (!(a == sign)) = true := fun a ha => by rw [beq_of_not_mem h a ha]; rfl
  have hdrop : (s ++ []).dropWhile (fun a => !(a == sign)) = [] :=
    List.dropWhile_append_of_pos hall
  rw [List.append_nil] at hdrop
  rw [cut, hdrop]

end

/-- `breakAfter mark seen s` cuts `seen.reverse ++ s` behind the first `mark` that begins in `s`. -/
def breakAfter [BEq α] (mark seen : List α) : List α → Option (List α × List α)
  | [] => none
  | a :: s =>
    if mark.isPrefixOf (a :: s) then some (seen.reverse ++ mark, (a :: s).drop mark.length)
    else breakAfter mark (a :: seen) s

theorem append_of_breakAfter [BEq α] [LawfulBEq α] {mark seen s before after : List α}
    (h : breakAfter mark seen s = some (before, after)) :
    before ++ after = seen.reverse ++ s := by
  induction s generalizing seen with
  | nil => simp [breakAfter] at h
  | cons a s ih =>
    unfold breakAfter at h
    split at h
    · next hp =>
      obtain ⟨t, ht⟩ := List.isPrefixOf_iff_prefix.1 hp
      cases h
      simp [← ht]
    · simpa using ih h

/-- No mark begins where its first item does not stand. -/
theorem breakAfter_append [BEq α] [LawfulBEq α] {m : α} {mark s : List α} (h : m ∉ s)
    (seen t : List α) :
    breakAfter (m :: mark) seen (s ++ t) = breakAfter (m :: mark) (s.reverse ++ seen) t := by
  induction s generalizing seen with
  | nil => rfl
  | cons a s ih =>
    obtain ⟨ha, hs⟩ : m ≠ a ∧ m ∉ s := by simpa using h
    have hp : ¬ (m :: mark).isPrefixOf (a :: (s ++ t)) = true := by
      simp [List.isPrefixOf, ha]
    rw [List.cons_append, breakAfter, if_neg hp, ih hs, List.reverse_cons, List.append_assoc]
    rfl

/-- A mark does not stand in what is shorter than it. -/
theorem not_infix_dropLast {mark : List α} (hmark : mark ≠ []) : ¬ mark <:+: mark.dropLast := by
  intro h
  have hlength := h.length_le
  have hpos := List.length_pos_iff.2 hmark
  rw [List.length_dropLast] at hlength
  omega

/-- What ends before the mark behind `head` is a beginning of all that stands there. -/
theorem prefix_append_dropLast (mark head after : List α) :
    head ++ mark.dropLast <+: head ++ mark ++ after :=
  ((List.prefix_append_right_inj head).2 (List.dropLast_prefix mark)).trans
    (List.prefix_append _ after)

/-- If no mark ends before the one behind `head`, no other one begins with it. -/
theorem head_eq_nil_of_prefix {mark head after : List α} (h : mark <+: head ++ mark ++ after)
    (hfirst : ¬ mark <:+: head ++ mark.dropLast) : head = [] := by
  cases head with
  | nil => rfl
  | cons a head =>
    have hdrop := prefix_append_dropLast mark (a :: head) after
    refine absurd (List.prefix_of_prefix_length_le h hdrop ?_).isInfix hfirst
    rw [List.length_append, List.length_cons, List.length_dropLast]
    omega

section

variable [BEq α] [LawfulBEq α] {mark : List α}

/-- The cut is behind the first mark: none ends before that one does. -/
theorem breakAfter_eq_some_iff (hmark : mark ≠ []) {seen s before after : List α} :
    breakAfter mark seen s = some (before, after) ↔ ∃ head,
      before = seen.reverse ++ (head ++ mark) ∧ s = head ++ mark ++ after ∧
        ¬ mark <:+: head ++ mark.dropLast := by
  induction s generalizing seen with
  | nil => simp [breakAfter, hmark]
  | cons a s ih =>
    rw [breakAfter]
    split
    · next hp =>
      have hprefix := List.isPrefixOf_iff_prefix.1 hp
      constructor
      · intro h
        obtain ⟨t, ht⟩ := hprefix
        cases h
        exact ⟨[], rfl, by simp [← ht], not_infix_dropLast hmark⟩
      · rintro ⟨head, rfl, hs, hfirst⟩
        rw [hs] at hprefix ⊢
        obtain rfl := head_eq_nil_of_prefix hprefix hfirst
        simp
    · next hp =>
      have hprefix : ¬ mark <+: a :: s := fun h => hp (List.isPrefixOf_iff_prefix.2 h)
      rw [ih]
      constructor
      · rintro ⟨head, rfl, rfl, hfirst⟩
        refine ⟨a :: head, by simp, rfl, fun h => ?_⟩
        -- A mark that ends before the cut begins here, which it does not, or behind this item.
        rcases List.infix_cons_iff.1 h with h | h
        · exact hprefix (h.trans (prefix_append_dropLast mark (a :: head) after))
        · exact hfirst h
      · rintro ⟨head, rfl, hs, hfirst⟩
        cases head with
        | nil => exact absurd ⟨after, hs.symm⟩ hprefix
        | cons b head =>
          obtain ⟨rfl, rfl⟩ := List.cons.inj hs
          exact ⟨head, by simp, rfl, fun h => hfirst (List.infix_cons h)⟩

theorem breakAfter_eq_none_iff (hmark : mark ≠ []) {seen s : List α} :
    breakAfter mark seen s = none ↔ ¬ mark <:+: s := by
  induction s generalizing seen with
  | nil => simp [breakAfter, hmark]
  | cons a s ih =>
    rw [breakAfter, List.infix_cons_iff, ← List.isPrefixOf_iff_prefix]
    split
    · next hp => simp [hp]
    · next hp => rw [ih, or_iff_right hp]

end

/-- Whether `part` stands somewhere in the list. -/
def includes [BEq α] (part : List α) : List α → Bool
  | [] => part.isEmpty
  | a :: s => part.isPrefixOf (a :: s) || includes part s

theorem includes_eq_true_iff [BEq α] [LawfulBEq α] {part s : List α} :
    includes part s = true ↔ part <:+: s := by
  induction s with
  | nil => rw [includes, List.isEmpty_iff, List.infix_nil]
  | cons a s ih =>
    rw [includes, Bool.or_eq_true, List.isPrefixOf_iff_prefix, ih, List.infix_cons_iff]

/-- Membership in a list of closed ranges that stand in ascending order. -/
def inRanges : List (Nat × Nat) → Nat → Bool
  | [], _ => false
  | r :: ranges, n => if n < r.1 then false else n ≤ r.2 || inRanges ranges n

/-- The number of octets that the text takes on the wire. -/
def byteLength (s : Text) : Nat := (s.map Char.utf8Size).foldr (· + ·) 0

/-- `splitBytes seen s n` cuts `seen.reverse ++ s` behind the first `n` octets of `s`, unless that
falls inside a character or beyond the end. -/
def splitBytes (seen : Text) : Text → Nat → Option (Text × Text)
  | s, 0 => some (seen.reverse, s)
  | [], _ + 1 => none
  | c :: s, n + 1 =>
    if c.utf8Size ≤ n + 1 then splitBytes (c :: seen) s (n + 1 - c.utf8Size) else none

/-- The octets from `start` up to `stop`, if both stand between two characters. -/
def sliceBytes (s : Text) (start stop : Nat) : Option Text :=
  (splitBytes [] s start).bind fun p => (splitBytes [] p.2 (stop - start)).map (·.1)

/-- `slideBack n before after` moves the border between two parts of a text `n` octets towards its
beginning, the part before it standing last first, unless that falls inside a character or beyond
the beginning. -/
def slideBack : Nat → Text → Text → Option Text
  | 0, _, after => some after
  | _ + 1, [], _ => none
  | n + 1, c :: before, after =>
    if c.utf8Size ≤ n + 1 then slideBack (n + 1 - c.utf8Size) before (c :: after) else none

end Text

end MachineImage
