import MachineImage.Proofs.Normalized
import Mathlib.Data.List.Chain

/-!
Names without their case and values without their white space. A name in lower case is in lower case
for good, and a value is left with its words, one space between any two of them.
-/
namespace MachineImage.Text

namespace Lowercase

/-- No small letter of the run is a capital of the other one: these come behind or before, or stand
between them. -/
def Run.isApart (r r' : Run) : Bool :=
  let low := (r.first + r.shift).toNat
  let high := (r.last + r.shift).toNat
  Nat.blt high r'.first || Nat.blt r'.last low ||
    (r'.step == 2 && (r.step == 2 || r.first == r.last) && (low + r'.first) % 2 == 1)

/-- The one capital whose small form is longer than itself. -/
def dotted : Run := ⟨0x130, 0x130, 2, 0⟩

theorem isApart_runs : (runs.all fun r => (dotted :: runs).all r.isApart) = true := by
  decide +kernel

/-- The small letters begin behind the capitals of ASCII. -/
theorem low_runs : ∀ r ∈ runs, (0x5B : Int) ≤ r.first + r.shift := by decide +kernel

theorem Run.holds_iff {r : Run} {n : Nat} :
    r.holds n = true ↔ r.first ≤ n ∧ n ≤ r.last ∧ (n - r.first) % r.step = 0 := by
  simp [holds, and_assoc]

theorem Run.holds_eq_false {r r' : Run} (hr : r ∈ runs) (h : r.isApart r' = true) {n : Nat}
    (hn : r.holds n = true) : r'.holds (n + r.shift).toNat = false := by
  have hlow := low_runs r hr
  rw [Bool.eq_false_iff, ne_eq, holds_iff]
  rw [holds_iff] at hn
  simp only [isApart, Bool.or_eq_true, Bool.and_eq_true, Nat.blt_eq, beq_iff_eq] at h
  rintro ⟨hfirst, hlast, hstep⟩
  rcases h with (h | h) | ⟨⟨hstep', hr' | hr'⟩, hodd⟩
  · omega
  · omega
  · rw [hstep'] at hstep
    rw [hr'] at hn
    omega
  · rw [hstep'] at hstep
    omega

end Lowercase

open Lowercase

/-- Behind the capitals of ASCII only those of the runs have another small form. -/
theorem lowerChar_of_holds_eq_false {c : Char} (hlow : 0x5B ≤ c.toNat)
    (h : ∀ r ∈ dotted :: runs, r.holds c.toNat = false) : lowerChar c = [c] := by
  rw [lowerChar]
  split
  · next hlt =>
    have hself := of_ascii (fun c => 0x5B ≤ c.toNat → c.toLower = c) (by decide +kernel) hlt hlow
    rw [hself]
  · have hne : c ≠ '\u0130' := by
      rintro rfl
      exact absurd (h dotted List.mem_cons_self) (by decide)
    have hfind : runs.find? (·.holds c.toNat) = none := by
      rw [List.find?_eq_none]
      intro r hr
      simp [h r (List.mem_cons_of_mem _ hr)]
    rw [if_neg hne, hfind]

/-- The small form of a character is its own small form. -/
theorem lowerChar_of_mem_lowerChar {c d : Char} (h : d ∈ lowerChar c) : lowerChar d = [d] := by
  unfold lowerChar at h
  split at h
  · next hlt =>
    rw [List.mem_singleton.1 h]
    exact of_ascii (fun c => lowerChar c.toLower = [c.toLower]) (by decide +kernel) hlt
  split at h
  · simp only [List.mem_cons, List.not_mem_nil, or_false] at h
    rcases h with rfl | rfl
    · decide
    · decide +kernel
  split at h
  · next r hr =>
    have hrun := List.mem_of_find?_eq_some hr
    have hholds := List.find?_some hr
    have hlow := low_runs r hrun
    have hfirst := (Run.holds_iff.1 hholds).1
    have happart := List.all_eq_true.1 (List.all_eq_true.1 isApart_runs r hrun)
    rw [List.mem_singleton.1 h]
    rcases toNat_ofNat_or (c.toNat + r.shift).toNat with hn | hn
    · apply lowerChar_of_holds_eq_false
      · omega
      · intro r' hr'
        rw [hn]
        exact Run.holds_eq_false hrun (happart r' hr') hholds
    · -- A number that no character has stands for that of the first character.
      rw [← Char.ofNat_toNat (Char.ofNat _), hn]
      decide
  · next hlt hne _ hfind =>
    rw [List.mem_singleton.1 h, lowerChar, if_neg hlt, if_neg hne, hfind]

theorem lowerChar_of_mem_lowerFrom {before s : Text} {d : Char} (h : d ∈ lowerFrom before s) :
    lowerChar d = [d] := by
  induction s generalizing before with
  | nil => exact nomatch h
  | cons c s ih =>
    rcases List.mem_append.1 h with h | h
    · split at h
      · split at h
        all_goals
          rw [List.mem_singleton.1 h]
          decide +kernel
      · exact lowerChar_of_mem_lowerChar h
    · exact ih h

/-- A text of small forms has no sigma whose form depends on what stands around it. -/
theorem lowerFrom_of_forall {before s : Text} (h : ∀ c ∈ s, lowerChar c = [c]) :
    lowerFrom before s = s := by
  induction s generalizing before with
  | nil => rfl
  | cons c s ih =>
    obtain ⟨hc, hs⟩ := List.forall_mem_cons.1 h
    have hne : c ≠ 'Σ' := by
      rintro rfl
      exact absurd hc (by decide +kernel)
    rw [lowerFrom, if_neg hne, hc, ih hs, List.singleton_append]

/-- What is in lower case stays as it is. -/
theorem lower_lower (s : Text) : lower (lower s) = lower s :=
  lowerFrom_of_forall fun _ hc => lowerChar_of_mem_lowerFrom hc

/-- The pieces of a text between its white space. -/
def words (s : Text) : List Text := (split isBlank s).filter (· ≠ [])

/-- The words of a text with one space between any two. -/
def unwords (s : Text) : Text := [' '].intercalate (words s)

theorem words_cons_blank {c : Char} (h : isBlank c = true) (s : Text) :
    words (c :: s) = words s := by
  rw [words, split, if_pos h, List.filter_cons_of_neg (by simp), words]

/-- A word ends where white space follows it. -/
theorem words_cons_end {c : Char} (h : isBlank c = false) {s : Text}
    (hs : ∀ d, s.head? = some d → isBlank d = true) : words (c :: s) = [c] :: words s := by
  cases s with
  | nil => simp [words, split, h]
  | cons d s =>
    have hd := hs d rfl
    simp [words, split, h, hd]

/-- And goes on where none does. -/
theorem exists_words_cons {c d : Char} (h : isBlank c = false) (hd : isBlank d = false) (s : Text) :
    ∃ word more, words (d :: s) = word :: more ∧ words (c :: d :: s) = (c :: word) :: more := by
  cases hs : split isBlank s with
  | nil => exact absurd hs (split_ne_nil _ s)
  | cons first more =>
    refine ⟨d :: first, more.filter (· ≠ []), ?_, ?_⟩
    · simp [words, split, hd, hs]
    · simp [words, split, h, hd, hs]

theorem words_append_left {before : Text} (h : ∀ c ∈ before, isBlank c = true) (s : Text) :
    words (before ++ s) = words s := by
  induction before with
  | nil => rfl
  | cons c before ih =>
    obtain ⟨hc, hbefore⟩ := List.forall_mem_cons.1 h
    rw [List.cons_append, words_cons_blank hc, ih hbefore]

theorem split_append_right {α : Type} {p : α → Bool} {after : List α}
    (h : ∀ a ∈ after, p a = true) (s : List α) :
    split p (s ++ after) = split p s ++ List.replicate after.length [] := by
  induction s with
  | nil =>
    induction after with
    | nil => rfl
    | cons a after ih =>
      obtain ⟨ha, hafter⟩ := List.forall_mem_cons.1 h
      have hrest : split p after = [] :: List.replicate after.length [] := ih hafter
      have hsplit : split p (a :: after) = [] :: split p after := by rw [split, if_pos ha]
      rw [List.nil_append, hsplit, hrest]
      rfl
  | cons a s ih =>
    rw [List.cons_append, split, split, ih]
    cases hs : split p s with
    | nil => exact absurd hs (split_ne_nil p s)
    | cons first more => split <;> rfl

theorem words_append_right {after : Text} (h : ∀ c ∈ after, isBlank c = true) (s : Text) :
    words (s ++ after) = words s := by
  rw [words, split_append_right h, List.filter_append, List.filter_replicate]
  simp [words]

/-- The white space at the ends of a text does not belong to its words. -/
theorem words_trim (s : Text) : words (trim s) = words s := by
  obtain ⟨before, after, hs, hbefore, hafter⟩ := exists_strip isBlank s
  conv => rhs; rw [hs, words_append_left hbefore, words_append_right hafter]
  rfl

/-- Whether a run of white space is under way does not matter to what is not white space. -/
theorem collapseAfter_of_head {c : Char} (h : isBlank c = false) (after : Bool) (s : Text) :
    collapseAfter after (c :: s) = c :: collapseAfter false s := by
  rw [collapseAfter, if_neg (by simp [h])]

theorem words_ne_nil {s : Text} {c : Char} (hc : s.getLast? = some c) (h : isBlank c = false) :
    words s ≠ [] := by
  induction s with
  | nil => exact nomatch hc
  | cons d s ih =>
    cases hd : isBlank d with
    | true =>
      rw [words_cons_blank hd]
      cases s with
      | nil =>
        cases hc
        exact absurd (h.symm.trans hd) nofun
      | cons e s => exact ih hc
    | false =>
      cases hs : split isBlank s with
      | nil => exact absurd hs (split_ne_nil _ s)
      | cons first more => simp [words, split, hd, hs]

/-- A text that does not end with white space collapses to its words. -/
theorem collapseAfter_eq_unwords {s : Text} (h : ∀ c, s.getLast? = some c → isBlank c = false) :
    collapseAfter true s = unwords s := by
  induction s with
  | nil => rfl
  | cons c s ih =>
    cases hc : isBlank c with
    | true =>
      rw [collapseAfter, if_pos hc, if_pos rfl, unwords, words_cons_blank hc]
      cases s with
      | nil => rfl
      | cons d s => exact ih h
    | false =>
      rw [collapseAfter_of_head hc]
      cases s with
      | nil => simp [collapseAfter, unwords, words, split, hc]
      | cons d s =>
        have hrest := ih h
        cases hd : isBlank d with
        | true =>
          have hlast := List.getLast?_eq_some_getLast (List.cons_ne_nil d s)
          have hne : words (d :: s) ≠ [] := words_ne_nil hlast (h _ hlast)
          have hends : ∀ e, (d :: s).head? = some e → isBlank e = true := by
            intro e he
            cases he
            exact hd
          obtain ⟨word, more, hwords⟩ := List.exists_cons_of_ne_nil hne
          rw [collapseAfter, if_pos hd] at hrest ⊢
          rw [if_pos rfl] at hrest
          rw [hrest, unwords, unwords, words_cons_end hc hends, hwords, List.intercalate_cons_cons]
          rfl
        | false =>
          obtain ⟨word, more, hwords, hcons⟩ := exists_words_cons hc hd s
          rw [collapseAfter_of_head hd] at hrest ⊢
          rw [hrest, unwords, unwords, hwords, hcons]
          cases more <;> simp [List.intercalate_cons_cons]

theorem trim_ends (s : Text) : (∀ c, (trim s).head? = some c → isBlank c = false) ∧
    ∀ c, (trim s).getLast? = some c → isBlank c = false := by
  have hfirst : ∀ {t : Text} {c}, (t.dropWhile isBlank).head? = some c → isBlank c = false := by
    intro t c hc
    have hnot := List.head?_dropWhile_not isBlank t
    rw [hc] at hnot
    exact hnot
  have hprefix : trim s <+: s.dropWhile isBlank := by
    rw [← List.reverse_suffix, trim, List.reverse_reverse]
    exact List.dropWhile_suffix _
  refine ⟨fun c hc => ?_, fun c hc => ?_⟩
  · obtain ⟨t, ht⟩ := hprefix
    refine hfirst (t := s) ?_
    rw [← ht, List.head?_append, hc, Option.some_or]
  · rw [trim, List.getLast?_reverse] at hc
    exact hfirst hc

/-- A value is left with its words. -/
theorem collapse_trim (s : Text) : collapse (trim s) = unwords s := by
  obtain ⟨hhead, hlast⟩ := trim_ends s
  have hcollapse := collapseAfter_eq_unwords hlast
  rw [unwords, words_trim] at hcollapse
  rw [unwords, ← hcollapse, collapse]
  cases ht : trim s with
  | nil => rfl
  | cons c t =>
    rw [ht] at hhead
    rw [collapseAfter_of_head (hhead c rfl), collapseAfter_of_head (hhead c rfl)]

/-- White space stands only inside the text, and only as single spaces. -/
structure IsSpaced (s : Text) : Prop where
  space : ∀ c ∈ s, isBlank c = true → c = ' '
  head : ∀ c, s.head? = some c → isBlank c = false
  last : ∀ c, s.getLast? = some c → isBlank c = false
  single : s.IsChain fun c d => isBlank c = false ∨ isBlank d = false

namespace IsSpaced

variable {s t : Text}

theorem of_forall (h : ∀ c ∈ s, isBlank c = false) : IsSpaced s where
  space := fun c hc hblank => nomatch (h c hc).symm.trans hblank
  head := fun c hc => h c (List.mem_of_head? hc)
  last := fun c hc => h c (List.mem_of_getLast? hc)
  single := (List.pairwise_of_forall_mem_list fun c hc _ _ => .inl (h c hc)).isChain

/-- Two such texts with a sign between them, which is a space only if both are something. -/
theorem append (h : IsSpaced s) (h' : IsSpaced t) {c : Char}
    (hc : isBlank c = true → c = ' ' ∧ s ≠ [] ∧ t ≠ []) : IsSpaced (s ++ c :: t) where
  space := List.forall_mem_append.2
    ⟨h.space, List.forall_mem_cons.2 ⟨fun hb => (hc hb).1, h'.space⟩⟩
  head := by
    cases s with
    | nil =>
      intro d hd
      cases hd
      exact Bool.eq_false_iff.2 fun hb => (hc hb).2.1 rfl
    | cons d s => exact h.head
  last := by
    intro d hd
    rw [List.getLast?_append, List.getLast?_cons] at hd
    cases ht : t.getLast? with
    | none =>
      have hnil := List.getLast?_eq_none_iff.1 ht
      rw [hnil] at hd
      cases hd
      exact Bool.eq_false_iff.2 fun hb => (hc hb).2.2 hnil
    | some e =>
      rw [ht] at hd
      cases hd
      exact h'.last _ ht
  single := by
    rw [List.isChain_append, List.isChain_cons]
    exact ⟨h.single, ⟨fun d hd => .inr (h'.head d hd), h'.single⟩,
      fun d hd _ _ => .inl (h.last d hd)⟩

/-- Any number of such texts with a sign between any two. -/
theorem intercalate {c : Char} {pieces : List Text} (h : ∀ piece ∈ pieces, IsSpaced piece)
    (hc : isBlank c = true → c = ' ' ∧ [] ∉ pieces) : IsSpaced ([c].intercalate pieces) := by
  induction pieces with
  | nil => exact of_forall nofun
  | cons piece more ih =>
    obtain ⟨hpiece, hmore⟩ := List.forall_mem_cons.1 h
    cases more with
    | nil => rwa [List.intercalate_singleton]
    | cons next more =>
      have hrest := ih hmore fun hb => ⟨(hc hb).1, mt (List.mem_cons_of_mem _) (hc hb).2⟩
      rw [List.intercalate_cons_cons, List.append_assoc, List.singleton_append]
      refine hpiece.append hrest fun hb => ⟨(hc hb).1, ?_, ?_⟩
      · rintro rfl
        exact (hc hb).2 List.mem_cons_self
      · cases next with
        | nil => exact absurd (List.mem_cons_of_mem _ List.mem_cons_self) (hc hb).2
        | cons d next => cases more <;> simp [List.intercalate_cons_cons]

theorem collapseAfter_eq (h : ∀ c ∈ s, isBlank c = true → c = ' ')
    (hsingle : s.IsChain fun c d => isBlank c = false ∨ isBlank d = false) {after : Bool}
    (hafter : after = true → ∀ c, s.head? = some c → isBlank c = false) :
    collapseAfter after s = s := by
  induction s generalizing after with
  | nil => rfl
  | cons c s ih =>
    obtain ⟨hc, hs⟩ := List.forall_mem_cons.1 h
    obtain ⟨hnext, hsingle⟩ := List.isChain_cons.1 hsingle
    cases hb : isBlank c with
    | false =>
      have hrest : collapseAfter false s = s :=
        ih hs hsingle fun hf => absurd hf Bool.false_ne_true
      rw [collapseAfter_of_head hb, hrest]
    | true =>
      have hfirst : after = false :=
        Bool.eq_false_iff.2 fun ha => nomatch (hafter ha c rfl).symm.trans hb
      have hrest : collapseAfter true s = s :=
        ih hs hsingle fun _ d hd => (hnext d hd).resolve_left (by simp [hb])
      rw [hfirst, collapseAfter, if_pos hb, if_neg Bool.false_ne_true, hrest, hc hb]

/-- Such a text is collapsed already. -/
theorem collapse_trim (h : IsSpaced s) : collapse (trim s) = s := by
  rw [trim_eq_strip, strip_of_ends h.head h.last]
  exact collapseAfter_eq h.space h.single nofun

end IsSpaced

theorem isSpaced_unwords (s : Text) : IsSpaced (unwords s) := by
  refine IsSpaced.intercalate (fun word hword => .of_forall ?_) fun _ => ⟨rfl, fun hnil => ?_⟩
  · exact forall_mem_of_mem_split (List.mem_filter.1 hword).1
  · exact absurd (List.mem_filter.1 hnil).2 (by decide)

end MachineImage.Text
