import MachineImage.Proofs.Encoded
import MachineImage.Signing.Canonical

/-!
What stands in canonical headers and queries. No sign comes in that was not there before, but for
those that are put between their parts, and no end of a line is left in a value.
-/
namespace MachineImage

open Text

namespace Text

theorem mem_of_mem_split {α : Type} {p : α → Bool} {s piece : List α} {a : α}
    (h : piece ∈ split p s) (ha : a ∈ piece) : a ∈ s := by
  induction s generalizing piece with
  | nil =>
    rw [split, List.mem_singleton] at h
    subst h
    exact ha
  | cons b s ih =>
    rw [split] at h
    split at h
    · rcases List.mem_cons.1 h with rfl | h
      · cases ha
      · exact List.mem_cons_of_mem _ (ih h ha)
    · cases hs : split p s with
      | nil => exact absurd hs (split_ne_nil p s)
      | cons first more =>
        rw [hs] at h ih
        rcases List.mem_cons.1 h with rfl | h
        · rcases List.mem_cons.1 ha with rfl | ha
          · exact List.mem_cons_self
          · exact List.mem_cons_of_mem _ (ih List.mem_cons_self ha)
        · exact List.mem_cons_of_mem _ (ih (List.mem_cons_of_mem _ h) ha)

/-- In no piece does it hold. -/
theorem forall_mem_of_mem_split {α : Type} {p : α → Bool} {s piece : List α}
    (h : piece ∈ split p s) : ∀ a ∈ piece, p a = false := by
  induction s generalizing piece with
  | nil =>
    rw [split, List.mem_singleton] at h
    subst h
    exact List.forall_mem_nil _
  | cons b s ih =>
    rw [split] at h
    split at h
    · rcases List.mem_cons.1 h with rfl | h
      · exact List.forall_mem_nil _
      · exact ih h
    · next hb =>
      cases hs : split p s with
      | nil => exact absurd hs (split_ne_nil p s)
      | cons first more =>
        rw [hs] at h ih
        rcases List.mem_cons.1 h with rfl | h
        · exact List.forall_mem_cons.2 ⟨Bool.eq_false_iff.2 hb, ih List.mem_cons_self⟩
        · exact ih (List.mem_cons_of_mem _ h)

theorem append_of_cut {α : Type} {p : α → Bool} {s before after : List α}
    (h : cut p s = some (before, after)) : ∃ a, s = before ++ a :: after := by
  unfold cut at h
  split at h
  · cases h
  · next a rest hdrop =>
    cases h
    exact ⟨a, by rw [← hdrop, List.takeWhile_append_dropWhile]⟩

/-- A character has its number, but for a number that no character has. -/
theorem toNat_ofNat_or (n : Nat) : (Char.ofNat n).toNat = n ∨ (Char.ofNat n).toNat = 0 := by
  by_cases h : n.isValidChar
  · exact .inl (by rw [Char.ofNat, dif_pos h]; rfl)
  · exact .inr (by rw [Char.ofNat, dif_neg h]; rfl)

section

variable {sign : Char} (hpos : 0 < sign.toNat) (hlt : sign.toNat < 0x41)

include hpos hlt

open Lowercase

/-- The small forms of capitals are letters, none of which comes before the capital A. -/
theorem eq_of_mem_lowerChar {c : Char} (h : sign ∈ lowerChar c) : sign = c := by
  have hruns : ∀ r ∈ runs, (0x41 : Int) ≤ r.first + r.shift := by decide +kernel
  unfold lowerChar at h
  split at h
  · next hc =>
    have hlower := of_ascii (fun c => c.toLower.toNat < 0x41 → c.toLower = c) (by decide +kernel) hc
    obtain rfl := List.mem_singleton.1 h
    exact hlower hlt
  split at h
  · rcases List.mem_cons.1 h with rfl | h
    · exact absurd hlt (by decide)
    · obtain rfl := List.mem_singleton.1 h
      exact absurd hlt (by decide)
  split at h
  · next r hr =>
    have hfirst := hruns r (List.mem_of_find?_eq_some hr)
    have hholds := List.find?_some hr
    simp only [Run.holds, Bool.and_eq_true, decide_eq_true_eq] at hholds
    obtain rfl := List.mem_singleton.1 h
    rcases toNat_ofNat_or (c.toNat + r.shift).toNat with hn | hn
    · omega
    · omega
  · exact List.mem_singleton.1 h

theorem mem_of_mem_lowerFrom {before s : Text} (h : sign ∈ lowerFrom before s) : sign ∈ s := by
  induction s generalizing before with
  | nil => exact h
  | cons c s ih =>
    rcases List.mem_append.1 h with h | h
    · split at h
      · -- Neither of the two small sigmas is a sign.
        exfalso
        split at h
        all_goals
          obtain rfl := List.mem_singleton.1 h
          exact absurd hlt (by decide)
      · exact List.mem_cons.2 (.inl (eq_of_mem_lowerChar hpos hlt h))
    · exact List.mem_cons_of_mem _ (ih h)

/-- A sign is in the small form of a text only if it is in the text. -/
theorem mem_of_mem_lower {s : Text} (h : sign ∈ lower s) : sign ∈ s :=
  mem_of_mem_lowerFrom hpos hlt h

end

/-- Of white space only spaces are left. -/
theorem isBlank_of_mem_collapseAfter {after : Bool} {s : Text} {c : Char}
    (h : c ∈ collapseAfter after s) : isBlank c = false ∨ c = ' ' := by
  induction s generalizing after with
  | nil => exact nomatch h
  | cons d s ih =>
    rw [collapseAfter] at h
    split at h
    · split at h
      · exact ih h
      · rcases List.mem_cons.1 h with rfl | h
        · exact .inr rfl
        · exact ih h
    · next hd =>
      rcases List.mem_cons.1 h with rfl | h
      · exact .inl (Bool.eq_false_iff.2 hd)
      · exact ih h

end Text

namespace Signing

/-- The headers that are signed, each name once and in lower case. -/
def signedFields (headers : List Header) : List Header :=
  let headers := headers.map normalized
  (headerNames headers).map fun name => (name, headerValue headers name)

section

variable {headers : List Header}

theorem lines_canonicalHeaders :
    (canonicalHeaders headers).lines = joinFields '\n' ':' (signedFields headers) := by
  simp only [canonicalHeaders, joinFields, signedFields, List.map_map, Function.comp_def]

theorem signed_eq_intercalate : (canonicalHeaders headers).signed =
    [';'].intercalate ((signedFields headers).map (·.1)) := by
  simp only [canonicalHeaders, signedFields, List.map_map, Function.comp_def, List.map_id']

/-- No value goes on to a next line. -/
theorem not_mem_headerValue (name : Text) : '\n' ∉ headerValue (headers.map normalized) name := by
  refine not_mem_intercalate (by decide) fun value hvalue hc => ?_
  obtain ⟨header, hheader, rfl⟩ := List.mem_map.1 hvalue
  obtain ⟨original, -, rfl⟩ := List.mem_map.1 (List.mem_filter.1 hheader).1
  exact absurd (isBlank_of_mem_collapseAfter hc) (by decide)

variable (h : ∀ header ∈ headers, '\n' ∉ header.1 ∧ ':' ∉ header.1)

include h

theorem isField_signedFields : ∀ p ∈ signedFields headers, IsField '\n' ':' p := by
  intro p hp
  obtain ⟨name, hname, rfl⟩ := List.mem_map.1 hp
  rw [headerNames, List.mem_mergeSort, List.mem_eraseDups, List.map_map] at hname
  obtain ⟨header, hheader, rfl⟩ := List.mem_map.1 hname
  obtain ⟨hline, hcolon⟩ := h header hheader
  exact ⟨mt (mem_of_mem_lower (by decide) (by decide)) hcolon,
    mt (mem_of_mem_lower (by decide) (by decide)) hline, not_mem_headerValue _⟩

theorem not_mem_signed : '\n' ∉ (canonicalHeaders headers).signed := by
  rw [signed_eq_intercalate]
  refine not_mem_intercalate (by decide) fun name hname hc => ?_
  obtain ⟨p, hp, rfl⟩ := List.mem_map.1 hname
  exact (isField_signedFields h p hp).2.1 hc

end

theorem mem_of_mem_parameter {piece : Text} {c : Char}
    (h : c ∈ (parameter piece).1 ∨ c ∈ (parameter piece).2) : c ∈ piece := by
  unfold parameter at h
  cases hcut : cut (· == '=') piece with
  | none =>
    rw [hcut] at h
    exact h.elim id nofun
  | some p =>
    rw [hcut] at h
    obtain ⟨a, ha⟩ := append_of_cut hcut
    rw [ha]
    exact h.elim (List.mem_append_left _) fun hc =>
      List.mem_append_right _ (List.mem_cons_of_mem _ hc)

/-- Nothing but the signs between keys, values and pairs is new in a canonical query. -/
theorem not_mem_canonicalQuery {query : Text} {c : Char} (h : c ∉ query) (hmark : c ≠ '&')
    (hsign : c ≠ '=') : c ∉ canonicalQuery query := by
  refine not_mem_intercalate (mt List.mem_singleton.1 hmark) fun text htext hd => ?_
  obtain ⟨p, hp, rfl⟩ := List.mem_map.1 htext
  rw [List.mem_mergeSort] at hp
  obtain ⟨piece, hpiece, rfl⟩ := List.mem_map.1 hp
  refine h (mem_of_mem_split (List.mem_filter.1 hpiece).1 (mem_of_mem_parameter ?_))
  rcases List.mem_append.1 hd with hd | hd
  · exact .inl hd
  · exact .inr (List.mem_of_ne_of_mem hsign hd)

end Signing

end MachineImage
