import MachineImage.Proofs.Continued

/-!
Tokens that are read from their own characters: what a token is does not depend on what follows it,
so that any other continuation may stand in its place.
-/
namespace MachineImage

open Text

theorem Text.breakAfter_used {mark seen s before after : Text} (hm : mark ≠ [])
    (h : breakAfter mark seen s = some (before, after)) :
    ∃ used, s = used ++ after ∧ mark <:+ used ∧
      breakAfter mark seen used = some (before, []) := by
  obtain ⟨head, rfl, rfl, hfirst⟩ := (breakAfter_eq_some_iff hm).1 h
  refine ⟨head ++ mark, rfl, List.suffix_append head mark, ?_⟩
  exact (breakAfter_eq_some_iff hm).2 ⟨head, rfl, (List.append_nil _).symm, hfirst⟩

namespace Markup

theorem tagEnd_used {seen s content rest : Text} {quote : Option Char}
    (h : tagEnd seen quote s = .ok (content, rest)) :
    ∃ used, s = used ++ rest ∧ tagEnd seen quote used = .ok (content, []) := by
  induction s generalizing seen quote with
  | nil => cases quote <;> simp [tagEnd] at h
  | cons c s ih =>
    cases quote with
    | none =>
      unfold tagEnd at h
      split at h
      · next hc =>
        cases h
        exact ⟨[c], rfl, by rw [tagEnd, if_pos hc]⟩
      · next hc =>
        obtain ⟨used, rfl, hused⟩ := ih h
        exact ⟨c :: used, rfl, by rw [tagEnd, if_neg hc, hused]⟩
    | some q =>
      obtain ⟨used, rfl, hused⟩ := ih h
      exact ⟨c :: used, rfl, hused⟩

theorem doctypeEnd_used {seen s content rest : Text} {place : Place}
    (h : doctypeEnd seen place s = some (content, rest)) :
    ∃ used, s = used ++ rest ∧ doctypeEnd seen place used = some (content, []) := by
  induction s generalizing seen place with
  | nil => simp [doctypeEnd] at h
  | cons c s ih =>
    unfold doctypeEnd at h
    split at h
    · next hn =>
      cases h
      refine ⟨[c], rfl, ?_⟩
      rw [doctypeEnd, next_eq_none_congr hn]
    · next next hn =>
      obtain ⟨used, rfl, hused⟩ := ih h
      refine ⟨c :: used, rfl, ?_⟩
      rw [next_append (mem_of_doctypeEnd hused)] at hn
      rw [doctypeEnd, hn]
      exact hused

theorem doctype_used {c : Char} {s rest : Text} {t : Token} (h : doctype c s = .ok (t, rest)) :
    ∃ used, s = used ++ rest ∧ doctype c used = .ok (t, []) := by
  unfold doctype at h
  split at h
  · cases h
  · next content after he =>
    obtain ⟨used, hs, hused⟩ := doctypeEnd_used he
    split at h
    · cases h
    · next hname =>
      split at h
      · cases h
      · next hspace =>
        cases h
        refine ⟨used, hs, ?_⟩
        rw [doctype, hused]
        simp only [if_neg hname, if_neg hspace]

/-- Which construct it is does not matter where its end is found. -/
theorem asideEnd_used {what : Construct} {lead mark : String} {s rest : Text} {t : Token}
    (h : asideEnd what lead mark s = .ok (t, rest)) (hm : mark.toList ≠ []) :
    ∃ used, s = used ++ rest ∧ mark.toList <:+ used ∧
      ∀ what', asideEnd what' lead mark used = .ok (t, []) := by
  unfold asideEnd at h
  split at h
  · next chars after hb =>
    obtain ⟨used, hs, hmark, hused⟩ := breakAfter_used hm hb
    cases h
    refine ⟨used, hs, hmark, fun what' => ?_⟩
    rw [asideEnd, hused]
  · cases h

theorem markedSection_used {s rest : Text} {t : Token} (h : markedSection s = .ok (t, rest)) :
    ∃ used, s = used ++ rest ∧ markedSection used = .ok (t, []) := by
  unfold markedSection at h
  split at h
  · split at h
    · next hcdata =>
      obtain ⟨used, rfl, hmark, hused⟩ := asideEnd_used h (by decide)
      -- The name ends before the mark does, as a `>` is the last of it.
      have hend : '>' ∈ used := hmark.subset (by decide)
      rw [isPrefixOf_append_of_mem (by decide) hend] at hcdata
      exact ⟨'[' :: used, rfl, by rw [markedSection, if_pos hcdata, hused]⟩
    · cases h
  · obtain ⟨used, rfl, -, hused⟩ := asideEnd_used h (by decide)
    exact ⟨'-' :: '-' :: used, rfl, hused _⟩
  · cases h
  · obtain ⟨used, rfl, hused⟩ := doctype_used h
    exact ⟨'D' :: used, rfl, hused⟩
  · obtain ⟨used, rfl, hused⟩ := doctype_used h
    exact ⟨'d' :: used, rfl, hused⟩
  · cases h

theorem instruction_used {s rest : Text} {t : Token} (h : instruction s = .ok (t, rest)) :
    ∃ used, s = used ++ rest ∧ instruction used = .ok (t, []) := by
  unfold instruction at h
  split at h
  · cases h
  · next hhead =>
    obtain ⟨used, rfl, hmark, hused⟩ := asideEnd_used h (by decide)
    have hfirst : used.head? ≠ some '>' := by
      cases used with
      | nil => exact nofun
      | cons c used => exact hhead
    exact ⟨used, rfl, by rw [instruction, if_neg hfirst, hused]⟩

theorem markup_used {s rest : Text} {t : Token} (h : markup s = .ok (t, rest)) :
    ∃ used, s = used ++ rest ∧ markup used = .ok (t, []) := by
  unfold markup at h
  split at h
  · obtain ⟨used, rfl, hused⟩ := markedSection_used h
    exact ⟨'!' :: used, rfl, hused⟩
  · obtain ⟨used, rfl, hused⟩ := instruction_used h
    exact ⟨'?' :: used, rfl, hused⟩
  · next s =>
    cases he : tagEnd [] none s with
    | error f => rw [he] at h; cases h
    | ok p =>
      rw [he] at h
      cases h
      obtain ⟨used, rfl, hused⟩ := tagEnd_used he
      exact ⟨'/' :: used, rfl, by rw [markup, hused]; rfl⟩
  · next hmark hquestion hslash =>
    cases he : tagEnd [] none s with
    | error f => rw [he] at h; cases h
    | ok p =>
      rw [he] at h
      cases h
      obtain ⟨used, rfl, hused⟩ := tagEnd_used he
      cases used with
      | nil => cases hused
      | cons c used =>
        have hc : c ≠ '!' ∧ c ≠ '?' ∧ c ≠ '/' :=
          ⟨fun hc => hmark _ (by rw [hc]; rfl), fun hc => hquestion _ (by rw [hc]; rfl),
            fun hc => hslash _ (by rw [hc]; rfl)⟩
        exact ⟨c :: used, rfl, by rw [markup_opening hc, hused]; rfl⟩

theorem reference_used {s rest : Text} {t : Token} (h : reference s = .ok (t, rest)) :
    ∃ used, s = used ++ rest ∧ reference used = .ok (t, []) := by
  unfold reference at h
  simp only at h
  split at h
  · next after hd =>
    cases h
    have hsplit := List.takeWhile_append_dropWhile (l := s)
      (p := fun c => c != ';' && c != '&' && c != '<')
    have hname := List.all_takeWhile (l := s) (p := fun c => c != ';' && c != '&' && c != '<')
    rw [List.all_eq_true] at hname
    rw [hd] at hsplit
    refine ⟨_ ++ [';'], by rw [List.append_assoc]; exact hsplit.symm, ?_⟩
    rw [reference]
    simp only [List.dropWhile_append_of_pos hname, List.takeWhile_append_of_pos hname]
    simp
  · cases h

/-- What is plain is read up to where something else begins. -/
theorem scan_text {chars more : Text} (hne : chars ≠ []) (hchars : ∀ c ∈ chars, isPlain c = true)
    (hmore : ∀ c ∈ more.head?, isPlain c = false) :
    scan (chars ++ more) = .ok (some (.text chars, more)) := by
  obtain ⟨c, chars, rfl⟩ := List.exists_cons_of_ne_nil hne
  have hends : more.takeWhile isPlain = [] ∧ more.dropWhile isPlain = more := by
    cases more with
    | nil => exact ⟨rfl, rfl⟩
    | cons c' more =>
      have hc' : ¬ isPlain c' = true := by simp [hmore c' rfl]
      exact ⟨List.takeWhile_cons_of_neg hc', List.dropWhile_cons_of_neg hc'⟩
  rw [List.cons_append, scan_plain (hchars c List.mem_cons_self), ← List.cons_append,
    List.takeWhile_append_of_pos hchars, List.dropWhile_append_of_pos hchars, hends.1, hends.2,
    List.append_nil]

/-- With anything else behind it a token is still the same, but for a text, behind which stands
what does not belong to it. -/
theorem scan_lexeme {s rest : Text} {t : Token} (h : scan s = .ok (some (t, rest))) {more : Text}
    (hmore : more = [] ∨ more.head? = rest.head?) :
    scan (t.lexeme ++ more) = .ok (some (t, more)) := by
  have hlexeme := lexeme_append_of_scan h
  have hne := lexeme_ne_nil_of_scan h
  unfold scan at h
  split at h
  · cases h
  · next s =>
    cases hm : markup s with
    | error f => rw [hm] at h; cases h
    | ok p =>
      rw [hm] at h
      cases h
      obtain ⟨used, hs, hused⟩ := markup_used hm
      rw [hs, ← List.cons_append, List.append_cancel_right_eq] at hlexeme
      rw [hlexeme, List.cons_append, scan, markup_append hused]
      rfl
  · next s =>
    cases hr : reference s with
    | error f => rw [hr] at h; cases h
    | ok p =>
      rw [hr] at h
      cases h
      obtain ⟨used, hs, hused⟩ := reference_used hr
      rw [hs, ← List.cons_append, List.append_cancel_right_eq] at hlexeme
      rw [hlexeme, List.cons_append, scan, reference_append hused]
      rfl
  · cases h
    have hchars := List.all_takeWhile (l := s) (p := isPlain)
    refine scan_text hne (List.all_eq_true.1 hchars) fun c hc => ?_
    rcases hmore with rfl | hmore
    · cases hc
    · have hend := List.head?_dropWhile_not isPlain s
      rw [← hmore, Option.mem_def.1 hc] at hend
      exact hend

end Markup

end MachineImage
