import MachineImage.Proofs.ManifestRead
import MachineImage.Proofs.Octets
import MachineImage.Text.Alphanumeric

/-!
Ampersands escaped and read back: how an escaped text looks, that to resolve it is to undo the
escaping, and that an element with an escaped text in it gives that text.
-/
namespace MachineImage.Markup

open Text

theorem escapeAmpersands_append (s t : Text) :
    escapeAmpersands (s ++ t) = escapeAmpersands s ++ escapeAmpersands t := List.flatMap_append

theorem escapeAmpersands_cons (c : Char) (s : Text) :
    escapeAmpersands (c :: s) =
      (if c = '&' then "&amp;".toList else [c]) ++ escapeAmpersands s := List.flatMap_cons

/-- The pieces between the ampersands are written as they are. -/
theorem escapeAmpersands_eq_intercalate (s : Text) :
    escapeAmpersands s = "&amp;".toList.intercalate (split (· == '&') s) := by
  have hpieces := intercalate_split '&' "&amp;".toList (fun c => [c]) s
  simp only [List.flatMap_singleton', List.map_id'] at hpieces
  exact hpieces.symm

/-- Each ampersand takes four octets more. -/
theorem byteLength_escapeAmpersands (s : Text) :
    byteLength (escapeAmpersands s) = byteLength s + 4 * s.count '&' := by
  induction s with
  | nil => rfl
  | cons c s ih =>
    rw [escapeAmpersands_cons, byteLength_append, ih, byteLength_cons, List.count_cons]
    by_cases hc : c = '&'
    · have hmore : byteLength "&amp;".toList = '&'.utf8Size + 4 := rfl
      rw [if_pos hc, hmore, hc, if_pos BEq.rfl]
      omega
    · have hone : byteLength [c] = c.utf8Size := rfl
      rw [if_neg hc, hone, if_neg (by simpa using hc)]
      omega

/-- A character stands behind what is free of it. -/
theorem exists_of_append_eq {c : Char} {free s before after : Text} (hfree : c ∉ free)
    (h : free ++ s = before ++ c :: after) : ∃ more, s = more ++ c :: after := by
  rcases List.append_eq_append_iff.1 h with ⟨more, -, hmore⟩ | ⟨cut, rfl, hcut⟩
  · exact ⟨more, hmore⟩
  · cases cut with
    | nil => exact ⟨[], hcut.symm⟩
    | cons c' cut =>
      obtain ⟨rfl, -⟩ := List.cons.inj hcut
      exact absurd (List.mem_append_right before List.mem_cons_self) hfree

/-- No ampersand stands bare. -/
theorem prefix_of_escapeAmpersands {s before after : Text}
    (h : escapeAmpersands s = before ++ '&' :: after) : "amp;".toList <+: after := by
  induction s generalizing before with
  | nil => simp [escapeAmpersands] at h
  | cons c s ih =>
    rw [escapeAmpersands_cons] at h
    by_cases hc : c = '&'
    · rw [if_pos hc] at h
      cases before with
      | nil =>
        obtain ⟨-, rfl⟩ := List.cons.inj h
        exact List.prefix_append _ _
      | cons b before =>
        obtain ⟨-, h⟩ := List.cons.inj h
        have hfree : '&' ∉ "amp;".toList := by decide
        obtain ⟨more, hmore⟩ := exists_of_append_eq hfree h
        exact ih hmore
    · rw [if_neg hc] at h
      obtain ⟨more, hmore⟩ := exists_of_append_eq (by simpa using Ne.symm hc) h
      exact ih hmore

/-- What is no letter or digit of ASCII is a letter only beyond it. -/
theorem isAlphanum_or_le_of_isAlphabetic {c : Char} (h : isAlphabetic c = true) :
    c.isAlphanum = true ∨ 0xAA ≤ c.toNat := by
  refine or_iff_not_imp_right.2 fun hlt => ?_
  have hranges : inRanges Alphanumeric.ranges c.toNat = false := if_pos (Nat.lt_of_not_le hlt)
  rw [isAlphabetic, isAlphanumeric, hranges, Bool.or_false, Bool.and_eq_true, Bool.and_eq_true] at h
  exact h.1.1

/-- A letter may stand in a name. -/
theorem isNameLetter_of_isAlphabetic {c : Char} (h : isAlphabetic c = true) :
    isNameLetter c = true := by
  have hmarks : (" \t\r\n<>&/!?'\"".toList.all fun mark =>
      ¬ (mark.isAlphanum = true ∨ 0xAA ≤ mark.toNat)) = true := by decide
  have hmem : c ∉ " \t\r\n<>&/!?'\"".toList := fun hmem =>
    of_decide_eq_true (List.all_eq_true.1 hmarks c hmem) (isAlphanum_or_le_of_isAlphabetic h)
  simpa [isNameLetter, isSpace, and_assoc] using hmem

theorem gives_nameless_opening (opened : List Text) :
    Gives opened "<>".toList (.start []) ([] :: opened) := fun _ _ _ => rfl

theorem gives_nameless_closing (opened : List Text) :
    Gives ([] :: opened) "</>".toList .finish opened := fun _ _ _ => rfl

/-- A name of no letters is found too. -/
theorem extractFirst_nameless {s : Text} (h : Quiet s) :
    extractFirst ("<>".toList ++ (s ++ "</>".toList)) [] = .ok (some s) := by
  have hclose : ∀ read, Cursor.close [] 0 [] ⟨read, s ++ "</>".toList, false, [[]]⟩ =
      .ok (s, ⟨"</>".toList.reverse ++ (s.reverse ++ read), [], false, []⟩) := by
    intro read
    rw [h.silent.close, Cursor.close, ← List.append_nil "</>".toList, gives_nameless_closing]
    simp only [List.append_nil, List.reverse_reverse]
  rw [extractFirst, ofDocument_unmarked (by simp), Cursor.find?, gives_nameless_opening]
  simp only [hclose]
  rfl

theorem extractText_urlElement {s : Text} (hs : '<' ∉ s) {tag : String}
    (htag : ∀ c ∈ tag.toList, isAlphabetic c = true) :
    extractText (urlElement tag s) tag.toList = .ok (some (trim s)) := by
  have hreads := reads_escapeAmpersands s
  have hquiet := quiet_escapeAmpersands hs
  by_cases hempty : tag.toList = []
  · have helement : urlElement tag s = "<>".toList ++ (escapeAmpersands s ++ "</>".toList) := by
      simp [urlElement, element, hempty]
    rw [helement, hempty, extractText, extractFirst_nameless hquiet]
    simp only [unescape_of_reads hreads.trim]
  · have hname : isName tag.toList = true := by
      rw [isName, Bool.and_eq_true, List.all_eq_true]
      exact ⟨by simpa using hempty, fun c hc => isNameLetter_of_isAlphabetic (htag c hc)⟩
    have hcolon : ':' ∉ tag.toList := fun hmem =>
      absurd (isAlphanum_or_le_of_isAlphabetic (htag ':' hmem)) (by decide)
    have hlocal : localName (tagOf tag [] hname).name = tag.toList := by
      change localName tag.toList = tag.toList
      rw [localName, cut_of_not_mem hcolon]
    have helement : (leaf tag hname _ hquiet .nil).render = urlElement tag s := by
      rw [render_leaf, Forest.render, List.append_nil, urlElement]
    have hfound : ((leaf tag hname _ hquiet .nil).outermost tag.toList).head? =
        some (Forest.content _ hquiet .nil).render := by
      rw [leaf, Forest.outermost, if_pos hlocal, List.head?_cons]
    rw [← helement]
    refine Forest.extractText_render ?_ hfound hreads.content
    have hhead : (urlElement tag s).head? = some '<' := rfl
    rw [helement, hhead]
    decide

/-- Escaping adds four octets to each ampersand and leaves none bare, it is done piece by piece, and
to resolve the references is to undo it, in a text as in an element of any name. -/
theorem escapeAmpersands_undone (s : Text) :
    (∀ before after, escapeAmpersands s = before ++ '&' :: after → "amp;".toList <+: after) ∧
      byteLength (escapeAmpersands s) = byteLength s + 4 * s.count '&' ∧
      (∀ t, escapeAmpersands (s ++ t) = escapeAmpersands s ++ escapeAmpersands t) ∧
      escapeAmpersands s = "&amp;".toList.intercalate (split (· == '&') s) ∧
      unescape (escapeAmpersands s) = .ok s ∧
      unescape (trim (escapeAmpersands s)) = .ok (trim s) ∧
      ('<' ∉ s → ∀ tag : String, (∀ c ∈ tag.toList, isAlphabetic c = true) →
        extractText (urlElement tag s) tag.toList = .ok (some (trim s))) := by
  have hreads := reads_escapeAmpersands s
  exact ⟨fun _ _ => prefix_of_escapeAmpersands, byteLength_escapeAmpersands s,
    escapeAmpersands_append s, escapeAmpersands_eq_intercalate s, unescape_of_reads hreads,
    unescape_of_reads hreads.trim, fun hs _ htag => extractText_urlElement hs htag⟩

end MachineImage.Markup
