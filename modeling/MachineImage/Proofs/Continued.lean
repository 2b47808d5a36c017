import MachineImage.Compute.Answer

/-!
Documents that are received in part: an element that is found in what has come so far is found in
the whole, with the same contents.
-/
namespace MachineImage

namespace Text

variable {α : Type}

/-- What ends inside a text does not depend on how the text goes on. -/
theorem takeWhile_dropWhile_append {p : α → Bool} {s : List α} (h : s.dropWhile p ≠ [])
    (more : List α) :
    (s ++ more).takeWhile p = s.takeWhile p ∧ (s ++ more).dropWhile p = s.dropWhile p ++ more := by
  induction s with
  | nil => exact absurd rfl h
  | cons a s ih =>
    rw [List.cons_append, List.takeWhile_cons, List.takeWhile_cons, List.dropWhile_cons,
      List.dropWhile_cons]
    by_cases ha : p a = true
    · rw [List.dropWhile_cons_of_pos ha] at h
      obtain ⟨htake, hdrop⟩ := ih h
      simp only [if_pos ha, htake, hdrop, and_self]
    · simp only [if_neg ha, List.cons_append, and_self]

variable [BEq α] [LawfulBEq α]

/-- A text with an item that the other lacks does not become its beginning when it goes on. -/
theorem isPrefixOf_append_of_mem {p s : List α} {a : α} (hp : a ∉ p) (hs : a ∈ s) (more : List α) :
    p.isPrefixOf (s ++ more) = p.isPrefixOf s := by
  induction p generalizing s with
  | nil => rfl
  | cons b p ih =>
    obtain ⟨hb, hp⟩ : a ≠ b ∧ a ∉ p := by simpa using hp
    cases s with
    | nil => exact absurd hs List.not_mem_nil
    | cons c s =>
      rw [List.cons_append, List.isPrefixOf, List.isPrefixOf]
      by_cases hbc : b = c
      · have hs : a ∈ s := (List.mem_cons.1 hs).resolve_left (hbc ▸ hb)
        rw [ih hp hs]
      · rw [beq_false_of_ne hbc, Bool.false_and, Bool.false_and]

theorem isPrefixOf_append {p s : List α} (h : p.isPrefixOf s = true) (more : List α) :
    p.isPrefixOf (s ++ more) = true := by
  rw [List.isPrefixOf_iff_prefix] at h ⊢
  exact h.trans (List.prefix_append s more)

theorem breakAfter_append_right {mark seen s before after : List α}
    (h : breakAfter mark seen s = some (before, after)) (more : List α) :
    breakAfter mark seen (s ++ more) = some (before, after ++ more) := by
  by_cases hmark : mark = []
  · subst hmark
    cases s with
    | nil => cases h
    | cons a s =>
      cases h
      rfl
  · obtain ⟨head, rfl, rfl, hfirst⟩ := (breakAfter_eq_some_iff hmark).1 h
    exact (breakAfter_eq_some_iff hmark).2 ⟨head, rfl, List.append_assoc .., hfirst⟩

end Text

namespace Markup

open Text

theorem tagEnd_append {seen s content rest : Text} {quote : Option Char}
    (h : tagEnd seen quote s = .ok (content, rest)) (more : Text) :
    tagEnd seen quote (s ++ more) = .ok (content, rest ++ more) := by
  induction s generalizing seen quote with
  | nil => cases quote <;> simp [tagEnd] at h
  | cons c s ih =>
    cases quote with
    | none =>
      rw [List.cons_append]
      unfold tagEnd at h ⊢
      split at h
      · next hc =>
        rw [if_pos hc]
        cases h
        rfl
      · next hc =>
        rw [if_neg hc]
        exact ih h
    | some q => exact ih h

/-- A document type ends at a `>`. -/
theorem mem_of_doctypeEnd {seen s content rest : Text} {place : Place}
    (h : doctypeEnd seen place s = some (content, rest)) : '>' ∈ s := by
  induction s generalizing seen place with
  | nil => simp [doctypeEnd] at h
  | cons c s ih =>
    unfold doctypeEnd at h
    split at h
    · next hc =>
      rw [eq_of_next_eq_none hc]
      exact List.mem_cons_self
    · exact List.mem_cons_of_mem c (ih h)

theorem ofSubset_append {behind : Text} (h : '>' ∈ behind) (more : Text) :
    Place.ofSubset (behind ++ more) = Place.ofSubset behind := by
  have stable : ∀ mark : String, '>' ∉ mark.toList →
      mark.toList.isPrefixOf (behind ++ more) = mark.toList.isPrefixOf behind :=
    fun _ hm => isPrefixOf_append_of_mem hm h more
  have hany : ["!ENTITY", "!ATTLIST", "!NOTATION"].any (·.toList.isPrefixOf (behind ++ more)) =
      ["!ENTITY", "!ATTLIST", "!NOTATION"].any (·.toList.isPrefixOf behind) := by
    simp only [List.any_cons, List.any_nil, stable "!ENTITY" (by decide),
      stable "!ATTLIST" (by decide), stable "!NOTATION" (by decide)]
  rw [Place.ofSubset, Place.ofSubset, hany, stable "!--" (by decide), stable "?" (by decide)]

/-- What stands far behind a character is not looked at. -/
theorem next_append {behind : Text} (h : '>' ∈ behind) (more : Text) (c : Char) (place : Place) :
    place.next c (behind ++ more) = place.next c behind := by
  cases place with
  | outside quote => cases quote <;> rfl
  | comment skip hyphens => cases skip <;> rfl
  | instruction skip marked => cases skip <;> rfl
  | quoting quote => cases quote <;> rfl
  | subset => simp only [Place.next, ofSubset_append h]
  | plain => rfl
  | after => rfl

/-- Where a document type ends, nothing behind is looked at. -/
theorem next_eq_none_congr {behind : Text} {c : Char} {place : Place}
    (h : place.next c behind = none) (other : Text) : place.next c other = none := by
  cases place with
  | outside quote => cases quote <;> exact h
  | comment skip hyphens => cases skip <;> simp [Place.next] at h
  | instruction skip marked => cases skip <;> simp [Place.next] at h
  | quoting quote => cases quote <;> exact h
  | subset => simp [Place.next] at h
  | plain => exact h
  | after => exact h

theorem doctypeEnd_append {seen s content rest : Text} {place : Place}
    (h : doctypeEnd seen place s = some (content, rest)) (more : Text) :
    doctypeEnd seen place (s ++ more) = some (content, rest ++ more) := by
  induction s generalizing seen place with
  | nil => simp [doctypeEnd] at h
  | cons c s ih =>
    rw [List.cons_append]
    unfold doctypeEnd at h ⊢
    cases hn : place.next c s with
    | none =>
      rw [hn] at h
      rw [next_eq_none_congr hn]
      cases h
      rfl
    | some next =>
      rw [hn] at h
      -- The final `>` is still ahead, and no beginning that is looked for reaches beyond it.
      rw [next_append (mem_of_doctypeEnd h), hn]
      exact ih h

theorem doctype_append {c : Char} {s rest : Text} {t : Token} (h : doctype c s = .ok (t, rest))
    (more : Text) : doctype c (s ++ more) = .ok (t, rest ++ more) := by
  unfold doctype at h ⊢
  split at h
  · cases h
  · next content after he =>
    rw [doctypeEnd_append he]
    simp only
    split at h
    · cases h
    · next hname =>
      rw [if_neg hname]
      split at h
      · cases h
      · next hspace =>
        rw [if_neg hspace]
        cases h
        rfl

/-- Which construct it is does not matter where its end is found. -/
theorem asideEnd_append {what : Construct} {lead mark : String} {s rest : Text} {t : Token}
    (h : asideEnd what lead mark s = .ok (t, rest)) (what' : Construct) (more : Text) :
    asideEnd what' lead mark (s ++ more) = .ok (t, rest ++ more) := by
  unfold asideEnd at h ⊢
  split at h
  · next chars after hb =>
    rw [breakAfter_append_right hb]
    cases h
    rfl
  · cases h

theorem markedSection_append {s rest : Text} {t : Token} (h : markedSection s = .ok (t, rest))
    (more : Text) : markedSection (s ++ more) = .ok (t, rest ++ more) := by
  unfold markedSection at h
  split at h
  · split at h
    · next hcdata =>
      rw [List.cons_append, markedSection, if_pos (isPrefixOf_append hcdata more)]
      exact asideEnd_append h _ more
    · cases h
  · exact asideEnd_append h _ more
  · cases h
  · exact doctype_append h more
  · exact doctype_append h more
  · cases h

theorem instruction_append {s rest : Text} {t : Token} (h : instruction s = .ok (t, rest))
    (more : Text) : instruction (s ++ more) = .ok (t, rest ++ more) := by
  unfold instruction at h ⊢
  split at h
  · cases h
  · next hhead =>
    cases s with
    | nil => simp [asideEnd, breakAfter] at h
    | cons c s =>
      rw [if_neg (by simpa using hhead)]
      exact asideEnd_append h _ more

theorem markup_opening {c : Char} (h : c ≠ '!' ∧ c ≠ '?' ∧ c ≠ '/') (s : Text) :
    markup (c :: s) = (tagEnd [] none (c :: s)).map fun p => (.opening p.1, p.2) := by
  obtain ⟨hmark, hquestion, hslash⟩ := h
  rw [markup]
  · exact fun _ hc => hmark (List.cons.inj hc).1
  · exact fun _ hc => hquestion (List.cons.inj hc).1
  · exact fun _ hc => hslash (List.cons.inj hc).1

theorem markup_append {s rest : Text} {t : Token} (h : markup s = .ok (t, rest)) (more : Text) :
    markup (s ++ more) = .ok (t, rest ++ more) := by
  unfold markup at h
  split at h
  · exact markedSection_append h more
  · exact instruction_append h more
  · next s =>
    cases he : tagEnd [] none s with
    | error f => rw [he] at h; cases h
    | ok p =>
      rw [he] at h
      cases h
      rw [List.cons_append, markup, tagEnd_append he]
      rfl
  · next hmark hquestion hslash =>
    cases s with
    | nil => cases h
    | cons c s =>
      have hc : c ≠ '!' ∧ c ≠ '?' ∧ c ≠ '/' :=
        ⟨fun hc => hmark s (by rw [hc]), fun hc => hquestion s (by rw [hc]),
          fun hc => hslash s (by rw [hc])⟩
      cases he : tagEnd [] none (c :: s) with
      | error f => rw [he] at h; cases h
      | ok p =>
        rw [he] at h
        cases h
        rw [List.cons_append, markup_opening hc, ← List.cons_append, tagEnd_append he]
        rfl

theorem reference_append {s rest : Text} {t : Token} (h : reference s = .ok (t, rest))
    (more : Text) : reference (s ++ more) = .ok (t, rest ++ more) := by
  unfold reference at h ⊢
  simp only at h ⊢
  split at h
  · next after hd =>
    have hends : s.dropWhile (fun c => c != ';' && c != '&' && c != '<') ≠ [] := by
      rw [hd]
      exact List.cons_ne_nil _ _
    obtain ⟨htake, hdrop⟩ := takeWhile_dropWhile_append hends more
    rw [htake, hdrop, hd]
    cases h
    rfl
  · cases h

theorem scan_plain {c : Char} (h : isPlain c = true) (s : Text) :
    scan (c :: s) =
      .ok (some (.text ((c :: s).takeWhile isPlain), (c :: s).dropWhile isPlain)) := by
  rw [scan]
  · exact nofun
  · rintro _ ⟨⟩
    exact absurd h (by decide)
  · rintro _ ⟨⟩
    exact absurd h (by decide)

/-- The next token is the same in the whole, unless it is a text that may go on. -/
theorem scan_append {s rest : Text} {t : Token} (h : scan s = .ok (some (t, rest)))
    (hend : rest = [] → ∀ chars, t ≠ .text chars) (more : Text) :
    scan (s ++ more) = .ok (some (t, rest ++ more)) := by
  unfold scan at h
  split at h
  · cases h
  · next s =>
    cases hm : markup s with
    | error f => rw [hm] at h; cases h
    | ok p =>
      rw [hm] at h
      cases h
      rw [List.cons_append, scan, markup_append hm]
      rfl
  · next s =>
    cases hr : reference s with
    | error f => rw [hr] at h; cases h
    | ok p =>
      rw [hr] at h
      cases h
      rw [List.cons_append, scan, reference_append hr]
      rfl
  · next hne hlt hamp =>
    cases s with
    | nil => exact absurd rfl hne
    | cons c s =>
      have hc : isPlain c = true := by
        rw [isPlain, Bool.and_eq_true, bne_iff_ne, bne_iff_ne]
        exact ⟨fun e => hlt s (by rw [e]), fun e => hamp s (by rw [e])⟩
      cases h
      have hrest : (c :: s).dropWhile isPlain ≠ [] := fun hr => hend hr _ rfl
      obtain ⟨htake, hdrop⟩ := takeWhile_dropWhile_append hrest more
      rw [List.cons_append, scan_plain hc, ← List.cons_append, htake, hdrop]

/-- The cursor in a document that goes on behind what is there. -/
def Cursor.followedBy (c : Cursor) (more : Text) : Cursor := { c with rest := c.rest ++ more }

theorem Cursor.scan_of_next? {c c' : Cursor} {e : Event} {lexeme : Text}
    (h : c.next? = .ok (some (e, lexeme, c'))) :
    ∃ token, scan c.rest = .ok (some (token, c'.rest)) ∧
      ((∃ chars, token = .text chars) → e = .other) := by
  unfold Cursor.next? at h
  split at h
  · cases h
  · cases h
  · next token rest hs =>
    simp only at h
    split at h
    · split at h <;> cases h <;> exact ⟨_, hs, nofun⟩
    · split at h
      · cases h
      · split at h <;> cases h
        exact ⟨_, hs, nofun⟩
    · cases h
      exact ⟨_, hs, fun _ => rfl⟩

/-- The event that a token makes does not depend on what follows it. -/
theorem Cursor.next?_of_scan {c : Cursor} {token : Token} {rest more : Text}
    (h : scan c.rest = .ok (some (token, rest)))
    (hmore : scan (c.rest ++ more) = .ok (some (token, rest ++ more))) :
    (c.followedBy more).next? =
      c.next?.map (·.map fun p => (p.1, p.2.1, p.2.2.followedBy more)) := by
  have hwhole : scan (c.followedBy more).rest = .ok (some (token, rest ++ more)) := hmore
  have hopened : (c.followedBy more).opened = c.opened := rfl
  unfold Cursor.next?
  rw [h, hwhole]
  cases token with
  | opening content =>
    simp only
    split <;> rfl
  | closing content =>
    simp only [hopened]
    split
    · rfl
    · split <;> rfl
  | text | reference | aside => rfl

theorem Cursor.next?_followedBy {c c' : Cursor} {e : Event} {lexeme : Text}
    (h : c.next? = .ok (some (e, lexeme, c'))) (hend : c'.rest = [] → e ≠ .other) (more : Text) :
    (c.followedBy more).next? = .ok (some (e, lexeme, c'.followedBy more)) := by
  obtain ⟨token, hs, htext⟩ := scan_of_next? h
  have hmore := scan_append hs (fun hr chars ht => hend hr (htext ⟨chars, ht⟩)) more
  rw [next?_of_scan hs hmore, h]
  rfl

/-- Where an element is closed, something is left to read. -/
theorem Cursor.rest_ne_nil_of_close {tag seen content : Text} {depth : Nat} {c c' : Cursor}
    (h : c.close tag depth seen = .ok (content, c')) : c.rest ≠ [] := by
  intro hnil
  have hlt := Cursor.length_lt_of_close h
  simp [hnil] at hlt

theorem Cursor.rest_ne_nil_of_find? {tag content : Text} {c c' : Cursor}
    (h : c.find? tag = .ok (some (content, c'))) : c.rest ≠ [] := by
  intro hnil
  have hlt := Cursor.length_lt_of_find? h
  simp [hnil] at hlt

theorem Cursor.close_followedBy {tag seen content : Text} {depth : Nat} {c c' : Cursor}
    (h : c.close tag depth seen = .ok (content, c')) (more : Text) :
    (c.followedBy more).close tag depth seen = .ok (content, c'.followedBy more) := by
  -- A text at the very end may go on, but none is last where the end tag is still to come.
  fun_induction Cursor.close tag depth seen c with
  | case1 => cases h
  | case2 => cases h
  | case3 depth seen c name lexeme c₁ hn ih =>
    rw [Cursor.close, next?_followedBy hn (fun hr => absurd hr (rest_ne_nil_of_close h)) more]
    exact ih h
  | case4 seen c lexeme c₁ hn =>
    cases h
    rw [Cursor.close, next?_followedBy hn (fun _ => by simp) more]
  | case5 seen c lexeme c₁ hn depth ih =>
    rw [Cursor.close, next?_followedBy hn (fun hr => absurd hr (rest_ne_nil_of_close h)) more]
    exact ih h
  | case6 depth seen c e lexeme c₁ hs hf hn ih =>
    rw [Cursor.close, next?_followedBy hn (fun hr => absurd hr (rest_ne_nil_of_close h)) more]
    cases e with
    | start name => exact absurd rfl (hs name)
    | finish => exact absurd rfl hf
    | empty | other => exact ih h

theorem Cursor.find?_followedBy {tag content : Text} {c c' : Cursor}
    (h : c.find? tag = .ok (some (content, c'))) (more : Text) :
    (c.followedBy more).find? tag = .ok (some (content, c'.followedBy more)) := by
  fun_induction Cursor.find? tag c with
  | case1 => cases h
  | case2 => cases h
  | case3 => cases h
  | case4 => cases h
  | case5 c name lexeme c₁ hn htag raw behind hc text hg =>
    have hgiven : (c₁.followedBy more).given? raw = some text := hg
    rw [Cursor.find?, next?_followedBy hn (fun _ => by simp) more]
    simp only [if_pos htag, close_followedBy hc, hgiven]
    cases h
    rfl
  | case6 c name lexeme c₁ hn htag ih =>
    rw [Cursor.find?, next?_followedBy hn (fun _ => by simp) more]
    simp only [if_neg htag]
    exact ih h
  | case7 c name lexeme c₁ hn htag =>
    rw [Cursor.find?, next?_followedBy hn (fun _ => by simp) more]
    simp only [if_pos htag]
    cases h
    rfl
  | case8 c name lexeme c₁ hn htag ih =>
    rw [Cursor.find?, next?_followedBy hn (fun _ => by simp) more]
    simp only [if_neg htag]
    exact ih h
  | case9 c e lexeme c₁ hs he hn ih =>
    rw [Cursor.find?, next?_followedBy hn (fun hr => absurd hr (rest_ne_nil_of_find? h)) more]
    cases e with
    | start name => exact absurd rfl (hs name)
    | empty name => exact absurd rfl (he name)
    | finish | other => exact ih h

theorem ofDocument_unmarked {body : Text} (h : body.head? ≠ some '\uFEFF') :
    Cursor.ofDocument body = ⟨[], body, false, []⟩ := by
  rw [Cursor.ofDocument]
  rintro _ rfl
  exact h rfl

theorem ofDocument_append {body : Text} (h : body ≠ []) (more : Text) :
    Cursor.ofDocument (body ++ more) = (Cursor.ofDocument body).followedBy more := by
  cases body with
  | nil => exact absurd rfl h
  | cons c body =>
    by_cases hc : c = '\uFEFF'
    · subst hc
      rfl
    · have hhead : ∀ rest, (c :: rest).head? ≠ some '\uFEFF' :=
        fun _ hhead => hc (Option.some.inj hhead)
      rw [List.cons_append, ofDocument_unmarked (hhead _), ofDocument_unmarked (hhead _)]
      rfl

/-- What is extracted from a part that came first is extracted from the whole. -/
theorem extractFirst_append {body tag content : Text}
    (h : extractFirst body tag = .ok (some content)) (more : Text) :
    extractFirst (body ++ more) tag = .ok (some content) := by
  have hbody : body ≠ [] := by
    rintro rfl
    simp [extractFirst, Cursor.ofDocument, Cursor.find?, Cursor.next?, scan, Except.map] at h
  unfold extractFirst at h ⊢
  rw [ofDocument_append hbody]
  cases hf : (Cursor.ofDocument body).find? tag with
  | error e =>
    rw [hf] at h
    cases h
  | ok found =>
    cases found with
    | none =>
      rw [hf] at h
      cases h
    | some p =>
      rw [Cursor.find?_followedBy hf more]
      rw [hf] at h
      exact h

end Markup

end MachineImage
