import MachineImage.Proofs.Continued
import MachineImage.Proofs.Escaped

/-!
Documents that are written from a tree. What is found in one under a name is what its outermost
elements of that name contain, in the order of the document.
-/
namespace MachineImage.Markup

open Text

/-- Text that may stand between tags: each of its references ends. -/
inductive Quiet : Text → Prop
  | nil : Quiet []
  | plain {c : Char} {s : Text} : isPlain c = true → Quiet s → Quiet (c :: s)
  | reference {name s : Text} : (∀ x ∈ name, x ≠ ';' ∧ x ≠ '&' ∧ x ≠ '<') → Quiet s →
    Quiet ('&' :: (name ++ [';']) ++ s)

theorem Reads.quiet {s t : Text} (h : Reads s t) (hs : '<' ∉ s) : Quiet s := by
  induction h with
  | nil => exact .nil
  | @plain c s t hc _ ih =>
    obtain ⟨hlt, hs⟩ : '<' ≠ c ∧ '<' ∉ s := by simpa using hs
    refine .plain ?_ (ih hs)
    rw [isPlain, Bool.and_eq_true, bne_iff_ne, bne_iff_ne]
    exact ⟨hlt.symm, hc⟩
  | @named name s t c hname _ ih =>
    have hs : '<' ∉ s := fun hmem => hs (by simp [hmem])
    have hsplit : '&' :: (name ++ ';' :: s) = '&' :: (name ++ [';']) ++ s := by simp
    rw [hsplit]
    exact .reference (forall_mem_of_namedCharacter? hname) (ih hs)

/-- A comment, a CDATA section or an instruction. What ends it does not stand in it before. -/
inductive IsAside : Text → Prop
  | comment {s : Text} : includes "-->".toList s = false →
    IsAside ("<!--".toList ++ (s ++ "-->".toList))
  | cdata {s : Text} : includes "]]>".toList s = false →
    IsAside ("<![CDATA[".toList ++ (s ++ "]]>".toList))
  | instruction {s : Text} : includes "?>".toList s = false → s.head? ≠ some '>' →
    IsAside ("<?".toList ++ (s ++ "?>".toList))

/-- What a name may consist of. -/
def isNameLetter (c : Char) : Bool := !isSpace c && !("<>&/!?'\"".toList.contains c)

def isName (s : Text) : Bool := !s.isEmpty && s.all isNameLetter

theorem isNameLetter_of_mem {s : Text} (h : isName s = true) {c : Char} (hc : c ∈ s) :
    isNameLetter c = true :=
  List.all_eq_true.1 (Bool.and_eq_true_iff.1 h).2 c hc

/-- No letter of a name ends a tag or a quote in it. -/
theorem forall_mem_of_isName {s : Text} (h : isName s = true) :
    ∀ c ∈ s, c ≠ '>' ∧ c ≠ '\'' ∧ c ≠ '"' := by
  intro c hc
  have hletter := isNameLetter_of_mem h hc
  refine ⟨?_, ?_, ?_⟩ <;> (rintro rfl; exact absurd hletter (by decide))

theorem not_mem_of_isName {s : Text} (h : isName s = true) : '&' ∉ s :=
  fun hmem => absurd (isNameLetter_of_mem h hmem) (by decide)

/-- ` name="value"`, in quotes of either kind. -/
structure Attribute where
  name : Text
  quote : Char
  value : Text
  isName_name : isName name = true
  isQuote : quote = '\'' ∨ quote = '"'
  not_mem_value : quote ∉ value

def Attribute.render (a : Attribute) : Text :=
  ' ' :: (a.name ++ '=' :: a.quote :: (a.value ++ [a.quote]))

structure Tag where
  name : Text
  attributes : List Attribute
  isName_name : isName name = true

namespace Tag

def content (t : Tag) : Text := t.name ++ t.attributes.flatMap Attribute.render

def opening (t : Tag) : Text := '<' :: (t.content ++ ['>'])

def closing (t : Tag) : Text := '<' :: '/' :: (t.name ++ ['>'])

/-- The tag of an element that is opened and closed at once. -/
def empty (t : Tag) : Text := '<' :: (t.content ++ ['/', '>'])

end Tag

/-- What stands between two tags, or in a whole document. -/
inductive Forest
  | nil
  | content (s : Text) (quiet : Quiet s) (rest : Forest)
  | aside (s : Text) (isAside : IsAside s) (rest : Forest)
  | empty (tag : Tag) (rest : Forest)
  | element (tag : Tag) (children rest : Forest)

namespace Forest

def render : Forest → Text
  | nil => []
  | content s _ rest => s ++ rest.render
  | aside s _ rest => s ++ rest.render
  | empty tag rest => tag.empty ++ rest.render
  | element tag children rest => tag.opening ++ (children.render ++ (tag.closing ++ rest.render))

/-- What the elements with that local name contain, those inside another such element apart. -/
def outermost (wanted : Text) : Forest → List Text
  | nil => []
  | content _ _ rest => rest.outermost wanted
  | aside _ _ rest => rest.outermost wanted
  | empty tag rest =>
    if localName tag.name = wanted then [] :: rest.outermost wanted else rest.outermost wanted
  | element tag children rest =>
    if localName tag.name = wanted then children.render :: rest.outermost wanted
    else children.outermost wanted ++ rest.outermost wanted

end Forest

/-- No mark whose last character stands in it once begins in a text and ends behind it. -/
theorem not_prefix_append {lead s rest : Text} {e : Char} (he : e ∉ lead) (hs : s ≠ [])
    (h : ¬ lead ++ [e] <+: s) : ¬ lead ++ [e] <+: s ++ (lead ++ [e] ++ rest) := by
  intro hmark
  have hpos := List.length_pos_iff.2 hs
  by_cases hlength : (lead ++ [e]).length ≤ s.length
  · exact h (List.prefix_of_prefix_length_le hmark (List.prefix_append s _) hlength)
  -- The mark would end at a character of the next mark that is not its last one.
  rw [List.length_append, List.length_singleton] at hlength
  have hlast := List.prefix_iff_getElem?.1 hmark lead.length (by simp)
  rw [List.getElem?_append_right (by omega), List.append_assoc,
    List.getElem?_append_left (by omega), List.getElem_concat_length rfl] at hlast
  exact he (List.mem_of_getElem? hlast)

/-- A text is cut behind the mark that follows a part without it. -/
theorem breakAfter_of_not_includes (lead : Text) {s : Text} {e : Char} (he : e ∉ lead)
    (h : includes (lead ++ [e]) s = false) (seen rest : Text) :
    breakAfter (lead ++ [e]) seen (s ++ (lead ++ [e] ++ rest)) =
      some (seen.reverse ++ (s ++ (lead ++ [e])), rest) := by
  induction s generalizing seen with
  | nil =>
    obtain ⟨c, mark, hmark⟩ : ∃ c mark, lead ++ [e] = c :: mark :=
      List.exists_cons_of_ne_nil (by simp)
    have hp : (c :: mark).isPrefixOf (c :: (mark ++ rest)) = true :=
      List.isPrefixOf_iff_prefix.2 (List.prefix_append (c :: mark) rest)
    rw [hmark, List.nil_append, List.cons_append, breakAfter, if_pos hp, ← List.cons_append,
      List.drop_left, List.nil_append]
  | cons c s ih =>
    rw [includes, Bool.or_eq_false_iff] at h
    have hp : ¬ (lead ++ [e]).isPrefixOf (c :: (s ++ (lead ++ [e] ++ rest))) = true := by
      rw [List.isPrefixOf_iff_prefix]
      refine not_prefix_append he (List.cons_ne_nil c s) fun hprefix => ?_
      exact absurd (List.isPrefixOf_iff_prefix.2 hprefix) (by simp [h.1])
    rw [List.cons_append, breakAfter, if_neg hp, ih h.2]
    simp

theorem IsAside.scan_append {s : Text} (h : IsAside s) (rest : Text) :
    scan (s ++ rest) = .ok (some (.aside s, rest)) := by
  cases h with
  | @comment s h =>
    have hbreak : breakAfter "-->".toList [] (s ++ ("-->".toList ++ rest)) =
        some (s ++ "-->".toList, rest) :=
      breakAfter_of_not_includes "--".toList (by decide) h [] rest
    have hsplit : "<!--".toList ++ (s ++ "-->".toList) ++ rest =
        '<' :: '!' :: '-' :: '-' :: (s ++ ("-->".toList ++ rest)) := by simp
    rw [hsplit, scan, markup, markedSection, asideEnd, hbreak]
    rfl
  | @cdata s h =>
    -- In the name of the section no mark begins.
    have hbreak : breakAfter "]]>".toList [] ("CDATA[".toList ++ (s ++ ("]]>".toList ++ rest))) =
        some ("CDATA[".toList ++ (s ++ "]]>".toList), rest) :=
      (breakAfter_append (m := ']') (by decide) [] _).trans
        (breakAfter_of_not_includes "]]".toList (by decide) h _ rest)
    have hsplit : "<![CDATA[".toList ++ (s ++ "]]>".toList) ++ rest =
        '<' :: '!' :: '[' :: ("CDATA[".toList ++ (s ++ ("]]>".toList ++ rest))) := by simp
    have hname : "CDATA[".toList.isPrefixOf ("CDATA[".toList ++ (s ++ ("]]>".toList ++ rest))) =
        true := rfl
    rw [hsplit, scan, markup, markedSection, if_pos hname, asideEnd, hbreak]
    rfl
  | @instruction s h hhead =>
    have hbreak : breakAfter "?>".toList [] (s ++ ("?>".toList ++ rest)) =
        some (s ++ "?>".toList, rest) :=
      breakAfter_of_not_includes "?".toList (by decide) h [] rest
    have hsplit : "<?".toList ++ (s ++ "?>".toList) ++ rest =
        '<' :: '?' :: (s ++ ("?>".toList ++ rest)) := by simp
    have hfirst : (s ++ ("?>".toList ++ rest)).head? ≠ some '>' := by
      cases s with
      | nil => exact fun h => absurd (Option.some.inj h) (by decide)
      | cons c s => exact hhead
    rw [hsplit, scan, markup, Markup.instruction, if_neg hfirst]
    simp only [asideEnd, hbreak]
    rfl

/-- Outside quotes a tag goes on up to its end or the next quote. -/
theorem tagEnd_append_of_plain {s : Text} (h : ∀ c ∈ s, c ≠ '>' ∧ c ≠ '\'' ∧ c ≠ '"')
    (seen t : Text) : tagEnd seen none (s ++ t) = tagEnd (s.reverse ++ seen) none t := by
  induction s generalizing seen with
  | nil => rfl
  | cons c s ih =>
    obtain ⟨⟨hend, hsingle, hdouble⟩, hs⟩ := List.forall_mem_cons.1 h
    have hquote : ¬ (c = '\'' ∨ c = '"') := not_or.2 ⟨hsingle, hdouble⟩
    rw [List.cons_append, tagEnd, if_neg hend, if_neg hquote, ih hs, List.reverse_cons,
      List.append_assoc, List.singleton_append]

/-- Inside quotes a tag goes on up to the same quote. -/
theorem tagEnd_append_of_quoted {q : Char} {s : Text} (h : q ∉ s) (seen t : Text) :
    tagEnd seen (some q) (s ++ q :: t) = tagEnd (q :: (s.reverse ++ seen)) none t := by
  induction s generalizing seen with
  | nil => rw [List.nil_append, tagEnd, if_pos rfl, List.reverse_nil, List.nil_append]
  | cons c s ih =>
    obtain ⟨hc, hs⟩ : q ≠ c ∧ q ∉ s := by simpa using h
    rw [List.cons_append, tagEnd, if_neg hc.symm, ih hs, List.reverse_cons, List.append_assoc,
      List.singleton_append]

theorem Attribute.tagEnd_render (a : Attribute) (seen t : Text) :
    tagEnd seen none (a.render ++ t) = tagEnd (a.render.reverse ++ seen) none t := by
  have hlead : ∀ c ∈ ' ' :: (a.name ++ ['=']), c ≠ '>' ∧ c ≠ '\'' ∧ c ≠ '"' := by
    intro c hc
    rcases List.mem_cons.1 hc with rfl | hc
    · decide
    · rcases List.mem_append.1 hc with hc | hc
      · exact forall_mem_of_isName a.isName_name c hc
      · rw [List.mem_singleton.1 hc]
        decide
  have hquote : a.quote ≠ '>' := by
    rcases a.isQuote with h | h <;> rw [h] <;> decide
  have hsplit : a.render ++ t =
      (' ' :: (a.name ++ ['='])) ++ (a.quote :: (a.value ++ a.quote :: t)) := by simp [render]
  rw [hsplit, tagEnd_append_of_plain hlead, tagEnd, if_neg hquote, if_pos a.isQuote,
    tagEnd_append_of_quoted a.not_mem_value]
  simp [render]

theorem tagEnd_attributes (as : List Attribute) (seen t : Text) :
    tagEnd seen none (as.flatMap Attribute.render ++ t) =
      tagEnd ((as.flatMap Attribute.render).reverse ++ seen) none t := by
  induction as generalizing seen with
  | nil => rfl
  | cons a as ih =>
    rw [List.flatMap_cons, List.append_assoc, a.tagEnd_render, ih, List.reverse_append,
      List.append_assoc]

namespace Tag

variable (t : Tag)

theorem tagEnd_content (s : Text) :
    tagEnd [] none (t.content ++ s) = tagEnd t.content.reverse none s := by
  rw [content, List.append_assoc, tagEnd_append_of_plain (forall_mem_of_isName t.isName_name),
    tagEnd_attributes, List.append_nil, List.reverse_append]

/-- A tag begins with a letter of its name. -/
theorem exists_cons_content : ∃ c s, t.content = c :: s ∧ c ≠ '!' ∧ c ≠ '?' ∧ c ≠ '/' := by
  cases hname : t.name with
  | nil =>
    have hisName := t.isName_name
    rw [hname] at hisName
    exact absurd hisName (by decide)
  | cons c name =>
    have hletter := isNameLetter_of_mem t.isName_name (by rw [hname]; exact List.mem_cons_self)
    refine ⟨c, _, by rw [content, hname, List.cons_append], ?_, ?_, ?_⟩ <;>
      (rintro rfl; exact absurd hletter (by decide))

theorem scan_content (s : Text) : scan ('<' :: (t.content ++ s)) =
    (tagEnd t.content.reverse none s).map fun p => some (.opening p.1, p.2) := by
  obtain ⟨c, s', hcontent, hc⟩ := t.exists_cons_content
  rw [scan, ← t.tagEnd_content, hcontent, List.cons_append, markup_opening hc]
  cases tagEnd [] none (c :: (s' ++ s)) <;> rfl

theorem isSpace_of_mem_name {c : Char} (h : c ∈ t.name) : isSpace c = false := by
  have hletter := isNameLetter_of_mem t.isName_name h
  rw [isNameLetter, Bool.and_eq_true, Bool.not_eq_true'] at hletter
  exact hletter.1

theorem nameOf_content : nameOf t.content = t.name := by
  have hname : ∀ c ∈ t.name, (!isSpace c) = true := fun c hc => by
    rw [t.isSpace_of_mem_name hc]
    rfl
  have hattributes :
      (t.attributes.flatMap Attribute.render).takeWhile (fun c => !isSpace c) = [] := by
    cases t.attributes with
    | nil => rfl
    | cons a as => rfl
  rw [nameOf, content, List.takeWhile_append_of_pos hname, hattributes, List.append_nil]

theorem getLast?_content : t.content.getLast? ≠ some '/' := by
  cases hattributes : t.attributes.getLast? with
  | none =>
    rw [content, List.getLast?_eq_none_iff.1 hattributes, List.flatMap_nil, List.append_nil]
    intro hlast
    exact absurd (isNameLetter_of_mem t.isName_name (List.mem_of_getLast? hlast)) (by decide)
  | some a =>
    obtain ⟨as, has⟩ := List.getLast?_eq_some_iff.1 hattributes
    have hsplit : t.content = (t.name ++ as.flatMap Attribute.render ++
        (' ' :: (a.name ++ '=' :: a.quote :: a.value))) ++ [a.quote] := by
      simp [content, has, Attribute.render]
    rw [hsplit, List.getLast?_concat]
    rcases a.isQuote with h | h <;> rw [h] <;> decide

theorem closingName_name : closingName t.name = t.name := by
  have hreverse : t.name.reverse.dropWhile isSpace = t.name.reverse := by
    cases hname : t.name.reverse with
    | nil => rfl
    | cons c s =>
      have hc : c ∈ t.name := List.mem_reverse.1 (by rw [hname]; exact List.mem_cons_self)
      exact List.dropWhile_cons_of_neg (by simp [t.isSpace_of_mem_name hc])
  rw [closingName, hreverse]
  split
  · rfl
  · exact List.reverse_reverse _

end Tag

/-- With those elements open, the text is read as one event, which leaves these open. -/
def Gives (opened : List Text) (s : Text) (e : Event) (opened' : List Text) : Prop :=
  ∀ read rest isMarked, Cursor.next? ⟨read, s ++ rest, isMarked, opened⟩ =
    .ok (some (e, s, ⟨s.reverse ++ read, rest, isMarked, opened'⟩))

theorem Tag.gives_opening (t : Tag) (opened : List Text) :
    Gives opened t.opening (.start t.name) (t.name :: opened) := by
  intro read rest isMarked
  have hscan : scan (t.opening ++ rest) = .ok (some (.opening t.content, rest)) := by
    have hsplit : t.opening ++ rest = '<' :: (t.content ++ '>' :: rest) := by simp [opening]
    rw [hsplit, t.scan_content, tagEnd, if_pos rfl, List.reverse_reverse]
    rfl
  rw [Cursor.next?, hscan]
  simp only [if_neg t.getLast?_content, t.nameOf_content, Token.lexeme, List.reverseAux_eq]
  rfl

theorem Tag.gives_empty (t : Tag) (opened : List Text) :
    Gives opened t.empty (.empty t.name) opened := by
  intro read rest isMarked
  have hscan : scan (t.empty ++ rest) = .ok (some (.opening (t.content ++ ['/']), rest)) := by
    have hsplit : t.empty ++ rest = '<' :: (t.content ++ '/' :: '>' :: rest) := by simp [empty]
    rw [hsplit, t.scan_content, tagEnd, if_neg (by decide), if_neg (by decide), tagEnd, if_pos rfl,
      List.reverse_cons, List.reverse_reverse]
    rfl
  rw [Cursor.next?, hscan]
  simp only [List.getLast?_concat, List.dropLast_concat, t.nameOf_content, Token.lexeme,
    List.reverseAux_eq, List.append_assoc]
  rfl

theorem Tag.gives_closing (t : Tag) (opened : List Text) :
    Gives (t.name :: opened) t.closing .finish opened := by
  intro read rest isMarked
  have hscan : scan (t.closing ++ rest) = .ok (some (.closing t.name, rest)) := by
    have hsplit : t.closing ++ rest = '<' :: '/' :: (t.name ++ '>' :: rest) := by simp [closing]
    rw [hsplit, scan, markup, tagEnd_append_of_plain (forall_mem_of_isName t.isName_name), tagEnd,
      if_pos rfl, List.append_nil, List.reverse_reverse]
    rfl
  rw [Cursor.next?, hscan]
  simp only [t.closingName_name, if_pos, Token.lexeme, List.reverseAux_eq]
  rfl

theorem IsAside.gives {s : Text} (h : IsAside s) (opened : List Text) :
    Gives opened s .other opened := by
  intro read rest isMarked
  rw [Cursor.next?, h.scan_append rest]
  simp only [Token.lexeme, List.reverseAux_eq]

theorem gives_reference {name : Text} (h : ∀ x ∈ name, x ≠ ';' ∧ x ≠ '&' ∧ x ≠ '<')
    (opened : List Text) : Gives opened ('&' :: (name ++ [';'])) .other opened := by
  intro read rest isMarked
  have hscan : scan ('&' :: (name ++ [';']) ++ rest) = .ok (some (.reference name, rest)) := by
    have hsplit : '&' :: (name ++ [';']) ++ rest = '&' :: (name ++ ';' :: rest) := by simp
    have hname : ∀ c ∈ name, (c != ';' && c != '&' && c != '<') = true := fun c hc => by
      simpa [and_assoc] using h c hc
    rw [hsplit, scan, reference]
    simp only [List.dropWhile_append_of_pos hname, List.takeWhile_append_of_pos hname]
    simp [Except.map]
  rw [Cursor.next?, hscan]
  simp only [Token.lexeme, List.reverseAux_eq]

/-- The text has no part in where an element is found or ends. -/
structure Silent (s : Text) : Prop where
  close : ∀ tag depth seen read rest isMarked opened,
    Cursor.close tag depth seen ⟨read, s ++ rest, isMarked, opened⟩ =
      Cursor.close tag depth (s.reverse ++ seen) ⟨s.reverse ++ read, rest, isMarked, opened⟩
  find? : ∀ tag read rest isMarked opened,
    Cursor.find? tag ⟨read, s ++ rest, isMarked, opened⟩ =
      Cursor.find? tag ⟨s.reverse ++ read, rest, isMarked, opened⟩

theorem silent_nil : Silent [] := ⟨fun _ _ _ _ _ _ _ => rfl, fun _ _ _ _ _ => rfl⟩

theorem Silent.append {s t : Text} (hs : Silent s) (ht : Silent t) : Silent (s ++ t) where
  close tag depth seen read rest isMarked opened := by
    rw [List.append_assoc, hs.close, ht.close, List.reverse_append, List.append_assoc,
      List.append_assoc]
  find? tag read rest isMarked opened := by
    rw [List.append_assoc, hs.find?, ht.find?, List.reverse_append, List.append_assoc]

theorem silent_of_gives {s : Text} (h : ∀ opened, Gives opened s .other opened) : Silent s where
  close tag depth seen read rest isMarked opened := by
    rw [Cursor.close, h opened]
    simp only [List.reverseAux_eq]
  find? tag read rest isMarked opened := by
    rw [Cursor.find?, h opened]

theorem next?_plain {c : Char} (h : isPlain c = true) (read s : Text) (isMarked : Bool)
    (opened : List Text) : Cursor.next? ⟨read, c :: s, isMarked, opened⟩ =
      .ok (some (.other, c :: s.takeWhile isPlain,
        ⟨(s.takeWhile isPlain).reverse ++ c :: read, s.dropWhile isPlain, isMarked, opened⟩)) := by
  rw [Cursor.next?, scan_plain h, List.takeWhile_cons_of_pos h, List.dropWhile_cons_of_pos h]
  simp only [Token.lexeme, List.reverseAux_eq, List.reverse_cons, List.append_assoc,
    List.singleton_append]

/-- A text is read in one piece, yet its first character may as well stand alone. -/
theorem silent_plain {c : Char} (h : isPlain c = true) : Silent [c] where
  close tag depth seen read rest isMarked opened := by
    rw [List.singleton_append, Cursor.close, next?_plain h]
    simp only [List.reverseAux_eq, List.reverse_cons, List.append_assoc, List.singleton_append,
      List.reverse_nil, List.nil_append]
    cases rest with
    | nil => rfl
    | cons c' rest =>
      -- What is left of the piece takes a step of its own, which gives nothing either.
      by_cases hc' : isPlain c' = true
      · rw [Cursor.close.eq_def _ _ _ ⟨c :: read, c' :: rest, isMarked, opened⟩, next?_plain hc']
        simp [List.takeWhile_cons_of_pos hc', List.dropWhile_cons_of_pos hc', List.reverseAux_eq]
      · rw [List.takeWhile_cons_of_neg hc', List.dropWhile_cons_of_neg hc']
        rfl
  find? tag read rest isMarked opened := by
    rw [List.singleton_append, Cursor.find?, next?_plain h]
    simp only [List.reverse_cons, List.singleton_append, List.reverse_nil, List.nil_append]
    cases rest with
    | nil => rfl
    | cons c' rest =>
      by_cases hc' : isPlain c' = true
      · rw [Cursor.find?.eq_def _ ⟨c :: read, c' :: rest, isMarked, opened⟩, next?_plain hc']
        simp [List.takeWhile_cons_of_pos hc', List.dropWhile_cons_of_pos hc']
      · rw [List.takeWhile_cons_of_neg hc', List.dropWhile_cons_of_neg hc']
        rfl

theorem Quiet.silent {s : Text} (h : Quiet s) : Silent s := by
  induction h with
  | nil => exact silent_nil
  | plain hc _ ih => exact (silent_plain hc).append ih
  | reference hname _ ih => exact (silent_of_gives (gives_reference hname)).append ih

theorem Cursor.findAll_eq (tag : Text) (seen : List Text) (c : Cursor) :
    c.findAll tag seen = match c.find? tag with
      | .error e => .error e
      | .ok none => .ok seen.reverse
      | .ok (some p) => p.2.findAll tag (p.1 :: seen) := by
  rw [findAll]
  split <;> next hfound => rw [hfound]

theorem Cursor.findAll_congr {tag : Text} {c c' : Cursor} (h : c.find? tag = c'.find? tag)
    (seen : List Text) : c.findAll tag seen = c'.findAll tag seen := by
  rw [findAll_eq, h, ← findAll_eq]

namespace Forest

/-- A forest leaves open what was open. -/
theorem close_render (f : Forest) (tag : Text) (depth : Nat) (seen read rest : Text)
    (isMarked : Bool) (opened : List Text) :
    Cursor.close tag depth seen ⟨read, f.render ++ rest, isMarked, opened⟩ =
      Cursor.close tag depth (f.render.reverse ++ seen)
        ⟨f.render.reverse ++ read, rest, isMarked, opened⟩ := by
  induction f generalizing depth seen read rest opened with
  | nil => rfl
  | content s quiet f ih =>
    rw [render, List.append_assoc, quiet.silent.close, ih, List.reverse_append, List.append_assoc,
      List.append_assoc]
  | aside s isAside f ih =>
    rw [render, List.append_assoc, (silent_of_gives isAside.gives).close, ih, List.reverse_append,
      List.append_assoc, List.append_assoc]
  | empty t f ih =>
    rw [render, List.append_assoc, Cursor.close, t.gives_empty]
    simp only [List.reverseAux_eq, ih, List.reverse_append, List.append_assoc]
  | element t children f ihChildren ih =>
    simp only [render, List.append_assoc]
    rw [Cursor.close, t.gives_opening]
    simp only [List.reverseAux_eq, ihChildren]
    rw [Cursor.close, t.gives_closing]
    simp only [List.reverseAux_eq, ih, List.reverse_append, List.append_assoc]

/-- From a start tag on the element is closed at its end tag. -/
theorem close_element (children : Forest) (t : Tag) (tag read rest : Text) (isMarked : Bool)
    (opened : List Text) :
    Cursor.close tag 0 [] ⟨read, children.render ++ (t.closing ++ rest), isMarked,
        t.name :: opened⟩ =
      .ok (children.render,
        ⟨t.closing.reverse ++ (children.render.reverse ++ read), rest, isMarked, opened⟩) := by
  rw [close_render, Cursor.close, t.gives_closing, List.append_nil, List.reverse_reverse]

theorem findAll_render (f : Forest) (tag : Text) (found : List Text) (read rest : Text)
    (opened : List Text) :
    Cursor.findAll tag found ⟨read, f.render ++ rest, false, opened⟩ =
      Cursor.findAll tag ((f.outermost tag).reverse ++ found)
        ⟨f.render.reverse ++ read, rest, false, opened⟩ := by
  induction f generalizing found read rest opened with
  | nil => rfl
  | content s quiet f ih =>
    rw [render, outermost, List.append_assoc, Cursor.findAll_congr (quiet.silent.find? ..), ih,
      List.reverse_append, List.append_assoc]
  | aside s isAside f ih =>
    have silent : Silent s := silent_of_gives isAside.gives
    rw [render, outermost, List.append_assoc, Cursor.findAll_congr (silent.find? ..), ih,
      List.reverse_append, List.append_assoc]
  | empty t f ih =>
    rw [render, outermost, List.append_assoc]
    by_cases htag : localName t.name = tag
    · rw [Cursor.findAll_eq, Cursor.find?, t.gives_empty]
      simp only [if_pos htag, ih, List.reverse_append, List.append_assoc, List.reverse_cons,
        List.singleton_append]
    · have hskip : Cursor.find? tag ⟨read, t.empty ++ (f.render ++ rest), false, opened⟩ =
          Cursor.find? tag ⟨t.empty.reverse ++ read, f.render ++ rest, false, opened⟩ := by
        rw [Cursor.find?, t.gives_empty]
        simp only [if_neg htag]
      rw [Cursor.findAll_congr hskip, ih, if_neg htag, List.reverse_append, List.append_assoc]
  | element t children f ihChildren ih =>
    simp only [render, outermost, List.append_assoc]
    -- An element that is found is passed as a whole; any other is searched from tag to tag.
    by_cases htag : localName t.name = tag
    · rw [Cursor.findAll_eq, Cursor.find?, t.gives_opening]
      simp only [if_pos htag, close_element, Cursor.given?, ih, List.reverse_append,
        List.append_assoc, List.reverse_cons, List.singleton_append, Bool.false_eq_true, if_false]
    · have henter : Cursor.find? tag
            ⟨read, t.opening ++ (children.render ++ (t.closing ++ (f.render ++ rest))), false,
              opened⟩ =
          Cursor.find? tag ⟨t.opening.reverse ++ read,
            children.render ++ (t.closing ++ (f.render ++ rest)), false, t.name :: opened⟩ := by
        rw [Cursor.find?, t.gives_opening]
        simp only [if_neg htag]
      have hleave : ∀ read, Cursor.find? tag
          ⟨read, t.closing ++ (f.render ++ rest), false, t.name :: opened⟩ =
          Cursor.find? tag ⟨t.closing.reverse ++ read, f.render ++ rest, false, opened⟩ := by
        intro read
        rw [Cursor.find?, t.gives_closing]
      rw [Cursor.findAll_congr henter, ihChildren, Cursor.findAll_congr (hleave _), ih, if_neg htag]
      simp only [List.reverse_append, List.append_assoc]

/-- A document without a byte-order mark gives what the outermost elements contain. -/
theorem extractAll_render {f : Forest} (h : f.render.head? ≠ some '\uFEFF') (tag : Text) :
    extractAll f.render tag = .ok (f.outermost tag) := by
  have hrender := findAll_render f tag [] [] [] []
  rw [List.append_nil, List.append_nil, List.append_nil] at hrender
  rw [extractAll, ofDocument_unmarked h, hrender, Cursor.findAll_eq, Cursor.find?, Cursor.next?,
    scan]
  simp only [List.reverse_reverse]

end Forest

/-- What was found before stands before the rest. -/
theorem Cursor.prefix_of_findAll {tag : Text} {seen found : List Text} {c : Cursor}
    (h : c.findAll tag seen = .ok found) : seen.reverse <+: found := by
  fun_induction Cursor.findAll tag seen c with
  | case1 => cases h
  | case2 =>
    cases h
    exact List.prefix_rfl
  | case3 seen c content c' hfound ih =>
    have hmore := ih h
    rw [List.reverse_cons] at hmore
    exact (List.prefix_append _ _).trans hmore

/-- What stands first of all that is found is what is found first. -/
theorem extractFirst_of_extractAll {body tag : Text} {found : List Text}
    (h : extractAll body tag = .ok found) : extractFirst body tag = .ok found.head? := by
  rw [extractAll, Cursor.findAll_eq] at h
  rw [extractFirst]
  cases hfind : (Cursor.ofDocument body).find? tag with
  | error e =>
    rw [hfind] at h
    cases h
  | ok next =>
    rw [hfind] at h
    cases next with
    | none =>
      cases h
      rfl
    | some p =>
      obtain ⟨more, rfl⟩ := Cursor.prefix_of_findAll h
      rfl

end MachineImage.Markup
