import Mathlib.Data.List.Forall2
import MachineImage.Proofs.Search

/-!
Where the contents that are extracted stand: between the start tag and the end tag of an element,
one behind the other. Each of them can be searched by itself without a fault.
-/
namespace MachineImage.Markup

open Text

/-- What may stand in a tag: outside quotes no `>`, and each quote ends. -/
inductive IsTagText : Text → Prop
  | nil : IsTagText []
  | plain {c : Char} {s : Text} : c ≠ '>' → c ≠ '\'' → c ≠ '"' → IsTagText s → IsTagText (c :: s)
  | quoted {q : Char} {value s : Text} : q = '\'' ∨ q = '"' → q ∉ value → IsTagText s →
    IsTagText (q :: (value ++ q :: s))

/-- What stands between `<` and `>` of the tag that begins an element. -/
structure IsStartTag (head : Text) : Prop where
  isTagText : IsTagText head
  ne_mark : ∀ c ∈ head.head?, c ≠ '!' ∧ c ≠ '?' ∧ c ≠ '/'

/-- What is left of a tag, in a quote if there is one. -/
def IsTagRest (quote : Option Char) (part : Text) : Prop :=
  match quote with
  | none => IsTagText part
  | some q => ∃ value s, part = value ++ q :: s ∧ q ∉ value ∧ IsTagText s

theorem exists_of_tagEnd {seen s content rest : Text} {quote : Option Char}
    (hquote : ∀ q ∈ quote, q = '\'' ∨ q = '"') (h : tagEnd seen quote s = .ok (content, rest)) :
    ∃ part, content = seen.reverse ++ part ∧ IsTagRest quote part := by
  induction s generalizing seen quote with
  | nil => cases quote <;> simp [tagEnd] at h
  | cons c s ih =>
    cases quote with
    | none =>
      unfold tagEnd at h
      split at h
      · cases h
        exact ⟨[], (List.append_nil _).symm, .nil⟩
      · next hend =>
        split at h
        · next hc =>
          obtain ⟨part, rfl, value, s', rfl, hvalue, hs'⟩ := ih (by simpa using hc) h
          exact ⟨c :: (value ++ c :: s'), by simp, .quoted hc hvalue hs'⟩
        · next hc =>
          obtain ⟨hsingle, hdouble⟩ := not_or.1 hc
          obtain ⟨part, rfl, hpart⟩ := ih (by simp) h
          exact ⟨c :: part, by simp, .plain hend hsingle hdouble hpart⟩
    | some q =>
      unfold tagEnd at h
      split at h
      · next hc =>
        subst hc
        obtain ⟨part, rfl, hpart⟩ := ih (by simp) h
        exact ⟨c :: part, by simp, [], part, rfl, List.not_mem_nil, hpart⟩
      · next hc =>
        obtain ⟨part, rfl, value, s', rfl, hvalue, hs'⟩ := ih hquote h
        exact ⟨c :: (value ++ q :: s'), by simp, c :: value, s', rfl,
          List.not_mem_cons_of_ne_of_not_mem (Ne.symm hc) hvalue, hs'⟩

theorem exists_of_asideEnd {what : Construct} {lead mark : String} {s rest : Text} {t : Token}
    (h : asideEnd what lead mark s = .ok (t, rest)) : ∃ chars, t = .aside chars := by
  unfold asideEnd at h
  split at h <;> cases h
  exact ⟨_, rfl⟩

theorem exists_of_doctype {c : Char} {s rest : Text} {t : Token}
    (h : doctype c s = .ok (t, rest)) : ∃ chars, t = .aside chars := by
  unfold doctype at h
  split at h
  · cases h
  · split at h
    · cases h
    · split at h <;> cases h
      exact ⟨_, rfl⟩

theorem exists_of_markedSection {s rest : Text} {t : Token}
    (h : markedSection s = .ok (t, rest)) : ∃ chars, t = .aside chars := by
  unfold markedSection at h
  split at h
  · split at h
    · exact exists_of_asideEnd h
    · cases h
  · exact exists_of_asideEnd h
  · cases h
  · exact exists_of_doctype h
  · exact exists_of_doctype h
  · cases h

theorem isStartTag_of_markup {s rest head : Text} (h : markup s = .ok (.opening head, rest)) :
    IsStartTag head := by
  unfold markup at h
  split at h
  · obtain ⟨chars, hchars⟩ := exists_of_markedSection h
    cases hchars
  · unfold instruction at h
    split at h
    · cases h
    · obtain ⟨chars, hchars⟩ := exists_of_asideEnd h
      cases hchars
  · next s =>
    cases he : tagEnd [] none s with
    | error f => rw [he] at h; cases h
    | ok p => rw [he] at h; cases h
  · next hmark hquestion hslash =>
    cases he : tagEnd [] none s with
    | error f => rw [he] at h; cases h
    | ok p =>
      rw [he] at h
      cases h
      obtain ⟨part, hpart, htext⟩ := exists_of_tagEnd (by simp) he
      have hsplit := append_of_tagEnd he
      rw [List.reverse_nil, List.nil_append] at hpart hsplit
      refine ⟨hpart ▸ htext, fun c hc => ?_⟩
      -- The tag begins as the text behind `<` does.
      obtain ⟨more, hmore⟩ : ∃ more, s = c :: more := by
        cases hhead : p.1 with
        | nil => rw [hhead] at hc; cases hc
        | cons c' more =>
          rw [hhead] at hc hsplit
          cases hc
          exact ⟨_, hsplit.symm⟩
      exact ⟨fun hc => hmark more (hc ▸ hmore), fun hc => hquestion more (hc ▸ hmore),
        fun hc => hslash more (hc ▸ hmore)⟩

theorem isStartTag_of_scan {s rest head : Text} (h : scan s = .ok (some (.opening head, rest))) :
    IsStartTag head := by
  unfold scan at h
  split at h
  · cases h
  · next s =>
    cases hm : markup s with
    | error f => rw [hm] at h; cases h
    | ok p =>
      rw [hm] at h
      cases h
      exact isStartTag_of_markup hm
  · next s =>
    cases hr : reference s with
    | error f => rw [hr] at h; cases h
    | ok p =>
      rw [hr] at h
      cases h
      unfold reference at hr
      simp only at hr
      split at hr <;> cases hr
  · cases h

/-- The name in an end tag may have white space behind it. -/
theorem exists_of_closingName (content : Text) :
    ∃ spaces, content = closingName content ++ spaces ∧ ∀ c ∈ spaces, isSpace c = true := by
  unfold closingName
  split
  · exact ⟨[], (List.append_nil _).symm, fun _ hc => absurd hc List.not_mem_nil⟩
  · next htrimmed =>
    refine ⟨(content.reverse.takeWhile isSpace).reverse, ?_, fun c hc => ?_⟩
    · rw [← List.reverse_append, List.takeWhile_append_dropWhile, List.reverse_reverse]
    · exact List.all_eq_true.1 List.all_takeWhile c (List.mem_reverse.1 hc)

/-- An element as it is written, with what is around it. -/
structure Element where
  before : Text
  /-- What stands between `<` and `>` of its start tag. -/
  head : Text
  content : Text
  /-- What stands in its end tag behind the name. -/
  spaces : Text
  after : Text

namespace Element

def startTag (e : Element) : Text := '<' :: (e.head ++ ['>'])

def endTag (e : Element) : Text := '<' :: '/' :: (nameOf e.head ++ e.spaces ++ ['>'])

/-- The octets of its content. -/
def slice (e : Element) : Slice where
  start := byteLength (e.before ++ e.startTag)
  stop := byteLength (e.before ++ (e.startTag ++ e.content))

/-- The element stands behind the cursor and has that local name. Tokens end where it begins, so
that its start tag is no part of anything else. -/
structure StandsBehind (tag : Text) (c : Cursor) (e : Element) : Prop where
  rest_eq : c.rest = e.before ++ (e.startTag ++ (e.content ++ (e.endTag ++ e.after)))
  localName_eq : localName (nameOf e.head) = tag
  isStartTag : IsStartTag e.head
  isOpen : e.head.getLast? ≠ some '/'
  isSpace_of_mem : ∀ x ∈ e.spaces, isSpace x = true
  exists_passes : ∃ es c', c.Passes es c' ∧ written es = e.before

end Element

/-- In the text behind the cursor the slice is what an element with that local name contains. -/
inductive Holds (tag : Text) (c : Cursor) : Option Slice → Text → Prop
  | element {e : Element} : e.StandsBehind tag c → Holds tag c (some e.slice) e.content
  | empty {before head after : Text} : c.rest = before ++ '<' :: (head ++ '>' :: after) →
    localName (nameOf head.dropLast) = tag → IsStartTag head → head.getLast? = some '/' →
    (∃ es c', c.Passes es c' ∧ written es = before) → Holds tag c none []

/-- What begins with no byte-order mark can be searched for any element. -/
def Nests (content : Text) : Prop :=
  content.head? ≠ some '\uFEFF' → ∀ tag, ∃ found, extractAll content tag = .ok found

namespace Cursor

/-- What an element contains leaves open what was open. -/
theorem Passes.opened_eq {c c' : Cursor} {es : List Piece} (h : c.Passes es c')
    (hdepth : depthAfter 0 es = some 0) : c'.opened = c.opened := by
  obtain ⟨inner, hopened, hlength, -⟩ :=
    h.inside (List.nil_append c.opened).symm hdepth (.inl (Eq.refl ([] : Text))) [] false
  rw [hopened, List.eq_nil_of_length_eq_zero hlength, List.nil_append]

theorem exists_of_start {c c' : Cursor} {name lexeme : Text}
    (h : c.next? = .ok (some (.start name, lexeme, c'))) :
    ∃ head, lexeme = '<' :: (head ++ ['>']) ∧ name = nameOf head ∧ IsStartTag head ∧
      head.getLast? ≠ some '/' ∧ c'.opened = name :: c.opened := by
  obtain ⟨token, opened, hscan, hmakes, rfl, hc⟩ := next?_eq_iff.1 h
  generalize c.opened = before at hmakes ⊢
  cases hmakes with
  | @start head _ hlast =>
    exact ⟨head, rfl, rfl, isStartTag_of_scan hscan, hlast, by rw [hc]⟩

theorem exists_of_empty {c c' : Cursor} {name lexeme : Text}
    (h : c.next? = .ok (some (.empty name, lexeme, c'))) :
    ∃ head, lexeme = '<' :: (head ++ ['>']) ∧ name = nameOf head.dropLast ∧ IsStartTag head ∧
      head.getLast? = some '/' := by
  obtain ⟨token, opened, hscan, hmakes, rfl, hc⟩ := next?_eq_iff.1 h
  generalize c.opened = before at hmakes
  cases hmakes with
  | @empty head _ hlast => exact ⟨head, rfl, rfl, isStartTag_of_scan hscan, hlast⟩

/-- An end tag has the name of the element that it closes. -/
theorem exists_of_finish {c c' : Cursor} {name lexeme : Text} {outer : List Text}
    (h : c.next? = .ok (some (.finish, lexeme, c'))) (hopened : c.opened = name :: outer) :
    ∃ spaces, lexeme = '<' :: '/' :: (name ++ spaces ++ ['>']) ∧
      ∀ x ∈ spaces, isSpace x = true := by
  obtain ⟨token, opened, hscan, hmakes, rfl, hc⟩ := next?_eq_iff.1 h
  generalize hbefore : c.opened = before at hmakes
  cases hmakes with
  | @finish content _ =>
    rw [hopened] at hbefore
    obtain ⟨spaces, hcontent, hspaces⟩ := exists_of_closingName content
    rw [← (List.cons.inj hbefore).1] at hcontent
    exact ⟨spaces, by rw [← hcontent]; rfl, hspaces⟩

end Cursor

/-! What an element contains is searched without a fault. -/

theorem Search.within_step_lt {tag lexeme : Text} {s : Search} {e : Event} {depth depth' : Nat}
    (hdepth : e.depthAfter depth = some depth')
    (h : ∀ start inner, s.within = some (start, inner) → inner < depth) :
    ∀ start inner, (s.step tag (e, lexeme)).within = some (start, inner) → inner < depth' := by
  intro start inner' hwithin
  rcases cases_of_within_step hwithin with
    ⟨inner, hwithin, hinner⟩ | ⟨-, ⟨name, rfl, -⟩, -, rfl⟩
  · have hlt := h start inner hwithin
    cases e with
    | finish =>
      simp only [Event.depthAfter] at hdepth hinner
      split at hdepth <;> split at hinner <;> cases hdepth <;> cases hinner
      omega
    | start name =>
      cases hdepth
      cases hinner
      omega
    | empty name | other =>
      cases hdepth
      cases hinner
      exact hlt
  · cases hdepth
    exact Nat.succ_pos depth

/-- A search that is in an element is so within one that is still open. -/
theorem Search.fault?_eq_none {tag : Text} {es : List Piece} {s : Search} {depth : Nat}
    (hdepth : depthAfter depth es = some 0)
    (h : ∀ start inner, s.within = some (start, inner) → inner < depth) :
    (s.findings tag none es).fault? = none := by
  induction es generalizing s depth with
  | nil =>
    cases hdepth
    have hwithin : s.within = none := by
      rw [Option.eq_none_iff_forall_ne_some]
      rintro ⟨start, inner⟩ hs
      exact absurd (h start inner hs) (Nat.not_lt_zero inner)
    rw [Search.findings, hwithin]
    rfl
  | cons p es ih =>
    obtain ⟨depth₁, hdepth₁, hdepth₂⟩ := Option.bind_eq_some_iff.1 hdepth
    exact ih hdepth₂ (Search.within_step_lt hdepth₁ h)

theorem Cursor.Finds.ne_insideCharacter {tag : Text} {c : Cursor}
    {result : Except ExtractError (Option (Text × Cursor))} (h : c.Finds tag result)
    (hmarked : c.isMarked = false) : result ≠ .error .insideCharacter := by
  cases h with
  | nothing | malformed | empty | element => exact nofun
  | unclosed hskips hstart htag hclose =>
    obtain ⟨es, c₁, depth, -, -, hstop⟩ := exists_of_close_error hclose
    rintro ⟨⟩
    rcases hstop with ⟨-, h⟩ | ⟨f, -, h⟩ <;> cases h
  | @insideCharacter c₁ c₂ c₃ name lexeme content hskips hstart htag hclose hgiven =>
    obtain ⟨es, hpasses, -⟩ := hskips
    have hmarked₂ := (hpasses.concat hstart).isMarked_eq
    rw [Cursor.given?, hmarked₂, hmarked, if_neg Bool.false_ne_true] at hgiven
    cases hgiven

theorem Cursor.findAll_ne_insideCharacter {tag : Text} {c : Cursor} (hmarked : c.isMarked = false)
    (seen : List Text) : c.findAll tag seen ≠ .error .insideCharacter := by
  have hfinds := finds_find? tag c
  fun_induction Cursor.findAll tag seen c with
  | case1 seen c e hfind =>
    rw [hfind] at hfinds
    have hne := hfinds.ne_insideCharacter hmarked
    exact fun h => hne (congrArg Except.error (Except.error.inj h))
  | case2 =>
    intro h
    cases h
  | case3 seen c content c' hfind ih =>
    rw [hfind] at hfinds
    obtain ⟨es, hpasses⟩ := hfinds.exists_passes
    exact ih (hpasses.isMarked_eq.trans hmarked) (finds_find? tag c')

theorem extractAll_ne_insideCharacter {body : Text} (h : body.head? ≠ some '\uFEFF') (tag : Text) :
    extractAll body tag ≠ .error .insideCharacter := by
  rw [extractAll, ofDocument_unmarked h]
  exact Cursor.findAll_ne_insideCharacter rfl []

theorem extractFirst_ne_insideCharacter {body : Text} (h : body.head? ≠ some '\uFEFF')
    (tag : Text) : extractFirst body tag ≠ .error .insideCharacter := by
  have hne := (Cursor.finds_find? tag (Cursor.ofDocument body)).ne_insideCharacter
    (by rw [ofDocument_unmarked h])
  rw [extractFirst]
  cases hfind : (Cursor.ofDocument body).find? tag with
  | error e =>
    rw [hfind] at hne
    exact fun h => hne (congrArg Except.error (Except.error.inj h))
  | ok found =>
    intro h
    cases h

theorem nests_of_passes {c c' : Cursor} {es : List Piece} (h : c.Passes es c')
    (hdepth : depthAfter 0 es = some 0) : Nests (written es) := by
  intro hhead tag
  have hne := extractAll_ne_insideCharacter hhead tag
  have hfault : (findings (written es) tag).fault? = none := by
    rw [findings, ofDocument_unmarked hhead, h.events_inside hdepth]
    exact Search.fault?_eq_none hdepth nofun
  rw [extractAll_eq, Findings.all, hfault] at hne ⊢
  cases hcontents : (findings (written es) tag).slices.mapM (content? (written es)) with
  | none => exact absurd (by rw [hcontents]) hne
  | some contents => exact ⟨contents, rfl⟩

/-- The slice in a text that has so many more octets before it. -/
def Slice.shift (n : Nat) (s : Slice) : Slice := ⟨n + s.start, n + s.stop⟩

theorem Slice.shift_zero (s : Slice) : s.shift 0 = s := by
  simp [shift]

/-- No element with that local name begins before it. -/
def Element.IsFirst (tag : Text) (c : Cursor) (e : Element) : Prop :=
  ∃ es c', c.Passes es c' ∧ (∀ p ∈ es, ¬ p.1.Begins tag) ∧ written es = e.before

/-- What is given is cut from the document at the position of what the element contains. -/
theorem Cursor.Skips.exists_element {document tag name lexeme content given : Text}
    {c c₁ c₂ c₃ : Cursor} {s : Search} (hskips : c.Skips tag c₁)
    (hstart : c₁.next? = .ok (some (.start name, lexeme, c₂))) (htag : localName name = tag)
    (hclose : c₂.close tag 0 [] = .ok (content, c₃)) (hgiven : c₂.given? content = some given)
    (hat : s.StandsAt document c) :
    ∃ (es : List Piece) (e : Element), c.Passes es c₃ ∧ e.StandsBehind tag c ∧ e.IsFirst tag c ∧
      Nests e.content ∧ e.slice.stop < byteLength (written es) ∧
      content? document (some (e.slice.shift s.position)) = some given := by
  obtain ⟨es, hpasses, hes⟩ := hskips
  obtain ⟨head, rfl, rfl, hhead, hlast, hopened⟩ := exists_of_start hstart
  obtain ⟨inside, c₄, closing, hinside, hdepth, rfl, hclosing⟩ := exists_of_close hclose
  obtain ⟨spaces, rfl, hspaces⟩ :=
    exists_of_finish hclosing ((hinside.opened_eq hdepth).trans hopened)
  have hall := (hpasses.concat hstart).append (hinside.concat hclosing)
  have hrest := hall.rest_eq
  simp only [written_append, written_cons, written_nil, List.append_nil] at hrest
  let e : Element := ⟨written es, head, written inside, spaces, c₃.rest⟩
  refine ⟨_, e, hall, ⟨?_, htag, hhead, hlast, hspaces, es, c₁, hpasses, rfl⟩,
    ⟨es, c₁, hpasses, hes, rfl⟩, nests_of_passes hinside hdepth, ?_, ?_⟩
  · simpa [e, Element.startTag, Element.endTag] using hrest
  · simp only [e, Element.slice, Element.startTag, written_append, written_cons, written_nil,
      byteLength_append, byteLength_cons, byteLength_nil]
    have := '<'.utf8Size_pos
    omega
  · rw [List.reverse_nil, List.nil_append,
      (hat.passes (hpasses.concat hstart) none).given?_eq hinside.rest_eq] at hgiven
    rw [← hgiven, content?]
    simp only [e, Element.slice, Slice.shift, Element.startTag, written_append, written_cons,
      written_nil, List.append_nil, byteLength_append, Nat.add_assoc]

theorem Cursor.Finds.holds {document tag given : Text} {c c' : Cursor} {s : Search}
    (h : c.Finds tag (.ok (some (given, c')))) (hat : s.StandsAt document c) :
    ∃ es slice content, c.Passes es c' ∧ Holds tag c slice content ∧ Nests content ∧
      (∀ t ∈ slice, t.stop < byteLength (written es)) ∧
      content? document (slice.map (·.shift s.position)) = some given := by
  cases h with
  | @empty c₁ _ name lexeme hskips hempty htag =>
    obtain ⟨es, hpasses, -⟩ := hskips
    obtain ⟨head, rfl, rfl, hhead, hlast⟩ := exists_of_empty hempty
    have hall := hpasses.concat hempty
    have hrest := hall.rest_eq
    rw [written_append, written_cons, written_nil] at hrest
    exact ⟨_, none, [], hall,
      .empty (by simpa using hrest) htag hhead hlast ⟨es, c₁, hpasses, rfl⟩,
      nests_of_passes (c := c) .nil rfl, nofun, rfl⟩
  | element hskips hstart htag hclose hgiven =>
    obtain ⟨es, e, hpasses, he, -, hnests, hstop, hgiven⟩ :=
      hskips.exists_element hstart htag hclose hgiven hat
    exact ⟨es, some e.slice, e.content, hpasses, .element he, hnests,
      fun _ ht => Option.some.inj ht ▸ hstop, hgiven⟩

theorem Holds.content?_eq {document tag content : Text} {c : Cursor} {s : Search}
    {slice : Option Slice} (h : Holds tag c slice content) (hat : s.StandsAt document c)
    (hmarked : c.isMarked = false) :
    content? document (slice.map (·.shift s.position)) = some content := by
  cases h with
  | @element e he =>
    obtain ⟨passed, hread, hposition⟩ := hat.exists_passed
    rw [hmarked, if_neg Bool.false_ne_true, List.append_nil] at hread
    rw [Option.map_some, content?, sliceBytes_eq_some_iff]
    refine ⟨c.read.reverse ++ (e.before ++ e.startTag), e.endTag ++ e.after, ?_, ?_, ?_⟩
    · rw [← hat.document_eq, he.rest_eq]
      simp
    · rw [byteLength_append, byteLength_reverse, hread, hposition]
      rfl
    · simp only [Element.slice, Slice.shift, byteLength_append]
      omega
  | empty => rfl

/-- In a document without a byte-order mark what is given is what the element contains. -/
theorem Cursor.Finds.holds_given {tag given : Text} {c c' : Cursor}
    (h : c.Finds tag (.ok (some (given, c')))) (hmarked : c.isMarked = false) :
    ∃ es slice, c.Passes es c' ∧ Holds tag c slice given ∧ Nests given ∧
      ∀ t ∈ slice, t.stop < byteLength (written es) := by
  have hat : Search.StandsAt (c.read.reverse ++ c.rest) ⟨byteLength c.read, none⟩ c :=
    ⟨rfl, c.read, by rw [hmarked]; exact (List.append_nil _).symm, rfl⟩
  obtain ⟨es, slice, content, hpasses, hholds, hnests, hstop, hgiven⟩ := h.holds hat
  rw [hholds.content?_eq hat hmarked] at hgiven
  cases hgiven
  exact ⟨es, slice, hpasses, hholds, hnests, hstop⟩

theorem finds_of_extractFirst {body tag given : Text}
    (h : extractFirst body tag = .ok (some given)) :
    ∃ c, (Cursor.ofDocument body).Finds tag (.ok (some (given, c))) := by
  have hfinds := Cursor.finds_find? tag (Cursor.ofDocument body)
  rw [extractFirst] at h
  cases hfind : (Cursor.ofDocument body).find? tag with
  | error e => rw [hfind] at h; cases h
  | ok found =>
    cases found with
    | none => rw [hfind] at h; cases h
    | some p =>
      rw [hfind] at h hfinds
      cases h
      exact ⟨p.2, hfinds⟩

/-- Of what is not empty the first element is cut from the body, mark or none, at the position of
its content. -/
theorem exists_isFirst_of_extractFirst {body tag given : Text}
    (h : extractFirst body tag = .ok (some given)) (hne : given ≠ []) :
    ∃ e : Element, e.StandsBehind tag (Cursor.ofDocument body) ∧
      e.IsFirst tag (Cursor.ofDocument body) ∧ content? body (some e.slice) = some given := by
  obtain ⟨c, hfinds⟩ := finds_of_extractFirst h
  cases hfinds with
  | empty => exact absurd rfl hne
  | element hskips hstart htag hclose hgiven =>
    obtain ⟨es, e, -, he, hfirst, -, -, hgiven⟩ :=
      hskips.exists_element hstart htag hclose hgiven (.ofDocument body)
    rw [Slice.shift_zero] at hgiven
    exact ⟨e, he, hfirst, hgiven⟩

/-- The one slice ends before the other begins, if there are two. -/
def Slice.Precedes (a b : Option Slice) : Prop := ∀ s ∈ a, ∀ t ∈ b, s.stop < t.start

theorem Holds.behind {tag content : Text} {c c' : Cursor} {es : List Piece} {slice : Option Slice}
    (hpasses : c.Passes es c') (h : Holds tag c' slice content) :
    Holds tag c (slice.map (·.shift (byteLength (written es)))) content := by
  cases h with
  | @element e he =>
    obtain ⟨hrest, htag, hhead, hopen, hspaces, fs, c₁, hpasses₁, hbefore⟩ := he
    have hslice : e.slice.shift (byteLength (written es)) =
        Element.slice { e with before := written es ++ e.before } := by
      simp [Element.slice, Slice.shift, Element.startTag]
    rw [Option.map_some, hslice]
    refine .element ⟨?_, htag, hhead, hopen, hspaces, es ++ fs, c₁, hpasses.append hpasses₁, ?_⟩
    · rw [hpasses.rest_eq, hrest, List.append_assoc]
      rfl
    · rw [written_append, hbefore]
  | empty hrest htag hhead hlast hpassed =>
    obtain ⟨fs, c₁, hpasses₁, rfl⟩ := hpassed
    have hwhole := hpasses.rest_eq
    rw [hrest, ← List.append_assoc] at hwhole
    exact .empty hwhole htag hhead hlast
      ⟨es ++ fs, c₁, hpasses.append hpasses₁, written_append es fs⟩

theorem Cursor.exists_of_findAll {tag : Text} {c : Cursor} {seen found : List Text}
    (h : c.findAll tag seen = .ok found) (hmarked : c.isMarked = false) :
    ∃ slices contents, found = seen.reverse ++ contents ∧
      List.Forall₂ (fun slice content => Holds tag c slice content ∧ Nests content)
        slices contents ∧
      slices.Pairwise Slice.Precedes := by
  have hfinds := finds_find? tag c
  fun_induction Cursor.findAll tag seen c with
  | case1 => cases h
  | case2 =>
    cases h
    exact ⟨[], [], (List.append_nil _).symm, .nil, .nil⟩
  | case3 seen c content c' hfind ih =>
    rw [hfind] at hfinds
    obtain ⟨es, slice, hpasses, hholds, hnests, hstop⟩ := hfinds.holds_given hmarked
    obtain ⟨slices, contents, rfl, hall, hordered⟩ :=
      ih h (hpasses.isMarked_eq.trans hmarked) (finds_find? tag c')
    refine ⟨slice :: slices.map (·.map (·.shift (byteLength (written es)))), content :: contents,
      by simp, .cons ⟨hholds, hnests⟩ ?_, ?_⟩
    · rw [List.forall₂_map_left_iff]
      exact hall.imp fun _ _ hone => ⟨hone.1.behind hpasses, hone.2⟩
    · rw [List.pairwise_cons, List.pairwise_map]
      constructor
      · intro other hother s hs t ht
        obtain ⟨before, -, rfl⟩ := List.mem_map.1 hother
        obtain ⟨t', -, rfl⟩ := Option.map_eq_some_iff.1 ht
        exact Nat.lt_of_lt_of_le (hstop s hs) (Nat.le_add_right _ _)
      · refine hordered.imp fun hprecedes s hs t ht => ?_
        obtain ⟨s', hs', rfl⟩ := Option.map_eq_some_iff.1 hs
        obtain ⟨t', ht', rfl⟩ := Option.map_eq_some_iff.1 ht
        exact Nat.add_lt_add_left (hprecedes s' hs' t' ht') _

/-- What is extracted from a body, with the octets that it takes there. -/
structure IsCut (tag body : Text) (slice : Option Slice) (content : Text) : Prop where
  holds : Holds tag (Cursor.ofDocument body) slice content
  /-- The octets are all in the body, from one border of characters to another. -/
  content?_eq : content? body slice = some content
  nests : Nests content

theorem Holds.content?_body {tag body content : Text} {slice : Option Slice}
    (hholds : Holds tag (Cursor.ofDocument body) slice content)
    (h : body.head? ≠ some '\uFEFF') : content? body slice = some content := by
  have hmarked : (Cursor.ofDocument body).isMarked = false := by rw [ofDocument_unmarked h]
  have hcontent := hholds.content?_eq (.ofDocument body) hmarked
  simp only [Slice.shift_zero, Option.map_id'] at hcontent
  exact hcontent

/-- What is extracted stands between the tags of elements, in order, and can be searched itself. -/
theorem isCut_extracted {body : Text} (h : body.head? ≠ some '\uFEFF') (tag : Text) :
    (∀ found, extractAll body tag = .ok found → ∃ slices,
        List.Forall₂ (IsCut tag body) slices found ∧ slices.Pairwise Slice.Precedes) ∧
      (∀ content, extractFirst body tag = .ok (some content) →
        ∃ slice, IsCut tag body slice content) ∧
      extractAll body tag ≠ .error .insideCharacter ∧
      extractFirst body tag ≠ .error .insideCharacter := by
  have hmarked : (Cursor.ofDocument body).isMarked = false := by rw [ofDocument_unmarked h]
  refine ⟨fun found hfound => ?_, fun content hcontent => ?_, extractAll_ne_insideCharacter h tag,
    extractFirst_ne_insideCharacter h tag⟩
  · obtain ⟨slices, contents, rfl, hall, hordered⟩ := Cursor.exists_of_findAll hfound hmarked
    exact ⟨slices, hall.imp fun _ _ hone => ⟨hone.1, hone.1.content?_body h, hone.2⟩, hordered⟩
  · obtain ⟨c, hfinds⟩ := finds_of_extractFirst hcontent
    obtain ⟨es, slice, -, hholds, hnests, -⟩ := hfinds.holds_given hmarked
    exact ⟨slice, hholds, hholds.content?_body h, hnests⟩

/-- The document ends inside its outermost element; one element is closed at once, and one start
tag has a `>` in a quote. -/
theorem isCut_extracted_unclosed :
    let body := "<r><a x='>'>1&lt;<b/></a ><p:a/><a>2</a>".toList
    let found := ["1&lt;<b/>".toList, [], ['2']]
    body.head? ≠ some '\uFEFF' ∧ extractAll body ['a'] = .ok found ∧
      ∃ slices, List.Forall₂ (IsCut ['a'] body) slices found ∧
        slices.Pairwise Slice.Precedes := by
  intro body found
  have hhead : body.head? ≠ some '\uFEFF' := by decide
  have hfound : extractAll body ['a'] = .ok found := by decide +kernel
  exact ⟨hhead, hfound, (isCut_extracted hhead ['a']).1 found hfound⟩

end MachineImage.Markup
