import MachineImage.Proofs.Octets
import MachineImage.Proofs.Passage

/-!
Extraction in one pass over the events of a document, which finds for each element the octets that
its content takes. The first element and all elements are read off what this pass finds, so that
they agree.
-/
namespace MachineImage.Markup

open Text

/-- The octets of a document from one position up to another. -/
structure Slice where
  start : Nat
  stop : Nat
  deriving DecidableEq, Repr

/-- What the slice of an element contains; an element that is closed at once has none and contains
nothing. -/
def content? (document : Text) : Option Slice → Option Text
  | none => some []
  | some slice => sliceBytes document slice.start slice.stop

/-- Where a search stands. -/
structure Search where
  /-- The octets that have been read. -/
  position : Nat
  /-- In an element of the wanted name, where its content begins and how many elements are open
  inside it. -/
  within : Option (Nat × Nat)

namespace Search

variable (tag : Text)

def step (s : Search) (p : Piece) : Search where
  position := s.position + byteLength p.2
  within := match s.within, p.1 with
    | some (start, depth), e => (e.depthAfter depth).map fun depth => (start, depth)
    | none, .start name =>
      if localName name = tag then some (s.position + byteLength p.2, 0) else none
    | none, _ => none

/-- The element that ends with the event, if one does. -/
def found? (s : Search) (p : Piece) : Option (Option Slice) :=
  match s.within, p.1 with
  | some (start, depth), e =>
    if e.depthAfter depth = none then some (some ⟨start, s.position⟩) else none
  | none, .empty name => if localName name = tag then some none else none
  | none, _ => none

end Search

/-- What a search finds, and the fault that ends it, if one does. -/
structure Findings where
  slices : List (Option Slice)
  fault? : Option ExtractError
  deriving DecidableEq, Repr

def Search.findings (tag : Text) (fault : Option Fault) (s : Search) : List Piece → Findings
  | [] => ⟨[], match fault with
    | some fault => some (.malformed fault)
    | none => s.within.map fun _ => .unterminated tag⟩
  | p :: es =>
    let later := (s.step tag p).findings tag fault es
    ⟨(s.found? tag p).toList ++ later.slices, later.fault?⟩

def findings (document tag : Text) : Findings :=
  let read := (Cursor.ofDocument document).events
  Search.findings tag read.2 ⟨0, none⟩ read.1

namespace Findings

/-- The contents of all elements, where nothing is at fault. -/
def all (f : Findings) (document : Text) : Except ExtractError (List Text) :=
  match f.slices.mapM (content? document) with
  | none => .error .insideCharacter
  | some contents =>
    match f.fault? with
    | some e => .error e
    | none => .ok contents

/-- The content of the first element; a fault behind it does not matter. -/
def first (f : Findings) (document : Text) : Except ExtractError (Option Text) :=
  match f.slices with
  | slice :: _ =>
    match content? document slice with
    | none => .error .insideCharacter
    | some content => .ok (some content)
  | [] =>
    match f.fault? with
    | some e => .error e
    | none => .ok none

/-- An element that is found first. -/
def cons (slice : Option Slice) (f : Findings) : Findings := ⟨slice :: f.slices, f.fault?⟩

end Findings

def Cursor.findings (tag : Text) (s : Search) (c : Cursor) : Findings :=
  s.findings tag c.events.2 c.events.1

namespace Cursor

variable {tag : Text} {s : Search} {c c' : Cursor}

theorem findings_of_error {f : Fault} (h : c.next? = .error f) :
    c.findings tag s = ⟨[], some (.malformed f)⟩ := by
  rw [findings, events_eq, h]
  rfl

theorem findings_of_end (h : c.next? = .ok none) :
    c.findings tag s = ⟨[], s.within.map fun _ => .unterminated tag⟩ := by
  rw [findings, events_eq, h]
  rfl

theorem findings_of_next? {e : Event} {lexeme : Text}
    (h : c.next? = .ok (some (e, lexeme, c'))) :
    c.findings tag s = match s.found? tag (e, lexeme) with
      | some slice => (c'.findings tag (s.step tag (e, lexeme))).cons slice
      | none => c'.findings tag (s.step tag (e, lexeme)) := by
  rw [findings, events_eq, h, Search.findings]
  cases s.found? tag (e, lexeme) <;> rfl

end Cursor

/-- The search has come to where the cursor stands in the document. Its position does not count a
byte-order mark. -/
structure Search.StandsAt (document : Text) (s : Search) (c : Cursor) : Prop where
  document_eq : c.read.reverse ++ c.rest = document
  exists_passed : ∃ passed, c.read = passed ++ (if c.isMarked then ['\uFEFF'] else []) ∧
    byteLength passed = s.position

namespace Search.StandsAt

variable {document tag : Text} {s : Search} {c c' : Cursor}

theorem ofDocument (document : Text) :
    Search.StandsAt document ⟨0, none⟩ (Cursor.ofDocument document) := by
  unfold Cursor.ofDocument
  split
  · exact ⟨rfl, [], rfl, rfl⟩
  · exact ⟨rfl, [], rfl, rfl⟩

theorem step (h : s.StandsAt document c) {e : Event} {lexeme : Text}
    (hnext : c.next? = .ok (some (e, lexeme, c'))) :
    (s.step tag (e, lexeme)).StandsAt document c' := by
  obtain ⟨token, opened, hscan, -, rfl, hc⟩ := Cursor.next?_eq_iff.1 hnext
  obtain ⟨passed, hread, hposition⟩ := h.exists_passed
  constructor
  · rw [hc, List.reverse_append, List.reverse_reverse, List.append_assoc,
      lexeme_append_of_scan hscan, h.document_eq]
  · refine ⟨token.lexeme.reverse ++ passed, by rw [hc, hread, List.append_assoc], ?_⟩
    rw [byteLength_append, byteLength_reverse, hposition, Nat.add_comm]
    rfl

theorem passes (h : s.StandsAt document c) {es : List Piece} (hpasses : c.Passes es c')
    (within : Option (Nat × Nat)) :
    Search.StandsAt document ⟨s.position + byteLength (written es), within⟩ c' := by
  obtain ⟨passed, hread, hposition⟩ := h.exists_passed
  constructor
  · rw [hpasses.read_eq, List.reverse_append, List.reverse_reverse, List.append_assoc,
      ← hpasses.rest_eq, h.document_eq]
  · refine ⟨(written es).reverse ++ passed, ?_, ?_⟩
    · rw [hpasses.read_eq, hread, hpasses.isMarked_eq, List.append_assoc]
    · rw [byteLength_append, byteLength_reverse, hposition, Nat.add_comm]

/-- The content that is given is what the slice at its position contains, also where the position
is too small by the octets of a mark. -/
theorem given?_eq (h : s.StandsAt document c) {content more : Text}
    (hrest : c.rest = content ++ more) :
    c.given? content = sliceBytes document s.position (s.position + byteLength content) := by
  obtain ⟨passed, hread, hposition⟩ := h.exists_passed
  have hdocument := h.document_eq
  rw [Cursor.given?]
  cases hmarked : c.isMarked with
  | false =>
    rw [hmarked, if_neg Bool.false_ne_true, List.append_nil] at hread
    rw [if_neg Bool.false_ne_true, eq_comm, sliceBytes_eq_some_iff]
    refine ⟨c.read.reverse, more, by rw [← hdocument, hrest], ?_, by omega⟩
    rw [byteLength_reverse, hread, hposition]
  | true =>
    rw [hmarked, if_pos rfl] at hread
    have hlength : byteLength c.read = s.position + 3 := by
      rw [hread, byteLength_append, hposition]
      rfl
    rw [if_pos rfl]
    ext part
    rw [sliceBytes_eq_some_iff, Option.bind_eq_some_iff]
    constructor
    · rintro ⟨shifted, hslide, hpart⟩
      obtain ⟨⟨_, rest⟩, hsplit, rfl⟩ := Option.map_eq_some_iff.1 hpart
      obtain ⟨last, before, hbefore, hlast, rfl⟩ := exists_of_slideBack hslide
      obtain ⟨part, hshifted, hsize, rfl⟩ := exists_of_splitBytes hsplit
      refine ⟨before.reverse, rest ++ more, ?_, ?_, ?_⟩
      · rw [← hdocument, hbefore, hrest, List.reverse_append, List.append_assoc,
          ← List.append_assoc last.reverse, hshifted]
        simp
      · rw [hbefore, byteLength_append] at hlength
        rw [byteLength_reverse]
        omega
      · rw [Nat.add_sub_cancel_left]
        exact hsize
    · rintro ⟨before, after, hsplit, hbefore, hpart⟩
      rw [← hdocument, hrest] at hsplit
      have hprefix : before <+: c.read.reverse := by
        refine prefix_of_byteLength_le ⟨_, hsplit.symm⟩ (List.prefix_append _ _) ?_
        rw [byteLength_reverse]
        omega
      obtain ⟨last, hlast⟩ := hprefix
      have hread' : c.read = last.reverse ++ before.reverse := by
        rw [← List.reverse_append, hlast, List.reverse_reverse]
      have hthree : 3 = byteLength last.reverse := by
        rw [hread', byteLength_append, byteLength_reverse before] at hlength
        omega
      rw [← hlast, List.append_assoc, List.append_cancel_left_eq, ← List.append_assoc] at hsplit
      obtain ⟨rest, hcontent⟩ : part <+: last ++ content := by
        refine prefix_of_byteLength_le ⟨_, hsplit.symm⟩ (List.prefix_append _ _) ?_
        rw [byteLength_append]
        omega
      refine ⟨last ++ content, ?_, ?_⟩
      · rw [hread', hthree, slideBack_append, List.reverse_reverse]
      · have hsize : byteLength content = byteLength part := by omega
        rw [← hcontent, hsize, splitBytes_append]
        rfl

end Search.StandsAt

namespace Search

variable {tag lexeme : Text} {s : Search} {e : Event} {start depth depth' : Nat}

/-- All ways in which a search is within an element behind an event. -/
theorem cases_of_within_step (h : (s.step tag (e, lexeme)).within = some (start, depth')) :
    (∃ depth, s.within = some (start, depth) ∧ e.depthAfter depth = some depth') ∨
      s.within = none ∧ (∃ name, e = .start name ∧ localName name = tag) ∧
        start = s.position + byteLength lexeme ∧ depth' = 0 := by
  cases hs : s.within with
  | some p =>
    obtain ⟨start', depth⟩ := p
    simp only [step, hs] at h
    obtain ⟨depth'', hdepth, heq⟩ := Option.map_eq_some_iff.1 h
    cases heq
    exact .inl ⟨depth, rfl, hdepth⟩
  | none =>
    cases e with
    | start name =>
      simp only [step, hs] at h
      split at h
      · next htag =>
        cases h
        exact .inr ⟨rfl, ⟨name, rfl, htag⟩, rfl, rfl⟩
      · cases h
    | empty name | finish | other => simp [step, hs] at h

/-- All ways in which an element ends with an event. -/
theorem cases_of_found? {slice : Option Slice} (h : s.found? tag (e, lexeme) = some slice) :
    (∃ start depth, s.within = some (start, depth) ∧ e.depthAfter depth = none ∧
        slice = some ⟨start, s.position⟩) ∨
      s.within = none ∧ (∃ name, e = .empty name ∧ localName name = tag) ∧ slice = none := by
  cases hs : s.within with
  | some p =>
    obtain ⟨start, depth⟩ := p
    simp only [found?, hs] at h
    split at h
    · next hdepth =>
      cases h
      exact .inl ⟨start, depth, rfl, hdepth, rfl⟩
    · cases h
  | none =>
    cases e with
    | empty name =>
      simp only [found?, hs] at h
      split at h
      · next htag =>
        cases h
        exact .inr ⟨rfl, ⟨name, rfl, htag⟩, rfl⟩
      · cases h
    | start name | finish | other => simp [found?, hs] at h

theorem found?_inside (h : s.within = some (start, depth))
    (hdepth : e.depthAfter depth = some depth') : s.found? tag (e, lexeme) = none := by
  simp [found?, h, hdepth]

theorem within_inside (h : s.within = some (start, depth))
    (hdepth : e.depthAfter depth = some depth') :
    (s.step tag (e, lexeme)).within = some (start, depth') := by
  simp [step, h, hdepth]

theorem found?_finish (h : s.within = some (start, 0)) :
    s.found? tag (.finish, lexeme) = some (some ⟨start, s.position⟩) := by
  simp [found?, h, Event.depthAfter]

theorem within_finish (h : s.within = some (start, 0)) :
    (s.step tag (.finish, lexeme)).within = none := by
  simp [step, h, Event.depthAfter]

theorem found?_outside (h : s.within = none) (he : ¬ e.Begins tag) :
    s.found? tag (e, lexeme) = none := by
  cases e with
  | empty name =>
    have hname : localName name ≠ tag := he
    simp [found?, h, hname]
  | start name | finish | other => simp [found?, h]

theorem within_outside (h : s.within = none) (he : ¬ e.Begins tag) :
    (s.step tag (e, lexeme)).within = none := by
  cases e with
  | start name =>
    have hname : localName name ≠ tag := he
    simp [step, h, hname]
  | empty name | finish | other => simp [step, h]

end Search

namespace Cursor

variable {document tag : Text} {s : Search} {c c' : Cursor}

theorem findings_of_inside (tag : Text) {es : List Piece} {start depth depth' : Nat}
    (h : c.Passes es c') (hdepth : depthAfter depth es = some depth')
    (hwithin : s.within = some (start, depth))
    (hat : s.StandsAt document c) :
    ∃ s', s'.within = some (start, depth') ∧ s'.position = s.position + byteLength (written es) ∧
      s'.StandsAt document c' ∧ c.findings tag s = c'.findings tag s' := by
  induction h generalizing s depth with
  | nil => exact ⟨s, by rw [hwithin, Option.some.inj hdepth], rfl, hat, rfl⟩
  | @cons c c₁ c₂ e lexeme es hnext hpasses ih =>
    obtain ⟨depth₁, hdepth₁, hdepth₂⟩ := Option.bind_eq_some_iff.1 hdepth
    have hwithin₁ : (s.step tag (e, lexeme)).within = some (start, depth₁) :=
      Search.within_inside hwithin hdepth₁
    obtain ⟨s', hwithin', hposition, hat', hfindings⟩ := ih hdepth₂ hwithin₁ (hat.step hnext)
    refine ⟨s', hwithin', ?_, hat', ?_⟩
    · rw [hposition, written_cons, byteLength_append, ← Nat.add_assoc]
      rfl
    · rw [findings_of_next? hnext, Search.found?_inside hwithin hdepth₁]
      exact hfindings

theorem findings_of_skips (h : c.Skips tag c') (hwithin : s.within = none)
    (hat : s.StandsAt document c) :
    ∃ s', s'.within = none ∧ s'.StandsAt document c' ∧ c.findings tag s = c'.findings tag s' := by
  obtain ⟨es, hpasses, hes⟩ := h
  induction hpasses generalizing s with
  | nil => exact ⟨s, hwithin, hat, rfl⟩
  | @cons c c₁ c₂ e lexeme es hnext hpasses ih =>
    obtain ⟨he, hes⟩ := List.forall_mem_cons.1 hes
    have hwithin₁ : (s.step tag (e, lexeme)).within = none := Search.within_outside hwithin he
    obtain ⟨s', hwithin', hat', hfindings⟩ := ih hwithin₁ (hat.step hnext) hes
    refine ⟨s', hwithin', hat', ?_⟩
    rw [findings_of_next? hnext, Search.found?_outside hwithin he]
    exact hfindings

/-- Behind the start tag of a wanted element the search is within it. -/
theorem findings_of_start {name lexeme : Text}
    (hnext : c.next? = .ok (some (.start name, lexeme, c'))) (htag : localName name = tag)
    (hwithin : s.within = none) (hat : s.StandsAt document c) :
    ∃ s', s'.within = some (s'.position, 0) ∧ s'.StandsAt document c' ∧
      c.findings tag s = c'.findings tag s' := by
  refine ⟨s.step tag (.start name, lexeme), ?_, hat.step hnext, ?_⟩
  · simp [Search.step, hwithin, htag]
  · rw [findings_of_next? hnext]
    simp [Search.found?, hwithin]

theorem findings_of_empty {name lexeme : Text}
    (hnext : c.next? = .ok (some (.empty name, lexeme, c'))) (htag : localName name = tag)
    (hwithin : s.within = none) (hat : s.StandsAt document c) :
    ∃ s', s'.within = none ∧ s'.StandsAt document c' ∧
      c.findings tag s = (c'.findings tag s').cons none := by
  refine ⟨s.step tag (.empty name, lexeme), ?_, hat.step hnext, ?_⟩
  · simp [Search.step, hwithin]
  · rw [findings_of_next? hnext]
    simp [Search.found?, hwithin, htag]

/-- An element that is not closed is the end of the search. -/
theorem findings_of_close_error {start : Nat} {e : ExtractError}
    (h : c.close tag 0 [] = .error e) (hwithin : s.within = some (start, 0))
    (hat : s.StandsAt document c) : c.findings tag s = ⟨[], some e⟩ := by
  obtain ⟨es, c₁, depth, hpasses, hdepth, hstop⟩ := exists_of_close_error h
  obtain ⟨s', hwithin', -, -, hfindings⟩ :=
    findings_of_inside tag hpasses hdepth hwithin hat
  rw [hfindings]
  rcases hstop with ⟨hend, rfl⟩ | ⟨f, hfault, rfl⟩
  · rw [findings_of_end hend, hwithin']
    rfl
  · exact findings_of_error hfault

/-- Of an element that is closed the search finds the octets between its tags. -/
theorem findings_of_close {content : Text} (h : c.close tag 0 [] = .ok (content, c'))
    (hwithin : s.within = some (s.position, 0)) (hat : s.StandsAt document c) :
    ∃ s' slice, s'.within = none ∧ s'.StandsAt document c' ∧
      content? document (some slice) = c.given? content ∧
      c.findings tag s = (c'.findings tag s').cons (some slice) := by
  obtain ⟨es, c₁, lexeme, hpasses, hdepth, rfl, hclosing⟩ := exists_of_close h
  obtain ⟨s₁, hwithin₁, hposition, hat₁, hfindings⟩ :=
    findings_of_inside tag hpasses hdepth hwithin hat
  refine ⟨s₁.step tag (.finish, lexeme), ⟨s.position, s₁.position⟩,
    Search.within_finish hwithin₁, hat₁.step hclosing, ?_, ?_⟩
  · rw [List.reverse_nil, List.nil_append, hat.given?_eq hpasses.rest_eq, hposition]
    rfl
  · rw [hfindings, findings_of_next? hclosing, Search.found?_finish hwithin₁]

end Cursor

namespace Findings

variable {document : Text} {f : Findings} {slice : Option Slice}

theorem all_cons_of_none (h : content? document slice = none) :
    (f.cons slice).all document = .error .insideCharacter := by
  simp [all, cons, List.mapM_cons, h]

theorem all_cons {content : Text} (h : content? document slice = some content) :
    (f.cons slice).all document = (f.all document).map (content :: ·) := by
  simp only [all, cons, List.mapM_cons, h]
  cases f.slices.mapM (content? document) with
  | none => rfl
  | some contents => cases f.fault? <;> rfl

theorem first_cons {content : Text} (h : content? document slice = some content) :
    (f.cons slice).first document = .ok (some content) := by
  simp only [first, cons, h]

theorem first_cons_of_none (h : content? document slice = none) :
    (f.cons slice).first document = .error .insideCharacter := by
  simp only [first, cons, h]

end Findings

/-- The findings tell what looking for the next element comes to: where it is found, the others are
found behind it. -/
def Findings.Tells (document tag : Text) (f : Findings) :
    Except ExtractError (Option (Text × Cursor)) → Prop
  | .error e => f.first document = .error e ∧ f.all document = .error e
  | .ok none => f = ⟨[], none⟩
  | .ok (some (content, c)) => ∃ s slice, s.within = none ∧ s.StandsAt document c ∧
    content? document slice = some content ∧ f = (c.findings tag s).cons slice

namespace Cursor

variable {document tag : Text} {s : Search} {c : Cursor}

theorem findings_of_finds {result : Except ExtractError (Option (Text × Cursor))}
    (h : c.Finds tag result) (hwithin : s.within = none) (hat : s.StandsAt document c) :
    (c.findings tag s).Tells document tag result := by
  cases h with
  | nothing hskips hend =>
    obtain ⟨s₁, hwithin₁, -, hfindings⟩ := findings_of_skips hskips hwithin hat
    rw [hfindings, findings_of_end hend, hwithin₁]
    rfl
  | malformed hskips hfault =>
    obtain ⟨s₁, -, -, hfindings⟩ := findings_of_skips hskips hwithin hat
    rw [hfindings, findings_of_error hfault]
    exact ⟨rfl, rfl⟩
  | empty hskips hempty htag =>
    obtain ⟨s₁, hwithin₁, hat₁, hfindings⟩ := findings_of_skips hskips hwithin hat
    obtain ⟨s₂, hwithin₂, hat₂, hfindings₂⟩ := findings_of_empty hempty htag hwithin₁ hat₁
    exact ⟨s₂, none, hwithin₂, hat₂, rfl, hfindings.trans hfindings₂⟩
  | unclosed hskips hstart htag hclose =>
    obtain ⟨s₁, hwithin₁, hat₁, hfindings⟩ := findings_of_skips hskips hwithin hat
    obtain ⟨s₂, hwithin₂, hat₂, hfindings₂⟩ := findings_of_start hstart htag hwithin₁ hat₁
    rw [hfindings, hfindings₂, findings_of_close_error hclose hwithin₂ hat₂]
    exact ⟨rfl, rfl⟩
  | element hskips hstart htag hclose hgiven =>
    obtain ⟨s₁, hwithin₁, hat₁, hfindings⟩ := findings_of_skips hskips hwithin hat
    obtain ⟨s₂, hwithin₂, hat₂, hfindings₂⟩ := findings_of_start hstart htag hwithin₁ hat₁
    obtain ⟨s₃, slice, hwithin₃, hat₃, hslice, hfindings₃⟩ :=
      findings_of_close hclose hwithin₂ hat₂
    exact ⟨s₃, some slice, hwithin₃, hat₃, hslice.trans hgiven,
      hfindings.trans (hfindings₂.trans hfindings₃)⟩
  | insideCharacter hskips hstart htag hclose hgiven =>
    obtain ⟨s₁, hwithin₁, hat₁, hfindings⟩ := findings_of_skips hskips hwithin hat
    obtain ⟨s₂, hwithin₂, hat₂, hfindings₂⟩ := findings_of_start hstart htag hwithin₁ hat₁
    obtain ⟨s₃, slice, hwithin₃, hat₃, hslice, hfindings₃⟩ :=
      findings_of_close hclose hwithin₂ hat₂
    have hnone := hslice.trans hgiven
    rw [hfindings, hfindings₂, hfindings₃]
    exact ⟨Findings.first_cons_of_none hnone, Findings.all_cons_of_none hnone⟩

theorem find?_eq_first (hwithin : s.within = none) (hat : s.StandsAt document c) :
    (c.find? tag).map (·.map (·.1)) = (c.findings tag s).first document := by
  have hfinds := findings_of_finds (finds_find? tag c) hwithin hat
  cases hfind : c.find? tag with
  | error e =>
    rw [hfind] at hfinds
    exact hfinds.1.symm
  | ok found =>
    rw [hfind] at hfinds
    cases found with
    | none =>
      rw [hfinds]
      rfl
    | some p =>
      obtain ⟨s', slice, -, -, hslice, hfindings⟩ := hfinds
      rw [hfindings, Findings.first_cons hslice]
      rfl

theorem findAll_eq_all (hwithin : s.within = none) (hat : s.StandsAt document c)
    (seen : List Text) :
    c.findAll tag seen = ((c.findings tag s).all document).map (seen.reverse ++ ·) := by
  have hfinds := findings_of_finds (finds_find? tag c) hwithin hat
  fun_induction Cursor.findAll tag seen c generalizing s with
  | case1 seen c e hfind =>
    rw [hfind] at hfinds
    rw [hfinds.2]
    rfl
  | case2 seen c hfind =>
    rw [hfind] at hfinds
    rw [hfinds]
    exact congrArg Except.ok (List.append_nil _).symm
  | case3 seen c content c' hfind ih =>
    rw [hfind] at hfinds
    obtain ⟨s', slice, hwithin', hat', hslice, hfindings⟩ := hfinds
    rw [ih hwithin' hat' (findings_of_finds (finds_find? tag c') hwithin' hat'), hfindings,
      Findings.all_cons hslice]
    cases (c'.findings tag s').all document with
    | error e => rfl
    | ok contents => simp [Except.map]

end Cursor

theorem extractFirst_eq (body tag : Text) :
    extractFirst body tag = (findings body tag).first body :=
  Cursor.find?_eq_first rfl (.ofDocument body)

theorem extractAll_eq (body tag : Text) : extractAll body tag = (findings body tag).all body := by
  rw [extractAll, Cursor.findAll_eq_all rfl (.ofDocument body)]
  change ((findings body tag).all body).map ([] ++ ·) = _
  cases (findings body tag).all body <;> rfl

namespace Findings

variable {document : Text} {f : Findings}

theorem all_eq_ok_iff {contents : List Text} :
    f.all document = .ok contents ↔
      f.fault? = none ∧ f.slices.mapM (content? document) = some contents := by
  unfold all
  cases f.slices.mapM (content? document) with
  | none => exact ⟨nofun, nofun⟩
  | some found => cases f.fault? <;> simp

theorem first_of_all {contents : List Text} (h : f.all document = .ok contents) :
    f.first document = .ok contents.head? := by
  obtain ⟨hfault, hcontents⟩ := all_eq_ok_iff.1 h
  obtain ⟨_ | ⟨slice, slices⟩, fault?⟩ := f
  · cases hfault
    cases hcontents
    rfl
  · rw [List.mapM_cons] at hcontents
    obtain ⟨content, hcontent, hcontents⟩ := Option.bind_eq_some_iff.1 hcontents
    obtain ⟨later, -, hcontents⟩ := Option.bind_eq_some_iff.1 hcontents
    cases hcontents
    exact first_cons (f := ⟨slices, fault?⟩) hcontent

theorem all_of_first_error {e : ExtractError} (h : f.first document = .error e) :
    f.all document = .error e := by
  obtain ⟨_ | ⟨slice, slices⟩, fault?⟩ := f
  · cases fault? with
    | some e =>
      cases h
      rfl
    | none => cases h
  · cases hcontent : content? document slice with
    | none =>
      have hfirst := first_cons_of_none (f := ⟨slices, fault?⟩) hcontent
      cases h.symm.trans hfirst
      exact all_cons_of_none (f := ⟨slices, fault?⟩) hcontent
    | some content =>
      have hfirst := first_cons (f := ⟨slices, fault?⟩) hcontent
      cases h.symm.trans hfirst

theorem all_of_first_none (h : f.first document = .ok none) : f.all document = .ok [] := by
  obtain ⟨_ | ⟨slice, slices⟩, fault?⟩ := f
  · cases fault? with
    | some e => cases h
    | none => rfl
  · cases hcontent : content? document slice with
    | none =>
      have hfirst := first_cons_of_none (f := ⟨slices, fault?⟩) hcontent
      cases h.symm.trans hfirst
    | some content =>
      have hfirst := first_cons (f := ⟨slices, fault?⟩) hcontent
      cases h.symm.trans hfirst

end Findings

/-- A text is extracted exactly where an element is, and from its trimmed content alone. -/
theorem extractText_eq_some_iff {body tag text : Text} :
    extractText body tag = .ok (some text) ↔
      ∃ raw, extractFirst body tag = .ok (some raw) ∧ unescape (Text.trim raw) = .ok text := by
  unfold extractText
  cases extractFirst body tag with
  | error e => exact ⟨nofun, nofun⟩
  | ok found =>
    cases found with
    | none => exact ⟨nofun, nofun⟩
    | some raw =>
      simp only [Except.ok.injEq, Option.some.injEq, exists_eq_left']
      cases unescape (Text.trim raw) with
      | error fault => exact ⟨nofun, nofun⟩
      | ok found => simp

/-- The first element is the first of all elements, as far as a fault behind it lets all of them be
found. The text of an element is a matter of its trimmed content alone. -/
theorem extractFirst_agrees (body tag : Text) :
    (∀ found, extractAll body tag = .ok found → extractFirst body tag = .ok found.head?) ∧
      (∀ e, extractFirst body tag = .error e → extractAll body tag = .error e) ∧
      (extractFirst body tag = .ok none → extractAll body tag = .ok []) ∧
      (∀ text, extractText body tag = .ok (some text) →
        ∃ raw, extractFirst body tag = .ok (some raw)) ∧
      ∀ (other wanted raw raw' : Text), extractFirst body tag = .ok (some raw) →
        extractFirst other wanted = .ok (some raw') → Text.trim raw = Text.trim raw' →
        ∀ text, extractText body tag = .ok (some text) ↔
          extractText other wanted = .ok (some text) := by
  refine ⟨fun found h => ?_, fun e h => ?_, fun h => ?_, fun text h => ?_, ?_⟩
  · rw [extractAll_eq] at h
    rw [extractFirst_eq, Findings.first_of_all h]
  · rw [extractFirst_eq] at h
    rw [extractAll_eq, Findings.all_of_first_error h]
  · rw [extractFirst_eq] at h
    rw [extractAll_eq, Findings.all_of_first_none h]
  · obtain ⟨raw, hraw, -⟩ := extractText_eq_some_iff.1 h
    exact ⟨raw, hraw⟩
  · intro other wanted raw raw' hraw hraw' htrim text
    rw [extractText_eq_some_iff, extractText_eq_some_iff, hraw, hraw']
    simp only [Except.ok.injEq, Option.some.injEq, exists_eq_left', htrim]

end MachineImage.Markup
