import Mathlib.Data.List.Basic
import MachineImage.Proofs.Search

/-!
A document with a byte-order mark. Reading passes over the mark, but no position counts it: the
same elements are found as in the document without it, and each is cut three octets early.
-/
namespace MachineImage.Markup

open Text

namespace Cursor

variable {c d : Cursor}

/-- Reading depends on what is left to read and on what is open, not on what has been read. -/
theorem next?_congr (hrest : d.rest = c.rest) (hopened : d.opened = c.opened) :
    d.next? = c.next?.map (·.map fun (e, lexeme, c') =>
      (e, lexeme, { c' with read := lexeme.reverseAux d.read, isMarked := d.isMarked })) := by
  obtain ⟨read, rest, isMarked, opened⟩ := c
  obtain ⟨read', rest', isMarked', opened'⟩ := d
  obtain rfl : rest' = rest := hrest
  obtain rfl : opened' = opened := hopened
  unfold next?
  cases scan rest' with
  | error f => rfl
  | ok found =>
    cases found with
    | none => rfl
    | some p =>
      obtain ⟨token, rest⟩ := p
      cases token with
      | opening content =>
        simp only
        split <;> rfl
      | closing content =>
        cases opened' with
        | nil => rfl
        | cons expected more =>
          simp only
          split <;> rfl
      | text chars | reference name | aside chars => rfl

theorem events_congr (hrest : d.rest = c.rest) (hopened : d.opened = c.opened) :
    d.events = c.events := by
  have hnext' := next?_congr hrest hopened
  fun_induction Cursor.events c generalizing d with
  | case1 c f hnext | case2 c hnext =>
    rw [hnext] at hnext'
    rw [events_eq, hnext']
    rfl
  | case3 c e lexeme c' hnext ih =>
    rw [hnext] at hnext'
    have hlater := @ih { c' with read := lexeme.reverseAux d.read, isMarked := d.isMarked } rfl rfl
      (next?_congr rfl rfl)
    rw [events_of_next? hnext', hlater]

theorem ne_nil_of_mem_events {p : Piece} (h : p ∈ c.events.1) : p.2 ≠ [] := by
  fun_induction Cursor.events c with
  | case1 | case2 => cases h
  | case3 c e lexeme c' hnext ih =>
    rcases List.mem_cons.1 h with rfl | h
    · exact lexeme_ne_nil_of_next? hnext
    · exact ih h

end Cursor

/-- What an element contains never begins with the document. -/
theorem Search.start_pos {tag : Text} {fault : Option Fault} {es : List Piece} {s : Search}
    {slice : Slice} (hes : ∀ p ∈ es, p.2 ≠ [])
    (hs : ∀ start depth, s.within = some (start, depth) → 0 < start)
    (h : some slice ∈ (s.findings tag fault es).slices) : 0 < slice.start := by
  induction es generalizing s with
  | nil => cases h
  | cons p es ih =>
    obtain ⟨e, lexeme⟩ := p
    obtain ⟨hlexeme, hes⟩ := List.forall_mem_cons.1 hes
    rcases List.mem_append.1 h with h | h
    · rcases cases_of_found? (Option.mem_toList.1 h) with
        ⟨start, depth, hwithin, -, hslice⟩ | ⟨-, -, hslice⟩
      · cases hslice
        exact hs start depth hwithin
      · cases hslice
    · refine ih hes (fun start depth hwithin => ?_) h
      rcases cases_of_within_step hwithin with ⟨depth', hwithin, -⟩ | ⟨-, -, rfl, -⟩
      · exact hs start depth' hwithin
      · have hlength := length_le_byteLength lexeme
        have hpos : 0 < lexeme.length := List.length_pos_iff.2 hlexeme
        omega

theorem findings_marked {body : Text} (h : body.head? ≠ some '\uFEFF') (tag : Text) :
    findings ('\uFEFF' :: body) tag = findings body tag := by
  have hevents : (Cursor.ofDocument ('\uFEFF' :: body)).events = (Cursor.ofDocument body).events :=
    Cursor.events_congr (by rw [ofDocument_unmarked h]; rfl) (by rw [ofDocument_unmarked h]; rfl)
  rw [findings, hevents, findings]

/-- The slice three octets before, if so many stand before it. -/
def Slice.early? (s : Slice) : Option Slice :=
  if 3 ≤ s.start then some ⟨s.start - 3, s.stop - 3⟩ else none

theorem content?_marked {slice : Slice} (h : 0 < slice.start) (body : Text) :
    content? ('\uFEFF' :: body) (some slice) =
      slice.early?.bind fun early => content? body (some early) := by
  rw [content?, sliceBytes_cons h, Slice.early?]
  change (if 3 ≤ slice.start then _ else _) = _
  split <;> rfl

/-- With another way of giving contents all of them stay the same exactly if each does. -/
theorem mapM_eq_some_iff_of_mapM {f g : Option Slice → Option Text} {slices : List (Option Slice)}
    {contents : List Text} (h : slices.mapM f = some contents) :
    slices.mapM g = some contents ↔ ∀ slice ∈ slices, g slice = f slice := by
  induction slices generalizing contents with
  | nil => exact ⟨fun _ _ hslice => absurd hslice List.not_mem_nil, fun _ => h⟩
  | cons slice slices ih =>
    rw [List.mapM_cons] at h
    obtain ⟨content, hcontent, h⟩ := Option.bind_eq_some_iff.1 h
    obtain ⟨later, hlater, h⟩ := Option.bind_eq_some_iff.1 h
    cases h
    rw [List.mapM_cons, List.forall_mem_cons, ← ih hlater, hcontent]
    constructor
    · intro hg
      obtain ⟨content', hcontent', hg⟩ := Option.bind_eq_some_iff.1 hg
      obtain ⟨later', hlater', hg⟩ := Option.bind_eq_some_iff.1 hg
      cases hg
      exact ⟨hcontent', hlater'⟩
    · rintro ⟨hcontent', hlater'⟩
      rw [hcontent', hlater']
      rfl

theorem Findings.first_eq_iff {f : Findings} {document other : Text} :
    f.first other = f.first document ↔
      ∀ slice ∈ f.slices.head?, content? other slice = content? document slice := by
  obtain ⟨_ | ⟨slice, slices⟩, fault?⟩ := f
  · exact ⟨fun _ _ hslice => absurd hslice (by simp), fun _ => rfl⟩
  · simp only [first, List.head?_cons, Option.mem_def, Option.some.injEq, forall_eq']
    cases content? other slice <;> cases content? document slice <;> simp

theorem Findings.first_eq_some_iff {f : Findings} {document raw : Text} :
    f.first document = .ok (some raw) ↔
      ∃ slice ∈ f.slices.head?, content? document slice = some raw := by
  obtain ⟨_ | ⟨slice, slices⟩, fault?⟩ := f
  · cases fault? <;> simp [first]
  · simp only [first, List.head?_cons, Option.mem_def, Option.some.injEq, exists_eq_left']
    cases content? document slice <;> simp

/-- A byte-order mark changes nothing of which elements are found and of the fault that ends the
search. The content of an element that is not closed at once is cut three octets early, so that it
is as it was only where the octets there happen to be the same. -/
theorem extracted_marked {body : Text} (h : body.head? ≠ some '\uFEFF') (tag : Text) :
    let found := findings body tag
    let marked := '\uFEFF' :: body
    (∀ document ∈ [body, marked],
      extractAll document tag = found.all document ∧
        extractFirst document tag = found.first document ∧
        ∀ text, extractText document tag = .ok (some text) ↔ ∃ slice ∈ found.slices.head?,
          ∃ raw, content? document slice = some raw ∧ unescape (Text.trim raw) = .ok text) ∧
      (∀ slice, some slice ∈ found.slices → content? marked (some slice) =
        slice.early?.bind fun early => content? body (some early)) ∧
      (∀ contents, extractAll body tag = .ok contents → (extractAll marked tag = .ok contents ↔
        ∀ slice ∈ found.slices, content? marked slice = content? body slice)) ∧
      (extractFirst marked tag = extractFirst body tag ↔
        ∀ slice ∈ found.slices.head?, content? marked slice = content? body slice) := by
  intro found marked
  have hread : ∀ document ∈ [body, marked], findings document tag = found := by
    simp only [List.forall_mem_cons, List.not_mem_nil, false_implies, implies_true, and_true]
    exact ⟨rfl, findings_marked h tag⟩
  have hbody := hread body (by simp)
  have hmarked := hread marked (by simp)
  refine ⟨fun document hdocument => ⟨?_, ?_, fun text => ?_⟩, fun slice hslice => ?_,
    fun contents hcontents => ?_, ?_⟩
  · rw [extractAll_eq, hread document hdocument]
  · rw [extractFirst_eq, hread document hdocument]
  · simp only [extractText_eq_some_iff, extractFirst_eq, hread document hdocument,
      Findings.first_eq_some_iff]
    constructor
    · rintro ⟨raw, ⟨slice, hslice, hraw⟩, htext⟩
      exact ⟨slice, hslice, raw, hraw, htext⟩
    · rintro ⟨slice, hslice, raw, hraw, htext⟩
      exact ⟨raw, ⟨slice, hslice, hraw⟩, htext⟩
  · refine content?_marked (Search.start_pos (fun p hp => ?_) (by simp) hslice) body
    exact Cursor.ne_nil_of_mem_events hp
  · rw [extractAll_eq, hbody, Findings.all_eq_ok_iff] at hcontents
    rw [extractAll_eq, hmarked, Findings.all_eq_ok_iff, mapM_eq_some_iff_of_mapM hcontents.2]
    exact and_iff_right hcontents.1
  · rw [extractFirst_eq, extractFirst_eq, hmarked, hbody, Findings.first_eq_iff]

/-- The start tag's last octets stand before the content, and the content's own last are lost. -/
theorem extracted_marked_hello :
    let body := "<r><a>hello</a></r>".toList
    body.head? ≠ some '\uFEFF' ∧ findings body ['a'] = ⟨[some ⟨6, 11⟩], none⟩ ∧
      extractAll ('\uFEFF' :: body) ['a'] = .ok ["<a>he".toList] := by
  intro body
  have hhead : body.head? ≠ some '\uFEFF' := by decide
  have hfound : findings body ['a'] = ⟨[some ⟨6, 11⟩], none⟩ := by decide +kernel
  have hmarked := ((extracted_marked hhead ['a']).1 ('\uFEFF' :: body) (by simp)).1
  refine ⟨hhead, hfound, hmarked.trans ?_⟩
  rw [hfound]
  decide +kernel

/-- A mark changes what is extracted, up to a slice that begins inside a character. -/
theorem extractAll_marked_ne :
    (¬ ∀ body tag : Text, body.head? ≠ some '\uFEFF' →
      extractAll ('\uFEFF' :: body) tag = extractAll body tag) ∧
    extractAll ('\uFEFF' :: "<a x='é'>hello</a>".toList) ['a'] = .error .insideCharacter := by
  refine ⟨fun h => ?_, by decide +kernel⟩
  have hequal := h "<r><a>hello</a></r>".toList ['a'] (by decide)
  exact absurd hequal (by decide +kernel)

end MachineImage.Markup
