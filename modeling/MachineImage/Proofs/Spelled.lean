import MachineImage.Proofs.Conversion
import MachineImage.Proofs.Escaped
import MachineImage.Proofs.Located

/-!
The state of an import is looked for letter by letter, and other fields as markup. Where an element
is written in its plainest form both find it; a state that is written in another way is read as
markup alone, and does not keep a volume from counting as complete.
-/
namespace MachineImage.Text

theorem mem_dropWhile {c : Char} {s : Text} {p : Char → Bool} (h : c ∈ s) (hc : p c = false) :
    c ∈ s.dropWhile p := by
  rw [← List.takeWhile_append_dropWhile (p := p) (l := s), List.mem_append] at h
  rcases h with h | h
  · exact absurd (List.mem_takeWhile_imp h) (by rw [hc]; exact Bool.false_ne_true)
  · exact h

theorem mem_trim {c : Char} {s : Text} (h : c ∈ s) (hc : isBlank c = false) : c ∈ trim s :=
  List.mem_reverse.2 (mem_dropWhile (List.mem_reverse.2 (mem_dropWhile h hc)) hc)

theorem length_trim_le (s : Text) : (trim s).length ≤ s.length := by
  rw [trim, List.length_reverse]
  have hright := (List.dropWhile_suffix (l := (s.dropWhile isBlank).reverse) isBlank).length_le
  have hleft := (List.dropWhile_suffix (l := s) isBlank).length_le
  rw [List.length_reverse] at hright
  exact hright.trans hleft

end MachineImage.Text

namespace MachineImage.Markup

open Text

theorem isSome_of_readNumber {radix value n : Nat} {s : Text}
    (h : readNumber radix value s = .ok n) : ∀ c ∈ s, (Hex.digit? c).isSome := by
  induction s generalizing value with
  | nil => exact fun _ hc => absurd hc List.not_mem_nil
  | cons c s ih =>
    unfold readNumber at h
    split at h
    · cases h
    · next d hd =>
      split at h
      · refine List.forall_mem_cons.2 ⟨?_, ih h⟩
        rw [Option.filter_eq_some_iff] at hd
        rw [hd.1]
        rfl
      · cases h

theorem isSome_of_characterOf {radix : Nat} {s : Text} {c : Char}
    (h : characterOf radix s = .ok c) : ∀ c ∈ s, (Hex.digit? c).isSome := by
  unfold characterOf at h
  split at h
  · cases h
  · split at h
    · cases h
    · split at h
      · cases h
      · next n hn => exact isSome_of_readNumber hn

/-- What can be resolved is no part of a tag. -/
theorem not_mem_of_resolve {start : Nat} {name : Text} {c : Char}
    (h : resolve start name = .ok c) : '>' ∉ name := by
  have hdigit : ¬ (Hex.digit? '>').isSome := by decide
  unfold resolve at h
  split at h
  · next digits =>
    cases hc : characterOf 16 digits with
    | error f => rw [hc] at h; cases h
    | ok c' =>
      have hdigits := isSome_of_characterOf hc
      simp only [List.mem_cons, not_or]
      exact ⟨by decide, by decide, fun hmem => hdigit (hdigits _ hmem)⟩
  · next digits _ =>
    cases hc : characterOf 10 digits with
    | error f => rw [hc] at h; cases h
    | ok c' =>
      have hdigits := isSome_of_characterOf hc
      simp only [List.mem_cons, not_or]
      exact ⟨by decide, fun hmem => hdigit (hdigits _ hmem)⟩
  · split at h
    · next c' hname =>
      have table := mem_of_namedCharacter? hname
      simp only [List.mem_cons, List.not_mem_nil, or_false, Prod.mk.injEq] at table
      rcases table with ⟨rfl, -⟩ | ⟨rfl, -⟩ | ⟨rfl, -⟩ | ⟨rfl, -⟩ | ⟨rfl, -⟩ <;> decide
    · cases h

/-- Resolving makes no text longer, and leaves in it the end of a tag. -/
theorem of_unescapeFrom {stop start : Nat} {seen s t : Text}
    (h : unescapeFrom stop start seen s = .ok t) :
    t.length ≤ seen.length + s.length ∧ ('>' ∈ seen ∨ '>' ∈ s → '>' ∈ t) := by
  fun_induction unescapeFrom stop start seen s with
  | case1 start seen =>
    cases h
    simp
  | case2 => cases h
  | case3 start seen s rest hbehind name c hname ih =>
    obtain ⟨hlength, hmem⟩ := ih h
    have hsplit := List.takeWhile_append_dropWhile (p := isNameCharacter) (l := s)
    rw [hbehind] at hsplit
    change name ++ ';' :: rest = s at hsplit
    have hnot := not_mem_of_resolve hname
    rw [← hsplit]
    constructor
    · simp only [List.length_cons, List.length_append] at hlength ⊢
      omega
    · rintro (hseen | hs)
      · exact hmem (.inl (List.mem_cons_of_mem c hseen))
      · simp only [List.mem_cons, List.mem_append, hnot, false_or] at hs
        rcases hs with hs | hs | hs
        · exact absurd hs (by decide)
        · exact absurd hs (by decide)
        · exact hmem (.inr hs)
  | case4 => cases h
  | case5 start seen c s hc ih =>
    obtain ⟨hlength, hmem⟩ := ih h
    constructor
    · simp only [List.length_cons] at hlength ⊢
      omega
    · rintro (hseen | hs)
      · exact hmem (.inl (List.mem_cons_of_mem c hseen))
      · rcases List.mem_cons.1 hs with rfl | hs
        · exact hmem (.inl List.mem_cons_self)
        · exact hmem (.inr hs)

theorem length_le_of_unescape {s t : Text} (h : unescape s = .ok t) : t.length ≤ s.length := by
  have hlength := (of_unescapeFrom h).1
  rwa [List.length_nil, Nat.zero_add] at hlength

theorem mem_of_unescape {s t : Text} (h : unescape s = .ok t) (hs : '>' ∈ s) : '>' ∈ t :=
  (of_unescapeFrom h).2 (.inr hs)

theorem containsElement_eq_true_iff {body tag value : Text} :
    containsElement body tag value = true ↔
      '<' :: tag ++ '>' :: value ++ '<' :: '/' :: tag ++ ['>'] <:+: body :=
  includes_eq_true_iff

/-- The element is written with the bare tag and with that value, letter for letter. -/
structure Element.IsPlain (tag value : Text) (e : Element) : Prop where
  head_eq : e.head = tag
  content_eq : e.content = value
  spaces_eq : e.spaces = []

theorem suffix_ofDocument (body : Text) : (Cursor.ofDocument body).rest <:+ body := by
  unfold Cursor.ofDocument
  split
  · exact List.suffix_cons _ _
  · exact List.suffix_rfl

/-- An element that is written in its plainest form is found letter by letter. -/
theorem Element.StandsBehind.containsElement {body tag value : Text} {e : Element}
    (h : e.StandsBehind tag (Cursor.ofDocument body)) (hplain : e.IsPlain tag value)
    (htag : nameOf tag = tag) : Markup.containsElement body tag value = true := by
  rw [containsElement_eq_true_iff]
  refine List.IsInfix.trans ?_ (suffix_ofDocument body).isInfix
  rw [h.rest_eq, startTag, endTag, hplain.head_eq, hplain.content_eq, hplain.spaces_eq, htag]
  exact ⟨e.before, e.after, by simp⟩

/-- In a body with a byte-order mark, what is given instead of an element's content has the end of
its start tag in it. -/
theorem Element.StandsBehind.mem_of_slice {rest tag given : Text} {e : Element}
    (h : e.StandsBehind tag (Cursor.ofDocument ('\uFEFF' :: rest)))
    (hgiven : content? ('\uFEFF' :: rest) (some e.slice) = some given)
    (hlength : 3 ≤ byteLength given) : '>' ∈ given := by
  obtain ⟨front, back, hbody, hfront, hsize⟩ := sliceBytes_eq_some_iff.1 hgiven
  -- What stands before the end of the start tag.
  let start := '\uFEFF' :: (e.before ++ '<' :: e.head)
  have hrest : '\uFEFF' :: rest =
      start ++ '>' :: (e.content ++ (e.endTag ++ e.after)) := by
    have hbehind : rest = _ := h.rest_eq
    rw [hbehind]
    simp [start, Element.startTag]
  have hmark : byteLength start = 3 + byteLength (e.before ++ '<' :: e.head) := rfl
  have hslice : e.slice.start = byteLength (e.before ++ '<' :: e.head) + 1 := by
    simp [Element.slice, Element.startTag, Nat.add_assoc]
    rfl
  have hstart : start ++ ['>'] <+: '\uFEFF' :: rest :=
    ⟨e.content ++ (e.endTag ++ e.after), by rw [hrest]; simp⟩
  have hend : front ++ given <+: '\uFEFF' :: rest := ⟨back, by rw [hbody, List.append_assoc]⟩
  obtain ⟨middle, hmiddle⟩ : front <+: start :=
    prefix_of_byteLength_le ⟨_, hbody.symm⟩ ⟨_, hrest.symm⟩ (by omega)
  have hle : byteLength (start ++ ['>']) ≤ byteLength (front ++ given) := by
    have hgreater : byteLength ['>'] = 1 := rfl
    rw [byteLength_append, byteLength_append]
    omega
  obtain ⟨more, hmore⟩ := prefix_of_byteLength_le hstart hend hle
  rw [← hmiddle] at hmore
  have hgiven : middle ++ ['>'] ++ more = given := by
    simpa using hmore
  rw [← hgiven]
  simp

end MachineImage.Markup

namespace MachineImage.Compute

open Markup Text

/-- The states in which no volume is complete. -/
def openStates : List String := ["cancelled", "cancelling", "active"]

theorem hasOpenState_eq_false_iff {body : Text} :
    hasOpenState body = false ↔ ∀ state ∈ openStates, hasState body state = false := by
  simp [hasOpenState, openStates, and_assoc]

theorem hasState_eq_false_iff {body : Text} {state : String} :
    hasState body state = false ↔
      ¬ "<state>".toList ++ state.toList ++ "</state>".toList <:+: body := by
  have hplain : "<state>".toList ++ state.toList ++ "</state>".toList =
      '<' :: "state".toList ++ '>' :: state.toList ++ '<' :: '/' :: "state".toList ++ ['>'] := by
    simp
  rw [hasState, ← Bool.not_eq_true, containsElement_eq_true_iff, hplain]

theorem forall_openStates : ∀ state ∈ openStates,
    3 ≤ state.toList.length ∧ '>' ∉ state.toList := by
  decide

/-- Such a state is read from the octets where the first element of that name has its content. -/
theorem exists_of_open {body : Text} {state : String} (hstate : state ∈ openStates)
    (h : extractText body "state".toList = .ok (some state.toList)) :
    ∃ (raw : Text) (e : Element), extractFirst body "state".toList = .ok (some raw) ∧
      3 ≤ byteLength raw ∧ unescape (trim raw) = .ok state.toList ∧
      e.StandsBehind "state".toList (Cursor.ofDocument body) ∧
      e.IsFirst "state".toList (Cursor.ofDocument body) ∧
      content? body (some e.slice) = some raw := by
  obtain ⟨hthree, -⟩ := forall_openStates state hstate
  obtain ⟨raw, hraw, htext⟩ := extractText_eq_some_iff.1 h
  have hlength : 3 ≤ raw.length :=
    (hthree.trans (length_le_of_unescape htext)).trans (length_trim_le raw)
  obtain ⟨e, he, hfirst, hgiven⟩ :=
    exists_isFirst_of_extractFirst hraw (List.length_pos_iff.1 (by omega))
  exact ⟨raw, e, hraw, hlength.trans (length_le_byteLength raw), htext, he, hfirst, hgiven⟩

/-- Of a body with a byte-order mark no such state is read: the end of the start tag is in what is
read for the state. -/
theorem unmarked_of_open {body : Text} {state : String} (hstate : state ∈ openStates)
    (h : extractText body "state".toList = .ok (some state.toList)) :
    body.head? ≠ some '\uFEFF' := by
  obtain ⟨raw, e, -, hlength, htext, he, -, hgiven⟩ := exists_of_open hstate h
  intro hmark
  obtain ⟨rest, rfl⟩ : ∃ rest, body = '\uFEFF' :: rest := List.head?_eq_some_iff.1 hmark
  have hmem := mem_trim (he.mem_of_slice hgiven hlength) (by decide)
  exact (forall_openStates state hstate).2 (mem_of_unescape htext hmem)

/-- A state in which no volume is complete keeps the volume from being complete where its element
is written in its plainest form. Where the state is written in another way, or not at all, the
volume is complete if it has an id, as far as no such state stands in the body in that form. -/
theorem completed_of_open {body : Text} {state : String} (hstate : state ∈ openStates)
    (h : extractText body "state".toList = .ok (some state.toList)) :
    (∃ e : Element, e.StandsBehind "state".toList (Cursor.ofDocument body) ∧
      e.IsFirst "state".toList (Cursor.ofDocument body) ∧
      extractFirst body "state".toList = .ok (some e.content) ∧
      (e.IsPlain "state".toList state.toList → hasState body state = true ∧
        ∀ volume, conversionStatus body ≠ .ok (.completed volume))) ∧
      ∀ volume, conversionStatus body = .ok (.completed volume) ↔
        (∀ other ∈ openStates,
          ¬ "<state>".toList ++ other.toList ++ "</state>".toList <:+: body) ∧
        ∃ contents, extractFirst body "volume".toList = .ok (some contents) ∧
          volumeId contents = .ok (some volume) := by
  refine ⟨?_, fun volume => ?_⟩
  · have hunmarked := unmarked_of_open hstate h
    obtain ⟨raw, e, hraw, -, -, he, hfirst, hgiven⟩ := exists_of_open hstate h
    rw [(Holds.element he).content?_body hunmarked] at hgiven
    cases hgiven
    refine ⟨e, he, hfirst, hraw, fun hplain => ?_⟩
    have hstands : hasState body state = true := he.containsElement hplain (by decide)
    refine ⟨hstands, fun volume hcompleted => ?_⟩
    have hopen := hasOpenState_eq_false_iff.1 (conversionStatus_eq_completed_iff.1 hcompleted).1
    exact absurd hstands (by rw [hopen state hstate]; exact Bool.false_ne_true)
  · rw [conversionStatus_eq_completed_iff, hasOpenState_eq_false_iff]
    simp only [hasState_eq_false_iff]

/-- A reply that tells of a volume, and of the state with that element. -/
def replyWith (element : String) : Text :=
  "<r><volume><id>vol-1</id></volume>".toList ++ element.toList ++
    "<statusMessage>m</statusMessage></r>".toList

/-- The state between spaces, in an element with an attribute or a prefix, with a reference in it,
and with a space in the end tag. -/
def otherSpellings : List String :=
  ["<state> active </state>", "<state a='b'>active</state>", "<p:state>active</p:state>",
    "<state>&#97;ctive</state>", "<state>active</state >"]

/-- In each of these spellings the state reads as active, and the volume is complete. -/
theorem completed_of_otherSpellings :
    (otherSpellings.map fun element => extractText (replyWith element) "state".toList) =
        otherSpellings.map (fun _ => .ok (some "active".toList)) ∧
      (otherSpellings.map fun element => conversionStatus (replyWith element)) =
        otherSpellings.map fun _ => .ok (.completed "vol-1".toList) := by
  decide +kernel

/-- A reply that names the state in its plainest form. -/
theorem not_completed_of_active :
    let body := replyWith "<state>active</state>"
    extractText body "state".toList = .ok (some "active".toList) ∧
      hasState body "active" = true ∧
      (∃ e : Element, e.IsFirst "state".toList (Cursor.ofDocument body) ∧
        extractFirst body "state".toList = .ok (some e.content)) ∧
      ∀ volume, conversionStatus body ≠ .ok (.completed volume) := by
  intro body
  have hstate : "active" ∈ openStates := by decide
  have htext : extractText body "state".toList = .ok (some "active".toList) := by decide +kernel
  have hstands : hasState body "active" = true := by decide +kernel
  obtain ⟨⟨e, -, hfirst, hraw, -⟩, hcompleted⟩ := completed_of_open hstate htext
  refine ⟨htext, hstands, ⟨e, hfirst, hraw⟩, fun volume h => ?_⟩
  have hopen := ((hcompleted volume).1 h).1 "active" hstate
  rw [← hasState_eq_false_iff, hstands] at hopen
  exact absurd hopen (by decide)

end MachineImage.Compute
