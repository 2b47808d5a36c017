import MachineImage.Proofs.Forest

/-!
What is found in a document, told from where its elements stand: those of the wanted name that have
no other such element around them, in the order in which they begin. Tags in comments, CDATA
sections, instructions and values of attributes begin no element.
-/
namespace MachineImage.Markup

/-- An element in a forest. -/
structure Occurrence where
  /-- The local names of the elements around it, innermost first. -/
  around : List Text
  /-- Its own local name. -/
  name : Text
  content : Text

/-- The wanted element, with no other such element around it. -/
def Occurrence.IsOutermost (wanted : Text) (e : Occurrence) : Prop :=
  e.name = wanted ∧ wanted ∉ e.around

instance (wanted : Text) : DecidablePred (Occurrence.IsOutermost wanted) :=
  fun e => inferInstanceAs (Decidable (e.name = wanted ∧ wanted ∉ e.around))

namespace Forest

/-- All elements at all depths, in the order in which they begin. -/
def occurrences (around : List Text) : Forest → List Occurrence
  | nil => []
  | content _ _ rest => rest.occurrences around
  | aside _ _ rest => rest.occurrences around
  | empty tag rest => ⟨around, localName tag.name, []⟩ :: rest.occurrences around
  | element tag children rest =>
    ⟨around, localName tag.name, children.render⟩ ::
      (children.occurrences (localName tag.name :: around) ++ rest.occurrences around)

/-- What is around a forest is around all of its elements. -/
theorem suffix_around {f : Forest} {around : List Text} {e : Occurrence}
    (h : e ∈ f.occurrences around) : around <:+ e.around := by
  induction f generalizing around with
  | nil => exact absurd h List.not_mem_nil
  | content s quiet f ih => exact ih h
  | aside s isAside f ih => exact ih h
  | empty t f ih =>
    rcases List.mem_cons.1 h with rfl | h
    · exact List.suffix_rfl
    · exact ih h
  | element t children f ihChildren ih =>
    rcases List.mem_cons.1 h with rfl | h
    · exact List.suffix_rfl
    · rcases List.mem_append.1 h with h | h
      · exact (List.suffix_cons _ around).trans (ihChildren h)
      · exact ih h

/-- Nothing is outermost inside another such element. -/
theorem filter_occurrences_eq_nil {wanted : Text} {around : List Text} (h : wanted ∈ around)
    (f : Forest) : (f.occurrences around).filter (Occurrence.IsOutermost wanted) = [] := by
  rw [List.filter_eq_nil_iff]
  intro e he houter
  exact (of_decide_eq_true houter).2 ((suffix_around he).subset h)

theorem outermost_eq_filter {wanted : Text} {around : List Text} (h : wanted ∉ around)
    (f : Forest) : f.outermost wanted =
      ((f.occurrences around).filter (Occurrence.IsOutermost wanted)).map (·.content) := by
  induction f generalizing around with
  | nil => rfl
  | content s quiet f ih => exact ih h
  | aside s isAside f ih => exact ih h
  | empty t f ih =>
    rw [outermost, occurrences, List.filter_cons, ih h]
    by_cases ht : localName t.name = wanted
    · rw [if_pos ht, if_pos (decide_eq_true ⟨ht, h⟩), List.map_cons]
    · rw [if_neg ht, if_neg fun houter => ht (of_decide_eq_true houter).1]
  | element t children f ihChildren ih =>
    rw [outermost, occurrences, List.filter_cons, List.filter_append, ih h]
    by_cases ht : localName t.name = wanted
    · -- What is inside a found element is passed over with it.
      have hinside : wanted ∈ localName t.name :: around := by
        rw [ht]
        exact List.mem_cons_self
      rw [if_pos ht, if_pos (decide_eq_true ⟨ht, h⟩), filter_occurrences_eq_nil hinside,
        List.nil_append, List.map_cons]
    · have hinside : wanted ∉ localName t.name :: around :=
        List.not_mem_cons_of_ne_of_not_mem (Ne.symm ht) h
      rw [if_neg ht, if_neg fun houter => ht (of_decide_eq_true houter).1, ihChildren hinside,
        List.map_append]

/-- Extraction gives what the outermost elements of the name contain, in their order, and nothing
where no element has the name, whatever else looks like its tag. -/
theorem extractAll_occurrences {f : Forest} (h : f.render.head? ≠ some '\uFEFF') (tag : Text) :
    extractAll f.render tag =
        .ok (((f.occurrences []).filter (Occurrence.IsOutermost tag)).map (·.content)) ∧
      ((∀ e ∈ f.occurrences [], e.name ≠ tag) → extractAll f.render tag = .ok []) := by
  have hall := extractAll_render h tag
  rw [outermost_eq_filter List.not_mem_nil] at hall
  refine ⟨hall, fun hnone => ?_⟩
  have hempty : (f.occurrences []).filter (Occurrence.IsOutermost tag) = [] := by
    rw [List.filter_eq_nil_iff]
    intro e he houter
    exact hnone e he (of_decide_eq_true houter).1
  rw [hall, hempty, List.map_nil]

end Forest

/-- Elements named `b`, one of them with a prefix and another inside it, among texts that look like
their tags. -/
def mixed : Forest :=
  let b : Tag := ⟨"b".toList, [], by decide⟩
  let prefixed : Tag := ⟨"p:b".toList, [⟨"x".toList, '\'', "</b><b>".toList, by decide, .inl rfl,
    by decide⟩], by decide⟩
  let reference : Quiet ('&' :: ("lt".toList ++ [';']) ++ []) :=
    .reference (forall_mem_of_namedCharacter? (rfl : namedCharacter? "lt".toList = some '<')) .nil
  .aside _ (.instruction (s := "go <b>".toList) (by decide) (by decide)) <|
    .element ⟨"r".toList, [], by decide⟩
      (.aside _ (.comment (s := "<b>-</b>".toList) (by decide)) <|
        .element prefixed
          (.content _ (.plain (c := '1') (by decide) reference) <| .empty b .nil) <|
        .aside _ (.cdata (s := "<b>]]".toList) (by decide)) <|
        .element ⟨"c".toList, [], by decide⟩ (.empty b .nil) .nil)
      .nil

theorem extractAll_mixed :
    mixed.render = ("<?go <b>?><r><!--<b>-</b>--><p:b x='</b><b>'>1&lt;<b/></p:b>" ++
        "<![CDATA[<b>]]]]><c><b/></c></r>").toList ∧
      mixed.render.head? ≠ some '\uFEFF' ∧
      extractAll mixed.render "b".toList = .ok ["1&lt;<b/>".toList, []] := by
  have hhead : mixed.render.head? ≠ some '\uFEFF' := by decide +kernel
  refine ⟨by decide +kernel, hhead, ?_⟩
  rw [(Forest.extractAll_occurrences hhead _).1]
  decide +kernel

end MachineImage.Markup
