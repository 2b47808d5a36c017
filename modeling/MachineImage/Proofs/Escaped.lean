import MachineImage.Markup.Reference
import MachineImage.Proofs.Visible
import Mathlib.Data.List.DropRight

/-!
Escaped text read back: what a text with references stands for, that to trim it and to resolve it
is the same in either order, and that what is escaped stands for what it was made from.
-/
namespace MachineImage.Markup

open Text

/-- The text stands for the other, some of whose characters it gives by name. -/
inductive Reads : Text → Text → Prop
  | nil : Reads [] []
  | plain {c : Char} {s t : Text} : c ≠ '&' → Reads s t → Reads (c :: s) (c :: t)
  | named {name s t : Text} {c : Char} : namedCharacter? name = some c → Reads s t →
    Reads ('&' :: (name ++ ';' :: s)) (c :: t)

theorem mem_of_namedCharacter? {name : Text} {c : Char} (h : namedCharacter? name = some c) :
    (name, c) ∈ [("lt".toList, '<'), ("gt".toList, '>'), ("amp".toList, '&'),
      ("apos".toList, '\''), ("quot".toList, '"')] := by
  obtain ⟨p, hp, hname⟩ := List.exists_of_findSome?_eq_some h
  split at hname
  · next heq =>
    obtain ⟨tag, c'⟩ := p
    obtain rfl : tag.toList = name := heq
    obtain rfl : c' = c := Option.some.inj hname
    exact List.mem_map_of_mem (f := fun p : String × Char => (p.1.toList, p.2)) hp
  · cases hname

/-- The letters of a name neither end it nor begin a tag. -/
theorem forall_mem_of_namedCharacter? {name : Text} {c : Char} (h : namedCharacter? name = some c) :
    ∀ x ∈ name, x ≠ ';' ∧ x ≠ '&' ∧ x ≠ '<' := by
  have hall : name.all (fun x => x ≠ ';' ∧ x ≠ '&' ∧ x ≠ '<') = true := by
    have table := mem_of_namedCharacter? h
    simp only [List.mem_cons, List.not_mem_nil, or_false, Prod.mk.injEq] at table
    rcases table with ⟨rfl, -⟩ | ⟨rfl, -⟩ | ⟨rfl, -⟩ | ⟨rfl, -⟩ | ⟨rfl, -⟩ <;> decide
  exact fun x hx => of_decide_eq_true (List.all_eq_true.1 hall x hx)

/-- No name stands for white space. -/
theorem isBlank_of_namedCharacter? {name : Text} {c : Char} (h : namedCharacter? name = some c) :
    isBlank c = false := by
  have table := mem_of_namedCharacter? h
  simp only [List.mem_cons, List.not_mem_nil, or_false, Prod.mk.injEq] at table
  rcases table with ⟨-, rfl⟩ | ⟨-, rfl⟩ | ⟨-, rfl⟩ | ⟨-, rfl⟩ | ⟨-, rfl⟩ <;> decide

theorem resolve_of_namedCharacter? {name : Text} {c : Char} (h : namedCharacter? name = some c)
    (start : Nat) : resolve start name = .ok c := by
  have table := mem_of_namedCharacter? h
  simp only [List.mem_cons, List.not_mem_nil, or_false, Prod.mk.injEq] at table
  rcases table with ⟨rfl, rfl⟩ | ⟨rfl, rfl⟩ | ⟨rfl, rfl⟩ | ⟨rfl, rfl⟩ | ⟨rfl, rfl⟩ <;> rfl

theorem Reads.append {s t s' t' : Text} (h : Reads s t) (h' : Reads s' t') :
    Reads (s ++ s') (t ++ t') := by
  induction h with
  | nil => exact h'
  | plain hc _ ih => exact .plain hc ih
  | named hname _ ih =>
    rw [List.cons_append, List.append_assoc, List.cons_append]
    exact .named hname ih

theorem reads_of_not_mem {s : Text} (h : '&' ∉ s) : Reads s s := by
  induction s with
  | nil => exact .nil
  | cons c s ih =>
    obtain ⟨hc, hs⟩ : '&' ≠ c ∧ '&' ∉ s := by simpa using h
    exact .plain hc.symm (ih hs)

theorem unescapeFrom_of_reads {s t : Text} (h : Reads s t) (stop start : Nat) (seen : Text) :
    unescapeFrom stop start seen s = .ok (seen.reverse ++ t) := by
  induction h generalizing start seen with
  | nil => rw [unescapeFrom, List.append_nil]
  | plain hc _ ih =>
    rw [unescapeFrom, ih, List.reverse_cons, List.append_assoc, List.singleton_append]
    exact hc
  | @named name s t c hname _ ih =>
    have hletters : ∀ x ∈ name, isNameCharacter x = true := fun x hx => by
      obtain ⟨hend, hamp, -⟩ := forall_mem_of_namedCharacter? hname x hx
      rw [isNameCharacter, Bool.and_eq_true, bne_iff_ne, bne_iff_ne]
      exact ⟨hamp, hend⟩
    have hend : ¬ isNameCharacter ';' = true := by decide
    have htake : (name ++ ';' :: s).takeWhile isNameCharacter = name := by
      rw [List.takeWhile_append_of_pos hletters, List.takeWhile_cons_of_neg hend, List.append_nil]
    have hdrop : (name ++ ';' :: s).dropWhile isNameCharacter = ';' :: s := by
      rw [List.dropWhile_append_of_pos hletters, List.dropWhile_cons_of_neg hend]
    rw [unescapeFrom]
    split
    · next rest hbehind =>
      rw [hdrop] at hbehind
      cases hbehind
      simp only [htake, resolve_of_namedCharacter? hname, ih, List.reverse_cons, List.append_assoc,
        List.singleton_append]
    · next hbehind => exact absurd hdrop (hbehind s)

theorem unescape_of_reads {s t : Text} (h : Reads s t) : unescape s = .ok t :=
  unescapeFrom_of_reads h _ _ _

theorem Reads.dropWhile {s t : Text} (h : Reads s t) :
    Reads (s.dropWhile isBlank) (t.dropWhile isBlank) := by
  induction h with
  | nil => exact .nil
  | @plain c s t hc h ih =>
    by_cases hblank : isBlank c = true
    · rw [List.dropWhile_cons_of_pos hblank, List.dropWhile_cons_of_pos hblank]
      exact ih
    · rw [List.dropWhile_cons_of_neg hblank, List.dropWhile_cons_of_neg hblank]
      exact .plain hc h
  | @named name s t c hname h _ =>
    have hc : ¬ isBlank c = true := by simp [isBlank_of_namedCharacter? hname]
    rw [List.dropWhile_cons_of_neg (by decide), List.dropWhile_cons_of_neg hc]
    exact .named hname h

/-- Nothing is cut off in front of what is not white space. -/
theorem rdropWhile_append_cons {s : Text} {c : Char} (hc : isBlank c = false) (t : Text) :
    (s ++ c :: t).rdropWhile isBlank = s ++ c :: t.rdropWhile isBlank := by
  have hs : (c :: s.reverse).dropWhile isBlank = c :: s.reverse :=
    List.dropWhile_cons_of_neg (by simp [hc])
  have hreverse : (s ++ c :: t).reverse = t.reverse ++ (c :: s.reverse) := by simp
  rw [List.rdropWhile, hreverse, List.dropWhile_append, List.rdropWhile]
  cases t.reverse.dropWhile isBlank with
  | nil => simp [hs]
  | cons => simp

theorem rdropWhile_cons {c : Char} (hc : isBlank c = true) (t : Text) :
    (c :: t).rdropWhile isBlank =
      if (t.rdropWhile isBlank).isEmpty then [] else c :: t.rdropWhile isBlank := by
  rw [List.rdropWhile, List.reverse_cons, List.dropWhile_append, List.rdropWhile]
  cases t.reverse.dropWhile isBlank with
  | nil => simp [List.dropWhile_cons_of_pos hc]
  | cons => simp

theorem Reads.rdropWhile {s t : Text} (h : Reads s t) :
    Reads (s.rdropWhile isBlank) (t.rdropWhile isBlank) := by
  induction h with
  | nil => exact .nil
  | @plain c s t hc h ih =>
    cases hblank : isBlank c with
    | false =>
      have hs := rdropWhile_append_cons (s := []) hblank s
      have ht := rdropWhile_append_cons (s := []) hblank t
      rw [List.nil_append] at hs ht
      rw [hs, ht]
      exact .plain hc ih
    | true =>
      -- Either both ends vanish or neither does.
      rw [rdropWhile_cons hblank, rdropWhile_cons hblank]
      generalize s.rdropWhile isBlank = s', t.rdropWhile isBlank = t' at ih
      cases ih with
      | nil => exact .nil
      | plain hc' ih => exact .plain hc (.plain hc' ih)
      | named hname ih => exact .plain hc (.named hname ih)
  | @named name s t c hname h ih =>
    have hs := rdropWhile_append_cons (s := '&' :: name) (by decide : isBlank ';' = false) s
    have ht := rdropWhile_append_cons (s := []) (isBlank_of_namedCharacter? hname) t
    rw [List.cons_append] at hs
    rw [List.nil_append] at ht
    rw [hs, ht]
    exact .named hname ih

theorem Reads.trim {s t : Text} (h : Reads s t) : Reads (Text.trim s) (Text.trim t) :=
  h.dropWhile.rdropWhile

theorem reads_escapeAmpersands (s : Text) : Reads (escapeAmpersands s) s := by
  induction s with
  | nil => exact .nil
  | cons c s ih =>
    rw [escapeAmpersands, List.flatMap_cons]
    split
    · next hc =>
      rw [hc]
      exact .named (rfl : namedCharacter? "amp".toList = some '&') ih
    · next hc => exact .plain hc ih

theorem reads_escapeText (s : Text) : Reads (escapeText s) s := by
  induction s with
  | nil => exact .nil
  | cons c s ih =>
    rw [escapeText, List.flatMap_cons]
    split
    · exact .named (rfl : namedCharacter? "lt".toList = some '<') ih
    · exact .named (rfl : namedCharacter? "gt".toList = some '>') ih
    · exact .named (rfl : namedCharacter? "amp".toList = some '&') ih
    · exact .named (rfl : namedCharacter? "apos".toList = some '\'') ih
    · exact .named (rfl : namedCharacter? "quot".toList = some '"') ih
    · next hamp _ _ => exact .plain hamp ih

theorem not_mem_escapeAmpersands {s : Text} (h : '<' ∉ s) : '<' ∉ escapeAmpersands s := by
  intro hmem
  obtain ⟨c, hc, hmem⟩ := List.mem_flatMap.1 hmem
  split at hmem
  · exact absurd hmem (by decide)
  · rw [List.mem_singleton.1 hmem] at h
    exact h hc

theorem not_mem_escapeText (s : Text) : '<' ∉ escapeText s := by
  intro hmem
  obtain ⟨c, -, hmem⟩ := List.mem_flatMap.1 hmem
  split at hmem
  · exact absurd hmem (by decide)
  · exact absurd hmem (by decide)
  · exact absurd hmem (by decide)
  · exact absurd hmem (by decide)
  · exact absurd hmem (by decide)
  · next hlt _ _ _ _ => exact hlt (List.mem_singleton.1 hmem).symm

end MachineImage.Markup
