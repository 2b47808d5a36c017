import MachineImage.Text.Utf8

/-!
Texts measured in octets: a slice stands between two borders of characters.
-/
namespace MachineImage.Text

@[simp] theorem byteLength_nil : byteLength [] = 0 := rfl

@[simp] theorem byteLength_cons (c : Char) (s : Text) :
    byteLength (c :: s) = c.utf8Size + byteLength s := rfl

@[simp] theorem byteLength_append (s t : Text) :
    byteLength (s ++ t) = byteLength s + byteLength t := by
  induction s with
  | nil => simp
  | cons c s ih => simp [ih, Nat.add_assoc]

theorem byteLength_reverse (s : Text) : byteLength s.reverse = byteLength s := by
  induction s with
  | nil => rfl
  | cons c s ih => simp [ih, Nat.add_comm]

theorem length_le_byteLength (s : Text) : s.length ≤ byteLength s := by
  induction s with
  | nil => exact Nat.le_refl 0
  | cons c s ih =>
    have hc := c.utf8Size_pos
    rw [List.length_cons, byteLength_cons]
    omega

theorem length_encodeChar (c : Char) : (Utf8.encodeChar c).length = c.utf8Size := by
  have hsize : c.utf8Size = if c.toNat ≤ 0x7F then 1 else if c.toNat ≤ 0x7FF then 2
      else if c.toNat ≤ 0xFFFF then 3 else 4 := rfl
  rw [hsize]
  unfold Utf8.encodeChar
  grind

theorem byteLength_eq (s : Text) : byteLength s = (Utf8.encode s).length := by
  induction s with
  | nil => rfl
  | cons c s ih =>
    have hcons : Utf8.encode (c :: s) = Utf8.encodeChar c ++ Utf8.encode s := List.flatMap_cons
    rw [byteLength_cons, ih, hcons, List.length_append, length_encodeChar]

theorem splitBytes_append (seen part after : Text) :
    splitBytes seen (part ++ after) (byteLength part) = some (seen.reverse ++ part, after) := by
  induction part generalizing seen with
  | nil => cases after <;> simp [splitBytes]
  | cons c part ih =>
    have hc := c.utf8Size_pos
    obtain ⟨n, hn⟩ : ∃ n, n + 1 = c.utf8Size + byteLength part :=
      ⟨c.utf8Size + byteLength part - 1, by omega⟩
    have hrest : n + 1 - c.utf8Size = byteLength part := by omega
    rw [byteLength_cons, ← hn, List.cons_append, splitBytes, if_pos (by omega), hrest, ih]
    simp

theorem exists_of_splitBytes {seen s before after : Text} {n : Nat}
    (h : splitBytes seen s n = some (before, after)) :
    ∃ part, s = part ++ after ∧ byteLength part = n ∧ before = seen.reverse ++ part := by
  fun_induction splitBytes seen s n with
  | case1 seen s =>
    cases h
    exact ⟨[], rfl, rfl, (List.append_nil _).symm⟩
  | case2 => cases h
  | case3 seen c s n hle ih =>
    obtain ⟨part, rfl, hlength, rfl⟩ := ih h
    refine ⟨c :: part, rfl, ?_, by simp⟩
    rw [byteLength_cons]
    omega
  | case4 => cases h

theorem slideBack_append (part more after : Text) :
    slideBack (byteLength part) (part ++ more) after = some (part.reverse ++ after) := by
  induction part generalizing after with
  | nil => cases more <;> simp [slideBack]
  | cons c part ih =>
    have hc := c.utf8Size_pos
    obtain ⟨n, hn⟩ : ∃ n, n + 1 = c.utf8Size + byteLength part :=
      ⟨c.utf8Size + byteLength part - 1, by omega⟩
    have hrest : n + 1 - c.utf8Size = byteLength part := by omega
    rw [byteLength_cons, ← hn, List.cons_append, slideBack, if_pos (by omega), hrest, ih]
    simp

theorem exists_of_slideBack {n : Nat} {before after s : Text}
    (h : slideBack n before after = some s) :
    ∃ part more, before = part ++ more ∧ byteLength part = n ∧ s = part.reverse ++ after := by
  fun_induction slideBack n before after with
  | case1 before after =>
    cases h
    exact ⟨[], before, rfl, rfl, rfl⟩
  | case2 => cases h
  | case3 n c before after hle ih =>
    obtain ⟨part, more, rfl, hlength, rfl⟩ := ih h
    refine ⟨c :: part, more, rfl, ?_, by simp⟩
    rw [byteLength_cons]
    omega
  | case4 => cases h

/-- Of two beginnings of a text the one with fewer octets is a beginning of the other. -/
theorem prefix_of_byteLength_le {s t u : Text} (hs : s <+: u) (ht : t <+: u)
    (h : byteLength s ≤ byteLength t) : s <+: t := by
  rcases List.prefix_or_prefix_of_prefix hs ht with hprefix | ⟨more, rfl⟩
  · exact hprefix
  · have hmore := length_le_byteLength more
    rw [byteLength_append] at h
    obtain rfl : more = [] := List.eq_nil_of_length_eq_zero (by omega)
    exact ⟨[], by simp⟩

/-- A slice stands between two borders of characters. -/
theorem sliceBytes_eq_some_iff {s part : Text} {start stop : Nat} :
    sliceBytes s start stop = some part ↔
      ∃ before after, s = before ++ (part ++ after) ∧ byteLength before = start ∧
        byteLength part = stop - start := by
  rw [sliceBytes, Option.bind_eq_some_iff]
  constructor
  · rintro ⟨⟨before, rest⟩, hbefore, hpart⟩
    obtain ⟨⟨part', after⟩, hsplit, rfl⟩ := Option.map_eq_some_iff.1 hpart
    obtain ⟨before', rfl, hlength, -⟩ := exists_of_splitBytes hbefore
    obtain ⟨part, hrest, hlength', rfl⟩ := exists_of_splitBytes hsplit
    exact ⟨before', after, congrArg (before' ++ ·) hrest, hlength, hlength'⟩
  · rintro ⟨before, after, rfl, rfl, hlength⟩
    refine ⟨(before, part ++ after), splitBytes_append [] before _, ?_⟩
    rw [← hlength, splitBytes_append]
    rfl

/-- A slice that does not begin with the text is one of what stands behind the first character. -/
theorem sliceBytes_cons {c : Char} {s : Text} {start stop : Nat} (h : 0 < start) :
    sliceBytes (c :: s) start stop =
      if c.utf8Size ≤ start then sliceBytes s (start - c.utf8Size) (stop - c.utf8Size)
      else none := by
  ext part
  rw [sliceBytes_eq_some_iff]
  split
  · next hle =>
    rw [sliceBytes_eq_some_iff]
    constructor
    · rintro ⟨before, after, hs, hbefore, hpart⟩
      cases before with
      | nil => exact absurd hbefore (by rw [byteLength_nil]; omega)
      | cons d before =>
        obtain ⟨rfl, rfl⟩ := List.cons.inj hs
        rw [byteLength_cons] at hbefore
        exact ⟨before, after, rfl, by omega, by omega⟩
    · rintro ⟨before, after, rfl, hbefore, hpart⟩
      refine ⟨c :: before, after, rfl, ?_, by omega⟩
      rw [byteLength_cons]
      omega
  · next hlt =>
    refine ⟨?_, nofun⟩
    rintro ⟨before, after, hs, hbefore, -⟩
    cases before with
    | nil => exact absurd hbefore (by rw [byteLength_nil]; omega)
    | cons d before =>
      obtain ⟨rfl, -⟩ := List.cons.inj hs
      rw [byteLength_cons] at hbefore
      exact absurd hbefore (by omega)

end MachineImage.Text
