import MachineImage.Text.Utf8

/-!
The octets of a text read back as the text, and its ASCII characters are the octets below 128.
-/
namespace MachineImage.Utf8

theorem step_first (seen : List Piece) {n : Nat} (h : n < 256) :
    step (seen, none) (UInt8.ofNat n) = ((first n).1.reverse ++ seen, (first n).2) := by
  simp only [step, UInt8.toNat_ofNat_of_lt' h]

/-- An octet inside a character, which is not its last one. -/
theorem step_inside (seen : List Piece) {least greatest bits owed n : Nat} (hn : n < 64)
    (h : least ≤ 0x80 + n ∧ 0x80 + n ≤ greatest) :
    step (seen, some ⟨owed + 2, least, greatest, bits⟩) (UInt8.ofNat (0x80 + n)) =
      (seen, some ⟨owed + 1, 0x80, 0xBF, bits * 64 + n⟩) := by
  have hoctet : 0x80 + n < UInt8.size := Nat.lt_trans (Nat.add_lt_add_left hn 0x80) (by decide)
  simp only [step, UInt8.toNat_ofNat_of_lt' hoctet, continued, if_pos h, Nat.add_sub_cancel_left]
  rw [if_neg (by omega)]
  rfl

theorem step_last (seen : List Piece) {least greatest bits n : Nat} (hn : n < 64)
    (h : least ≤ 0x80 + n ∧ 0x80 + n ≤ greatest) :
    step (seen, some ⟨1, least, greatest, bits⟩) (UInt8.ofNat (0x80 + n)) =
      (some (Char.ofNat (bits * 64 + n)) :: seen, none) := by
  have hoctet : 0x80 + n < UInt8.size := Nat.lt_trans (Nat.add_lt_add_left hn 0x80) (by decide)
  simp only [step, UInt8.toNat_ofNat_of_lt' hoctet, continued, if_pos h, Nat.add_sub_cancel_left]
  rfl

/-- The bounds of the code points, with the gap that no character fills. -/
theorem toNat_bounds (c : Char) :
    c.toNat < 0xD800 ∨ 0xDFFF < c.toNat ∧ c.toNat < 0x110000 := c.valid

/-- The first of three octets bounds the next one, which shuts out what is written too long and what
is no character. -/
theorem first_of_three {n : Nat} (hn : n < 0xD800 ∨ 0xDFFF < n) (h₁ : 0x800 ≤ n)
    (h₂ : n < 0x10000) : ∃ least greatest,
      first (0xE0 + n / 4096) = ([], some ⟨2, least, greatest, n / 4096⟩) ∧
        least ≤ 0x80 + n / 64 % 64 ∧ 0x80 + n / 64 % 64 ≤ greatest := by
  have hfirst : first (0xE0 + n / 4096) = ([], some ⟨2,
      if 0xE0 + n / 4096 = 0xE0 then 0xA0 else 0x80,
      if 0xE0 + n / 4096 = 0xED then 0x9F else 0xBF, n / 4096⟩) := by
    rw [first, if_neg (by omega), if_neg (by omega), if_pos (by omega), Nat.add_sub_cancel_left]
  refine ⟨_, _, hfirst, ?_, ?_⟩
  · split <;> omega
  · split <;> omega

theorem first_of_four {n : Nat} (h₁ : 0x10000 ≤ n) (h₂ : n < 0x110000) : ∃ least greatest,
    first (0xF0 + n / 262144) = ([], some ⟨3, least, greatest, n / 262144⟩) ∧
      least ≤ 0x80 + n / 4096 % 64 ∧ 0x80 + n / 4096 % 64 ≤ greatest := by
  have hfirst : first (0xF0 + n / 262144) = ([], some ⟨3,
      if 0xF0 + n / 262144 = 0xF0 then 0x90 else 0x80,
      if 0xF0 + n / 262144 = 0xF4 then 0x8F else 0xBF, n / 262144⟩) := by
    rw [first, if_neg (by omega), if_neg (by omega), if_neg (by omega), if_pos (by omega),
      Nat.add_sub_cancel_left]
  refine ⟨_, _, hfirst, ?_, ?_⟩
  · split <;> omega
  · split <;> omega

theorem foldl_encodeChar (c : Char) (seen : List Piece) :
    (encodeChar c).foldl step (seen, none) = (some c :: seen, none) := by
  have hvalid := toNat_bounds c
  have hc : Char.ofNat c.toNat = c := Char.ofNat_toNat c
  unfold encodeChar
  generalize c.toNat = n at *
  -- One case for each number of octets.
  by_cases h₁ : n < 0x80
  · simp only [if_pos h₁, List.foldl_cons, List.foldl_nil]
    rw [step_first seen (by omega), first, if_pos h₁, hc]
    rfl
  by_cases h₂ : n < 0x800
  · have hfirst : first (0xC0 + n / 64) = ([], some ⟨1, 0x80, 0xBF, n / 64⟩) := by
      rw [first, if_neg (by omega), if_pos (by omega), Nat.add_sub_cancel_left]
    have hn : n / 64 * 64 + n % 64 = n := by omega
    simp only [if_neg h₁, if_pos h₂, List.foldl_cons, List.foldl_nil]
    rw [step_first seen (by omega), hfirst, step_last _ (by omega) (by omega), hn, hc]
    rfl
  by_cases h₃ : n < 0x10000
  · obtain ⟨least, greatest, hfirst, hrange⟩ := first_of_three (by omega) (by omega) h₃
    have hn : (n / 4096 * 64 + n / 64 % 64) * 64 + n % 64 = n := by omega
    simp only [if_neg h₁, if_neg h₂, if_pos h₃, List.foldl_cons, List.foldl_nil]
    rw [step_first seen (by omega), hfirst, step_inside _ (by omega) hrange,
      step_last _ (by omega) (by omega), hn, hc]
    rfl
  · obtain ⟨least, greatest, hfirst, hrange⟩ := first_of_four (n := n) (by omega) (by omega)
    have hn : ((n / 262144 * 64 + n / 4096 % 64) * 64 + n / 64 % 64) * 64 + n % 64 = n := by omega
    simp only [if_neg h₁, if_neg h₂, if_neg h₃, List.foldl_cons, List.foldl_nil]
    rw [step_first seen (by omega), hfirst, step_inside _ (by omega) hrange,
      step_inside _ (by omega) (by omega), step_last _ (by omega) (by omega), hn, hc]
    rfl

theorem foldl_encode (s : Text) (seen : List Piece) :
    (encode s).foldl step (seen, none) = ((s.map some).reverse ++ seen, none) := by
  induction s generalizing seen with
  | nil => rfl
  | cons c s ih =>
    rw [encode, List.flatMap_cons, List.foldl_append, foldl_encodeChar]
    have hs := ih (some c :: seen)
    rw [encode] at hs
    rw [hs, List.map_cons, List.reverse_cons, List.append_assoc]
    rfl

theorem pieces_encode (s : Text) : pieces (encode s) = s.map some := by
  rw [pieces, foldl_encode]
  simp

/-- What was encoded is read back. -/
theorem decode?_encode (s : Text) : decode? (encode s) = some s := by
  have hall : (s.map some).all Option.isSome = true := by simp
  simp only [decode?, pieces_encode, hall, if_pos]
  rw [List.filterMap_map]
  exact congrArg some (List.filterMap_some)

/-- What was read before has no part in how octets are read. -/
theorem foldl_step_append (b : Octets) (seen before : List Piece) (begun : Option Begun) :
    b.foldl step (seen ++ before, begun) =
      ((b.foldl step (seen, begun)).1 ++ before, (b.foldl step (seen, begun)).2) := by
  induction b generalizing seen begun with
  | nil => rfl
  | cons o b ih =>
    have hstep : step (seen ++ before, begun) o =
        ((step (seen, begun) o).1 ++ before, (step (seen, begun) o).2) := by
      simp only [step, List.append_assoc]
    rw [List.foldl_cons, List.foldl_cons, hstep, ih]

theorem decode?_eq_some_iff {b : Octets} {s : Text} :
    decode? b = some s ↔ pieces b = s.map some := by
  have hsome : ∀ read : List Piece, read.all Option.isSome = true →
      (read.filterMap id).map some = read := by
    intro read hall
    induction read with
    | nil => rfl
    | cons piece read ih =>
      rw [List.all_cons, Bool.and_eq_true] at hall
      obtain ⟨c, rfl⟩ := Option.isSome_iff_exists.1 hall.1
      rw [List.filterMap_cons_some (f := id) rfl, List.map_cons, ih hall.2]
  simp only [decode?]
  constructor
  · intro h
    split at h
    · next hall =>
      cases h
      exact (hsome _ hall).symm
    · cases h
  · intro h
    simp [h]

/-- Octets that are a text do not end inside a character. -/
theorem foldl_step_of_pieces {b : Octets} {s : Text} (h : pieces b = s.map some) :
    b.foldl step ([], none) = ((s.map some).reverse, none) := by
  unfold pieces at h
  split at h
  · next seen hseen => rw [hseen, ← h, List.reverse_reverse]
  · next seen _ _ =>
    have hdamage : none ∈ s.map some := by
      rw [← h, List.reverse_cons]
      exact List.mem_append_right _ List.mem_cons_self
    simp at hdamage

theorem pieces_append {b : Octets} {s : Text} (h : pieces b = s.map some) (more : Octets) :
    pieces (b ++ more) = s.map some ++ pieces more := by
  have hmore := foldl_step_append more [] (s.map some).reverse none
  rw [List.nil_append] at hmore
  rw [pieces, pieces, List.foldl_append, foldl_step_of_pieces h, hmore]
  rcases more.foldl step ([], none) with ⟨seen, _ | begun⟩ <;> simp

/-- What follows a text in its octets does not change it. -/
theorem decode?_append {b : Octets} {s : Text} (h : decode? b = some s) (more : Octets) :
    decode? (b ++ more) = (decode? more).map (s ++ ·) := by
  have hpieces := pieces_append (decode?_eq_some_iff.1 h) more
  have hall : (s.map some).all Option.isSome = true := by simp
  simp only [decode?, hpieces, List.all_append, hall, Bool.true_and, List.filterMap_append]
  split
  · simp
  · rfl

theorem encode_injective {s t : Text} (h : encode s = encode t) : s = t := by
  have hd := congrArg decode? h
  rw [decode?_encode, decode?_encode] at hd
  exact Option.some.inj hd

@[simp]
theorem encode_append (s t : Text) : encode (s ++ t) = encode s ++ encode t := List.flatMap_append

theorem encode_ne_nil {s : Text} (h : s ≠ []) : encode s ≠ [] := by
  intro he
  exact h (encode_injective he)

theorem toNat_mem_encodeChar {c : Char} {o : UInt8} (h : o ∈ encodeChar c) :
    o.toNat = c.toNat ∨ 0x80 ≤ o.toNat := by
  have hvalid := toNat_bounds c
  have toNat_eq : ∀ {k : Nat}, k < 256 → o = UInt8.ofNat k → o.toNat = k := by
    rintro k hk rfl
    exact UInt8.toNat_ofNat_of_lt' hk
  unfold encodeChar at h
  generalize c.toNat = n at *
  simp only at h
  split at h
  · rw [toNat_eq (by omega) (List.mem_singleton.1 h)]
    exact .inl rfl
  · right
    split at h
    · simp only [List.mem_cons, List.not_mem_nil, or_false] at h
      rcases h with h | h
      all_goals rw [toNat_eq (by omega) h]; omega
    · split at h
      · simp only [List.mem_cons, List.not_mem_nil, or_false] at h
        rcases h with h | h | h
        all_goals rw [toNat_eq (by omega) h]; omega
      · simp only [List.mem_cons, List.not_mem_nil, or_false] at h
        rcases h with h | h | h | h
        all_goals rw [toNat_eq (by omega) h]; omega

/-- An octet below 128 is an ASCII character by itself. -/
theorem exists_of_mem_encode {s : Text} {o : UInt8} (h : o ∈ encode s) (ho : o.toNat < 0x80) :
    ∃ c ∈ s, c.toNat = o.toNat := by
  obtain ⟨c, hc, hm⟩ := List.mem_flatMap.1 h
  rcases toNat_mem_encodeChar hm with he | hle
  · exact ⟨c, hc, he.symm⟩
  · omega

end MachineImage.Utf8
