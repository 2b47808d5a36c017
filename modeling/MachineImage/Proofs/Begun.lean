import MachineImage.Proofs.Utf8

/-!
Octets that read as a text are the octets of that text. While they are read, what has been read is
the text so far and then the beginning of a character, which whatever may complete it completes to
the octets of that character.
-/
namespace MachineImage.Utf8

/-- The octets with which a character that has begun may go on, and the code point that they make
of it. -/
inductive Completes : Begun → Octets → Nat → Prop
  | last {least greatest bits : Nat} {o : UInt8} : least ≤ o.toNat ∧ o.toNat ≤ greatest →
    Completes ⟨1, least, greatest, bits⟩ [o] (bits * 64 + (o.toNat - 0x80))
  | more {owed least greatest bits : Nat} {o : UInt8} {rest : Octets} {n : Nat} :
    least ≤ o.toNat ∧ o.toNat ≤ greatest →
    Completes ⟨owed + 1, 0x80, 0xBF, bits * 64 + (o.toNat - 0x80)⟩ rest n →
    Completes ⟨owed + 2, least, greatest, bits⟩ (o :: rest) n

/-- The octets begin a character, and the state says what is known of it. -/
def Begins (octets : Octets) (g : Begun) : Prop :=
  g.owed ≠ 0 ∧ ∀ rest n, Completes g rest n → encodeChar (Char.ofNat n) = octets ++ rest

theorem toNat_ofNat {n : Nat} (h : n < 0xD800 ∨ 0xDFFF < n ∧ n < 0x110000) :
    (Char.ofNat n).toNat = n := by
  rw [Char.ofNat, dif_pos h]
  rfl

theorem octet_eq {o : UInt8} {n : Nat} (h : n = o.toNat) : UInt8.ofNat n = o :=
  h ▸ UInt8.ofNat_toNat

theorem encodeChar_of_one {n : Nat} (h : n < 0x80) :
    encodeChar (Char.ofNat n) = [UInt8.ofNat n] := by
  simp only [encodeChar, toNat_ofNat (.inl (by omega : n < 0xD800)), if_pos h]

theorem encodeChar_of_two {n : Nat} (h₁ : 0x80 ≤ n) (h₂ : n < 0x800) :
    encodeChar (Char.ofNat n) = [UInt8.ofNat (0xC0 + n / 64), UInt8.ofNat (0x80 + n % 64)] := by
  simp only [encodeChar, toNat_ofNat (.inl (by omega : n < 0xD800)), if_neg (Nat.not_lt.2 h₁),
    if_pos h₂]

theorem encodeChar_of_three {n : Nat} (h₁ : 0x800 ≤ n) (h₂ : n < 0x10000)
    (hn : n < 0xD800 ∨ 0xDFFF < n) :
    encodeChar (Char.ofNat n) = [UInt8.ofNat (0xE0 + n / 4096), UInt8.ofNat (0x80 + n / 64 % 64),
      UInt8.ofNat (0x80 + n % 64)] := by
  have hvalid : n < 0xD800 ∨ 0xDFFF < n ∧ n < 0x110000 := by omega
  simp only [encodeChar, toNat_ofNat hvalid, if_neg (by omega : ¬ n < 0x80),
    if_neg (Nat.not_lt.2 h₁), if_pos h₂]

theorem encodeChar_of_four {n : Nat} (h₁ : 0x10000 ≤ n) (h₂ : n < 0x110000) :
    encodeChar (Char.ofNat n) = [UInt8.ofNat (0xF0 + n / 262144),
      UInt8.ofNat (0x80 + n / 4096 % 64), UInt8.ofNat (0x80 + n / 64 % 64),
      UInt8.ofNat (0x80 + n % 64)] := by
  have hvalid : n < 0xD800 ∨ 0xDFFF < n ∧ n < 0x110000 := by omega
  simp only [encodeChar, toNat_ofNat hvalid, if_neg (by omega : ¬ n < 0x80),
    if_neg (by omega : ¬ n < 0x800), if_neg (Nat.not_lt.2 h₁)]

section

variable {o : UInt8}

theorem begins_of_two (h : 0xC2 ≤ o.toNat ∧ o.toNat ≤ 0xDF) :
    Begins [o] ⟨1, 0x80, 0xBF, o.toNat - 0xC0⟩ := by
  refine ⟨Nat.succ_ne_zero _, ?_⟩
  rintro _ _ (@⟨_, _, _, o₂, h₂⟩)
  rw [encodeChar_of_two (by omega) (by omega), octet_eq (o := o) (by omega),
    octet_eq (o := o₂) (by omega)]
  rfl

/-- Two first octets have a bound of their own for the next one. -/
theorem next_bounds {n m a b c d : Nat} (hb : 0x80 ≤ b) (hd : d ≤ 0xBF)
    (h : (if n = a then b else 0x80) ≤ m ∧ m ≤ if n = c then d else 0xBF) :
    (n = a → b ≤ m) ∧ (n = c → m ≤ d) ∧ 0x80 ≤ m ∧ m ≤ 0xBF := by
  obtain ⟨hleast, hgreatest⟩ := h
  split at hleast <;> split at hgreatest <;> omega

theorem begins_of_three (h : 0xE0 ≤ o.toNat ∧ o.toNat ≤ 0xEF) :
    Begins [o] ⟨2, if o.toNat = 0xE0 then 0xA0 else 0x80, if o.toNat = 0xED then 0x9F else 0xBF,
      o.toNat - 0xE0⟩ := by
  refine ⟨Nat.succ_ne_zero _, ?_⟩
  rintro _ _ (_ | @⟨_, _, _, _, o₂, _, _, h₂, @⟨_, _, _, o₃, h₃⟩⟩)
  obtain ⟨hleast, hgreatest, hrange⟩ := next_bounds (by decide) (by decide) h₂
  rw [encodeChar_of_three (by omega) (by omega) (by omega), octet_eq (o := o) (by omega),
    octet_eq (o := o₂) (by omega), octet_eq (o := o₃) (by omega)]
  rfl

theorem begins_of_four (h : 0xF0 ≤ o.toNat ∧ o.toNat ≤ 0xF4) :
    Begins [o] ⟨3, if o.toNat = 0xF0 then 0x90 else 0x80, if o.toNat = 0xF4 then 0x8F else 0xBF,
      o.toNat - 0xF0⟩ := by
  refine ⟨Nat.succ_ne_zero _, ?_⟩
  rintro _ _ (_ | @⟨_, _, _, _, o₂, _, _, h₂, _ | @⟨_, _, _, _, o₃, _, _, h₃, @⟨_, _, _, o₄, h₄⟩⟩⟩)
  obtain ⟨hleast, hgreatest, hrange⟩ := next_bounds (by decide) (by decide) h₂
  rw [encodeChar_of_four (by omega) (by omega), octet_eq (o := o) (by omega),
    octet_eq (o := o₂) (by omega), octet_eq (o := o₃) (by omega), octet_eq (o := o₄) (by omega)]
  rfl

end

/-- How octets of one character read: they are it, they begin it, or they are damage. -/
inductive Reads (octets : Octets) : List Piece × Option Begun → Prop
  | whole {c : Char} : encodeChar c = octets → Reads octets ([some c], none)
  | begun {g : Begun} : Begins octets g → Reads octets ([], some g)
  | damage {pieces : List Piece} {begun : Option Begun} : none ∈ pieces →
    Reads octets (pieces, begun)

theorem reads_first (o : UInt8) : Reads [o] (first o.toNat) := by
  unfold first
  split
  · next h => exact .whole ((encodeChar_of_one h).trans (by rw [UInt8.ofNat_toNat]))
  split
  · next h => exact .begun (begins_of_two h)
  split
  · next h => exact .begun (begins_of_three h)
  split
  · next h => exact .begun (begins_of_four h)
  · exact .damage List.mem_cons_self

/-- The next octet completes what has begun, goes on with it or damages it. -/
theorem Begins.reads {octets : Octets} {g : Begun} (h : Begins octets g) (o : UInt8) :
    Reads (octets ++ [o]) (continued g o.toNat) := by
  obtain ⟨owed, least, greatest, bits⟩ := g
  obtain ⟨howed, hcompletes⟩ := h
  unfold continued
  split
  · next hrange =>
    match owed with
    | 0 => exact absurd rfl howed
    | 1 => exact .whole (hcompletes _ _ (.last hrange))
    | owed + 2 =>
      refine .begun ⟨Nat.succ_ne_zero _, fun rest n hrest => ?_⟩
      rw [hcompletes _ _ (.more hrange hrest), List.append_assoc]
      rfl
  · exact .damage List.mem_cons_self

/-- Unless there was damage, what has been read is a text and the beginning of a character. -/
def Intact (b : Octets) (state : List Piece × Option Begun) : Prop :=
  none ∈ state.1 ∨ ∃ s rest, state.1 = (s.map some).reverse ∧ b = encode s ++ rest ∧
    match state.2 with
    | none => rest = []
    | some g => Begins rest g

theorem Reads.intact {octets : Octets} {found : List Piece × Option Begun}
    (h : Reads octets found) (s : Text) :
    Intact (encode s ++ octets) (found.1.reverse ++ (s.map some).reverse, found.2) := by
  cases h with
  | @whole c hc =>
    refine .inr ⟨s ++ [c], [], by simp, ?_, rfl⟩
    rw [encode_append, List.append_nil, ← hc, encode, encode, List.flatMap_singleton]
  | begun hg => exact .inr ⟨s, octets, rfl, rfl, hg⟩
  | damage hd => exact .inl (List.mem_append_left _ (List.mem_reverse.2 hd))

theorem Intact.step {b : Octets} {state : List Piece × Option Begun} (h : Intact b state)
    (o : UInt8) : Intact (b ++ [o]) (step state o) := by
  obtain ⟨seen, begun⟩ := state
  rcases h with hd | ⟨s, rest, rfl, rfl, hrest⟩
  · exact .inl (List.mem_append_right _ hd)
  · rw [List.append_assoc]
    cases begun with
    | none =>
      obtain rfl : rest = [] := hrest
      exact (reads_first o).intact s
    | some g => exact (Begins.reads hrest o).intact s

theorem Intact.foldl {b : Octets} {state : List Piece × Option Begun} (h : Intact b state)
    (more : Octets) : Intact (b ++ more) (more.foldl Utf8.step state) := by
  induction more generalizing b state with
  | nil => rwa [List.append_nil]
  | cons o more ih =>
    have hmore := ih (h.step o)
    rwa [List.append_assoc, List.singleton_append] at hmore

theorem encode_of_pieces {b : Octets} {s : Text} (h : pieces b = s.map some) : encode s = b := by
  have hstart : Intact [] ([], none) := .inr ⟨[], [], rfl, rfl, rfl⟩
  have hall := hstart.foldl b
  rw [foldl_step_of_pieces h, List.nil_append] at hall
  rcases hall with hd | ⟨s', rest, hs, hb, hrest⟩
  · simp at hd
  · obtain rfl : rest = [] := hrest
    have hs' : s = s' := (List.map_inj_right fun _ _ => Option.some.inj).1 (List.reverse_inj.1 hs)
    rw [hb, hs', List.append_nil]

/-- Octets decode to a text exactly if they are what it is encoded as. -/
theorem decode?_iff_encode {b : Octets} {s : Text} : decode? b = some s ↔ b = encode s := by
  constructor
  · intro h
    exact (encode_of_pieces (decode?_eq_some_iff.1 h)).symm
  · rintro rfl
    exact decode?_encode s

end MachineImage.Utf8
