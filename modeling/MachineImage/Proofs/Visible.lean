import MachineImage.Instant
import MachineImage.Signing.Percent
import MachineImage.Text.Blank

/-!
Texts that stay on their line: what is written in digits or percent-encoded has neither ends of
lines nor spaces, and what spaces stand around a value do not count.
-/
namespace MachineImage

namespace Text

/-- The printed characters of ASCII. -/
def isVisible (c : Char) : Bool := 0x21 ≤ c.toNat && c.toNat ≤ 0x7E

/-- The text has only printed characters of ASCII. -/
def Visible (s : Text) : Prop := ∀ c ∈ s, isVisible c = true

/-- The text stays on its line. -/
def OnLine (s : Text) : Prop := ∀ c ∈ s, c ≠ '\r' ∧ c ≠ '\n'

instance (s : Text) : Decidable (Visible s) :=
  List.decidableBAll (isVisible · = true) s

instance (s : Text) : Decidable (OnLine s) :=
  List.decidableBAll (fun c => c ≠ '\r' ∧ c ≠ '\n') s

theorem Visible.onLine {s : Text} (h : Visible s) : OnLine s := by
  intro c hc
  have hv := h c hc
  constructor
  · rintro rfl
    exact absurd hv (by decide)
  · rintro rfl
    exact absurd hv (by decide)

theorem Visible.append {s t : Text} (h : Visible s) (h' : Visible t) : Visible (s ++ t) :=
  List.forall_mem_append.2 ⟨h, h'⟩

theorem Visible.cons {c : Char} {s : Text} (h : isVisible c = true) (h' : Visible s) :
    Visible (c :: s) := List.forall_mem_cons.2 ⟨h, h'⟩

theorem OnLine.append {s t : Text} (h : OnLine s) (h' : OnLine t) : OnLine (s ++ t) :=
  List.forall_mem_append.2 ⟨h, h'⟩

theorem OnLine.cons {c : Char} {s : Text} (h : c ≠ '\r' ∧ c ≠ '\n') (h' : OnLine s) :
    OnLine (c :: s) := List.forall_mem_cons.2 ⟨h, h'⟩

/-- The text without what holds at its two ends. -/
def strip (p : Char → Bool) (s : Text) : Text := ((s.dropWhile p).reverse.dropWhile p).reverse

theorem trim_eq_strip (s : Text) : trim s = strip isBlank s := rfl

variable {p q : Char → Bool}

theorem strip_append_left {s : Text} (h : ∀ c ∈ s, p c = true) (t : Text) :
    strip p (s ++ t) = strip p t := by
  rw [strip, List.dropWhile_append_of_pos h, strip]

theorem strip_append_right {t : Text} (h : ∀ c ∈ t, p c = true) (s : Text) :
    strip p (s ++ t) = strip p s := by
  have ht : t.dropWhile p = [] := by
    have hd : (t ++ []).dropWhile p = [] := List.dropWhile_append_of_pos h
    rwa [List.append_nil] at hd
  rw [strip, List.dropWhile_append, strip]
  cases hs : s.dropWhile p with
  | nil => simp [ht]
  | cons c s' =>
    -- Seen from behind, `t` stands first.
    have hreverse : ∀ c ∈ t.reverse, p c = true := fun c hc => h c (List.mem_reverse.1 hc)
    simp only [List.isEmpty_cons, if_neg Bool.false_ne_true, List.reverse_append]
    rw [List.dropWhile_append_of_pos hreverse]

/-- What is stripped stood around the rest. -/
theorem exists_strip (p : Char → Bool) (s : Text) : ∃ before after,
    s = before ++ (strip p s ++ after) ∧ (∀ c ∈ before, p c = true) ∧ ∀ c ∈ after, p c = true := by
  refine ⟨s.takeWhile p, ((s.dropWhile p).reverse.takeWhile p).reverse, ?_, ?_, ?_⟩
  · rw [strip, ← List.reverse_append, List.takeWhile_append_dropWhile, List.reverse_reverse,
      List.takeWhile_append_dropWhile]
  · exact List.all_eq_true.1 List.all_takeWhile
  · exact fun c hc => List.all_eq_true.1 List.all_takeWhile c (List.mem_reverse.1 hc)

/-- To strip more is all that counts. -/
theorem strip_strip (h : ∀ c, q c = true → p c = true) (s : Text) :
    strip p (strip q s) = strip p s := by
  obtain ⟨before, after, hs, hb, ha⟩ := exists_strip q s
  conv => rhs; rw [hs]
  rw [strip_append_left fun c hc => h c (hb c hc), strip_append_right fun c hc => h c (ha c hc)]

theorem strip_of_ends {s : Text} (h : ∀ c, s.head? = some c → p c = false)
    (h' : ∀ c, s.getLast? = some c → p c = false) : strip p s = s := by
  have self : ∀ {t : Text}, (∀ c, t.head? = some c → p c = false) → t.dropWhile p = t := by
    intro t ht
    cases t with
    | nil => rfl
    | cons c t => exact List.dropWhile_cons_of_neg (by simp [ht c rfl])
  rw [strip, self h, self (by rwa [List.head?_reverse]), List.reverse_reverse]

end Text

open Text

namespace Decimal

theorem isDigit_of_mem_digits {n : Nat} {c : Char} (h : c ∈ digits n) : c.isDigit = true :=
  Nat.isDigit_of_mem_toDigits (by decide) (by decide) h

theorem isDigit_of_mem_padded {width n : Nat} {c : Char} (h : c ∈ padded width n) :
    c.isDigit = true := by
  rcases List.mem_append.1 h with h | h
  · rw [List.eq_of_mem_replicate h]
    rfl
  · exact isDigit_of_mem_digits h

end Decimal

/-- What holds of all digits holds of what is written with them. -/
theorem Hex.forall_mem_encode {P : Char → Prop} (h : ∀ n < 16, P (lowerDigit n)) (b : Octets) :
    ∀ c ∈ encode b, P c := by
  intro c hc
  obtain ⟨o, -, hc⟩ := List.mem_flatMap.1 hc
  have ho : o.toNat < 256 := o.toNat_lt
  simp only [List.mem_cons, List.not_mem_nil, or_false] at hc
  rcases hc with rfl | rfl
  · exact h _ (by omega)
  · exact h _ (by omega)

namespace Text

theorem isVisible_of_isDigit {c : Char} (h : c.isDigit = true) : isVisible c = true := by
  have hval : c.val.toNat = c.toNat := rfl
  simp only [Char.isDigit, Bool.and_eq_true, decide_eq_true_eq, ge_iff_le, UInt32.le_iff_toNat_le,
    hval] at h
  simp only [isVisible, Bool.and_eq_true, decide_eq_true_eq]
  have hlow : '0'.val.toNat = 48 := rfl
  have hhigh : '9'.val.toNat = 57 := rfl
  omega

theorem isBlank_of_isVisible {c : Char} (h : isVisible c = true) : isBlank c = false := by
  have hall : ∀ n < 0x7F, 0x21 ≤ n → inRanges blankRanges n = false := by decide
  simp only [isVisible, Bool.and_eq_true, decide_eq_true_eq] at h
  exact hall c.toNat (by omega) h.1

theorem Visible.trim_eq {s : Text} (h : Visible s) : trim s = s :=
  strip_of_ends (fun c hc => isBlank_of_isVisible (h c (List.mem_of_head? hc)))
    fun c hc => isBlank_of_isVisible (h c (List.mem_of_getLast? hc))

theorem visible_digits (n : Nat) : Visible (Decimal.digits n) :=
  fun _ h => isVisible_of_isDigit (Decimal.isDigit_of_mem_digits h)

theorem visible_padded (width n : Nat) : Visible (Decimal.padded width n) :=
  fun _ h => isVisible_of_isDigit (Decimal.isDigit_of_mem_padded h)

theorem visible_hex (b : Octets) : Visible (Hex.encode b) :=
  Hex.forall_mem_encode (by decide) b

theorem forall_mem_intercalate {P : Char → Prop} {separator : Text} {pieces : List Text}
    (hs : ∀ c ∈ separator, P c) (hp : ∀ piece ∈ pieces, ∀ c ∈ piece, P c) :
    ∀ c ∈ separator.intercalate pieces, P c := by
  induction pieces with
  | nil => exact nofun
  | cons piece more ih =>
    obtain ⟨hpiece, hmore⟩ := List.forall_mem_cons.1 hp
    cases more with
    | nil => simpa [List.intercalate] using hpiece
    | cons next more =>
      rw [List.intercalate_cons_cons, List.forall_mem_append, List.forall_mem_append]
      exact ⟨⟨hpiece, hs⟩, ih hmore⟩

theorem not_mem_intercalate {sign : Char} {separator : Text} {pieces : List Text}
    (hs : sign ∉ separator) (hp : ∀ piece ∈ pieces, sign ∉ piece) :
    sign ∉ separator.intercalate pieces := by
  intro h
  refine forall_mem_intercalate (P := (· ≠ sign)) ?_ ?_ sign h rfl
  · rintro c hc rfl
    exact hs hc
  · rintro piece hpiece c hc rfl
    exact hp piece hpiece hc

/-- What holds of the slash and of all that octets are encoded in holds of an encoded path. -/
theorem forall_mem_encodePath {P : Char → Prop} (hslash : P '/')
    (h : ∀ o, ∀ c ∈ Percent.encodeOctet o, P c) (path : Text) :
    ∀ c ∈ Percent.encodePath path, P c := by
  have hroot : ∀ c ∈ ['/'], P c := List.forall_mem_singleton.2 hslash
  unfold Percent.encodePath
  split
  · exact hroot
  · apply forall_mem_intercalate hroot
    intro piece hp c hc
    obtain ⟨segment, -, rfl⟩ := List.mem_map.1 hp
    obtain ⟨o, -, ho⟩ := List.mem_flatMap.1 hc
    exact h o c ho

/-- What holds of the characters below 128 by their codes. -/
theorem of_ascii (p : Char → Prop) (h : ∀ n < 128, p (Char.ofNat n)) {c : Char}
    (hc : c.toNat < 128) : p c := by
  have hcode := h c.toNat hc
  rwa [Char.ofNat_toNat] at hcode

/-- What holds of all octets by their numbers. -/
theorem of_octet (p : UInt8 → Prop) (h : ∀ n < 256, p (UInt8.ofNat n)) (o : UInt8) : p o := by
  have ho := h o.toNat o.toNat_lt
  rwa [UInt8.ofNat_toNat] at ho

theorem mem_encodeOctet (o : UInt8) :
    ∀ c ∈ Percent.encodeOctet o, isVisible c = true ∧ c ≠ '?' := by
  have hall := of_octet
    (fun o => (Percent.encodeOctet o).all (fun c => isVisible c && c != '?') = true)
    (by decide +kernel) o
  simpa using hall

theorem visible_encodePath (path : Text) : Visible (Percent.encodePath path) :=
  forall_mem_encodePath (P := (isVisible · = true)) rfl
    (fun o c hc => (mem_encodeOctet o c hc).1) path

/-- No query begins in an encoded path. -/
theorem not_mem_encodePath (path : Text) : '?' ∉ Percent.encodePath path :=
  fun h => forall_mem_encodePath (P := (· ≠ '?')) (by decide)
    (fun o c hc => (mem_encodeOctet o c hc).2) path _ h rfl

end Text

namespace Instant

/-- A date is written in digits, with a sign perhaps. -/
theorem mem_dateStamp {t : Instant} {c : Char} (h : c ∈ t.dateStamp) :
    c.isDigit = true ∨ c = '-' ∨ c = '+' := by
  simp only [dateStamp, CivilDate.stamp, CivilDate.yearText, List.mem_append] at h
  rcases h with (h | h) | h
  · split at h
    · exact (List.mem_cons.1 h).elim (fun h => .inr (.inl h)) fun h =>
        .inl (Decimal.isDigit_of_mem_padded h)
    · split at h
      · exact (List.mem_cons.1 h).elim (fun h => .inr (.inr h)) fun h =>
          .inl (Decimal.isDigit_of_mem_padded h)
      · exact .inl (Decimal.isDigit_of_mem_padded h)
  · exact .inl (Decimal.isDigit_of_mem_padded h)
  · exact .inl (Decimal.isDigit_of_mem_padded h)

theorem visible_dateStamp (t : Instant) : Visible t.dateStamp := by
  intro c hc
  rcases mem_dateStamp hc with h | rfl | rfl
  · exact isVisible_of_isDigit h
  · rfl
  · rfl

theorem visible_timestamp (t : Instant) : Visible t.timestamp := by
  have hclock : Visible t.clockText :=
    ((visible_padded _ _).append (visible_padded _ _)).append (visible_padded _ _)
  exact (t.visible_dateStamp.append (hclock.cons (by decide))).append (by decide)

/-- The date of a timestamp stands before its `T`. -/
theorem takeWhile_timestamp (t : Instant) : t.timestamp.takeWhile (· ≠ 'T') = t.dateStamp := by
  have hdate : ∀ c ∈ t.dateStamp, decide (c ≠ 'T') = true := by
    intro c hc
    rcases mem_dateStamp hc with h | rfl | rfl
    · rw [decide_eq_true_eq]
      rintro rfl
      exact absurd h (by decide)
    · rfl
    · rfl
  rw [timestamp, List.append_assoc, List.takeWhile_append_of_pos hdate]
  simp

end Instant

end MachineImage
