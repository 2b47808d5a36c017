import MachineImage.Proofs.Utf8
import MachineImage.Proofs.Visible
import MachineImage.Signing.Canonical
import MachineImage.Wire.Form

/-!
Percent-encoded text read back, and the pairs of keys and values that are written with it: no value
that is encoded holds what stands between two pairs or inside one.
-/
namespace MachineImage

namespace Percent

/-- The octets that an encoded text stands for; two digits must follow a `%`. -/
def octets? : Text → Option Octets
  | [] => some []
  | '%' :: high :: low :: s => do
    let h ← Hex.digit? high
    let l ← Hex.digit? low
    return UInt8.ofNat (h * 16 + l) :: (← octets? s)
  | '%' :: _ => none
  | c :: s => (octets? s).map (Utf8.encodeChar c ++ ·)

def decode? (s : Text) : Option Text := (octets? s).bind Utf8.decode?

/-- `A`–`Z`, `a`–`z`, `0`–`9`, `-`, `_`, `.` and `~`. -/
def isUnreservedCharacter (c : Char) : Bool :=
  c.isAlphanum || c == '-' || c == '_' || c == '.' || c == '~'

theorem digit?_upperDigit {n : Nat} (h : n < 16) : Hex.digit? (Hex.upperDigit n) = some n := by
  have hall : ∀ n < 16, Hex.digit? (Hex.upperDigit n) = some n := by decide
  exact hall n h

/-- An octet that is left as it is stands for itself. -/
theorem encodeChar_of_isUnreserved {o : UInt8} (h : isUnreserved o = true) :
    Char.ofNat o.toNat ≠ '%' ∧ Utf8.encodeChar (Char.ofNat o.toNat) = [o] :=
  Text.of_octet (fun o => isUnreserved o = true →
    Char.ofNat o.toNat ≠ '%' ∧ Utf8.encodeChar (Char.ofNat o.toNat) = [o]) (by decide +kernel) o h

theorem octets?_encodeOctet (o : UInt8) (s : Text) :
    octets? (encodeOctet o ++ s) = (octets? s).map (o :: ·) := by
  unfold encodeOctet
  split
  · next h =>
    obtain ⟨hne, hchar⟩ := encodeChar_of_isUnreserved h
    rw [List.cons_append, List.nil_append, octets?, hchar]
    · rfl
    · exact fun _ _ _ hc => absurd hc hne
    · exact fun hc => hne hc
  · have ho : o.toNat < 256 := o.toNat_lt
    have hvalue : o.toNat / 16 * 16 + o.toNat % 16 = o.toNat := by omega
    rw [List.cons_append, List.cons_append, List.cons_append, List.nil_append, octets?,
      digit?_upperDigit (by omega), digit?_upperDigit (by omega)]
    simp only [Option.bind_eq_bind, Option.bind_some, hvalue, UInt8.ofNat_toNat]
    cases octets? s <;> rfl

theorem octets?_flatMap_append (b : Octets) (s : Text) :
    octets? (b.flatMap encodeOctet ++ s) = (octets? s).map (b ++ ·) := by
  induction b with
  | nil => simp
  | cons o b ih =>
    rw [List.flatMap_cons, List.append_assoc, octets?_encodeOctet, ih, Option.map_map]
    rfl

theorem octets?_flatMap (b : Octets) : octets? (b.flatMap encodeOctet) = some b := by
  have happend := octets?_flatMap_append b []
  rwa [List.append_nil, octets?, Option.map_some, List.append_nil] at happend

theorem encode_append (s t : Text) : encode (s ++ t) = encode s ++ encode t := by
  rw [encode, Utf8.encode_append, List.flatMap_append, encode, encode]

theorem encode_cons (c : Char) (s : Text) : encode (c :: s) = encode [c] ++ encode s :=
  encode_append [c] s

theorem decode?_encode (s : Text) : decode? (encode s) = some s := by
  rw [decode?, encode, octets?_flatMap, Option.bind_some, Utf8.decode?_encode]

theorem mem_encode {s : Text} {c : Char} (h : c ∈ encode s) :
    isUnreservedCharacter c = true ∨ c = '%' := by
  obtain ⟨o, -, hc⟩ := List.mem_flatMap.1 h
  have hall := Text.of_octet
    (fun o => (encodeOctet o).all (fun c => isUnreservedCharacter c || c == '%') = true)
    (by decide +kernel) o
  simpa using List.all_eq_true.1 hall c hc

end Percent

namespace Text

/-- A list reads back if each of its items does. -/
theorem mapM_map_eq_some {α β : Type} {write : α → β} {read : β → Option α} {l : List α}
    (h : ∀ a ∈ l, read (write a) = some a) : (l.map write).mapM read = some l := by
  induction l with
  | nil => rfl
  | cons a l ih =>
    obtain ⟨ha, hl⟩ := List.forall_mem_cons.1 h
    rw [List.map_cons, List.mapM_cons, ha, ih hl]
    rfl

theorem split_intercalate {separator : Char} {pieces : List Text} (hne : pieces ≠ [])
    (h : ∀ piece ∈ pieces, separator ∉ piece) :
    split (· == separator) ([separator].intercalate pieces) = pieces := by
  induction pieces with
  | nil => exact absurd rfl hne
  | cons piece more ih =>
    obtain ⟨hpiece, hmore⟩ := List.forall_mem_cons.1 h
    cases more with
    | nil =>
      rw [List.intercalate_singleton]
      exact split_of_not_mem hpiece
    | cons next more =>
      rw [List.intercalate_cons_cons, List.append_assoc, List.singleton_append,
        split_sign hpiece, ih (by simp) hmore]

section

variable {mark sign : Char}

/-- Names and values with a sign between them, and a mark between two of these. -/
def joinFields (mark sign : Char) (fields : List (Text × Text)) : Text :=
  [mark].intercalate (fields.map fun p => p.1 ++ sign :: p.2)

/-- The fields again, each cut at its first sign; every one must have it. -/
def readFields? (mark sign : Char) (s : Text) : Option (List (Text × Text)) :=
  (split (· == mark) s).mapM (cut (· == sign))

/-- The sign does not stand in the name, and the mark in neither. -/
def IsField (mark sign : Char) (p : Text × Text) : Prop := sign ∉ p.1 ∧ mark ∉ p.1 ∧ mark ∉ p.2

theorem cut_field {p : Text × Text} (h : IsField mark sign p) :
    cut (· == sign) (p.1 ++ sign :: p.2) = some p :=
  cut_sign h.1 p.2

theorem split_joinFields {fields : List (Text × Text)} (hmark : mark ≠ sign) (hne : fields ≠ [])
    (h : ∀ p ∈ fields, IsField mark sign p) :
    split (· == mark) (joinFields mark sign fields) = fields.map fun p => p.1 ++ sign :: p.2 := by
  apply split_intercalate
  · simpa using hne
  · intro piece hp
    obtain ⟨p, hm, rfl⟩ := List.mem_map.1 hp
    obtain ⟨-, hname, hvalue⟩ := h p hm
    simp [hmark, hname, hvalue]

/-- What was put together field by field is read field by field. -/
theorem readFields?_joinFields {fields : List (Text × Text)} (hmark : mark ≠ sign)
    (hne : fields ≠ []) (h : ∀ p ∈ fields, IsField mark sign p) :
    readFields? mark sign (joinFields mark sign fields) = some fields := by
  rw [readFields?, split_joinFields hmark hne h, mapM_map_eq_some fun p hp => cut_field (h p hp)]

/-- Different fields are not put together to the same text; of none there is nothing, not even a
sign. -/
theorem joinFields_inj {fields fields' : List (Text × Text)} (hmark : mark ≠ sign)
    (h : ∀ p ∈ fields, IsField mark sign p) (h' : ∀ p ∈ fields', IsField mark sign p)
    (he : joinFields mark sign fields = joinFields mark sign fields') : fields = fields' := by
  have hnil : readFields? mark sign (joinFields mark sign []) = none := rfl
  have hread := congrArg (readFields? mark sign) he
  cases fields with
  | nil =>
    cases fields' with
    | nil => rfl
    | cons =>
      rw [hnil, readFields?_joinFields hmark (List.cons_ne_nil _ _) h'] at hread
      cases hread
  | cons =>
    rw [readFields?_joinFields hmark (List.cons_ne_nil _ _) h] at hread
    cases fields' with
    | nil => cases hread
    | cons =>
      rw [readFields?_joinFields hmark (List.cons_ne_nil _ _) h'] at hread
      exact Option.some.inj hread

end

/-- Keys and values with `=` between them, and the pairs with `&` between them. -/
def joinPairs (pairs : List (Text × Text)) : Text :=
  ['&'].intercalate (pairs.map fun p => p.1 ++ '=' :: p.2)

/-- The pairs again, each cut at its first `=`; every one must have such a sign. -/
def readPairs? (s : Text) : Option (List (Text × Text)) :=
  (split (· == '&') s).mapM (cut (· == '='))

/-- Neither sign stands in the key, and the value does not end the pair. -/
def IsPair (p : Text × Text) : Prop := '=' ∉ p.1 ∧ '&' ∉ p.1 ∧ '&' ∉ p.2

theorem readPairs?_joinPairs {pairs : List (Text × Text)} (hne : pairs ≠ [])
    (h : ∀ p ∈ pairs, IsPair p) : readPairs? (joinPairs pairs) = some pairs :=
  @readFields?_joinFields '&' '=' pairs (by decide) hne h

theorem joinPairs_concat {pairs : List (Text × Text)} (hne : pairs ≠ []) (p : Text × Text) :
    joinPairs (pairs ++ [p]) = joinPairs pairs ++ '&' :: (p.1 ++ '=' :: p.2) := by
  induction pairs with
  | nil => exact absurd rfl hne
  | cons q more ih =>
    cases more with
    | nil => simp [joinPairs, List.intercalate_cons_cons]
    | cons next more =>
      have hmore := ih (List.cons_ne_nil next more)
      simp only [joinPairs, List.cons_append, List.map_cons, List.intercalate_cons_cons,
        List.append_assoc] at hmore ⊢
      rw [hmore]

end Text

namespace Form

/-- The pairs of an encoded form, each key and each value decoded. -/
def read? (s : Text) : Option (List (Text × Text)) := do
  (← Text.readPairs? s).mapM fun p => do return (← Percent.decode? p.1, ← Percent.decode? p.2)

theorem isPair_encode (p : Text × Text) :
    Text.IsPair (Percent.encode p.1, Percent.encode p.2) := by
  have hfree : ∀ s, '=' ∉ Percent.encode s ∧ '&' ∉ Percent.encode s := by
    refine fun s => ⟨fun h => ?_, fun h => ?_⟩
    · exact absurd (Percent.mem_encode h) (by decide)
    · exact absurd (Percent.mem_encode h) (by decide)
  exact ⟨(hfree p.1).1, (hfree p.1).2, (hfree p.2).2⟩

/-- What is encoded reads back as it was, whatever its keys and values are. -/
theorem read?_encode (f : Form) : read? f.encode = some f.pairs := by
  have hread : Text.readPairs? f.encode =
      some (f.pairs.map fun p => (Percent.encode p.1, Percent.encode p.2)) := by
    have hjoin : f.encode =
        Text.joinPairs (f.pairs.map fun p => (Percent.encode p.1, Percent.encode p.2)) := by
      rw [encode, Text.joinPairs, List.map_map]
      rfl
    rw [hjoin, Text.readPairs?_joinPairs]
    · exact List.cons_ne_nil _ _
    · intro p hp
      obtain ⟨q, -, rfl⟩ := List.mem_map.1 hp
      exact isPair_encode q
  rw [read?, hread, Option.bind_eq_bind, Option.bind_some]
  refine Text.mapM_map_eq_some fun p _ => ?_
  rw [Percent.decode?_encode, Percent.decode?_encode]
  rfl

end Form

namespace Signing

open Text

/-- What stands in a query between ampersands, unless there is nothing. -/
def queryPieces (query : Text) : List Text := (split (· == '&') query).filter (· ≠ [])

/-- The parameters of a query as they stand in it. -/
def parameters (query : Text) : List (Text × Text) := (queryPieces query).map parameter

theorem canonicalQuery_eq (query : Text) :
    canonicalQuery query = joinPairs ((parameters query).mergeSort parameterNotAfter) := rfl

variable {pairs : List (Text × Text)}

/-- No pair is an empty piece. -/
theorem queryPieces_joinPairs (h : ∀ p ∈ pairs, IsPair p) :
    queryPieces (joinPairs pairs) = pairs.map fun p => p.1 ++ '=' :: p.2 := by
  by_cases hne : pairs = []
  · rw [hne]
    rfl
  · have hsplit : split (· == '&') (joinPairs pairs) = pairs.map fun p => p.1 ++ '=' :: p.2 :=
      @split_joinFields '&' '=' pairs (by decide) hne h
    rw [queryPieces, hsplit, List.filter_eq_self]
    intro piece hp
    obtain ⟨p, -, rfl⟩ := List.mem_map.1 hp
    simp

theorem parameters_joinPairs (h : ∀ p ∈ pairs, IsPair p) :
    parameters (joinPairs pairs) = pairs := by
  rw [parameters, queryPieces_joinPairs h, List.map_map]
  refine (List.map_congr_left fun p hp => ?_).trans pairs.map_id
  rw [Function.comp_apply, parameter, @cut_field '&' '=' p (h p hp)]
  rfl

/-- Pairs that stand in order make a canonical query. -/
theorem canonicalQuery_joinPairs (h : ∀ p ∈ pairs, IsPair p)
    (hsorted : pairs.Pairwise fun p q => parameterNotAfter p q = true) :
    canonicalQuery (joinPairs pairs) = joinPairs pairs := by
  rw [canonicalQuery_eq, parameters_joinPairs h, List.mergeSort_of_pairwise hsorted]

end Signing

end MachineImage
