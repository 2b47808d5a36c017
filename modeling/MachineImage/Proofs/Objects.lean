import MachineImage.Proofs.Encoded
import MachineImage.Upload
import Mathlib.Data.List.Nodup

/-!
The paths of an upload. Nothing in them is encoded, and no two objects have the same, be they of this
upload or of two.
-/
namespace MachineImage

open Text

theorem Hex.encode_injective {b b' : Octets} (h : encode b = encode b') : b = b' := by
  have hdigit : ∀ m < 16, ∀ n < 16, lowerDigit m = lowerDigit n → m = n := by decide
  induction b generalizing b' with
  | nil =>
    cases b' with
    | nil => rfl
    | cons o' b' => cases h
  | cons o b ih =>
    cases b' with
    | nil => cases h
    | cons o' b' =>
      simp only [encode, List.flatMap_cons, List.cons_append, List.nil_append,
        List.cons.injEq] at h
      obtain ⟨hhigh, hlow, hrest⟩ := h
      have ho : o.toNat < 256 := o.toNat_lt
      have ho' : o'.toNat < 256 := o'.toNat_lt
      have hdiv := hdigit _ (by omega) _ (by omega) hhigh
      have hmod := hdigit _ (by omega) _ (by omega) hlow
      have hvalue : o.toNat = o'.toNat := by omega
      rw [UInt8.toNat_inj.1 hvalue, ih hrest]

namespace Percent

/-- Nothing in it is encoded. -/
def Unreserved (s : Text) : Prop := ∀ c ∈ s, isUnreservedCharacter c = true

instance (s : Text) : Decidable (Unreserved s) :=
  List.decidableBAll (isUnreservedCharacter · = true) s

theorem isUnreservedCharacter_of_isDigit {c : Char} (h : c.isDigit = true) :
    isUnreservedCharacter c = true := by
  simp [isUnreservedCharacter, Char.isAlphanum, h]

theorem toNat_lt_of_le {c : Char} {high : UInt32} (h : c.val ≤ high) (hhigh : high.toNat < 128) :
    c.toNat < 128 :=
  Nat.lt_of_le_of_lt (UInt32.le_iff_toNat_le.1 h) hhigh

theorem toNat_lt_of_isUnreservedCharacter {c : Char} (h : isUnreservedCharacter c = true) :
    c.toNat < 128 := by
  have hcases : (c.isUpper || c.isLower || c.isDigit || c == '-' || c == '_' || c == '.' ||
      c == '~') = true := h
  simp only [Bool.or_eq_true, beq_iff_eq] at hcases
  rcases hcases with (((((hupper | hlower) | hdigit) | rfl) | rfl) | rfl) | rfl
  · exact toNat_lt_of_le (of_decide_eq_true hupper).2 (by decide)
  · exact toNat_lt_of_le (of_decide_eq_true (Bool.and_eq_true_iff.1 hlower).2) (by decide)
  · exact toNat_lt_of_le (of_decide_eq_true (Bool.and_eq_true_iff.1 hdigit).2) (by decide)
  all_goals decide

theorem encode_of_unreserved {s : Text} (h : Unreserved s) : encode s = s := by
  induction s with
  | nil => rfl
  | cons c s ih =>
    obtain ⟨hc, hs⟩ := List.forall_mem_cons.1 h
    have hone : encode [c] = [c] :=
      of_ascii (fun c => isUnreservedCharacter c = true → encode [c] = [c]) (by decide +kernel)
        (toNat_lt_of_isUnreservedCharacter hc) hc
    rw [encode_cons, hone, ih hs, List.singleton_append]

theorem not_mem_of_unreserved {s : Text} (h : Unreserved s) {c : Char}
    (hc : isUnreservedCharacter c = false) : c ∉ s :=
  fun hm => nomatch (h c hm).symm.trans hc

end Percent

namespace Destination

open Percent

variable (d d' : Destination)

theorem partPath_injective {i j : Nat} (h : d.partPath i = d.partPath j) : i = j := by
  simp only [partPath, partKey, List.cons.injEq, true_and, List.append_cancel_left_eq] at h
  exact Decimal.digits_injective h

theorem partPath_ne_manifestPath (i : Nat) : d.partPath i ≠ d.manifestPath := by
  intro h
  have hm : "/manifest.xml".toList = '/' :: 'm' :: "anifest.xml".toList := rfl
  have hp : "/part".toList = '/' :: 'p' :: "art".toList := rfl
  simp [partPath, partKey, manifestPath, hm, hp] at h

theorem unreserved_directory : Unreserved d.directory := Hex.forall_mem_encode (by decide) d.nonce

/-- The path of a name in the directory of an upload. -/
def object (name : Text) : Text := '/' :: d.directory ++ '/' :: name

/-- The path of an object in that directory, in whose name nothing is encoded. -/
def IsObject (path : Text) : Prop := ∃ name, Unreserved name ∧ path = d.object name

theorem isObject_partPath (index : Nat) : d.IsObject (d.partPath index) := by
  have hpart : Unreserved "part".toList := by decide
  have hname : "/part".toList = '/' :: "part".toList := rfl
  refine ⟨"part".toList ++ Decimal.digits index, List.forall_mem_append.2 ⟨hpart, ?_⟩, ?_⟩
  · exact fun c hc => isUnreservedCharacter_of_isDigit (Decimal.isDigit_of_mem_digits hc)
  · simp [partPath, partKey, object, hname]

theorem isObject_manifestPath : d.IsObject d.manifestPath :=
  ⟨"manifest.xml".toList, by decide, rfl⟩

variable {d} in
theorem IsObject.not_mem {path : Text} (h : d.IsObject path) {c : Char}
    (hc : isUnreservedCharacter c = false) (hne : c ≠ '/') : c ∉ path := by
  obtain ⟨name, hname, rfl⟩ := h
  have hdirectory := not_mem_of_unreserved d.unreserved_directory hc
  exact List.not_mem_append (List.not_mem_cons_of_ne_of_not_mem hne hdirectory)
    (List.not_mem_cons_of_ne_of_not_mem hne (not_mem_of_unreserved hname hc))

theorem cut_object (name : Text) :
    cut (· == '/') ((d.object name).drop 1) = some (d.directory, name) := by
  have hdirectory : '/' ∉ d.directory :=
    not_mem_of_unreserved d.unreserved_directory (by decide)
  exact cut_sign hdirectory name

/-- Such a path tells the upload. -/
theorem nonce_eq_of_object_eq {name name' : Text} (h : d.object name = d'.object name') :
    d.nonce = d'.nonce := by
  have hcut := d.cut_object name
  rw [h, cut_object] at hcut
  exact Hex.encode_injective (Prod.ext_iff.1 (Option.some.inj hcut)).1.symm

/-- Nothing in such a path is encoded. -/
theorem encodePath_object {path : Text} (h : d.IsObject path) : encodePath path = path := by
  obtain ⟨name, h, rfl⟩ := h
  have hfree : ∀ {s}, Unreserved s → '/' ∉ s := fun hs => not_mem_of_unreserved hs (by decide)
  have hroot : Unreserved [] := by decide
  have hsplit : split (· == '/') (d.object name) = [[], d.directory, name] := by
    have hobject : d.object name = [] ++ '/' :: (d.directory ++ '/' :: name) := rfl
    rw [hobject, split_sign (hfree hroot), split_sign (hfree d.unreserved_directory),
      split_of_not_mem (hfree h)]
  have hne : d.object name ≠ [] := List.cons_ne_nil _ _
  rw [encodePath, if_neg hne, hsplit]
  simp [encode_of_unreserved, d.unreserved_directory, h, hroot, object, List.intercalate_cons_cons]

/-- The paths of an upload in that many parts. -/
def paths (count : Nat) : List Text := (List.range count).map d.partPath ++ [d.manifestPath]

theorem isObject_of_mem_paths {count : Nat} {path : Text} (h : path ∈ d.paths count) :
    d.IsObject path := by
  rcases List.mem_append.1 h with h | h
  · obtain ⟨i, -, rfl⟩ := List.mem_map.1 h
    exact d.isObject_partPath i
  · rw [List.mem_singleton.1 h]
    exact d.isObject_manifestPath

theorem nodup_paths (count : Nat) : (d.paths count).Nodup := by
  refine List.nodup_append.2 ⟨?_, List.nodup_singleton _, ?_⟩
  · exact List.Nodup.map (fun _ _ => d.partPath_injective) List.nodup_range
  · intro path hpath manifest hmanifest
    obtain ⟨i, -, rfl⟩ := List.mem_map.1 hpath
    rw [List.mem_singleton.1 hmanifest]
    exact d.partPath_ne_manifestPath i

theorem disjoint_paths (h : d.nonce ≠ d'.nonce) (count count' : Nat) :
    (d.paths count).Disjoint (d'.paths count') := by
  intro path hpath hpath'
  obtain ⟨name, -, rfl⟩ := d.isObject_of_mem_paths hpath
  obtain ⟨name', -, heq⟩ := d'.isObject_of_mem_paths hpath'
  exact h (d.nonce_eq_of_object_eq d' heq)

end Destination

end MachineImage
