import MachineImage.Upload

/-!
How an image is cut: into as many parts as are counted, each the octets of its own range.
-/
namespace MachineImage

/-- The image in parts of `partSize` octets, the last one perhaps shorter. A part has an octet at
least. -/
def partsOf (partSize : Nat) (image : Octets) : List Octets :=
  match image with
  | [] => []
  | o :: rest => (o :: rest.take (partSize - 1)) :: partsOf partSize (rest.drop (partSize - 1))
termination_by image.length
decreasing_by
  simp only [List.length_drop, List.length_cons]
  omega

@[simp]
theorem partsOf_nil (size : Nat) : partsOf size [] = [] := by rw [partsOf]

theorem partsOf_of_ne_nil {size : Nat} (hs : 1 ≤ size) {image : Octets} (h : image ≠ []) :
    partsOf size image = image.take size :: partsOf size (image.drop size) := by
  obtain ⟨o, rest, rfl⟩ := List.exists_cons_of_ne_nil h
  obtain ⟨k, rfl⟩ := Nat.exists_eq_add_of_le' hs
  rw [partsOf, Nat.add_sub_cancel, List.take_succ_cons, List.drop_succ_cons]

theorem flatten_partsOf (size : Nat) (image : Octets) : (partsOf size image).flatten = image := by
  induction image using partsOf.induct size with
  | case1 => simp
  | case2 o rest ih => rw [partsOf, List.flatten_cons, ih, List.cons_append, List.take_append_drop]

@[simp]
theorem partCount_zero (size : Nat) : partCount 0 size = 0 := by
  unfold partCount
  cases size with
  | zero => rfl
  | succ k => exact Nat.div_eq_of_lt (by omega)

/-- One part is there for the first octets, and the others hold the rest. -/
theorem partCount_eq_succ {length size : Nat} (hs : 1 ≤ size) (hl : 1 ≤ length) :
    partCount length size = partCount (length - size) size + 1 := by
  unfold partCount
  by_cases h : size ≤ length
  · have he : length + (size - 1) = length - size + (size - 1) + size := by omega
    rw [he, Nat.add_div_right _ hs]
  · have hone : (length + (size - 1)) / size = 1 := Nat.div_eq_of_lt_le (by omega) (by omega)
    have hzero : (length - size + (size - 1)) / size = 0 := Nat.div_eq_of_lt (by omega)
    rw [hone, hzero]

theorem le_partCount_mul {size : Nat} (hs : 1 ≤ size) (length : Nat) :
    length ≤ partCount length size * size := by
  unfold partCount
  have h := Nat.div_add_mod (length + (size - 1)) size
  have hm := Nat.mod_lt (length + (size - 1)) hs
  rw [Nat.mul_comm] at h
  omega

/-- No part but the last reaches the end. -/
theorem partCount_mul_lt {size : Nat} (hs : 1 ≤ size) (length : Nat) :
    partCount length size * size < length + size := by
  unfold partCount
  have h := Nat.div_mul_le_self (length + (size - 1)) size
  omega

theorem mul_lt_of_lt_partCount {size length i : Nat} (hs : 1 ≤ size)
    (h : i < partCount length size) : i * size < length := by
  have hlt := partCount_mul_lt hs length
  have hle := Nat.mul_le_mul_right size (Nat.succ_le_of_lt h)
  rw [Nat.succ_mul] at hle
  omega

theorem partsOf_eq {size : Nat} (hs : 1 ≤ size) (image : Octets) :
    partsOf size image =
      (List.range (partCount image.length size)).map
        fun i => (image.drop (i * size)).take size := by
  generalize hn : partCount image.length size = n
  induction n generalizing image with
  | zero =>
    cases image with
    | nil => simp
    | cons o rest =>
      rw [partCount_eq_succ hs (by simp)] at hn
      omega
  | succ n ih =>
    have hne : image ≠ [] := by
      rintro rfl
      rw [List.length_nil, partCount_zero] at hn
      omega
    have hl : 1 ≤ image.length := List.length_pos_iff.2 hne
    rw [partCount_eq_succ hs hl] at hn
    rw [partsOf_of_ne_nil hs hne, ih (image.drop size) (by rw [List.length_drop]; omega),
      List.range_succ_eq_map, List.map_cons, List.map_map]
    simp [Function.comp_def, Nat.add_mul, Nat.add_comm]

@[simp]
theorem length_partsOf {size : Nat} (hs : 1 ≤ size) (image : Octets) :
    (partsOf size image).length = partCount image.length size := by
  simp [partsOf_eq hs]

namespace ManifestDraft

@[simp]
theorem nextOffset_push (draft : ManifestDraft) (part : Part) :
    (draft.push part).nextOffset = part.stop + 1 := by
  simp [push, nextOffset]

@[simp]
theorem size_push (draft : ManifestDraft) (part : Part) : (draft.push part).size = draft.size := rfl

@[simp]
theorem length_parts_push (draft : ManifestDraft) (part : Part) :
    (draft.push part).parts.length = draft.parts.length + 1 := by
  simp [push]

/-- The draft lists the first parts of an image, and what is left of it begins at `start`. -/
structure Awaits (draft : ManifestDraft) (partSize : Nat) (image left : Octets)
    (start index : Nat) : Prop where
  partSize_pos : 1 ≤ partSize
  length_lt : image.length < UInt64.size
  size : draft.size = image.length
  length : draft.parts.length = index
  index_le : index ≤ partCount image.length partSize
  start_eq : start = min (index * partSize) image.length
  nextOffset : draft.nextOffset = start
  left_eq : left = image.drop start

theorem awaits_image (maker : Importer) (url : Text) {partSize : Nat} (hs : 1 ≤ partSize)
    {image : Octets} (h : image.length < UInt64.size) :
    Awaits ⟨maker, url, image.length, []⟩ partSize image image 0 0 where
  partSize_pos := hs
  length_lt := h
  size := rfl
  length := rfl
  index_le := Nat.zero_le _
  start_eq := by rw [Nat.zero_mul, Nat.zero_min]
  nextOffset := rfl
  left_eq := rfl

namespace Awaits

variable {draft : ManifestDraft} {partSize : Nat} {image left : Octets} {start index : Nat}

section

variable (h : draft.Awaits partSize image left start index) (hlt : start < image.length)

include h hlt

/-- A part is left, and it begins where all parts before it are full. -/
theorem start_eq_mul : start = index * partSize := by
  have hstart := h.start_eq
  omega

theorem index_lt : index < partCount image.length partSize := by
  have hle := le_partCount_mul h.partSize_pos image.length
  have hstart := h.start_eq_mul hlt
  refine Nat.lt_of_not_le fun hge => ?_
  have hmul := Nat.mul_le_mul_right partSize hge
  omega

/-- No number of a round is too large for 64 bits. -/
theorem round :
    Round.of? start (min (image.length - start) partSize) index =
      some ⟨min ((index + 1) * partSize) image.length - 1,
        min ((index + 1) * partSize) image.length, index + 1⟩ := by
  have hs := h.partSize_pos
  have hlength := h.length_lt
  have hstart := h.start_eq_mul hlt
  have hindex : index ≤ index * partSize := Nat.le_mul_of_pos_right index hs
  have hbehind : start + min (image.length - start) partSize =
      min ((index + 1) * partSize) image.length := by
    rw [Nat.succ_mul]
    omega
  rw [Round.of?_eq_some, hbehind]
  refine ⟨?_, ?_, ?_, rfl⟩
  all_goals omega

theorem take_left : left.take (min (image.length - start) partSize) =
    (image.drop (index * partSize)).take partSize := by
  rw [h.left_eq, ← h.start_eq_mul hlt, ← List.length_drop, Nat.min_comm, ← List.take_eq_take_min]

theorem push {part : Part}
    (hp : part.stop = min ((index + 1) * partSize) image.length - 1) :
    (draft.push part).Awaits partSize image (left.drop (min (image.length - start) partSize))
      (min ((index + 1) * partSize) image.length) (index + 1) := by
  have hs := h.partSize_pos
  have hstart := h.start_eq_mul hlt
  have hmul : (index + 1) * partSize = index * partSize + partSize := Nat.succ_mul _ _
  constructor
  case partSize_pos => exact hs
  case length_lt => exact h.length_lt
  case size => exact h.size
  case length => rw [length_parts_push, h.length]
  case index_le => exact h.index_lt hlt
  case start_eq => rfl
  case nextOffset =>
    rw [nextOffset_push, hp]
    omega
  case left_eq =>
    rw [h.left_eq, List.drop_drop]
    congr 1
    omega

end

section

variable (h : draft.Awaits partSize image left start index) (hge : ¬ start < image.length)

include h hge

/-- A draft that awaits nothing is complete. -/
theorem finish : draft.finish = .ok ⟨draft.render, draft.size, draft.parts⟩ := by
  have hstart := h.start_eq
  have hsize : draft.nextOffset = draft.size := by
    rw [h.nextOffset, h.size]
    omega
  rw [ManifestDraft.finish, if_pos hsize]

theorem index_eq : index = partCount image.length partSize := by
  have hstart := h.start_eq
  have hle := h.index_le
  refine Nat.le_antisymm hle (Nat.le_of_not_lt fun hlt => ?_)
  have hmul := mul_lt_of_lt_partCount h.partSize_pos hlt
  omega

end

end Awaits

end ManifestDraft

end MachineImage
