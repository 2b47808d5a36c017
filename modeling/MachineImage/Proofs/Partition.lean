import MachineImage.Proofs.UploadParts

/-!
What a finished manifest says about its parts. They stand end to end and leave no octet of the image
out; they share none either, and hold no others, unless one of them ends before it starts, which
neither adding a part nor finishing keeps from happening.
-/
namespace MachineImage

namespace Part

/-- The octet with that offset is one of the part. -/
def Holds (p : Part) (n : Nat) : Prop := p.start ≤ n ∧ n ≤ p.stop

def Disjoint (p q : Part) : Prop := ∀ n, ¬ (p.Holds n ∧ q.Holds n)

theorem byteCount_of_le {p : Part} (h : p.start ≤ p.stop) (hstop : p.stop + 1 < UInt64.size) :
    p.byteCount = some (p.stop - p.start + 1) :=
  byteCount_eq_some.2 ⟨h, by omega, by omega⟩

/-- Of the parts that leave room for an offset behind them, those that end before they start are the
ones without a count. -/
theorem byteCount_eq_none {p : Part} (hstop : p.stop + 1 < UInt64.size) :
    p.byteCount = none ↔ p.stop < p.start := by
  constructor
  · intro hnone
    refine Nat.lt_of_not_le fun h => ?_
    rw [byteCount_of_le h hstop] at hnone
    contradiction
  · intro hback
    refine Option.eq_none_iff_forall_ne_some.2 fun n hn => ?_
    exact absurd (byteCount_eq_some.1 hn).1 (Nat.not_le.2 hback)

/-- Parts from one offset to another, each beginning where the one before it has ended. -/
inductive EndToEnd : Nat → List Part → Nat → Prop
  | nil {a : Nat} : EndToEnd a [] a
  | cons {p : Part} {parts : List Part} {b : Nat} :
    EndToEnd (p.stop + 1) parts b → EndToEnd p.start (p :: parts) b

namespace EndToEnd

variable {a b c : Nat} {p : Part} {parts later : List Part}

theorem append (h : EndToEnd a parts b) (h' : EndToEnd b later c) :
    EndToEnd a (parts ++ later) c := by
  induction h with
  | nil => exact h'
  | cons _ ih => exact .cons (ih h')

theorem concat (h : EndToEnd a parts p.start) : EndToEnd a (parts ++ [p]) (p.stop + 1) :=
  h.append (.cons .nil)

/-- What stands before a part ends where it starts, and what follows starts where it ends. -/
theorem around (h : EndToEnd a (parts ++ p :: later) b) :
    EndToEnd a parts p.start ∧ EndToEnd (p.stop + 1) later b := by
  generalize hall : parts ++ p :: later = all at h
  induction h generalizing parts with
  | nil => simp at hall
  | cons h ih =>
    cases parts with
    | nil =>
      obtain ⟨rfl, rfl⟩ := List.cons_eq_cons.1 hall
      exact ⟨.nil, h⟩
    | cons q parts =>
      obtain ⟨rfl, htail⟩ := List.cons_eq_cons.1 hall
      obtain ⟨hbefore, hafter⟩ := ih htail
      exact ⟨.cons hbefore, hafter⟩

/-- No octet in between is left out, however the parts end. -/
theorem exists_holds (h : EndToEnd a parts b) {n : Nat} (ha : a ≤ n) (hb : n < b) :
    ∃ p ∈ parts, p.Holds n := by
  induction h with
  | nil => omega
  | @cons p parts b _ ih =>
    by_cases hn : n ≤ p.stop
    · exact ⟨p, List.mem_cons_self, ha, hn⟩
    · obtain ⟨q, hq, hholds⟩ := ih (by omega) hb
      exact ⟨q, List.mem_cons_of_mem _ hq, hholds⟩

theorem bounds (h : EndToEnd a parts b) (hp : ∀ p ∈ parts, p.start ≤ p.stop + 1) :
    a ≤ b ∧ ∀ p ∈ parts, a ≤ p.start ∧ p.stop < b := by
  induction h with
  | nil => exact ⟨Nat.le_refl _, nofun⟩
  | cons _ ih =>
    obtain ⟨hfirst, hp⟩ := List.forall_mem_cons.1 hp
    obtain ⟨hle, hbounds⟩ := ih hp
    refine ⟨by omega, List.forall_mem_cons.2 ⟨⟨Nat.le_refl _, hle⟩, fun q hq => ?_⟩⟩
    obtain ⟨hstart, hstop⟩ := hbounds q hq
    exact ⟨by omega, hstop⟩

theorem pairwise_disjoint (h : EndToEnd a parts b) (hp : ∀ p ∈ parts, p.start ≤ p.stop + 1) :
    parts.Pairwise Disjoint := by
  induction h with
  | nil => exact .nil
  | cons h ih =>
    obtain ⟨-, hp⟩ := List.forall_mem_cons.1 hp
    refine .cons (fun q hq n hn => ?_) (ih hp)
    have hstart := ((h.bounds hp).2 q hq).1
    obtain ⟨⟨-, hstop⟩, hn, -⟩ := hn
    omega

/-- A part that ends so early that the next one starts before it is the one whose octets are not its
own, or not of the image. -/
theorem disjoint_iff (h : EndToEnd 0 parts b) :
    (parts.Pairwise Disjoint ∧ ∀ p ∈ parts, ∀ n, p.Holds n → n < b) ↔
      ∀ p ∈ parts, p.start ≤ p.stop + 1 := by
  constructor
  · rintro ⟨hdisjoint, hinside⟩ p hp
    refine Nat.le_of_not_lt fun hback => ?_
    obtain ⟨before, after, rfl⟩ := List.append_of_mem hp
    obtain ⟨hbefore, hafter⟩ := h.around
    -- The octet behind the part has been there before, and is there again or is none of the image.
    obtain ⟨q, hq, hholds⟩ := hbefore.exists_holds (Nat.zero_le (p.stop + 1)) (by omega)
    have hlt : p.stop + 1 < b := hinside q (List.mem_append_left _ hq) _ hholds
    obtain ⟨r, hr, hagain⟩ := hafter.exists_holds (Nat.le_refl _) hlt
    have hapart := (List.pairwise_append.1 hdisjoint).2.2 q hq r (List.mem_cons_of_mem _ hr)
    exact hapart _ ⟨hholds, hagain⟩
  · intro hp
    refine ⟨h.pairwise_disjoint hp, fun p hm n hn => ?_⟩
    exact Nat.lt_of_le_of_lt hn.2 ((h.bounds hp).2 p hm).2

/-- Where every part has octets, each of them has a count, and together these are what lies between
the two ends. -/
theorem sum_byteCount (h : EndToEnd a parts b) (hp : ∀ p ∈ parts, p.start ≤ p.stop)
    (hstop : ∀ p ∈ parts, p.stop + 1 < UInt64.size) :
    ∃ counts, parts.mapM byteCount = some counts ∧ a + counts.foldr (· + ·) 0 = b := by
  induction h with
  | nil => exact ⟨[], rfl, rfl⟩
  | @cons p parts b _ ih =>
    obtain ⟨hfirst, hp⟩ := List.forall_mem_cons.1 hp
    obtain ⟨hlast, hstop⟩ := List.forall_mem_cons.1 hstop
    obtain ⟨counts, hcounts, hsum⟩ := ih hp hstop
    have hcount := byteCount_of_le hfirst hlast
    refine ⟨(p.stop - p.start + 1) :: counts, ?_, ?_⟩
    · simp [List.mapM_cons, hcount, hcounts]
    · rw [List.foldr_cons]
      omega

end EndToEnd

end Part

/-- The parts divide the octets of an image among them, and each of them has a count. -/
structure Partition (parts : List Part) (size : Nat) : Prop where
  nonempty : ∀ p ∈ parts, p.start ≤ p.stop
  disjoint : parts.Pairwise Part.Disjoint
  contiguous : Part.EndToEnd 0 parts size
  union : ∀ n, (∃ p ∈ parts, p.Holds n) ↔ n < size
  counted : ∀ p ∈ parts, p.byteCount = some (p.stop - p.start + 1)
  total : ∃ counts, parts.mapM Part.byteCount = some counts ∧ counts.foldr (· + ·) 0 = size

namespace ManifestDraft

/-- What adding a part asks of it: the place and the number that are next. Its last offset leaves
room for another one behind it in 64 bits. -/
structure Admits (d : ManifestDraft) (p : Part) : Prop where
  start : p.start = d.nextOffset
  index : p.index = d.parts.length
  stop : p.stop + 1 < UInt64.size

/-- Drafts to which nothing was added that they did not admit. -/
inductive Built : ManifestDraft → Prop
  | new (maker : Importer) (url : Text) (size : Nat) : Built ⟨maker, url, size, []⟩
  | push {d : ManifestDraft} {p : Part} : Built d → d.Admits p → Built (d.push p)

variable {d : ManifestDraft}

theorem Built.endToEnd (h : Built d) : Part.EndToEnd 0 d.parts d.nextOffset := by
  induction h with
  | new => exact .nil
  | push _ hp ih =>
    rw [nextOffset_push]
    exact Part.EndToEnd.concat (hp.start ▸ ih)

theorem Built.stop_lt (h : Built d) : ∀ p ∈ d.parts, p.stop + 1 < UInt64.size := by
  induction h with
  | new => exact nofun
  | push _ hp ih => exact List.forall_mem_append.2 ⟨ih, List.forall_mem_singleton.2 hp.stop⟩

theorem Built.index_eq (h : Built d) : d.parts.map Part.index = List.range d.parts.length := by
  induction h with
  | new => rfl
  | push _ hp ih =>
    rw [ManifestDraft.push, List.map_append, ih, List.length_append, List.length_singleton,
      List.range_succ, List.map_singleton, hp.index]

/-- Where no part ends before it starts, the parts of a complete draft are a partition. -/
theorem Built.partition (h : Built d) (hsize : d.nextOffset = d.size)
    (hp : ∀ p ∈ d.parts, p.start ≤ p.stop) : Partition d.parts d.size := by
  have hends := h.endToEnd
  have hnext : ∀ p ∈ d.parts, p.start ≤ p.stop + 1 := fun p hm => Nat.le_succ_of_le (hp p hm)
  rw [hsize] at hends
  refine ⟨hp, hends.pairwise_disjoint hnext, hends, fun n => ⟨?_, ?_⟩, fun p hm => ?_, ?_⟩
  · rintro ⟨p, hm, hholds⟩
    exact (hends.disjoint_iff.2 hnext).2 p hm n hholds
  · exact hends.exists_holds (Nat.zero_le n)
  · exact Part.byteCount_of_le (hp p hm) (h.stop_lt p hm)
  · obtain ⟨counts, hcounts, htotal⟩ := hends.sum_byteCount hp h.stop_lt
    rw [Nat.zero_add] at htotal
    exact ⟨counts, hcounts, htotal⟩

/-- A draft is finished exactly if it ends with the image. Its parts then stand end to end and leave
nothing out; they are a partition exactly if none ends before it starts, which leaves a part without
a count, and already share octets or hold others if one ends before the offset that precedes its
start. -/
theorem finish_built (h : Built d) :
    (∀ e, d.finish = .error e ↔ d.nextOffset ≠ d.size ∧ e = ⟨d.size, d.nextOffset⟩) ∧
      ∀ m, d.finish = .ok m → m.size = d.size ∧ m.parts = d.parts ∧
        m.parts.map Part.index = List.range m.parts.length ∧ Part.EndToEnd 0 m.parts m.size ∧
        (∀ n < m.size, ∃ p ∈ m.parts, p.Holds n) ∧
        (∀ p ∈ m.parts, p.byteCount = none ↔ p.stop < p.start) ∧
        (Partition m.parts m.size ↔ ∀ p ∈ m.parts, p.start ≤ p.stop) ∧
        ((m.parts.Pairwise Part.Disjoint ∧ ∀ p ∈ m.parts, ∀ n, p.Holds n → n < m.size) ↔
          ∀ p ∈ m.parts, p.start ≤ p.stop + 1) := by
  unfold finish
  by_cases hsize : d.nextOffset = d.size
  · rw [if_pos hsize]
    refine ⟨fun e => iff_of_false nofun fun he => he.1 hsize, ?_⟩
    rintro m ⟨⟩
    have hends := h.endToEnd
    rw [hsize] at hends
    exact ⟨rfl, rfl, h.index_eq, hends, fun n => hends.exists_holds (Nat.zero_le n),
      fun p hp => Part.byteCount_eq_none (h.stop_lt p hp),
      ⟨Partition.nonempty, h.partition hsize⟩, hends.disjoint_iff⟩
  · rw [if_neg hsize]
    refine ⟨fun e => ?_, nofun⟩
    rw [Except.error.injEq, eq_comm]
    exact (and_iff_right hsize).symm

/-- The draft with a part more, which ends there and is stored nowhere. -/
def extend (d : ManifestDraft) (stop : Nat) : ManifestDraft :=
  d.push ⟨d.parts.length, d.nextOffset, stop, [], [], [], []⟩

theorem Built.extend {stop : Nat} (h : Built d) (hstop : stop + 1 < UInt64.size) :
    Built (d.extend stop) :=
  h.push ⟨rfl, rfl, hstop⟩

/-- Two parts of ten octets in all, of which the second has nine. -/
theorem finish_built_two :
    let d := ((⟨⟨[], [], []⟩, [], 10, []⟩ : ManifestDraft).extend 0).extend 9
    Built d ∧ ∃ m, d.finish = .ok m ∧ (∀ p ∈ m.parts, p.start ≤ p.stop) ∧ Partition m.parts 10 := by
  intro d
  have h : Built d := ((Built.new _ _ _).extend (by decide)).extend (by decide)
  have hfinish : d.finish = .ok ⟨d.render, 10, d.parts⟩ := rfl
  have hp : ∀ p ∈ d.parts, p.start ≤ p.stop := by decide
  obtain ⟨-, -, -, -, -, -, hpartition, -⟩ := (finish_built h).2 _ hfinish
  exact ⟨h, _, hfinish, hp, hpartition.2 hp⟩

/-- Drafts are also finished with an empty part at their end, which has no count, or with parts that
share octets. -/
theorem not_partition_of_finish :
    (¬ ∀ d m, Built d → d.finish = .ok m → Partition m.parts m.size) ∧
      (∃ d m, Built d ∧ d.finish = .ok m ∧ ∃ p ∈ m.parts, p.byteCount = none) ∧
      ∃ d m, Built d ∧ d.finish = .ok m ∧ ¬ m.parts.Pairwise Part.Disjoint := by
  have hnew := Built.new ⟨[], [], []⟩ [] 10
  have hten : Built (extend ⟨⟨[], [], []⟩, [], 10, []⟩ 9) := hnew.extend (by decide)
  have hempty := hten.extend (by decide : 9 + 1 < UInt64.size)
  have hshared := (hten.extend (by decide : 4 + 1 < UInt64.size)).extend
    (by decide : 9 + 1 < UInt64.size)
  refine ⟨fun h => ?_, ⟨_, _, hempty, rfl, ⟨1, 10, 9, [], [], [], []⟩, ?_, by decide⟩,
    _, _, hshared, rfl, fun h => ?_⟩
  · exact absurd (h _ _ hempty rfl).nonempty (by decide)
  · simp [extend, push, nextOffset]
  · have hfirst := (List.pairwise_cons.1 h).1 ⟨2, 5, 9, [], [], [], []⟩
      (by simp [extend, push, nextOffset])
    exact hfirst 5 ⟨⟨by decide, by decide⟩, by decide, by decide⟩

end ManifestDraft

end MachineImage
