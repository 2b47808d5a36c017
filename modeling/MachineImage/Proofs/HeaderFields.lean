import MachineImage.Proofs.Folded
import MachineImage.Proofs.Ordered
import Mathlib.Data.List.Sort

/-!
The canonical form of headers. It is determined by what it has to be: each name once, in lower case
and in order, with all its values in the order of the request; so it depends on the order of the
headers only where they have the same name, and it is its own canonical form.
-/
namespace MachineImage

open Text

theorem Text.nodup_eraseDups (l : List Text) : l.eraseDups.Nodup := by
  match l with
  | [] => exact List.nodup_nil
  | s :: l =>
    rw [List.eraseDups_cons, List.nodup_cons, List.mem_eraseDups]
    exact ⟨by simp, nodup_eraseDups (l.filter fun t => !t == s)⟩
termination_by l.length
decreasing_by exact Nat.lt_succ_of_le (List.length_filter_le _ l)

namespace Signing

/-- Names that stand in the order of their octets, none of them twice. -/
def Ascending (names : List Text) : Prop :=
  names.Pairwise fun s t => Utf8.encode s < Utf8.encode t

theorem Ascending.nodup {names : List Text} (h : Ascending names) : names.Nodup := by
  refine List.Pairwise.imp ?_ h
  rintro s t hlt rfl
  exact List.lt_irrefl _ hlt

/-- Such names are known from what they are. -/
theorem Ascending.eq {names names' : List Text} (h : Ascending names) (h' : Ascending names')
    (hmem : ∀ name, name ∈ names ↔ name ∈ names') : names = names' := by
  have hperm := (List.perm_ext_iff_of_nodup h.nodup h'.nodup).2 hmem
  refine hperm.eq_of_pairwise (fun s t _ _ hst hts => ?_) h h'
  exact absurd (List.lt_trans hst hts) (List.lt_irrefl _)

theorem ascending_headerNames (headers : List Header) : Ascending (headerNames headers) := by
  have hsorted := @List.pairwise_mergeSort _ notAfter (fun _ _ _ => notAfter_trans) notAfter_total
    (headers.map (·.1)).eraseDups
  have hdistinct : (headerNames headers).Nodup :=
    (List.mergeSort_perm _ _).nodup_iff.2 (nodup_eraseDups _)
  exact (hsorted.and hdistinct).imp fun h => lt_of_notAfter h.1 h.2

theorem mem_headerNames {headers : List Header} {name : Text} :
    name ∈ headerNames headers ↔ name ∈ headers.map (·.1) := by
  rw [headerNames, List.mem_mergeSort, List.mem_eraseDups]

/-- The values of a name in whatever case, each with its words only, in the order of the request. -/
def valuesOf (headers : List Header) (name : Text) : List Text :=
  (headers.filter fun h => lower h.1 = name).map fun h => unwords h.2

theorem valuesOf_ne_nil_iff {headers : List Header} {name : Text} :
    valuesOf headers name ≠ [] ↔ ∃ h ∈ headers, lower h.1 = name := by
  simp [valuesOf, List.filter_eq_nil_iff]

/-- The fields that headers have to be brought into. -/
structure IsCanonical (headers fields : List Header) : Prop where
  names : ∀ name, name ∈ fields.map (·.1) ↔ ∃ h ∈ headers, lower h.1 = name
  ascending : Ascending (fields.map (·.1))
  values : ∀ field ∈ fields, field.2 = [','].intercalate (valuesOf headers field.1)

namespace IsCanonical

variable {headers headers' fields fields' : List Header}

theorem eq_map (h : IsCanonical headers fields) : fields =
    (fields.map (·.1)).map fun name => (name, [','].intercalate (valuesOf headers name)) := by
  rw [List.map_map]
  refine (List.map_id fields).symm.trans (List.map_congr_left fun field hfield => ?_)
  exact Prod.ext rfl (h.values field hfield)

/-- There is one canonical form for all headers whose names have the same values. -/
theorem unique (h : IsCanonical headers fields) (h' : IsCanonical headers' fields')
    (hvalues : ∀ name, valuesOf headers name = valuesOf headers' name) : fields = fields' := by
  have hnames : fields.map (·.1) = fields'.map (·.1) := by
    refine h.ascending.eq h'.ascending fun name => ?_
    rw [h.names, h'.names, ← valuesOf_ne_nil_iff, ← valuesOf_ne_nil_iff, hvalues]
  rw [h.eq_map, h'.eq_map, hnames]
  simp only [hvalues]

section

variable (h : IsCanonical headers fields) {field : Header} (hfield : field ∈ fields)

include h hfield

theorem lower_eq : lower field.1 = field.1 := by
  obtain ⟨header, -, hname⟩ := (h.names _).1 (List.mem_map_of_mem hfield)
  rw [← hname, lower_lower]

theorem isSpaced : IsSpaced field.2 := by
  rw [h.values field hfield]
  refine IsSpaced.intercalate (fun value hvalue => ?_) fun hblank => absurd hblank (by decide)
  obtain ⟨header, -, rfl⟩ := List.mem_map.1 hvalue
  exact isSpaced_unwords header.2

theorem not_mem : '\n' ∉ field.2 :=
  fun hm => absurd ((h.isSpaced hfield).space _ hm (by decide)) (by decide)

/-- In the canonical form a name has one value, which is its own words. -/
theorem valuesOf_eq : valuesOf fields field.1 = [field.2] := by
  have hlower : fields.filter (fun f => lower f.1 = field.1) =
      fields.filter fun f => f.1 = field.1 :=
    List.filter_congr fun f hf => by rw [h.lower_eq hf]
  obtain ⟨before, after, rfl⟩ := List.append_of_mem hfield
  have hother : ∀ f, f ∈ before ∨ f ∈ after → ¬ decide (f.1 = field.1) = true := by
    intro f hf he
    have hnodup := h.ascending.nodup
    rw [List.map_append, List.map_cons, List.nodup_middle, List.nodup_cons,
      ← List.map_append] at hnodup
    refine hnodup.1 (List.mem_map.2 ⟨f, List.mem_append.2 hf, of_decide_eq_true he⟩)
  have hspaced := (h.isSpaced hfield).collapse_trim
  rw [collapse_trim] at hspaced
  rw [valuesOf, hlower, List.filter_append, List.filter_cons_of_pos (by simp),
    List.filter_eq_nil_iff.2 fun f hf => hother f (.inl hf),
    List.filter_eq_nil_iff.2 fun f hf => hother f (.inr hf), List.nil_append, List.map_singleton,
    hspaced]

end

/-- A canonical form is its own. -/
theorem self (h : IsCanonical headers fields) : IsCanonical fields fields where
  names := by
    intro name
    rw [List.mem_map]
    constructor
    · rintro ⟨field, hfield, rfl⟩
      exact ⟨field, hfield, h.lower_eq hfield⟩
    · rintro ⟨field, hfield, rfl⟩
      exact ⟨field, hfield, (h.lower_eq hfield).symm⟩
  ascending := h.ascending
  values := by
    intro field hfield
    rw [h.valuesOf_eq hfield, List.intercalate_singleton]

end IsCanonical

section

variable (headers : List Header)

theorem headerValue_normalized (name : Text) :
    headerValue (headers.map normalized) name = [','].intercalate (valuesOf headers name) := by
  have hfilter : (headers.map normalized).filter (·.1 == name) =
      (headers.filter fun h => lower h.1 = name).map normalized := by
    rw [List.filter_map]
    refine congrArg (List.map normalized) (List.filter_congr fun h _ => ?_)
    exact beq_eq_decide (lower h.1) name
  have hvalue : ((·.2) ∘ normalized : Header → Text) = fun h => unwords h.2 :=
    funext fun h => collapse_trim h.2
  rw [headerValue, hfilter, List.map_map, hvalue, valuesOf]

theorem names_signedFields :
    (signedFields headers).map (·.1) = headerNames (headers.map normalized) := by
  simp only [signedFields, List.map_map, Function.comp_def, List.map_id']

theorem isCanonical_signedFields : IsCanonical headers (signedFields headers) where
  names := by
    intro name
    rw [names_signedFields, mem_headerNames, List.map_map, List.mem_map]
    rfl
  ascending := by
    rw [names_signedFields]
    exact ascending_headerNames _
  values := by
    intro field hfield
    obtain ⟨name, -, rfl⟩ := List.mem_map.1 hfield
    exact headerValue_normalized headers name

theorem canonicalHeaders_eq : canonicalHeaders headers =
    ⟨joinFields '\n' ':' (signedFields headers),
      [';'].intercalate ((signedFields headers).map (·.1))⟩ := by
  rw [← lines_canonicalHeaders, ← signed_eq_intercalate]

/-- The same headers, and those of one name in the same order. -/
def Reorders (other : List Header) : Prop :=
  ∀ name, (other.filter fun h => lower h.1 = name) = headers.filter fun h => lower h.1 = name

/-- Headers become the fields that their names and values call for, in which no white space is left
but single spaces inside. These fields stay as they are, and nothing but the order of the values of
each name has a part in them. -/
theorem canonicalHeaders_fields : IsCanonical headers (signedFields headers) ∧
    (∀ field ∈ signedFields headers,
      lower field.1 = field.1 ∧ IsSpaced field.2 ∧ '\n' ∉ field.2) ∧
    canonicalHeaders headers = ⟨joinFields '\n' ':' (signedFields headers),
      [';'].intercalate ((signedFields headers).map (·.1))⟩ ∧
    canonicalHeaders (signedFields headers) = canonicalHeaders headers ∧
    ∀ other, Reorders headers other → canonicalHeaders other = canonicalHeaders headers := by
  have hcanonical := isCanonical_signedFields headers
  refine ⟨hcanonical, fun field hfield => ⟨hcanonical.lower_eq hfield, hcanonical.isSpaced hfield,
    hcanonical.not_mem hfield⟩, canonicalHeaders_eq headers, ?_, fun other h => ?_⟩
  · have hself := (isCanonical_signedFields _).unique hcanonical.self fun _ => rfl
    rw [canonicalHeaders_eq, hself, ← canonicalHeaders_eq]
  · have hother := (isCanonical_signedFields other).unique hcanonical fun name => by
      rw [valuesOf, h name, valuesOf]
    rw [canonicalHeaders_eq, hother, ← canonicalHeaders_eq]

end

/-- Neighbours of different names may change places. -/
theorem reorders_swap {a b : Header} (h : lower a.1 ≠ lower b.1) (before after : List Header) :
    Reorders (before ++ a :: b :: after) (before ++ b :: a :: after) := by
  intro name
  simp only [List.filter_append, List.filter_cons, decide_eq_true_eq]
  by_cases ha : lower a.1 = name
  · have hb : lower b.1 ≠ name := fun hb => h (ha.trans hb.symm)
    rw [if_neg hb, if_neg hb]
  · rw [if_neg ha, if_neg ha]

/-- Two headers of one name in different cases, the second with an end of line in its value. -/
theorem canonicalHeaders_fields_swapped :
    let first : Header := ("X-B".toList, " 1".toList)
    let host : Header := ("HOST".toList, "h".toList)
    let second : Header := ("x-b".toList, "2\r\n 3".toList)
    Reorders [first, host, second] [host, first, second] ∧
      canonicalHeaders [host, first, second] = canonicalHeaders [first, host, second] ∧
      canonicalHeaders [first, host, second] = ⟨"host:h\nx-b:1,2 3".toList, "host;x-b".toList⟩ := by
  intro first host second
  let fields : List Header := [("host".toList, "h".toList), ("x-b".toList, "1,2 3".toList)]
  have hreorders : Reorders [first, host, second] [host, first, second] :=
    reorders_swap (a := first) (b := host) (by decide +kernel) [] [second]
  have hlower : [first, host, second].map (fun h => lower h.1) =
      ["x-b".toList, "host".toList, "x-b".toList] := by decide +kernel
  have hfields : IsCanonical [first, host, second] fields := {
    names := fun name => by
      rw [← List.mem_map, hlower]
      simp only [fields, List.map_cons, List.map_nil, List.mem_cons]
      tauto
    ascending := by
      unfold Ascending
      decide +kernel
    values := by decide +kernel }
  obtain ⟨hcanonical, -, hlines, -, hswapped⟩ := canonicalHeaders_fields [first, host, second]
  refine ⟨hreorders, hswapped _ hreorders, ?_⟩
  rw [hlines, hcanonical.unique hfields fun _ => rfl]
  decide +kernel

end Signing

end MachineImage
