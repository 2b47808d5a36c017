import MachineImage.Proofs.Conversion
import MachineImage.Proofs.Response

/-!
Replies that are cut short: what is read in the part that has come, element or list of regions, is
read in the whole, so that an end of the connection in between leaves things out and changes none.
-/
namespace MachineImage

open Markup

theorem Markup.extractText_append {body tag text : Text}
    (h : extractText body tag = .ok (some text)) (more : Text) :
    extractText (body ++ more) tag = .ok (some text) := by
  unfold extractText at h ⊢
  cases hfirst : extractFirst body tag with
  | error e =>
    rw [hfirst] at h
    cases h
  | ok found =>
    rw [hfirst] at h
    cases found with
    | none => cases h
    | some raw =>
      rw [extractFirst_append hfirst]
      exact h

/-- The regions are all in one element, so that there are all of them or none. -/
theorem Compute.regions_append {body : Text} {found : List Region}
    (h : regions body = .ok found) (more : Text) : regions (body ++ more) = .ok found := by
  unfold regions at h ⊢
  cases hinfo : extractFirst body "regionInfo".toList with
  | error e =>
    rw [hinfo] at h
    cases h
  | ok info =>
    rw [hinfo] at h
    cases info with
    | none => cases h
    | some info =>
      rw [extractFirst_append hinfo]
      simp only at h ⊢
      -- Only the fault that no region is named quotes the body.
      cases hnames : extractAll info "regionName".toList with
      | error e =>
        rw [hnames] at h
        cases h
      | ok names =>
        rw [hnames] at h
        cases names with
        | nil => cases h
        | cons name names => exact h

namespace Wire

theorem exists_of_apiBody {response : Octets} {body : Text} (h : apiBody response = .ok body) :
    ∃ head rest, Text.breakAfter separator [] response = some (head, rest) ∧
      Utf8.decode? rest = some body := by
  cases apiBody_eq_iff.1 h with
  | body _ _ hsplits =>
    exact ⟨_, _, breakAfter_separator_iff.2 ⟨_, rfl, hsplits⟩, Utf8.decode?_encode body⟩

/-- The body of a response that has come in part is the beginning of the whole one. -/
theorem prefix_of_apiBody {part response : Octets} {received whole : Text} (h : part <+: response)
    (hpart : apiBody part = .ok received) (hwhole : apiBody response = .ok whole) :
    received <+: whole := by
  obtain ⟨more, rfl⟩ := h
  obtain ⟨head, rest, hbreak, hread⟩ := exists_of_apiBody hpart
  obtain ⟨head', rest', hbreak', hread'⟩ := exists_of_apiBody hwhole
  rw [Text.breakAfter_append_right hbreak] at hbreak'
  cases hbreak'
  rw [Utf8.decode?_append hread] at hread'
  obtain ⟨tail, -, htail⟩ := Option.map_eq_some_iff.1 hread'
  exact ⟨tail, htail⟩

end Wire

/-- What is read in the one text is read in the other. -/
structure Settled (received whole : Text) : Prop where
  first : ∀ tag content, extractFirst received tag = .ok (some content) →
    extractFirst whole tag = .ok (some content)
  text : ∀ tag text, extractText received tag = .ok (some text) →
    extractText whole tag = .ok (some text)
  regions : ∀ found, Compute.regions received = .ok found → Compute.regions whole = .ok found

/-- A body that was cut short anywhere gives no other value than the whole, and neither does a
response that was cut short anywhere. -/
theorem settled_truncated :
    (∀ received whole : Text, received <+: whole → Settled received whole) ∧
      ∀ (part response : Octets) (received whole : Text), part <+: response →
        Wire.apiBody part = .ok received → Wire.apiBody response = .ok whole →
        Settled received whole := by
  have hbodies : ∀ received whole : Text, received <+: whole → Settled received whole := by
    rintro received _ ⟨more, rfl⟩
    exact ⟨fun _ _ h => extractFirst_append h more, fun _ _ h => extractText_append h more,
      fun _ h => Compute.regions_append h more⟩
  exact ⟨hbodies, fun _ _ _ _ hprefix hpart hwhole =>
    hbodies _ _ (Wire.prefix_of_apiBody hprefix hpart hwhole)⟩

/-- A response whose connection ended in the middle of a tag. -/
theorem settled_truncated_regions :
    let received := "<r><regionInfo><i><regionName> eu-west-1 </regionName></i></regionInfo><re"
    let whole := received ++ "questId>7</requestId></r>"
    let head := "HTTP/1.1 200 OK\r\n\r\n"
    Wire.apiBody (Utf8.encode (head ++ received).toList) = .ok received.toList ∧
      Wire.apiBody (Utf8.encode (head ++ whole).toList) = .ok whole.toList ∧
      Compute.regions received.toList = .ok [⟨"eu-west-1".toList⟩] ∧
      Compute.regions whole.toList = .ok [⟨"eu-west-1".toList⟩] := by
  intro received whole head
  have hpart : Wire.apiBody (Utf8.encode (head ++ received).toList) = .ok received.toList :=
    Compute.toOption_eq_some (by decide +kernel)
  have hwhole : Wire.apiBody (Utf8.encode (head ++ whole).toList) = .ok whole.toList :=
    Compute.toOption_eq_some (by decide +kernel)
  have hregions : Compute.regions received.toList = .ok [⟨"eu-west-1".toList⟩] :=
    Compute.toOption_eq_some (by decide +kernel)
  have hprefix : Utf8.encode (head ++ received).toList <+: Utf8.encode (head ++ whole).toList := by
    decide +kernel
  exact ⟨hpart, hwhole, hregions,
    (settled_truncated.2 _ _ _ _ hprefix hpart hwhole).regions _ hregions⟩

end MachineImage
