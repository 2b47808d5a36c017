import MachineImage.Manifest
import MachineImage.Proofs.Forest

/-!
The manifest read back: what a draft is finished from can be extracted from its document.
-/
namespace MachineImage

open Text

namespace Markup

/-- Whatever is asked for, reading the text does not fail. -/
structure Readable (s : Text) : Prop where
  all : ∀ tag, ∃ found, extractAll s tag = .ok found
  first : ∀ tag, ∃ found, extractFirst s tag = .ok found
  text : ∀ tag, ∃ found, extractText s tag = .ok found

/-- No value of an attribute has a reference. -/
def Tag.Unreferring (t : Tag) : Prop := ∀ a ∈ t.attributes, '&' ∉ a.value

theorem Tag.Unreferring.not_mem_content {t : Tag} (h : t.Unreferring) : '&' ∉ t.content := by
  have hattribute : ∀ a ∈ t.attributes, '&' ∉ a.render := by
    intro a ha
    have hquote : '&' ≠ a.quote := by
      rcases a.isQuote with hq | hq <;> rw [hq] <;> decide
    simp [Attribute.render, not_mem_of_isName a.isName_name, h a ha, hquote]
  intro hmem
  rcases List.mem_append.1 hmem with hmem | hmem
  · exact not_mem_of_isName t.isName_name hmem
  · obtain ⟨a, ha, hmem⟩ := List.mem_flatMap.1 hmem
    exact hattribute a ha hmem

namespace Forest

/-- Every reference in the forest is one of those with a name, and none stands in a tag. -/
def Legible : Forest → Prop
  | nil => True
  | content s _ rest => (∃ t, Reads s t) ∧ rest.Legible
  | aside s _ rest => '&' ∉ s ∧ rest.Legible
  | empty tag rest => tag.Unreferring ∧ rest.Legible
  | element tag children rest => tag.Unreferring ∧ children.Legible ∧ rest.Legible

theorem Legible.reads {f : Forest} (h : f.Legible) : ∃ t, Reads f.render t := by
  induction f with
  | nil => exact ⟨[], .nil⟩
  | content s quiet f ih =>
    obtain ⟨⟨t, ht⟩, h⟩ := h
    obtain ⟨t', ht'⟩ := ih h
    exact ⟨_, ht.append ht'⟩
  | aside s isAside f ih =>
    obtain ⟨t', ht'⟩ := ih h.2
    exact ⟨_, (reads_of_not_mem h.1).append ht'⟩
  | empty t f ih =>
    obtain ⟨t', ht'⟩ := ih h.2
    have htag : '&' ∉ t.empty := by simpa [Tag.empty] using h.1.not_mem_content
    exact ⟨_, (reads_of_not_mem htag).append ht'⟩
  | element t children f ihChildren ih =>
    obtain ⟨htag, hchildren, h⟩ := h
    obtain ⟨t₁, ht₁⟩ := ihChildren hchildren
    obtain ⟨t₂, ht₂⟩ := ih h
    have hopening : '&' ∉ t.opening := by simpa [Tag.opening] using htag.not_mem_content
    have hclosing : '&' ∉ t.closing := by
      simpa [Tag.closing] using not_mem_of_isName t.isName_name
    exact ⟨_, (reads_of_not_mem hopening).append
      (ht₁.append ((reads_of_not_mem hclosing).append ht₂))⟩

theorem Legible.reads_of_mem {f : Forest} (h : f.Legible) {tag s : Text}
    (hs : s ∈ f.outermost tag) : ∃ t, Reads s t := by
  induction f with
  | nil => exact absurd hs List.not_mem_nil
  | content s' quiet f ih => exact ih h.2 hs
  | aside s' isAside f ih => exact ih h.2 hs
  | empty t f ih =>
    rw [outermost] at hs
    split at hs
    · rcases List.mem_cons.1 hs with rfl | hs
      · exact ⟨[], .nil⟩
      · exact ih h.2 hs
    · exact ih h.2 hs
  | element t children f ihChildren ih =>
    obtain ⟨-, hchildren, h⟩ := h
    rw [outermost] at hs
    split at hs
    · rcases List.mem_cons.1 hs with rfl | hs
      · exact hchildren.reads
      · exact ih h hs
    · rcases List.mem_append.1 hs with hs | hs
      · exact ihChildren hchildren hs
      · exact ih h hs

variable {f : Forest} (h : f.render.head? ≠ some '\uFEFF')

include h

theorem extractText_render {tag raw t : Text} (hfound : (f.outermost tag).head? = some raw)
    (hraw : Reads raw t) : extractText f.render tag = .ok (some (trim t)) := by
  rw [extractText, extractFirst_of_extractAll (extractAll_render h tag), hfound]
  simp only [unescape_of_reads hraw.trim]

theorem Legible.readable (hf : f.Legible) : Readable f.render where
  all tag := ⟨_, extractAll_render h tag⟩
  first tag := ⟨_, extractFirst_of_extractAll (extractAll_render h tag)⟩
  text tag := by
    cases hfound : (f.outermost tag).head? with
    | none =>
      refine ⟨none, ?_⟩
      rw [extractText, extractFirst_of_extractAll (extractAll_render h tag), hfound]
    | some raw =>
      obtain ⟨t, ht⟩ := hf.reads_of_mem (List.mem_of_head? hfound)
      exact ⟨_, extractText_render h hfound ht⟩

end Forest

/-- The tag with that name. -/
def tagOf (name : String) (as : List Attribute) (h : isName name.toList = true) : Tag :=
  ⟨name.toList, as, h⟩

/-- An element with nothing but text in it, in front of other nodes. -/
def leaf (name : String) (h : isName name.toList = true) (s : Text) (quiet : Quiet s)
    (rest : Forest) : Forest :=
  .element (tagOf name [] h) (.content s quiet .nil) rest

theorem Reads.content {s t : Text} (h : Reads s t) {quiet : Quiet s} :
    Reads (Forest.content s quiet .nil).render t := by
  rwa [Forest.render, Forest.render, List.append_nil]

theorem render_element {name : String} {h} {children rest : Forest} :
    (Forest.element (tagOf name [] h) children rest).render =
      element name children.render ++ rest.render := by
  simp [Forest.render, element, Tag.opening, Tag.closing, Tag.content, tagOf]

theorem render_leaf {name : String} {h} {s : Text} {quiet : Quiet s} {rest : Forest} :
    (leaf name h s quiet rest).render = element name s ++ rest.render := by
  rw [leaf, render_element, Forest.render, Forest.render, List.append_nil]

theorem legible_leaf {name : String} {h} {s t : Text} {quiet : Quiet s} {rest : Forest}
    (hs : Reads s t) (hrest : rest.Legible) : (leaf name h s quiet rest).Legible :=
  ⟨nofun, ⟨⟨t, hs⟩, trivial⟩, hrest⟩

theorem quiet_escapeText (s : Text) : Quiet (escapeText s) :=
  (reads_escapeText s).quiet (not_mem_escapeText s)

theorem quiet_escapeAmpersands {s : Text} (h : '<' ∉ s) : Quiet (escapeAmpersands s) :=
  (reads_escapeAmpersands s).quiet (not_mem_escapeAmpersands h)

theorem not_mem_digits {c : Char} (hc : c.isDigit = false) (n : Nat) : c ∉ Decimal.digits n := by
  intro h
  rw [Decimal.isDigit_of_mem_digits h] at hc
  exact absurd hc (by decide)

theorem reads_digits (n : Nat) : Reads (Decimal.digits n) (Decimal.digits n) :=
  reads_of_not_mem (not_mem_digits rfl n)

theorem quiet_digits (n : Nat) : Quiet (Decimal.digits n) :=
  (reads_digits n).quiet (not_mem_digits rfl n)

/-- An attribute with a number. -/
def numbered (name : String) (h : isName name.toList = true) (n : Nat) : Attribute :=
  ⟨name.toList, '"', Decimal.digits n, h, .inr rfl, not_mem_digits rfl n⟩

theorem render_numbered {name : String} {h} {n : Nat} :
    (numbered name h n).render = numberAttribute name n := by
  simp [numbered, Attribute.render, numberAttribute]

end Markup

open Markup

namespace Part

/-- A URL is written as it is but for its ampersands, so it must not open a tag. -/
structure PlainUrls (p : Part) : Prop where
  head : '<' ∉ p.headUrl
  get : '<' ∉ p.getUrl
  delete : '<' ∉ p.deleteUrl

/-- The entry of the manifest gives the part back. -/
structure ReadsBack (p : Part) (entry : Text) : Prop where
  readable : Readable entry
  range : ("<byte-range start=\"".toList ++ Decimal.digits p.start ++ "\" end=\"".toList ++
    Decimal.digits p.stop ++ "\"/>".toList) <+: entry
  key : extractText entry "key".toList = .ok (some (trim p.key))
  headUrl : extractText entry "head-url".toList = .ok (some (trim p.headUrl))
  getUrl : extractText entry "get-url".toList = .ok (some (trim p.getUrl))
  deleteUrl : extractText entry "delete-url".toList = .ok (some (trim p.deleteUrl))

variable {p : Part}

/-- What stands between the tags of the part. -/
def contents (h : p.PlainUrls) : Forest :=
  .empty (tagOf "byte-range"
      [numbered "start" (by decide) p.start, numbered "end" (by decide) p.stop] (by decide)) <|
    leaf "key" (by decide) _ (quiet_escapeText p.key) <|
    leaf "head-url" (by decide) _ (quiet_escapeAmpersands h.head) <|
    leaf "get-url" (by decide) _ (quiet_escapeAmpersands h.get) <|
    leaf "delete-url" (by decide) _ (quiet_escapeAmpersands h.delete) .nil

theorem render_contents (h : p.PlainUrls) : (contents h).render =
    ("<byte-range".toList ++ numberAttribute "start" p.start ++ numberAttribute "end" p.stop ++
      "/>".toList) ++
    textElement "key" p.key ++ urlElement "head-url" p.headUrl ++ urlElement "get-url" p.getUrl ++
    urlElement "delete-url" p.deleteUrl := by
  simp only [contents, Forest.render, render_leaf, textElement, urlElement, Tag.empty, Tag.content,
    tagOf, List.flatMap_cons, List.flatMap_nil, render_numbered, List.append_nil]
  simp

/-- The start tag of the part. -/
def tag (p : Part) : Tag := tagOf "part" [numbered "index" (by decide) p.index] (by decide)

theorem render_eq (h : p.PlainUrls) :
    p.render = p.tag.opening ++ ((contents h).render ++ p.tag.closing) := by
  have hopening : "<part".toList = '<' :: "part".toList := rfl
  have hclosing : "</part>".toList = '<' :: '/' :: ("part".toList ++ ['>']) := rfl
  rw [render_contents]
  delta render
  simp only [tag, Tag.opening, Tag.closing, Tag.content, tagOf, List.flatMap_cons, List.flatMap_nil,
    render_numbered, hopening, hclosing, List.append_assoc, List.cons_append, List.nil_append]

theorem legible_contents (h : p.PlainUrls) : (contents h).Legible := by
  refine ⟨?_, legible_leaf (reads_escapeText _) <| legible_leaf (reads_escapeAmpersands _) <|
    legible_leaf (reads_escapeAmpersands _) <| legible_leaf (reads_escapeAmpersands _) trivial⟩
  exact List.forall_mem_cons.2
    ⟨not_mem_digits rfl _, List.forall_mem_singleton.2 (not_mem_digits rfl _)⟩

theorem readsBack_contents (h : p.PlainUrls) : p.ReadsBack (contents h).render := by
  have hhead : (contents h).render.head? ≠ some '\uFEFF' := by
    rw [render_contents]
    exact nofun
  constructor
  case readable => exact (legible_contents h).readable hhead
  case range =>
    rw [render_contents]
    simp [numberAttribute]
  case key => exact Forest.extractText_render hhead rfl (reads_escapeText _).content
  case headUrl => exact Forest.extractText_render hhead rfl (reads_escapeAmpersands _).content
  case getUrl => exact Forest.extractText_render hhead rfl (reads_escapeAmpersands _).content
  case deleteUrl => exact Forest.extractText_render hhead rfl (reads_escapeAmpersands _).content

end Part

namespace ManifestDraft

/-- The document gives back what the draft was made from. -/
structure ReadsBack (d : ManifestDraft) (document : Text) : Prop where
  readable : Readable document
  /-- One entry for each part, in the order in which they were pushed. -/
  parts : ∃ entries, extractAll document "part".toList = .ok entries ∧
    List.Forall₂ Part.ReadsBack d.parts entries
  importer : ∃ content, extractFirst document "importer".toList = .ok (some content) ∧
    Readable content ∧
    extractText content "name".toList = .ok (some (trim d.importer.name)) ∧
    extractText content "version".toList = .ok (some (trim d.importer.version)) ∧
    extractText content "release".toList = .ok (some (trim d.importer.release))
  selfDestructUrl : extractText document "self-destruct-url".toList =
    .ok (some (trim d.selfDestructUrl))
  size : extractText document "size".toList = .ok (some (Decimal.digits d.size))
  /-- The fewest gibibytes that hold the image. -/
  volumeSize : ∃ n, extractText document "volume-size".toList = .ok (some (Decimal.digits n)) ∧
    d.size ≤ n * gibibyte ∧ ∀ m, d.size ≤ m * gibibyte → n ≤ m

/-- The entries of the parts. -/
def entries : (parts : List Part) → (∀ p ∈ parts, p.PlainUrls) → Forest
  | [], _ => .nil
  | p :: parts, h =>
    .element p.tag (Part.contents (h p List.mem_cons_self))
      (entries parts fun p hp => h p (List.mem_cons_of_mem _ hp))

theorem render_entries {parts : List Part} (h : ∀ p ∈ parts, p.PlainUrls) :
    (entries parts h).render = parts.flatMap Part.render := by
  induction parts with
  | nil => rfl
  | cons p parts ih =>
    rw [entries, Forest.render, ih, List.flatMap_cons, Part.render_eq (h p List.mem_cons_self)]
    simp only [List.append_assoc]

theorem outermost_entries {parts : List Part} (h : ∀ p ∈ parts, p.PlainUrls) :
    List.Forall₂ Part.ReadsBack parts ((entries parts h).outermost "part".toList) := by
  induction parts with
  | nil => exact .nil
  | cons p parts ih =>
    have htag : localName p.tag.name = "part".toList := rfl
    rw [entries, Forest.outermost, if_pos htag]
    exact .cons (Part.readsBack_contents _) (ih _)

theorem legible_entries {parts : List Part} (h : ∀ p ∈ parts, p.PlainUrls) :
    (entries parts h).Legible := by
  induction parts with
  | nil => trivial
  | cons p parts ih =>
    exact ⟨List.forall_mem_singleton.2 (not_mem_digits rfl _), Part.legible_contents _, ih _⟩

/-- The declaration in front of the document is no element. -/
theorem isAside_declaration :
    IsAside "<?xml version=\"1.0\" encoding=\"UTF-8\" standalone=\"yes\"?>".toList :=
  .instruction (s := "xml version=\"1.0\" encoding=\"UTF-8\" standalone=\"yes\"".toList)
    (by decide) (by decide)

/-- What stands between the tags of the importer. -/
def importerContents (i : Importer) : Forest :=
  leaf "name" (by decide) _ (quiet_escapeText i.name) <|
    leaf "version" (by decide) _ (quiet_escapeText i.version) <|
    leaf "release" (by decide) _ (quiet_escapeText i.release) .nil

theorem render_importerContents (i : Importer) : (importerContents i).render =
    textElement "name" i.name ++ textElement "version" i.version ++
      textElement "release" i.release := by
  rw [importerContents, render_leaf, render_leaf, render_leaf, Forest.render, List.append_nil,
    textElement, textElement, textElement, List.append_assoc]

/-- The start tag of the list of parts. -/
def partsTag (d : ManifestDraft) : Tag :=
  tagOf "parts" [numbered "count" (by decide) d.parts.length] (by decide)

theorem render_partsTag (d : ManifestDraft) (s : Text) :
    d.partsTag.opening ++ (s ++ d.partsTag.closing) =
      "<parts".toList ++ numberAttribute "count" d.parts.length ++ '>' :: s ++
        "</parts>".toList := by
  have hopening : "<parts".toList = '<' :: "parts".toList := rfl
  have hclosing : "</parts>".toList = '<' :: '/' :: ("parts".toList ++ ['>']) := rfl
  simp only [partsTag, Tag.opening, Tag.closing, Tag.content, tagOf, List.flatMap_cons,
    List.flatMap_nil, render_numbered, hopening, hclosing, List.append_assoc, List.cons_append,
    List.nil_append]

variable {d : ManifestDraft}

/-- The manifest as a forest. -/
def contents (hUrl : '<' ∉ d.selfDestructUrl) (hParts : ∀ p ∈ d.parts, p.PlainUrls) : Forest :=
  .aside _ isAside_declaration <|
    .element (tagOf "manifest" [] (by decide))
      (leaf "version" (by decide) _ (quiet_escapeText "2010-11-15".toList) <|
        leaf "file-format" (by decide) _ (quiet_escapeText "RAW".toList) <|
        .element (tagOf "importer" [] (by decide)) (importerContents d.importer) <|
        leaf "self-destruct-url" (by decide) _ (quiet_escapeAmpersands hUrl) <|
        .element (tagOf "import" [] (by decide))
          (leaf "size" (by decide) _ (quiet_digits d.size) <|
            leaf "volume-size" (by decide) _ (quiet_digits (volumeGibibytes d.size)) <|
            .element d.partsTag (entries d.parts hParts) .nil)
          .nil)
      .nil

theorem render_contents (hUrl : '<' ∉ d.selfDestructUrl) (hParts : ∀ p ∈ d.parts, p.PlainUrls) :
    (contents hUrl hParts).render = d.render := by
  delta render
  rw [contents, Forest.render, render_element, Forest.render, render_leaf, render_leaf,
    render_element, render_importerContents, render_leaf, render_element, Forest.render,
    render_leaf, render_leaf, Forest.render, Forest.render, render_entries]
  simp only [List.append_nil, List.append_assoc, render_partsTag, textElement, numberElement,
    urlElement]

theorem legible_importerContents (i : Importer) : (importerContents i).Legible :=
  legible_leaf (reads_escapeText _) <| legible_leaf (reads_escapeText _) <|
    legible_leaf (reads_escapeText _) trivial

theorem legible_contents (hUrl : '<' ∉ d.selfDestructUrl) (hParts : ∀ p ∈ d.parts, p.PlainUrls) :
    (contents hUrl hParts).Legible := by
  have hcount : d.partsTag.Unreferring := List.forall_mem_singleton.2 (not_mem_digits rfl _)
  have himport : Forest.Legible
      (leaf "size" (by decide) _ (quiet_digits d.size) <|
        leaf "volume-size" (by decide) _ (quiet_digits (volumeGibibytes d.size)) <|
        .element d.partsTag (entries d.parts hParts) .nil) :=
    legible_leaf (reads_digits _) <|
      legible_leaf (reads_digits _) ⟨hcount, legible_entries hParts, trivial⟩
  refine ⟨by decide, nofun, ?_, trivial⟩
  exact legible_leaf (reads_escapeText _) <| legible_leaf (reads_escapeText _)
    ⟨nofun, legible_importerContents d.importer,
      legible_leaf (reads_escapeAmpersands _) ⟨nofun, himport, trivial⟩⟩

/-- Of the document only the list of parts has elements of that name. -/
theorem outermost_part (hUrl : '<' ∉ d.selfDestructUrl) (hParts : ∀ p ∈ d.parts, p.PlainUrls) :
    (contents hUrl hParts).outermost "part".toList =
      (entries d.parts hParts).outermost "part".toList := by
  -- The names are all known, so that the search computes as far as the entries.
  have hcomputed : (contents hUrl hParts).outermost "part".toList =
      (entries d.parts hParts).outermost "part".toList ++ [] ++ [] ++ [] := rfl
  rw [hcomputed, List.append_nil, List.append_nil, List.append_nil]

theorem volumeGibibytes_le_iff {size n : Nat} :
    volumeGibibytes size ≤ n ↔ size ≤ n * gibibyte := by
  unfold volumeGibibytes gibibyte
  omega

theorem readsBack_importerContents (i : Importer) :
    Readable (importerContents i).render ∧
      extractText (importerContents i).render "name".toList = .ok (some (trim i.name)) ∧
      extractText (importerContents i).render "version".toList = .ok (some (trim i.version)) ∧
      extractText (importerContents i).render "release".toList = .ok (some (trim i.release)) := by
  have hhead : (importerContents i).render.head? ≠ some '\uFEFF' := by
    rw [render_importerContents]
    exact nofun
  exact ⟨(legible_importerContents i).readable hhead,
    Forest.extractText_render hhead rfl (reads_escapeText _).content,
    Forest.extractText_render hhead rfl (reads_escapeText _).content,
    Forest.extractText_render hhead rfl (reads_escapeText _).content⟩

theorem readsBack_render (hUrl : '<' ∉ d.selfDestructUrl) (hParts : ∀ p ∈ d.parts, p.PlainUrls) :
    d.ReadsBack d.render := by
  have hhead : (contents hUrl hParts).render.head? ≠ some '\uFEFF' := by
    rw [render_contents]
    exact nofun
  rw [← render_contents hUrl hParts]
  constructor
  case readable => exact (legible_contents hUrl hParts).readable hhead
  case parts =>
    refine ⟨_, Forest.extractAll_render hhead _, ?_⟩
    rw [outermost_part]
    exact outermost_entries hParts
  case importer =>
    refine ⟨(importerContents d.importer).render, ?_, readsBack_importerContents d.importer⟩
    exact extractFirst_of_extractAll (Forest.extractAll_render hhead _)
  case selfDestructUrl =>
    exact Forest.extractText_render hhead rfl (reads_escapeAmpersands d.selfDestructUrl).content
  case size =>
    rw [← (visible_digits d.size).trim_eq]
    exact Forest.extractText_render hhead rfl (reads_digits _).content
  case volumeSize =>
    refine ⟨volumeGibibytes d.size, ?_, volumeGibibytes_le_iff.1 le_rfl,
      fun m hm => volumeGibibytes_le_iff.2 hm⟩
    rw [← (visible_digits (volumeGibibytes d.size)).trim_eq]
    exact Forest.extractText_render hhead rfl (reads_digits _).content

/-- What is finished can be read back. -/
theorem finish_readsBack {m : Manifest} (h : d.finish = .ok m) (hUrl : '<' ∉ d.selfDestructUrl)
    (hParts : ∀ p ∈ d.parts, p.PlainUrls) : d.ReadsBack m.document := by
  have hdocument : m.document = d.render := by
    unfold finish at h
    split at h <;> cases h
    rfl
  rw [hdocument]
  exact readsBack_render hUrl hParts

/-- Two parts, with reserved characters in the name of the importer, the keys and the URLs. -/
theorem finish_readsBack_reserved :
    let p : Part := ⟨0, 0, 4, " </key>&amp;".toList, "https://h/?a=1&b=2".toList,
      "https://h/?a=\">\"".toList, "]]>".toList⟩
    let q : Part := ⟨1, 5, 8, "<part>".toList, "&lt;".toList, [], "https://h/?m=D&x=]]>".toList⟩
    let d : ManifestDraft :=
      ⟨⟨"<&'\">".toList, " 1 ".toList, []⟩, "https://h/m?&amp;".toList, 9, [p, q]⟩
    d.finish = .ok ⟨d.render, 9, [p, q]⟩ ∧ '<' ∉ d.selfDestructUrl ∧
      (∀ p ∈ d.parts, p.PlainUrls) ∧ d.ReadsBack d.render := by
  intro p q d
  have hfinish : d.finish = .ok ⟨d.render, 9, [p, q]⟩ := if_pos rfl
  have hUrl : '<' ∉ d.selfDestructUrl := by decide
  have hParts : ∀ p ∈ d.parts, p.PlainUrls := by
    refine List.forall_mem_cons.2 ⟨?_, List.forall_mem_singleton.2 ?_⟩
    · exact ⟨by decide, by decide, by decide⟩
    · exact ⟨by decide, by decide, by decide⟩
  exact ⟨hfinish, hUrl, hParts, finish_readsBack hfinish hUrl hParts⟩

end ManifestDraft

end MachineImage
