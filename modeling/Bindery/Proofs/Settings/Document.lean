import Bindery.Proofs.Settings.Layer
import Bindery.Settings.Load

/-!
# Settings files as layers

Two names are reserved in settings files. A table below the top of a document may not have an entry
of the one name, and an entry of the other stands for the table that it is in. Where neither gets in
the way of the settings, a file gives just the settings that its document assigns.
-/

namespace Bindery.Settings

namespace Toml

open Bindery.Text (Reader)

/-- The table that a document writes down, before reserved names are looked for. -/
def document? (text : String) : Option Table := do
  build? (← Reader.whole? statements text.toList)

/-- Reserved names are looked for in the table that is written down. -/
theorem read?_eq (text : String) : read? text = (document? text).bind contentsOfTable? := by
  rw [read?, document?]
  cases Reader.whole? statements text.toList <;> rfl

mutual

/-- No table in the value has an entry of the name that no entry may have. -/
def isUnmarked : Value → Bool
  | .table entries => (entries.lookup markName).isNone && areEntriesUnmarked entries
  | .sequence items => areItemsUnmarked items
  | _ => true

/-- No table in the values of the entries has one. -/
def areEntriesUnmarked : List (String × Value) → Bool
  | [] => true
  | (_, value) :: rest => isUnmarked value && areEntriesUnmarked rest

/-- No table in the items has one. -/
def areItemsUnmarked : List Value → Bool
  | [] => true
  | value :: rest => isUnmarked value && areItemsUnmarked rest

end

mutual

/-- A value without marks stands for some value. -/
theorem exists_content : (value : Value) → isUnmarked value = true →
    ∃ content, content? value = some content
  | .table entries, h => by
    rw [isUnmarked, Bool.and_eq_true] at h
    obtain ⟨inner, hinner⟩ := exists_contentsOfTable entries h.2
    rw [content?, if_neg (by simp [Option.isNone_iff_eq_none.mp h.1]), hinner]
    exact ⟨_, rfl⟩
  | .sequence items, h => by
    rw [isUnmarked] at h
    obtain ⟨contents, hcontents⟩ := exists_contentsOfItems items h
    rw [content?, hcontents]
    exact ⟨_, rfl⟩
  | .text s, _ => ⟨.text s, by simp [content?]⟩
  | .signed n, _ => ⟨.signed n, by simp [content?]⟩
  | .unsigned n, _ => ⟨.unsigned n, by simp [content?]⟩
  | .float shown, _ => ⟨.float shown, by simp [content?]⟩
  | .boolean b, _ => ⟨.boolean b, by simp [content?]⟩

/-- Entries without marks stand for some entries. -/
theorem exists_contentsOfTable : (entries : List (String × Value)) →
    areEntriesUnmarked entries = true → ∃ contents, contentsOfTable? entries = some contents
  | [], _ => ⟨[], by rw [contentsOfTable?]⟩
  | (name, value) :: rest, h => by
    rw [areEntriesUnmarked, Bool.and_eq_true] at h
    obtain ⟨content, hcontent⟩ := exists_content value h.1
    obtain ⟨contents, hcontents⟩ := exists_contentsOfTable rest h.2
    rw [contentsOfTable?, hcontent, hcontents]
    exact ⟨_, rfl⟩

/-- Items without marks stand for some items. -/
theorem exists_contentsOfItems : (items : List Value) → areItemsUnmarked items = true →
    ∃ contents, contentsOfItems? items = some contents
  | [], _ => ⟨[], by rw [contentsOfItems?]⟩
  | value :: rest, h => by
    rw [areItemsUnmarked, Bool.and_eq_true] at h
    obtain ⟨content, hcontent⟩ := exists_content value h.1
    obtain ⟨contents, hcontents⟩ := exists_contentsOfItems rest h.2
    rw [contentsOfItems?, hcontent, hcontents]
    exact ⟨_, rfl⟩

end

/-- The value stands for the content. -/
def StandsFor (value content : Value) : Prop :=
  content? value = some content

section contents

variable {entries contents : Table} {name : String}

/-- Entries stand for those of what their values stand for. -/
theorem contentsOfTable?_cons {value : Value} {rest : Table} :
    contentsOfTable? ((name, value) :: rest) = some contents ↔
      ∃ content others, StandsFor value content ∧ contentsOfTable? rest = some others ∧
        (name, content) :: others = contents := by
  rw [contentsOfTable?]
  simp only [StandsFor, Option.bind_eq_bind, Option.bind_eq_some_iff, Option.pure_def,
    Option.some.injEq]
  constructor
  · rintro ⟨content, hcontent, others, hothers, hsame⟩
    exact ⟨content, others, hcontent, hothers, hsame⟩
  · rintro ⟨content, others, hcontent, hothers, hsame⟩
    exact ⟨content, hcontent, others, hothers, hsame⟩

/-- Whatever is left under a name is what a value under that name stands for. -/
theorem exists_of_mem_contents (h : contentsOfTable? entries = some contents) {content : Value}
    (hmem : (name, content) ∈ contents) : ∃ value, (name, value) ∈ entries ∧
      StandsFor value content := by
  induction entries generalizing contents with
  | nil =>
    rw [contentsOfTable?, Option.some.injEq] at h
    rw [← h] at hmem
    cases hmem
  | cons entry rest ih =>
    obtain ⟨first, others, hfirst, hothers, rfl⟩ := contentsOfTable?_cons.mp h
    rcases List.mem_cons.mp hmem with hentry | hrest
    · obtain ⟨rfl, rfl⟩ := Prod.mk.inj hentry
      exact ⟨entry.2, List.mem_cons_self, hfirst⟩
    · obtain ⟨value, hvalue, hstands⟩ := ih hothers hrest
      exact ⟨value, List.mem_cons_of_mem _ hvalue, hstands⟩

/-- What a value under a name stands for is left under that name. -/
theorem exists_mem_contents (h : contentsOfTable? entries = some contents) {value : Value}
    (hmem : (name, value) ∈ entries) : ∃ content, (name, content) ∈ contents ∧
      StandsFor value content := by
  induction entries generalizing contents with
  | nil => cases hmem
  | cons entry rest ih =>
    obtain ⟨first, others, hfirst, hothers, rfl⟩ := contentsOfTable?_cons.mp h
    rcases List.mem_cons.mp hmem with hentry | hrest
    · obtain rfl := hentry
      exact ⟨first, List.mem_cons_self, hfirst⟩
    · obtain ⟨content, hcontent, hstands⟩ := ih hothers hrest
      exact ⟨content, List.mem_cons_of_mem _ hcontent, hstands⟩

end contents

/-- A table without reserved names of its own stands for the table of what its entries stand for. -/
theorem StandsFor.of_table {entries : Table} {content : Value}
    (h : StandsFor (.table entries) content) (hfree : entries.under contentName = []) :
    ∃ contents, content = .table contents ∧ contentsOfTable? entries = some contents := by
  rw [StandsFor, content?] at h
  split at h
  · cases h
  · obtain ⟨contents, hcontents, h⟩ := Option.bind_eq_some_iff.mp h
    have hlookup : List.lookup contentName contents = none := by
      rcases Table.picks_lookup contents contentName with ⟨after, hafter, -⟩ | ⟨-, hnone⟩
      · obtain ⟨value, hvalue, -⟩ := exists_of_mem_contents hcontents (Table.mem_under.mp hafter)
        rw [← Table.mem_under, hfree] at hvalue
        cases hvalue
      · exact hnone
    rw [hlookup] at h
    exact ⟨contents, (Option.some.inj h).symm, hcontents⟩

/-- A sequence of texts stands for itself. -/
theorem contentsOfItems_texts (texts : List String) :
    contentsOfItems? (texts.map .text) = some (texts.map .text) := by
  induction texts with
  | nil => rw [List.map_nil, contentsOfItems?]
  | cons text rest ih =>
    rw [List.map_cons, contentsOfItems?, ih]
    simp [content?]

/-- A value that is meant for a setting stands for itself. -/
theorem content?_of_means {key : Key} {value : Value} {content : key.Content}
    (h : key.Means value content) : content? value = some value := by
  have htexts (texts : List String) :
      content? (.sequence (texts.map .text)) = some (.sequence (texts.map .text)) := by
    rw [content?, contentsOfItems_texts]
    rfl
  cases key with
  | program | standard | functionPrefix | restrictToInput =>
    obtain rfl := h
    simp [content?]
  | includes | extraArguments | namespaces =>
    obtain rfl := h
    exact htexts content
  | counterStart => rcases h with rfl | rfl <;> simp [content?]

end Toml

/-- Reserved names are not in the way: no table below the top has an entry that none may have, and
no section has an entry that would stand for it. -/
structure Table.IsFree (table : Table) : Prop where
  /-- No table below the top has an entry that none may have. -/
  unmarked : Toml.areEntriesUnmarked table = true
  /-- No section has an entry that stands for the section. -/
  plain : ∀ key : Key, table.inside key.sectionName Toml.contentName = []

section contents

variable {assignment : Assignment} {key : Key} {value content : Value}

/-- A value that fits stands for itself. -/
theorem Table.Fits.eq_of_standsFor (h : Fits assignment key value)
    (hstands : Toml.StandsFor value content) : content = value := by
  obtain ⟨assigned, -, hmeans⟩ := h
  rw [Toml.StandsFor, Toml.content?_of_means hmeans, Option.some.injEq] at hstands
  exact hstands.symm

/-- A section without an entry that stands for it stands for a section with the same values of
settings. -/
theorem Table.SectionFits.of_standsFor (h : SectionFits assignment key value)
    (hplain : value.entries.under Toml.contentName = []) (hstands : Toml.StandsFor value content) :
    SectionFits assignment key content ∧
      value.entries.under key.name ⊆ content.entries.under key.name := by
  obtain ⟨inner, rfl, hinner⟩ := h
  obtain ⟨after, rfl, hafter⟩ := hstands.of_table hplain
  refine ⟨⟨after, rfl, fun found hfound => ?_⟩, fun found hfound => ?_⟩
  · obtain ⟨before, hbefore, hsame⟩ := Toml.exists_of_mem_contents hafter (mem_under.mp hfound)
    have hfits := hinner before (mem_under.mpr hbefore)
    rw [hfits.eq_of_standsFor hsame]
    exact hfits
  · obtain ⟨left, hleft, hsame⟩ := Toml.exists_mem_contents hafter (mem_under.mp hfound)
    rw [← (hinner found hfound).eq_of_standsFor hsame]
    exact mem_under.mpr hleft

/-- What a document assigns is what is left when reserved names have been looked for. -/
theorem Table.Assigns.exists_contents {table : Table} (h : table.Assigns assignment)
    (hfree : table.IsFree) : ∃ contents : Table, Toml.contentsOfTable? table = some contents ∧
      contents.Assigns assignment := by
  obtain ⟨contents, hcontents⟩ := Toml.exists_contentsOfTable table hfree.unmarked
  have hsection (key : Key) {place after : Value} (hplace : place ∈ table.under key.sectionName)
      (hstands : Toml.StandsFor place after) :=
    (h.agrees key place hplace).of_standsFor (List.flatMap_eq_nil_iff.mp (hfree.plain key) _ hplace)
      hstands
  refine ⟨contents, hcontents, fun key after hafter => ?_, fun key content hcontent => ?_⟩
  -- Each section that is left comes from one of the document, and each of the document is left.
  · obtain ⟨place, hplace, hstands⟩ := Toml.exists_of_mem_contents hcontents (mem_under.mp hafter)
    exact (hsection key (mem_under.mpr hplace) hstands).1
  · obtain ⟨value, hvalue⟩ := List.exists_mem_of_ne_nil _ (h.given key content hcontent)
    obtain ⟨place, hplace, hinside⟩ := List.mem_flatMap.mp hvalue
    obtain ⟨after, hafter, hstands⟩ := Toml.exists_mem_contents hcontents (mem_under.mp hplace)
    have hkept := (hsection key hplace hstands).2 hinside
    exact List.ne_nil_of_mem (List.mem_flatMap.mpr ⟨after, mem_under.mpr hafter, hkept⟩)

end contents

end Bindery.Settings
