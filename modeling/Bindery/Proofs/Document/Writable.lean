import Bindery.Proofs.Document.Spelling
import Mathlib.Data.List.Nodup

/-!
# Trees that can be written

A list of trees can be written if every element in it has a name for its name and for each of its
keys, and no key twice. There is no other condition, neither on values nor on the depth of trees.
-/

namespace Bindery

open Markup

/-- An element that can be written, as far as its name and its attributes tell. -/
structure Element.Writable (e : Element) : Prop where
  /-- Its name is one. -/
  name : isName e.name.toList = true
  /-- Its keys are names. -/
  keys : ∀ entry ∈ e.attributes, isName entry.1.toList = true
  /-- Its keys are distinct. -/
  distinct : (e.attributes.map Prod.fst).Nodup

namespace Markup

open Element

/-- The text of a name is one. -/
theorem Name.isName_text (name : Name) : isName name.text.toList = true := by
  rw [Name.text, String.toList_ofList, Name.chars, isName, name.hfirst, Bool.true_and,
    List.all_eq_true]
  exact name.hothers

/-- A text that is a name is the text of that name. -/
theorem Name.chars_ofString {text : String} (h : isName text.toList = true) :
    (Name.ofString text).chars = text.toList := by
  unfold Name.ofString
  split
  · next hnil => rw [hnil] at h; cases h
  · next first others hcons =>
    rw [hcons, isName, Bool.and_eq_true] at h
    rw [dif_pos h, hcons]
    rfl

/-- Attributes that are written have names for keys, and no key twice. -/
theorem writable_node (name : Name) (attributes : Attributes) (children : List Element) :
    (Element.node name.text attributes.pairs children).Writable where
  name := name.isName_text
  keys := by
    intro entry hentry
    obtain ⟨own, _, rfl⟩ := List.mem_map.mp hentry
    exact own.key.isName_text
  distinct := by
    have hinjective : Function.Injective String.ofList :=
      Function.LeftInverse.injective fun chars => String.toList_ofList
    have hkeys := List.Nodup.map hinjective attributes.hkeys
    rw [List.map_map] at hkeys
    rw [Element.attributes, Attributes.pairs, List.map_map]
    exact hkeys

/-- All elements of a spelling can be written. -/
theorem Spelling.writable_elements (spelling : Spelling) :
    ∀ e ∈ subtreesAll spelling.elements, e.Writable := by
  induction spelling with
  | text gap => exact fun _ he => absurd he List.not_mem_nil
  | single before name attributes rest ih =>
    intro e he
    rw [Spelling.elements, subtreesAll, subtrees, List.cons_append, List.mem_cons] at he
    rcases he with rfl | hrest
    · exact writable_node name attributes []
    · exact ih e hrest
  | paired before name attributes content rest ihcontent ihrest =>
    intro e he
    rw [Spelling.elements, subtreesAll, subtrees, List.cons_append, List.mem_cons,
      List.mem_append] at he
    rcases he with rfl | hcontent | hrest
    · exact writable_node name attributes content.elements
    · exact ihcontent e hcontent
    · exact ihrest e hrest

/-- The attributes of an element that can be written can be spelled. -/
theorem exists_attributes {e : Element} (h : e.Writable) :
    ∃ attributes : Attributes, attributes.pairs = e.attributes := by
  let spell (entry : String × String) : Attribute := ⟨.ofString entry.1, entry.2, .double⟩
  have hkey : ∀ entry ∈ e.attributes, (spell entry).key.chars = entry.1.toList :=
    fun entry hentry => Name.chars_ofString (h.keys entry hentry)
  have hkeys : ((e.attributes.map spell).map (·.key.chars)).Nodup := by
    have hinjective : Function.Injective String.toList :=
      Function.LeftInverse.injective fun text => String.ofList_toList
    have hdistinct := List.Nodup.map hinjective h.distinct
    have hsame : e.attributes.map ((·.key.chars) ∘ spell) =
        e.attributes.map (String.toList ∘ Prod.fst) := List.map_congr_left hkey
    rw [List.map_map] at hdistinct ⊢
    rwa [hsame]
  refine ⟨⟨e.attributes.map spell, hkeys⟩, ?_⟩
  rw [Attributes.pairs, List.map_map]
  refine (List.map_congr_left fun entry hentry => ?_).trans (List.map_id e.attributes)
  rw [Function.comp_apply, Attribute.pair, Name.text, hkey entry hentry, String.ofList_toList]
  rfl

/-- Trees of elements that can be written can be spelled. -/
theorem exists_spelling {elements : List Element}
    (h : ∀ e ∈ subtreesAll elements, e.Writable) :
    ∃ spelling : Spelling, spelling.elements = elements := by
  have gap : Gap := ⟨[], List.not_mem_nil⟩
  induction elements using listInduction with
  | nil => exact ⟨.text gap, rfl⟩
  | cons name attributes children rest ihchildren ihrest =>
    rw [subtreesAll, subtrees, List.cons_append, List.forall_mem_cons, List.forall_mem_append] at h
    obtain ⟨content, rfl⟩ := ihchildren h.2.1
    obtain ⟨after, rfl⟩ := ihrest h.2.2
    obtain ⟨own, hown⟩ := exists_attributes h.1
    have hname : (Name.ofString name).text = name := by
      have hchars : (Name.ofString name).chars = name.toList := Name.chars_ofString h.1.name
      rw [Name.text, hchars, String.ofList_toList]
    refine ⟨.paired gap (.ofString name) own content after, ?_⟩
    rw [Spelling.elements, hname, hown]
    rfl

/-- The trees of documents are those of elements that can be written. -/
theorem exists_document_iff {elements : List Element} :
    (∃ document : Document, document.elements = elements) ↔
      ∀ e ∈ subtreesAll elements, e.Writable := by
  constructor
  · rintro ⟨document, rfl⟩
    cases document with
    | single before name attributes after => exact fun _ he => absurd he List.not_mem_nil
    | paired before name attributes content after => exact content.writable_elements
  · intro h
    have gap : Gap := ⟨[], List.not_mem_nil⟩
    obtain ⟨spelling, hspelling⟩ := exists_spelling h
    exact ⟨.paired gap (.ofString "document") ⟨[], .nil⟩ spelling gap, hspelling⟩

end Markup

end Bindery
