import Bindery.Text.Blank

/-!
# Fields of a text

How a text falls into fields is settled by its separators: a separator between two texts keeps
their fields apart, and a text without separators is one field. The fields of a text can be changed
in their places, each on its own, with the separators left standing. A cut at `::` keeps apart what
stands before the first colon.
-/

namespace Bindery.Text

variable {separates : Char → Bool} {mark c : Char} {before after text field : List Char}
  {f : List Char → List Char}

/-- Changing the first of several fields leaves those behind it. -/
theorem modifyHead_append {fields : List (List Char)} (hfields : fields ≠ [])
    (later : List (List Char)) :
    (fields ++ later).modifyHead f = fields.modifyHead f ++ later := by
  cases fields with
  | nil => exact absurd rfl hfields
  | cons first rest => rfl

/-- Every text has a first field. -/
theorem fields_ne_nil (separates : Char → Bool) (text : List Char) :
    fields separates text ≠ [] := by
  induction text with
  | nil => exact List.cons_ne_nil _ _
  | cons c rest ih =>
    rw [fields]
    split
    · exact List.cons_ne_nil _ _
    · cases hfields : fields separates rest with
      | nil => exact absurd hfields ih
      | cons first others => exact List.cons_ne_nil _ _

/-- A separator keeps the fields before it and behind it apart. -/
theorem fields_append_cons (hc : separates c = true) (before after : List Char) :
    fields separates (before ++ c :: after) =
      fields separates before ++ fields separates after := by
  induction before with
  | nil => simp [fields, hc]
  | cons first rest ih =>
    rw [List.cons_append, fields, fields, ih]
    split
    · rfl
    · exact modifyHead_append (fields_ne_nil separates rest) _

/-- A text without separators is one field. -/
theorem fields_eq_singleton (h : ∀ c ∈ text, separates c = false) :
    fields separates text = [text] := by
  induction text with
  | nil => rfl
  | cons c rest ih =>
    rw [List.forall_mem_cons] at h
    rw [fields, ih h.2, h.1]
    rfl

/-- A text without marks is one field between marks. -/
theorem fields_of_not_mem (h : mark ∉ text) : fields (· == mark) text = [text] := by
  refine fields_eq_singleton fun c hc => beq_false_of_ne ?_
  rintro rfl
  exact h hc

/-- No separator stands in a field. -/
theorem separates_eq_false_of_mem_fields (hfield : field ∈ fields separates text) (hc : c ∈ field) :
    separates c = false := by
  induction text generalizing field with
  | nil =>
    rw [fields, List.mem_singleton] at hfield
    rw [hfield] at hc
    cases hc
  | cons first rest ih =>
    rw [fields] at hfield
    split at hfield
    · rcases List.mem_cons.mp hfield with rfl | hrest
      · cases hc
      · exact ih hrest hc
    · next hfirst =>
      cases hfields : fields separates rest with
      | nil => exact absurd hfields (fields_ne_nil separates rest)
      | cons next others =>
        rw [hfields] at hfield ih
        rcases List.mem_cons.mp hfield with rfl | hother
        · rcases List.mem_cons.mp hc with rfl | hnext
          · exact Bool.eq_false_iff.mpr hfirst
          · exact ih List.mem_cons_self hnext
        · exact ih (List.mem_cons_of_mem _ hother) hc

/-- Changes each field of a text in its place. The field that the text goes on with has begun with
`field`. -/
def mapFields (separates : Char → Bool) (f : List Char → List Char) (field : List Char) :
    List Char → List Char
  | [] => f field
  | c :: rest =>
    if separates c then f field ++ c :: mapFields separates f [] rest
    else mapFields separates f (field ++ [c]) rest

/-- The fields of the changed text are the changed fields. -/
theorem fields_mapFields (hfield : ∀ c ∈ field, separates c = false)
    (hf : ∀ found ∈ fields separates (field ++ text), ∀ c ∈ f found, separates c = false) :
    fields separates (mapFields separates f field text) =
      (fields separates (field ++ text)).map f := by
  induction text generalizing field with
  | nil =>
    rw [List.append_nil, fields_eq_singleton hfield] at hf ⊢
    exact fields_eq_singleton (hf field List.mem_cons_self)
  | cons c rest ih =>
    rw [mapFields]
    split
    · next hc =>
      rw [fields_append_cons hc, fields_eq_singleton hfield, List.forall_mem_append,
        List.forall_mem_singleton] at hf
      rw [fields_append_cons hc, fields_append_cons hc, fields_eq_singleton hfield,
        fields_eq_singleton hf.1, ih (List.forall_mem_nil _) hf.2]
      rfl
    · next hc =>
      have hlonger : ∀ c' ∈ field ++ [c], separates c' = false := by
        rw [List.forall_mem_append, List.forall_mem_singleton]
        exact ⟨hfield, Bool.eq_false_iff.mpr hc⟩
      have hsame : field ++ c :: rest = field ++ [c] ++ rest := by
        rw [List.append_assoc, List.singleton_append]
      rw [hsame] at hf ⊢
      exact ih hlonger hf

/-- Changes each word of a text in its place. -/
def mapWords (f : List Char → List Char) (text : List Char) : List Char :=
  mapFields isBlank (fun field => if field.isEmpty then [] else f field) [] text

/-- A word has a first character, and none of its characters is blank. -/
theorem ne_nil_of_mem_words {word : List Char} (h : word ∈ words text) :
    word ≠ [] ∧ ∀ c ∈ word, isBlank c = false := by
  obtain ⟨hfield, hword⟩ := List.mem_filter.mp h
  exact ⟨by simpa using hword, fun c hc => separates_eq_false_of_mem_fields hfield hc⟩

/-- The words of the changed text are the changed words. -/
theorem words_mapWords
    (hf : ∀ word ∈ words text, f word ≠ [] ∧ ∀ c ∈ f word, isBlank c = false) :
    words (mapWords f text) = (words text).map f := by
  have hchanged : ∀ field ∈ fields isBlank text,
      (∀ c ∈ (if field.isEmpty then [] else f field), isBlank c = false) ∧
        (!(if field.isEmpty then [] else f field).isEmpty) = !field.isEmpty := by
    intro field hfield
    cases field with
    | nil => exact ⟨List.forall_mem_nil _, rfl⟩
    | cons first rest =>
      obtain ⟨hsome, hchars⟩ := hf _ (List.mem_filter.mpr ⟨hfield, rfl⟩)
      exact ⟨hchars, by simpa using hsome⟩
  rw [words, mapWords, fields_mapFields (List.forall_mem_nil _) fun field hfield =>
    (hchanged field hfield).1, List.nil_append, List.filter_map, words]
  simp only [Function.comp_def]
  rw [List.filter_congr fun field hfield => (hchanged field hfield).2]
  refine List.map_congr_left fun word hword => if_neg ?_
  simpa using (List.mem_filter.mp hword).2

/-- What stands before a mark does not count for what stands after the last one. -/
theorem afterLast_append_cons (mark : Char) (before after : List Char) :
    afterLast mark (before ++ mark :: after) = afterLast mark after := by
  have hsplit : fields (· == mark) (before ++ mark :: after) =
      fields (· == mark) before ++ fields (· == mark) after :=
    fields_append_cons (by exact beq_self_eq_true mark) before after
  rw [afterLast, hsplit, afterLast]
  cases hfields : fields (· == mark) after with
  | nil => exact absurd hfields (fields_ne_nil _ after)
  | cons first others => simp [List.getLastD_eq_getLast?, List.getLast?_cons]

/-- A text without marks stands after the last mark. -/
theorem afterLast_of_not_mem (h : mark ∉ text) : afterLast mark text = text := by
  rw [afterLast, fields_of_not_mem h]
  rfl

/-- A text ends with what stands after the last mark. Any other text without marks could stand there
in its place. -/
theorem eq_append_afterLast (mark : Char) (text : List Char) :
    ∃ before, text = before ++ afterLast mark text ∧
      ∀ last, mark ∉ last → afterLast mark (before ++ last) = last := by
  by_cases hmark : mark ∈ text
  · obtain ⟨behind, ahead, hsplit, hbehind⟩ :=
      List.eq_append_cons_of_mem (List.mem_reverse.mpr hmark)
    have htext : text = ahead.reverse ++ mark :: behind.reverse := by
      rw [← List.reverse_reverse text, hsplit]
      simp
    have hlast : ∀ last, mark ∉ last → afterLast mark (ahead.reverse ++ mark :: last) = last := by
      intro last hlast
      rw [afterLast_append_cons, afterLast_of_not_mem hlast]
    refine ⟨ahead.reverse ++ [mark], ?_, fun last => ?_⟩
    · rw [htext, hlast _ (by simpa using hbehind), List.append_assoc, List.singleton_append]
    · rw [List.append_assoc, List.singleton_append]
      exact hlast last
  · exact ⟨[], (afterLast_of_not_mem hmark).symm, fun last => afterLast_of_not_mem⟩

/-- The text up to its last mark, that one included. -/
def upToLast (mark : Char) (text : List Char) : List Char :=
  text.take (text.length - (afterLast mark text).length)

/-- A text is what stands up to its last mark and what stands after it. -/
theorem upToLast_append_afterLast (mark : Char) (text : List Char) :
    upToLast mark text ++ afterLast mark text = text := by
  obtain ⟨before, htext, _⟩ := eq_append_afterLast mark text
  have hlength := congrArg List.length htext
  rw [List.length_append] at hlength
  have hbefore : text.take before.length = before :=
    (congrArg (List.take before.length) htext).trans List.take_left
  rw [upToLast, hlength, Nat.add_sub_cancel, hbefore]
  exact htext.symm

/-- Behind the last mark of a text another text can be put in place. -/
theorem afterLast_upToLast_append {last : List Char} (h : mark ∉ last) :
    afterLast mark (upToLast mark text ++ last) = last := by
  obtain ⟨before, htext, hlast⟩ := eq_append_afterLast mark text
  have hbefore : upToLast mark text = before :=
    List.append_cancel_right ((upToLast_append_afterLast mark text).trans htext)
  rw [hbefore, hlast last h]

/-- A character that is no colon belongs to the segment behind it. -/
theorem segments_cons_of_ne (hc : c ≠ ':') (rest : List Char) :
    segments (c :: rest) = (segments rest).modifyHead (c :: ·) := by
  rw [segments]
  rintro _ rfl
  exact absurd rfl hc

/-- A text without colons is one segment. -/
theorem segments_eq_singleton (h : ':' ∉ text) : segments text = [text] := by
  induction text with
  | nil => rfl
  | cons c rest ih =>
    rw [List.mem_cons, not_or] at h
    rw [segments_cons_of_ne (Ne.symm h.1), ih h.2]
    rfl

/-- A text without colons is the first segment where `::` stands behind it. -/
theorem segments_append_cons_cons (h : ':' ∉ before) (after : List Char) :
    segments (before ++ ':' :: ':' :: after) = before :: segments after := by
  induction before with
  | nil => rw [List.nil_append, segments]
  | cons c rest ih =>
    rw [List.mem_cons, not_or] at h
    rw [List.cons_append, segments_cons_of_ne (Ne.symm h.1), ih h.2]
    rfl

/-- Every text has a first segment. -/
theorem length_segments_pos (text : List Char) : 0 < (segments text).length := by
  induction text using segments.induct with
  | case1 => exact Nat.one_pos
  | case2 rest => exact Nat.succ_pos _
  | case3 c rest hcolons ih =>
    rw [segments, List.length_modifyHead]
    · exact ih
    · exact hcolons

/-- A text is one segment just in case there is no `::` in it. -/
theorem length_segments_eq_one_iff (text : List Char) :
    (segments text).length = 1 ↔ ¬"::".toList <:+: text := by
  change _ ↔ ¬[':', ':'] <:+: text
  induction text using segments.induct with
  | case1 => decide
  | case2 rest =>
    have hrest := length_segments_pos rest
    have hcolons : [':', ':'] <:+: ':' :: ':' :: rest := ⟨[], rest, rfl⟩
    rw [segments, List.length_cons]
    exact iff_of_false (by omega) (not_not_intro hcolons)
  | case3 c rest hcolons ih =>
    have hbegins : ¬[':', ':'] <+: c :: rest := by
      rintro ⟨later, hlater⟩
      obtain ⟨hc, hrest⟩ := List.cons.inj hlater
      exact hcolons later hc.symm hrest.symm
    rw [segments, List.length_modifyHead, ih, List.infix_cons_iff, or_iff_right hbegins]
    exact hcolons

end Bindery.Text
