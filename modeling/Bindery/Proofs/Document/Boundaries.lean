import Bindery.Proofs.Document.Tags

/-!
# The element boundaries of a text that was written

Each tag of a spelling is cut from the text behind it where it was closed, so the reader meets the
element boundaries of the spelling and then those of whatever follows it.
-/

namespace Bindery.Markup

/-- A part of a tag in which every quote is closed, and no `>` stands outside quotes: the cut of a
tag never falls into it. -/
def Uncut (part : List Char) : Prop :=
  ∀ text, cutTag none (part ++ text) = (cutTag none text).map fun cut => (part ++ cut.1, cut.2)

variable {part later : List Char}

/-- Parts that are not cut can be put together. -/
theorem Uncut.append (hpart : Uncut part) (hlater : Uncut later) : Uncut (part ++ later) := by
  intro text
  rw [List.append_assoc, hpart, hlater, Option.map_map]
  simp [Function.comp_def]

/-- Characters that are neither quotes nor `>` are not cut. -/
theorem uncut_of_plain (hplain : ∀ c ∈ part, c ≠ '>' ∧ c ≠ '"' ∧ c ≠ '\'') : Uncut part := by
  intro text
  induction part with
  | nil => simp
  | cons c part ih =>
    obtain ⟨hclose, hdouble, hsingle⟩ := hplain c List.mem_cons_self
    rw [List.cons_append, cutTag]
    simp only [if_neg hclose, if_neg (not_or.mpr ⟨hdouble, hsingle⟩)]
    rw [ih fun d hd => hplain d (List.mem_cons_of_mem _ hd), Option.map_map]
    rfl

/-- Inside quotes nothing is cut, and behind the closing quote the tag goes on as before. -/
theorem cutTag_quoted {mark : Char} (hpart : ∀ c ∈ part, c ≠ mark) (text : List Char) :
    cutTag (some mark) (part ++ mark :: text) =
      (cutTag none text).map fun cut => (part ++ mark :: cut.1, cut.2) := by
  induction part with
  | nil => simp [cutTag]
  | cons c part ih =>
    rw [List.cons_append, cutTag]
    simp only [if_neg (hpart c List.mem_cons_self)]
    rw [ih fun d hd => hpart d (List.mem_cons_of_mem _ hd), Option.map_map]
    rfl

/-- A name is not cut. -/
theorem uncut_name (name : Name) : Uncut name.chars :=
  uncut_of_plain fun _ hc =>
    ⟨Name.ne_of_mem hc rfl, Name.ne_of_mem hc rfl, Name.ne_of_mem hc rfl⟩

/-- A quoted value is not cut. -/
theorem uncut_quoted {quote : Quote} (hpart : ∀ c ∈ part, c ≠ quote.mark) :
    Uncut (quote.mark :: (part ++ [quote.mark])) := by
  intro text
  have hclose : quote.mark ≠ '>' := by cases quote <;> decide
  rw [List.cons_append, List.append_assoc, List.singleton_append, cutTag]
  simp only [if_neg hclose, if_pos quote.mark_eq]
  rw [cutTag_quoted hpart, Option.map_map]
  simp [Function.comp_def]

/-- What follows the key of an attribute is not cut, whatever the value is. -/
theorem uncut_assigned (entry : Attribute) : Uncut entry.assigned := by
  have hequals : Uncut ['='] := uncut_of_plain (by simp)
  exact hequals.append (uncut_quoted fun c hc => ne_of_mem_escape entry.quote hc)

/-- A tag that was written is not cut. -/
theorem uncut_tagOf (name : Name) (attributes : Attributes) :
    Uncut (tagOf name attributes).content := by
  have hentries (entries : List Attribute) : Uncut (entries.flatMap Attribute.chars) := by
    induction entries with
    | nil => exact uncut_of_plain fun c hc => absurd hc List.not_mem_nil
    | cons entry entries ih =>
      have hblank : Uncut [' '] := uncut_of_plain (by simp)
      rw [List.flatMap_cons]
      exact (hblank.append ((uncut_name entry.key).append (uncut_assigned entry))).append ih
  exact (uncut_name name).append (hentries attributes.list)

/-- A part that is not cut is a whole tag where a `>` follows it. -/
theorem Uncut.cutTag_eq (hpart : Uncut part) :
    cutTag none (part ++ '>' :: later) = some (part, later) := by
  rw [hpart]
  simp [cutTag]

/-- A tag does not end in `/` by itself. -/
theorem getLast?_tagOf (name : Name) (attributes : Attributes) :
    (tagOf name attributes).content.getLast? ≠ some '/' := by
  obtain ⟨entries, hkeys⟩ := attributes
  intro hlast
  rcases List.eq_nil_or_concat entries with rfl | ⟨before, entry, rfl⟩
  · have hmem := List.mem_of_getLast? hlast
    simp only [tagOf, Attributes.chars, List.flatMap_nil, List.append_nil] at hmem
    exact Name.ne_of_mem hmem rfl rfl
  · have hcontent : (tagOf name ⟨before.concat entry, hkeys⟩).content =
        name.chars ++ before.flatMap Attribute.chars ++ ' ' :: entry.key.chars ++ '=' ::
          entry.quote.mark :: escape entry.value.toList ++ [entry.quote.mark] := by
      simp [tagOf, Attributes.chars, Attribute.chars, Attribute.assigned]
    rw [hcontent, List.getLast?_concat] at hlast
    cases hquote : entry.quote <;> rw [hquote] at hlast <;> cases hlast

/-- A text that begins like a name is read as a first tag. -/
theorem readPiece_of_name {name : Name} {content : List Char} (hcut : Uncut content)
    (hname : content.head? = some name.first) :
    readPiece (content ++ '>' :: later) = .ok (openingPiece content, later) := by
  have hne : ∀ d, continuesName d = false → name.first ≠ d := fun d hd =>
    Name.ne_of_mem List.mem_cons_self hd
  obtain ⟨others, rfl⟩ : ∃ others, content = name.first :: others :=
    List.head?_eq_some_iff.mp hname
  unfold readPiece
  split
  · next htext => exact absurd (List.cons.inj htext).1 (hne '!' rfl)
  · next htext => exact absurd (List.cons.inj htext).1 (hne '?' rfl)
  · next htext => exact absurd (List.cons.inj htext).1 (hne '/' rfl)
  · rw [hcut.cutTag_eq]

/-- The first tag of an element between two tags is read as such. -/
theorem readPiece_opening (name : Name) (attributes : Attributes) :
    readPiece ((tagOf name attributes).content ++ '>' :: later) =
      .ok (.opening (tagOf name attributes), later) := by
  rw [readPiece_of_name (uncut_tagOf name attributes) rfl, openingPiece,
    if_neg (getLast?_tagOf name attributes)]

/-- The tag of an element without content is read as such. -/
theorem readPiece_empty (name : Name) (attributes : Attributes) :
    readPiece ((tagOf name attributes).content ++ '/' :: '>' :: later) =
      .ok (.empty (tagOf name attributes), later) := by
  have hslash : Uncut ['/'] := uncut_of_plain (by simp)
  have hcontent : (tagOf name attributes).content ++ '/' :: '>' :: later =
      ((tagOf name attributes).content ++ ['/']) ++ '>' :: later := by simp
  rw [hcontent, readPiece_of_name ((uncut_tagOf name attributes).append hslash) rfl]
  simp [openingPiece]

/-- Nothing is trimmed from a name. -/
theorem endName_chars (name : Name) : endName name.chars = name.chars := by
  have hlast : name.chars.reverse.dropWhile isSpace = name.chars.reverse := by
    cases hchars : name.chars.reverse with
    | nil => rfl
    | cons c others =>
      have hc : c ∈ name.chars := List.mem_reverse.mp (hchars ▸ List.mem_cons_self)
      rw [List.dropWhile_cons_of_neg (by simp [Name.isSpace_of_mem hc])]
  rw [endName, Text.trimEnd, hlast, List.reverse_reverse]
  rfl

/-- An end tag is read with its name. -/
theorem readPiece_closing (name : Name) :
    readPiece ('/' :: (name.chars ++ '>' :: later)) = .ok (.closing name.chars, later) := by
  simp only [readPiece, (uncut_name name).cutTag_eq, endName_chars]

namespace Reading

variable {opened : List (List Char)} {rest : List Char}

/-- Only the text from the next `<` on is read. -/
theorem ofTextFrom_congr {text text' : List Char}
    (h : text.dropWhile (· != '<') = text'.dropWhile (· != '<')) :
    ofTextFrom opened text = ofTextFrom opened text' := by
  rw [ofTextFrom.eq_def opened text, ofTextFrom.eq_def opened text', h]

/-- The text before a tag says nothing. -/
theorem ofTextFrom_gap (gap : Gap) :
    ofTextFrom opened (gap.chars ++ later) = ofTextFrom opened later := by
  refine ofTextFrom_congr (List.dropWhile_append_of_pos fun c hc => ?_)
  exact bne_iff_ne.mpr fun h => gap.hchars (h ▸ hc)

/-- A byte order mark says nothing. -/
theorem ofTextFrom_withoutMark (text : List Char) :
    ofTextFrom opened (withoutMark text) = ofTextFrom opened text := by
  unfold withoutMark
  split
  · exact ofTextFrom_congr (by rw [List.dropWhile_cons_of_pos (by decide)])
  · rfl

/-- What is read from a piece of markup on. -/
def ofPiece (opened : List (List Char)) : Except Error (Piece × List Char) → Reading
  | .error cause => ⟨[], some cause⟩
  | .ok (.silent, later) => ofTextFrom opened later
  | .ok (.empty tag, later) => (ofTextFrom opened later).after (.empty tag)
  | .ok (.opening tag, later) => (ofTextFrom (tag.name :: opened) later).after (.opened tag)
  | .ok (.closing name, later) =>
    match opened with
    | [] => ⟨[], some (.nesting (.unmatchedEnd (String.ofList name)))⟩
    | expected :: outer =>
      if name = expected then (ofTextFrom outer later).after .closed
      else ⟨[], some (.nesting (.mismatchedEnd (String.ofList expected) (String.ofList name)))⟩

/-- Behind a `<` the piece of markup that it begins is read. -/
theorem ofTextFrom_cons (opened : List (List Char)) (rest : List Char) :
    ofTextFrom opened ('<' :: rest) = ofPiece opened (readPiece rest) := by
  rw [ofTextFrom]
  split
  · contradiction
  · next hmark =>
    obtain rfl := (List.cons.inj hmark).2
    split <;> simp only [*] <;> rfl

/-- An element without content opens nothing. -/
theorem ofTextFrom_empty {tag : Tag} (hpiece : readPiece rest = .ok (.empty tag, later)) :
    ofTextFrom opened ('<' :: rest) = (ofTextFrom opened later).after (.empty tag) := by
  rw [ofTextFrom_cons, hpiece, ofPiece]

/-- Behind a first tag the element that it opens is the innermost one. -/
theorem ofTextFrom_opening {tag : Tag} (hpiece : readPiece rest = .ok (.opening tag, later)) :
    ofTextFrom opened ('<' :: rest) =
      (ofTextFrom (tag.name :: opened) later).after (.opened tag) := by
  rw [ofTextFrom_cons, hpiece, ofPiece]

/-- An end tag with the name of the innermost open element closes it. -/
theorem ofTextFrom_closing {name : List Char}
    (hpiece : readPiece rest = .ok (.closing name, later)) :
    ofTextFrom (name :: opened) ('<' :: rest) = (ofTextFrom opened later).after .closed := by
  rw [ofTextFrom_cons, hpiece, ofPiece, if_pos rfl]

/-- A spelling is read as its element boundaries, and then as what follows it. -/
theorem ofTextFrom_chars (spelling : Spelling) :
    ofTextFrom opened (spelling.chars ++ later) =
      spelling.events.foldr after (ofTextFrom opened later) := by
  induction spelling generalizing opened later with
  | text gap => exact ofTextFrom_gap gap
  | single before name attributes rest ih =>
    simp only [Spelling.chars, Spelling.events, List.append_assoc, List.cons_append,
      List.foldr_cons]
    rw [ofTextFrom_gap, ofTextFrom_empty (readPiece_empty name attributes), ih]
  | paired before name attributes content rest ihcontent ihrest =>
    simp only [Spelling.chars, Spelling.events, List.append_assoc, List.cons_append,
      List.foldr_cons, List.foldr_append]
    rw [ofTextFrom_gap, ofTextFrom_opening (readPiece_opening name attributes), ihcontent,
      name_tagOf, ofTextFrom_closing (readPiece_closing name), ihrest]

/-- The whole text of a spelling is read as its element boundaries, without fault. -/
theorem ofText_chars (spelling : Spelling) :
    ofText spelling.chars = ⟨spelling.events, none⟩ := by
  have hend : ofTextFrom [] [] = ⟨[], none⟩ := by simp [ofTextFrom]
  have hevents (events : List Event) (reading : Reading) :
      events.foldr after reading = ⟨events ++ reading.events, reading.fault⟩ := by
    induction events with
    | nil => rfl
    | cons event events ih => rw [List.foldr_cons, ih]; rfl
  rw [ofText, ofTextFrom_withoutMark, ← List.append_nil spelling.chars, ofTextFrom_chars, hend,
    hevents, List.append_nil]

end Reading

end Bindery.Markup
