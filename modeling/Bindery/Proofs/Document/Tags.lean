import Bindery.Proofs.Document.Spelling

/-!
# Reading tags that were written

Values come back from their escapes, attributes from the tag that they were written in, and the tag
is cut from the text behind it where it was closed.
-/

namespace Bindery.Markup

open Bindery.Text (byteLength)

/-- The name that a character is written by stands for the character. -/
theorem namedCharacter?_of_characterName? {c : Char} {name : String}
    (h : characterName? c = some name) : namedCharacter? name.toList = some c := by
  unfold characterName? at h
  split at h <;> cases h <;> decide

/-- The characters that end a quoted value or begin an escape all have a name. -/
theorem ne_of_characterName? {c : Char} (h : characterName? c = none) :
    c ≠ '&' ∧ c ≠ '\'' ∧ c ≠ '"' := by
  refine ⟨?_, ?_, ?_⟩ <;> rintro rfl <;> cases h

/-- A character's name is one of five. -/
theorem name_of_characterName? {c : Char} {name : String} (h : characterName? c = some name) :
    name ∈ characterNames := by
  unfold characterName? at h
  split at h <;> cases h <;> decide

/-- A character's name is read whole: it has neither `&` nor `;` in it. -/
theorem plain_of_characterName? {c : Char} {name : String} (h : characterName? c = some name) :
    ∀ d ∈ name.toList, (d != '&' && d != ';') = true := by
  have hall : ∀ name ∈ characterNames,
      name.toList.all (fun d => d != '&' && d != ';') = true := by decide
  exact List.all_eq_true.mp (hall name (name_of_characterName? h))

/-- Wherever the name of a character is read, the character is found. -/
theorem resolve_of_characterName? {c : Char} {name : String} (h : characterName? c = some name)
    (start : Nat) : resolve start name.toList = .ok c := by
  have hall : ∀ name ∈ characterNames, name.toList.head? ≠ some '#' := by decide
  have hhead := hall name (name_of_characterName? h)
  unfold resolve
  split
  · next hchars => rw [hchars] at hhead; exact absurd rfl hhead
  · rw [namedCharacter?_of_characterName? h]

/-- Reading a written character gives the character back, and the reader stands behind it. -/
theorem unescapeFrom_escapeCharacter (length start : Nat) (c : Char) (rest : List Char) :
    ∃ next, unescapeFrom length start (escapeCharacter c ++ rest) =
      (unescapeFrom length next rest).map (c :: ·) := by
  cases hname : characterName? c with
  | none =>
    have hc : c ≠ '&' := (ne_of_characterName? hname).1
    refine ⟨start + c.utf8Size, ?_⟩
    simp only [escapeCharacter, hname, List.singleton_append]
    rw [unescapeFrom, if_neg hc]
    rfl
  | some name =>
    have hplain := plain_of_characterName? hname
    have hdrop : (name.toList ++ ';' :: rest).dropWhile (fun d => d != '&' && d != ';') =
        ';' :: rest := by
      rw [List.dropWhile_append_of_pos hplain, List.dropWhile_cons_of_neg (by decide)]
    have htake : (name.toList ++ ';' :: rest).takeWhile (fun d => d != '&' && d != ';') =
        name.toList := by
      rw [List.takeWhile_append_of_pos hplain, List.takeWhile_cons_of_neg (by decide),
        List.append_nil]
    refine ⟨start + byteLength name.toList + 2, ?_⟩
    simp only [escapeCharacter, hname, List.cons_append, List.append_assoc, List.nil_append]
    rw [unescapeFrom, if_pos rfl]
    split
    · next next hnext =>
      rw [hdrop] at hnext
      obtain rfl := (List.cons.inj hnext).2
      simp only [htake, resolve_of_characterName? hname]
      rfl
    · next hnext => exact absurd hdrop (hnext rest)

/-- A value comes back from its escapes. -/
theorem unescapeFrom_escape (length start : Nat) (value : List Char) :
    unescapeFrom length start (escape value) = .ok value := by
  induction value generalizing start with
  | nil => simp [escape, unescapeFrom]
  | cons c value ih =>
    obtain ⟨next, hnext⟩ := unescapeFrom_escapeCharacter length start c (escape value)
    rw [escape, List.flatMap_cons]
    exact hnext.trans (by rw [ih]; rfl)

/-- A value comes back from between its quotes. -/
theorem unescape_escape (value : List Char) : unescape (escape value) = .ok value :=
  unescapeFrom_escape _ 0 value

/-- No quote stands in a written value. -/
theorem ne_of_mem_escape {value : List Char} {d : Char} (quote : Quote) (h : d ∈ escape value) :
    d ≠ quote.mark := by
  obtain ⟨c, _, hd⟩ := List.mem_flatMap.mp h
  unfold escapeCharacter at hd
  cases hname : characterName? c with
  | none =>
    rw [hname] at hd
    obtain rfl := List.mem_singleton.mp hd
    cases quote
    · exact (ne_of_characterName? hname).2.1
    · exact (ne_of_characterName? hname).2.2
  | some name =>
    rw [hname] at hd
    have hall : ∀ name ∈ characterNames,
        ('&' :: (name.toList ++ [';'])).all (fun d => d != '\'' && d != '"') = true := by decide
    have hne := List.all_eq_true.mp (hall name (name_of_characterName? hname)) d hd
    rw [Bool.and_eq_true, bne_iff_ne, bne_iff_ne] at hne
    cases quote
    · exact hne.1
    · exact hne.2

/-- What names start with, they may go on with. -/
theorem continuesName_of_startsName {c : Char} (h : startsName c = true) :
    continuesName c = true := by
  simp only [startsName, continuesName, Char.isAlphanum, Bool.or_eq_true] at h ⊢
  tauto

/-- All characters of a name are ones that names go on with. -/
theorem Name.continuesName_of_mem {name : Name} {c : Char} (h : c ∈ name.chars) :
    continuesName c = true := by
  rcases List.mem_cons.mp h with rfl | hc
  · exact continuesName_of_startsName name.hfirst
  · exact name.hothers c hc

/-- A character that names do not go on with is none of a name. -/
theorem Name.ne_of_mem {name : Name} {c d : Char} (h : c ∈ name.chars)
    (hd : continuesName d = false) : c ≠ d := by
  rintro rfl
  rw [Name.continuesName_of_mem h] at hd
  cases hd

/-- No character of a name ends a key, and so none is a space. -/
theorem Name.endsKey_of_mem {name : Name} {c : Char} (h : c ∈ name.chars) :
    endsKey c = false := by
  have hequals : c ≠ '=' := Name.ne_of_mem h rfl
  have hblank : c ≠ ' ' := Name.ne_of_mem h rfl
  have htab : c ≠ '\t' := Name.ne_of_mem h rfl
  have hreturn : c ≠ '\r' := Name.ne_of_mem h rfl
  have hline : c ≠ '\n' := Name.ne_of_mem h rfl
  simp [endsKey, isSpace, hequals, hblank, htab, hreturn, hline]

/-- No character of a name is a space. -/
theorem Name.isSpace_of_mem {name : Name} {c : Char} (h : c ∈ name.chars) :
    isSpace c = false :=
  (Bool.or_eq_false_iff.mp (Name.endsKey_of_mem h)).2

/-- The value of a written attribute is read as it was written. -/
theorem readAttribute_assigned {length : Nat} {seen : List SeenKey} {start rest : List Char}
    (entry : Attribute) (hseen : seen.lookup entry.key.chars = none) :
    readAttribute length seen entry.key.chars start (entry.assigned ++ rest) =
      .ok (escape entry.value.toList, rest) := by
  have hplain : ∀ d ∈ escape entry.value.toList, (d != entry.quote.mark) = true := fun d hd =>
    bne_iff_ne.mpr (ne_of_mem_escape entry.quote hd)
  have hmark : isSpace entry.quote.mark = false := by cases entry.quote <;> rfl
  simp only [readAttribute, Attribute.assigned, List.cons_append, List.append_assoc,
    List.nil_append]
  rw [List.dropWhile_cons_of_neg (by decide)]
  simp only [hseen, readValue]
  rw [List.dropWhile_cons_of_neg (by simp [hmark])]
  simp only [if_pos entry.quote.mark_eq]
  rw [List.dropWhile_append_of_pos hplain, List.takeWhile_append_of_pos hplain,
    List.dropWhile_cons_of_neg (by simp), List.takeWhile_cons_of_neg (by simp), List.append_nil]

/-- The key of a written attribute stands behind the space. -/
theorem dropWhile_isSpace_chars (entry : Attribute) (rest : List Char) :
    (entry.chars ++ rest).dropWhile isSpace =
      entry.key.first :: (entry.key.others ++ (entry.assigned ++ rest)) := by
  have hfirst : isSpace entry.key.first = false :=
    Name.isSpace_of_mem (List.mem_cons_self : _ ∈ entry.key.chars)
  rw [Attribute.chars, List.cons_append, List.dropWhile_cons_of_pos (by decide)]
  simp only [Name.chars, List.cons_append]
  rw [List.dropWhile_cons_of_neg (by simp [hfirst]), List.append_assoc]

/-- The key of a written attribute ends where its `=` stands. -/
theorem span_key (entry : Attribute) (rest : List Char) :
    entry.key.first :: (entry.key.others ++ (entry.assigned ++ rest)).takeWhile (!endsKey ·) =
        entry.key.chars ∧
      (entry.key.others ++ (entry.assigned ++ rest)).dropWhile (!endsKey ·) =
        entry.assigned ++ rest := by
  have hkey : ∀ c ∈ entry.key.others, (!endsKey c) = true := fun c hc => by
    rw [Name.endsKey_of_mem (List.mem_cons_of_mem _ hc)]
    rfl
  have hequals : entry.assigned ++ rest = '=' :: (entry.assigned.tail ++ rest) := rfl
  constructor
  · rw [List.takeWhile_append_of_pos hkey, hequals, List.takeWhile_cons_of_neg (by decide),
      List.append_nil]
    rfl
  · rw [List.dropWhile_append_of_pos hkey, hequals, List.dropWhile_cons_of_neg (by decide)]

/-- One attribute is read from the front of those that were written. -/
theorem readAttributesFrom_cons (length : Nat) (seen : List SeenKey) (entry : Attribute)
    (rest : List Char) (hseen : seen.lookup entry.key.chars = none) :
    ∃ position, readAttributesFrom length seen (entry.chars ++ rest) =
      (readAttributesFrom length ((entry.key.chars, position) :: seen) rest).map
        (entry.pair :: ·) := by
  have hstart := dropWhile_isSpace_chars entry rest
  obtain ⟨htake, hdrop⟩ := span_key entry rest
  have hpair : entry.pair = (String.ofList entry.key.chars, String.ofList entry.value.toList) := by
    rw [String.ofList_toList]
    rfl
  refine ⟨length - byteLength (entry.key.first :: (entry.key.others ++ (entry.assigned ++ rest))),
    ?_⟩
  rw [readAttributesFrom]
  split
  · next hnone => rw [hstart] at hnone; cases hnone
  · next first others hsome =>
    rw [hstart] at hsome
    obtain ⟨rfl, rfl⟩ := List.cons.inj hsome
    dsimp only
    split
    · next hfault =>
      rw [htake, hdrop, readAttribute_assigned entry hseen] at hfault
      cases hfault
    · next found hfound =>
      rw [htake, hdrop, readAttribute_assigned entry hseen] at hfound
      cases hfound
      simp only [htake, unescape_escape, hpair]
      rfl

/-- All attributes that were written are read, in their order. -/
theorem readAttributesFrom_chars {length : Nat} {seen : List SeenKey} {entries : List Attribute}
    (hkeys : (entries.map (·.key.chars)).Nodup)
    (hseen : ∀ entry ∈ entries, seen.lookup entry.key.chars = none) :
    readAttributesFrom length seen (entries.flatMap Attribute.chars) =
      .ok (entries.map Attribute.pair) := by
  induction entries generalizing seen with
  | nil => simp [readAttributesFrom]
  | cons entry entries ih =>
    obtain ⟨hfirst, hothers⟩ := List.nodup_cons.mp hkeys
    obtain ⟨position, hread⟩ := readAttributesFrom_cons length seen entry
      (entries.flatMap Attribute.chars) (hseen entry List.mem_cons_self)
    have hnew : ∀ other ∈ entries,
        ((entry.key.chars, position) :: seen).lookup other.key.chars = none := by
      intro other hother
      have hne : other.key.chars ≠ entry.key.chars := fun h =>
        hfirst (List.mem_map.mpr ⟨other, hother, h⟩)
      rw [List.lookup_cons, beq_eq_false_iff_ne.mpr hne]
      exact hseen other (List.mem_cons_of_mem _ hother)
    rw [List.flatMap_cons, hread, ih hothers hnew]
    rfl

/-- Behind the name of a tag stand no characters of the name. -/
theorem span_tagOf (name : Name) (attributes : Attributes) :
    (tagOf name attributes).content.takeWhile (!isSpace ·) = name.chars ∧
      (tagOf name attributes).content.dropWhile (!isSpace ·) = attributes.chars := by
  have hplain : ∀ c ∈ name.chars, (!isSpace c) = true := fun c hc => by
    rw [Name.isSpace_of_mem hc]
    rfl
  rw [tagOf, List.takeWhile_append_of_pos hplain, List.dropWhile_append_of_pos hplain]
  obtain ⟨entries, hkeys⟩ := attributes
  cases entries with
  | nil => simp [Attributes.chars]
  | cons entry entries =>
    have hblank : Attributes.chars ⟨entry :: entries, hkeys⟩ = ' ' ::
        (entry.key.chars ++ entry.assigned ++ entries.flatMap Attribute.chars) := rfl
    rw [hblank, List.takeWhile_cons_of_neg (by decide), List.dropWhile_cons_of_neg (by decide),
      List.append_nil]
    exact ⟨rfl, rfl⟩

/-- The name comes back from the tag. -/
theorem name_tagOf (name : Name) (attributes : Attributes) :
    (tagOf name attributes).name = name.chars :=
  (span_tagOf name attributes).1

/-- The attributes come back from the tag. -/
theorem attributes_tagOf (name : Name) (attributes : Attributes) :
    (tagOf name attributes).attributes = .ok attributes.pairs := by
  rw [Tag.attributes, (span_tagOf name attributes).2]
  exact readAttributesFrom_chars attributes.hkeys fun _ _ => rfl

end Bindery.Markup
