import Bindery.Proofs.Document.Boundaries

/-!
# Pieces of markup

A piece of markup is settled by its own characters: whatever follows it is left alone, and a piece
that is cut short is none. So a text falls into its pieces in one way only, a text that it begins
with falls into the first of these pieces, and the element boundaries of a text are those of its
pieces in order.
-/

namespace Bindery

namespace Text

/-- A text that has a mark in it has one that nothing behind it can undo. -/
theorem exists_append_of_afterFirst {mark text rest : List Char}
    (h : afterFirst mark text = some rest) :
    ∃ before, text = before ++ (mark ++ rest) ∧
      ∀ more, afterFirst mark (before ++ (mark ++ more)) = some more := by
  induction text with
  | nil =>
    rw [afterFirst] at h
    split at h
    next hempty =>
      obtain rfl := Option.some.inj h
      obtain rfl := List.isEmpty_iff.mp hempty
      refine ⟨[], rfl, fun more => ?_⟩
      cases more <;> simp [afterFirst]
    · cases h
  | cons c tail ih =>
    rw [afterFirst] at h
    split at h
    next hmark =>
      obtain ⟨after, hafter⟩ := List.isPrefixOf_iff_prefix.mp hmark
      rw [← hafter, List.drop_left] at h
      obtain rfl := Option.some.inj h
      refine ⟨[], hafter.symm, fun more => ?_⟩
      rw [List.nil_append]
      cases htext : mark ++ more with
      | nil =>
        obtain ⟨rfl, rfl⟩ := List.append_eq_nil_iff.mp htext
        rfl
      | cons first others =>
        have hbegins : mark.isPrefixOf (first :: others) = true :=
          List.isPrefixOf_iff_prefix.mpr ⟨more, htext⟩
        rw [afterFirst, if_pos hbegins, ← htext, List.drop_left]
    next hmark =>
      obtain ⟨before, rfl, hbefore⟩ := ih h
      refine ⟨c :: before, rfl, fun more => ?_⟩
      -- A mark that begins at `c` would end before the one that was found.
      have hnone : ¬mark.isPrefixOf (c :: (before ++ (mark ++ more))) = true := by
        intro hfound
        have hshort : mark <+: c :: (before ++ mark) := by
          refine List.prefix_of_prefix_length_le (List.isPrefixOf_iff_prefix.mp hfound) ?_ ?_
          · exact ⟨more, by simp⟩
          · simp only [List.length_cons, List.length_append]
            omega
        refine hmark (List.isPrefixOf_iff_prefix.mpr (hshort.trans ⟨rest, by simp⟩))
      rw [List.cons_append, afterFirst, if_neg hnone]
      exact hbefore more

end Text

namespace Markup

variable {text rest inside later more gap : List Char} {piece last : Piece} {pieces : List Piece}

/-- A tag is settled by its content and the `>` behind it. -/
theorem exists_append_of_cutTag {quote : Option Char} {content : List Char}
    (h : cutTag quote text = some (content, rest)) :
    text = content ++ '>' :: rest ∧
      ∀ more, cutTag quote (content ++ '>' :: more) = some (content, more) := by
  induction text generalizing quote content with
  | nil => cases h
  | cons c tail ih =>
    unfold cutTag at h
    cases quote with
    | none =>
      simp only at h
      split at h
      next hclose =>
        cases h
        exact ⟨by rw [hclose]; rfl, fun more => by simp [cutTag]⟩
      next hclose =>
        obtain ⟨cut, hcut, hpair⟩ := Option.map_eq_some_iff.mp h
        cases hpair
        obtain ⟨htail, hmore⟩ := ih hcut
        exact ⟨congrArg _ htail, fun more => by simp [cutTag, hclose, hmore]⟩
    | some open_ =>
      obtain ⟨cut, hcut, hpair⟩ := Option.map_eq_some_iff.mp h
      cases hpair
      obtain ⟨htail, hmore⟩ := ih hcut
      exact ⟨congrArg _ htail, fun more => by simp [cutTag, hmore]⟩

/-- A document type declaration is settled by its content and the `>` behind it. -/
theorem exists_append_of_cutBalanced {unbalanced : Nat} {content : List Char}
    (h : cutBalanced unbalanced text = some (content, rest)) :
    text = content ++ '>' :: rest ∧
      ∀ more, cutBalanced unbalanced (content ++ '>' :: more) = some (content, more) := by
  induction text generalizing unbalanced content with
  | nil => cases h
  | cons c tail ih =>
    unfold cutBalanced at h
    split at h
    next hopen =>
      obtain ⟨cut, hcut, hpair⟩ := Option.map_eq_some_iff.mp h
      cases hpair
      obtain ⟨htail, hmore⟩ := ih hcut
      exact ⟨congrArg _ htail, fun more => by simp [cutBalanced, hopen, hmore]⟩
    next hopen =>
      split at h
      next hclose =>
        cases unbalanced with
        | zero =>
          cases h
          exact ⟨by rw [hclose]; rfl, fun more => by simp [cutBalanced]⟩
        | succ less =>
          obtain ⟨cut, hcut, hpair⟩ := Option.map_eq_some_iff.mp h
          cases hpair
          obtain ⟨htail, hmore⟩ := ih hcut
          exact ⟨congrArg _ htail, fun more => by simp [cutBalanced, hclose, hmore]⟩
      next hclose =>
        obtain ⟨cut, hcut, hpair⟩ := Option.map_eq_some_iff.mp h
        cases hpair
        obtain ⟨htail, hmore⟩ := ih hcut
        exact ⟨congrArg _ htail, fun more => by simp [cutBalanced, hopen, hclose, hmore]⟩

/-- What is passed over is settled by the part up to the mark. -/
theorem exists_append_of_passOver {mark : String} {cause : DelimiterError}
    (h : passOver mark cause text = .ok rest) :
    ∃ part, text = part ++ rest ∧ ∀ more, passOver mark cause (part ++ more) = .ok more := by
  unfold passOver at h
  split at h
  next found hfound =>
    cases h
    obtain ⟨before, htext, hmore⟩ := Text.exists_append_of_afterFirst hfound
    refine ⟨before ++ mark.toList, by rw [htext, List.append_assoc], fun more => ?_⟩
    rw [passOver, List.append_assoc, hmore]
  · cases h

/-- A document type declaration that is passed over is settled by its own characters. -/
theorem exists_append_of_passOverDocumentType (h : passOverDocumentType text = .ok rest) :
    ∃ part, text = part ++ rest ∧ ∀ more, passOverDocumentType (part ++ more) = .ok more := by
  unfold passOverDocumentType at h
  split at h
  next hword =>
    split at h
    next content after hcut =>
      split at h
      · cases h
      next hname =>
        cases h
        obtain ⟨htext, hmore⟩ := exists_append_of_cutBalanced hcut
        have hlength : (text.take documentTypeWord.length).length = documentTypeWord.length := by
          rw [← List.length_map, hword]
        refine ⟨text.take documentTypeWord.length ++ content ++ ['>'], ?_, fun more => ?_⟩
        · rw [List.append_assoc, List.append_assoc, List.singleton_append, ← htext,
            List.take_append_drop]
        · have hpart : text.take documentTypeWord.length ++ content ++ ['>'] ++ more =
              text.take documentTypeWord.length ++ (content ++ '>' :: more) := by simp
          rw [passOverDocumentType, hpart, List.take_left' hlength, List.drop_left' hlength,
            if_pos hword, hmore]
          exact if_neg hname
    · cases h
  · cases h

/-- What begins with `<!` and is passed over is settled by its own characters. -/
theorem exists_append_of_passOverDeclaration (h : passOverDeclaration text = .ok rest) :
    ∃ part, text = part ++ rest ∧ ∀ more, passOverDeclaration (part ++ more) = .ok more := by
  have hword : passOverDocumentType [] ≠ .ok [] := by decide
  unfold passOverDeclaration at h
  split at h
  next comment =>
    obtain ⟨part, rfl, hmore⟩ := exists_append_of_passOver h
    exact ⟨'-' :: '-' :: part, rfl, hmore⟩
  · cases h
  next characters =>
    obtain ⟨part, rfl, hmore⟩ := exists_append_of_passOver h
    exact ⟨'[' :: 'C' :: 'D' :: 'A' :: 'T' :: 'A' :: '[' :: part, rfl, hmore⟩
  · cases h
  next others =>
    obtain ⟨part, hpart, hmore⟩ := exists_append_of_passOverDocumentType h
    cases part with
    | nil => exact absurd (hmore []) hword
    | cons c part =>
      obtain ⟨rfl, rfl⟩ := List.cons.inj hpart
      exact ⟨'D' :: part, rfl, hmore⟩
  next others =>
    obtain ⟨part, hpart, hmore⟩ := exists_append_of_passOverDocumentType h
    cases part with
    | nil => exact absurd (hmore []) hword
    | cons c part =>
      obtain ⟨rfl, rfl⟩ := List.cons.inj hpart
      exact ⟨'d' :: part, rfl, hmore⟩
  · cases h

/-- What begins with `<?` and is passed over is settled by its own characters. -/
theorem exists_append_of_passOverInstruction (h : passOverInstruction text = .ok rest) :
    ∃ part, text = part ++ rest ∧ ∀ more, passOverInstruction (part ++ more) = .ok more := by
  unfold passOverInstruction at h
  split at h
  · cases h
  next hfirst =>
    obtain ⟨part, rfl, hmore⟩ := exists_append_of_passOver h
    refine ⟨part, rfl, fun more => ?_⟩
    cases part with
    | nil => exact absurd (hmore []) (by decide)
    | cons c part =>
      unfold passOverInstruction
      split
      next hclose =>
        obtain ⟨rfl, -⟩ := List.cons.inj hclose
        exact absurd rfl (hfirst _)
      · exact hmore more

/-- A piece of markup is settled by its own characters, and what follows it is left. -/
theorem exists_append_of_readPiece (h : readPiece text = .ok (piece, rest)) :
    ∃ inside, text = inside ++ rest ∧ ∀ more, readPiece (inside ++ more) = .ok (piece, more) := by
  unfold readPiece at h
  split at h
  next declaration =>
    cases hpass : passOverDeclaration declaration with
    | error cause => rw [hpass] at h; cases h
    | ok left =>
      rw [hpass] at h
      cases h
      obtain ⟨part, rfl, hmore⟩ := exists_append_of_passOverDeclaration hpass
      exact ⟨'!' :: part, rfl, fun more => by simp [readPiece, hmore, Except.map]⟩
  next instruction =>
    cases hpass : passOverInstruction instruction with
    | error cause => rw [hpass] at h; cases h
    | ok left =>
      rw [hpass] at h
      cases h
      obtain ⟨part, rfl, hmore⟩ := exists_append_of_passOverInstruction hpass
      exact ⟨'?' :: part, rfl, fun more => by simp [readPiece, hmore, Except.map]⟩
  next ending =>
    split at h
    next content left hcut =>
      cases h
      obtain ⟨rfl, hmore⟩ := exists_append_of_cutTag hcut
      exact ⟨'/' :: (content ++ ['>']), by simp, fun more => by simp [readPiece, hmore]⟩
    · cases h
  next hdeclaration hinstruction hending =>
    split at h
    next content left hcut =>
      cases h
      obtain ⟨rfl, hmore⟩ := exists_append_of_cutTag hcut
      refine ⟨content ++ ['>'], by simp, fun more => ?_⟩
      rw [List.append_assoc, List.singleton_append]
      cases content with
      | nil => simp [readPiece, cutTag]
      | cons c content =>
        -- The tag begins with `c` whatever follows it, so it is read as a tag again.
        unfold readPiece
        split
        next heq =>
          obtain ⟨rfl, -⟩ := List.cons.inj heq
          exact (hdeclaration _ rfl).elim
        next heq =>
          obtain ⟨rfl, -⟩ := List.cons.inj heq
          exact (hinstruction _ rfl).elim
        next heq =>
          obtain ⟨rfl, -⟩ := List.cons.inj heq
          exact (hending _ rfl).elim
        next => rw [hmore]
    · cases h

/-- The text is one whole piece of markup, without the `<` that it begins with. -/
def Whole (inside : List Char) (piece : Piece) : Prop :=
  readPiece inside = .ok (piece, [])

instance (inside : List Char) (piece : Piece) : Decidable (Whole inside piece) :=
  inferInstanceAs (Decidable (readPiece inside = .ok (piece, [])))

/-- A whole piece is read as such, whatever follows it. -/
theorem Whole.readPiece_append (h : Whole inside piece) (more : List Char) :
    readPiece (inside ++ more) = .ok (piece, more) := by
  obtain ⟨part, htext, hmore⟩ := exists_append_of_readPiece h
  rw [List.append_nil] at htext
  rw [htext, hmore]

/-- A whole piece that is cut short is no piece. -/
theorem Whole.readPiece_of_prefix (h : Whole inside piece) (hshort : text <+: inside)
    (hne : text ≠ inside) : ∃ cause, readPiece text = .error cause := by
  cases hread : readPiece text with
  | error cause => exact ⟨cause, rfl⟩
  | ok found =>
    obtain ⟨other, left⟩ := found
    obtain ⟨more, rfl⟩ := hshort
    obtain ⟨part, rfl, hpart⟩ := exists_append_of_readPiece hread
    have hleft := (hpart (left ++ more)).symm.trans ((List.append_assoc part left more) ▸ h)
    obtain ⟨rfl, rfl⟩ := List.append_eq_nil_iff.mp (congrArg Prod.snd (Except.ok.inj hleft))
    exact absurd (by simp) hne

/-- The text falls into whole pieces of markup with other text between them, and ends with the text
`rest` behind the last piece. -/
inductive Scan : List Char → List Piece → List Char → Prop
  | gap {gap : List Char} (hgap : '<' ∉ gap) : Scan gap [] gap
  | piece {gap inside later rest : List Char} {piece : Piece} {pieces : List Piece}
      (hgap : '<' ∉ gap) (hinside : Whole inside piece) (hlater : Scan later pieces rest) :
      Scan (gap ++ '<' :: (inside ++ later)) (piece :: pieces) rest

/-- The text ends outside markup, behind the given pieces. -/
def Outside (text : List Char) (pieces : List Piece) : Prop :=
  ∃ rest, Scan text pieces rest

/-- The text ends inside a piece of markup of the document that it begins. -/
def Inside (text document : List Char) : Prop :=
  ∃ before pieces part inside piece, Outside before pieces ∧ Whole inside piece ∧
    part <+: inside ∧ part ≠ inside ∧ text = before ++ '<' :: part ∧
    before ++ '<' :: inside <+: document

/-- Two texts with the same first `<` agree before it and behind it. -/
theorem append_cons_inj {gap gap' rest rest' : List Char} (hgap : '<' ∉ gap) (hgap' : '<' ∉ gap')
    (h : gap ++ '<' :: rest = gap' ++ '<' :: rest') : gap = gap' ∧ rest = rest' := by
  have hdrop {gap rest : List Char} (hgap : '<' ∉ gap) :
      (gap ++ '<' :: rest).dropWhile (· != '<') = '<' :: rest := by
    refine (List.dropWhile_append_of_pos fun c hc => bne_iff_ne.mpr ?_).trans rfl
    rintro rfl
    exact hgap hc
  have hrest : '<' :: rest = '<' :: rest' := by rw [← hdrop hgap, h, hdrop hgap']
  exact ⟨List.append_cancel_right (hrest ▸ h), (List.cons.inj hrest).2⟩

/-- A text that another one begins with has its pieces in front of those of the other, and the rest
of the other falls into the pieces that are left. -/
theorem Scan.exists_later {start : List Char} {met : List Piece} {behind : List Char}
    (hmet : Scan start met behind) (hscan : Scan (start ++ more) pieces rest) :
    ∃ later, pieces = met ++ later ∧ Scan (behind ++ more) later rest := by
  induction hmet generalizing pieces with
  | gap _ => exact ⟨pieces, rfl, hscan⟩
  | @piece gap inside following _ piece met hgap hinside _ ih =>
    rw [List.append_assoc, List.cons_append, List.append_assoc] at hscan
    generalize htext : gap ++ '<' :: (inside ++ (following ++ more)) = text at hscan
    cases hscan with
    | gap hnone => exact absurd (htext ▸ List.mem_append_right gap List.mem_cons_self) hnone
    | @piece gap' inside' following' _ piece' pieces hgap' hinside' hfollowing' =>
      obtain ⟨-, hinner⟩ := append_cons_inj hgap hgap' htext
      have hread := hinside.readPiece_append (following ++ more)
      rw [hinner, hinside'.readPiece_append] at hread
      obtain ⟨rfl, rfl⟩ := Prod.mk.inj (Except.ok.inj hread)
      obtain ⟨later, rfl, hlater⟩ := ih hfollowing'
      exact ⟨later, rfl, hlater⟩

/-- The pieces of a text that is cut short come before the last piece of the whole text. -/
theorem Scan.exists_later_of_ne_nil {start behind : List Char} {met before : List Piece}
    (hmet : Scan start met behind) (hscan : Scan (start ++ more) (before ++ [last]) [])
    (hmore : more ≠ []) : ∃ later, before ++ [last] = met ++ (later ++ [last]) := by
  obtain ⟨later, hpieces, hlater⟩ := hmet.exists_later hscan
  rcases List.eq_nil_or_concat later with rfl | ⟨later, final, rfl⟩
  · generalize hrest : behind ++ more = rest at hlater
    cases hlater
    exact absurd (List.append_eq_nil_iff.mp hrest).2 hmore
  · rw [List.concat_eq_append, ← List.append_assoc] at hpieces
    obtain ⟨hbefore, hfinal⟩ := List.append_inj' hpieces rfl
    exact ⟨later, by rw [hbefore, List.append_assoc]⟩

/-- What ends inside a piece of markup does so behind any other piece, too. -/
theorem Inside.behind {start document : List Char} (hgap : '<' ∉ gap)
    (hinside : Whole inside piece) (h : Inside start document) :
    Inside (gap ++ '<' :: (inside ++ start)) (gap ++ '<' :: (inside ++ document)) := by
  obtain ⟨before, pieces, part, cut, last, ⟨rest, hscan⟩, hcut, hshort, hne, rfl, hbegins⟩ := h
  refine ⟨gap ++ '<' :: (inside ++ before), piece :: pieces, part, cut, last,
    ⟨rest, .piece hgap hinside hscan⟩, hcut, hshort, hne, by simp, ?_⟩
  rw [List.append_assoc, List.cons_append, List.append_assoc, List.prefix_append_right_inj,
    List.cons_prefix_cons, List.prefix_append_right_inj]
  exact ⟨rfl, hbegins⟩

/-- Wherever a text is cut, it is cut outside markup or inside one of its pieces. -/
theorem Scan.outside_or_inside {start : List Char} (hscan : Scan text pieces rest)
    (hbegins : start <+: text) : (∃ met, Outside start met) ∨ Inside start text := by
  induction hscan generalizing start with
  | @gap gap hgap => exact .inl ⟨[], start, .gap fun hmem => hgap (hbegins.mem hmem)⟩
  | @piece gap inside later rest piece pieces hgap hinside hlater ih =>
    obtain ⟨more, hmore⟩ := hbegins
    rcases List.append_eq_append_iff.mp hmore with ⟨behind, rfl, -⟩ | ⟨inner, rfl, hinner⟩
    · exact .inl ⟨[], start, .gap fun hmem => hgap (List.mem_append_left _ hmem)⟩
    cases inner with
    | nil => exact .inl ⟨[], gap, by rw [List.append_nil]; exact .gap hgap⟩
    | cons first inner =>
      obtain ⟨rfl, hpart⟩ := List.cons.inj hinner
      rcases List.append_eq_append_iff.mp hpart.symm with ⟨missing, rfl, -⟩ | ⟨tail, rfl, htail⟩
      · by_cases hmissing : missing = []
        · subst hmissing
          rw [List.append_nil] at hinside
          have hend : Scan [] [] [] := .gap List.not_mem_nil
          exact .inl ⟨[piece], [], by simpa using Scan.piece hgap hinside hend⟩
        · have hne : inner ≠ inner ++ missing := fun heq =>
            hmissing (List.append_right_eq_self.mp heq.symm)
          exact .inr ⟨gap, [], inner, inner ++ missing, piece, ⟨gap, .gap hgap⟩, hinside,
            List.prefix_append inner missing, hne, rfl, later, by simp⟩
      · rcases ih ⟨more, htail.symm⟩ with ⟨met, behind, hmet⟩ | hcut
        · exact .inl ⟨piece :: met, behind, .piece hgap hinside hmet⟩
        · exact .inr (hcut.behind hgap hinside)

end Markup

end Bindery
