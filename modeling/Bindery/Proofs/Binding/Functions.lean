import Bindery.Proofs.Binding.Lines

/-!
# The function of a code

The head of a function can be told from all other lines of the code, as it is not indented and ends
with an empty list of parameters. So the name of its function can be read off the code of a tidy
listing.
-/

namespace Bindery.Binding

/-- The name of the function whose head a line is, if it is one: an identifier, without indentation,
with an empty list of parameters. -/
def function? (line : List Char) : Option (List Char) :=
  let name := line.take (line.length - 2)
  if isIdentifier name && line == name ++ ['(', ')'] then some name else none

/-- A line that does not begin as an identifier is no head of a function. -/
theorem function?_eq_none {line : List Char}
    (h : ∀ c ∈ line.head?, isIdentifierStart c = false) : function? line = none := by
  have hname : isIdentifier (line.take (line.length - 2)) = false := by
    cases htake : line.take (line.length - 2) with
    | nil => rfl
    | cons first rest =>
      obtain ⟨behind, hline⟩ : first :: rest <+: line := htake ▸ List.take_prefix _ _
      have hfirst := h first (by rw [← hline]; rfl)
      rw [isIdentifier, hfirst, Bool.false_and]
  rw [function?, hname]
  rfl

/-- The head of a function is read as it was written. -/
theorem function?_append {name : List Char} (h : isIdentifier name = true) :
    function? (name ++ ['(', ')']) = some name := by
  have hname : (name ++ ['(', ')']).take ((name ++ ['(', ')']).length - 2) = name := by
    rw [List.length_append]
    exact List.take_left
  simp only [function?, hname, h, beq_self_eq_true, Bool.and_self, if_true]

/-- A line that is indented is no head of a function. -/
theorem function?_content {depth : Nat} (text : String) (h : depth ≠ 0) :
    function? (Line.content ⟨depth, text⟩) = none := by
  obtain ⟨n, rfl⟩ := Nat.exists_eq_succ_of_ne_zero h
  have hcontent : (Line.content ⟨n + 1, text⟩).head? = some ' ' := by
    simp [Line.content, List.replicate_succ, String.toList_join]
  refine function?_eq_none fun c hc => ?_
  rw [hcontent, Option.mem_some_iff] at hc
  rw [← hc]
  decide

/-- The lines of a statement are indented. -/
theorem Statement.depth_ne_zero {statement : Statement} :
    ∀ line ∈ statement.lines, line.depth ≠ 0 := by
  rw [lines, List.forall_mem_cons]
  refine ⟨Nat.one_ne_zero, ?_⟩
  split
  · simp only [List.cons_append, List.forall_mem_cons, List.forall_mem_append, List.forall_mem_map]
    exact ⟨by decide, fun _ _ => by decide, by decide⟩
  · exact List.forall_mem_nil _

/-- The lines of a block are indented. -/
theorem Block.depth_ne_zero {block : Block} : ∀ line ∈ block.lines, line.depth ≠ 0 := by
  rw [lines, List.forall_mem_cons]
  refine ⟨Nat.one_ne_zero, fun line hline => ?_⟩
  obtain ⟨statement, -, hline⟩ := List.mem_flatMap.mp hline
  exact statement.depth_ne_zero line hline

/-- The lines of a tidy listing have the head of one function among them, which is its own. -/
theorem Listing.Tidy.filterMap_function? {listing : Listing} (h : listing.Tidy) :
    (listing.lines.map Line.content).filterMap function? = [listing.function.toList] := by
  have hhead : Line.content ⟨0, listing.function ++ "()"⟩ =
      listing.function.toList ++ ['(', ')'] := by
    simp [Line.content, String.join]
  have hbody : ((listing.blocks.flatMap Block.lines).map Line.content).filterMap function? = [] := by
    rw [List.filterMap_eq_nil_iff, List.forall_mem_map]
    intro line hline
    obtain ⟨block, -, hline⟩ := List.mem_flatMap.mp hline
    exact function?_content line.text (block.depth_ne_zero line hline)
  have hstatic : function? (Line.content ⟨0, "static void"⟩) = none := by decide
  have hopen : function? (Line.content ⟨0, "\x7b"⟩) = none := by decide
  have hclose : function? (Line.content ⟨0, "\x7d"⟩) = none := by decide
  simp only [lines, List.map_append, List.filterMap_append, List.map_cons, List.map_nil,
    List.filterMap_cons_none hstatic, List.filterMap_cons_none hopen,
    List.filterMap_cons_none hclose, hhead, List.filterMap_cons_some (function?_append h.function),
    hbody, List.filterMap_nil, List.append_nil]

end Bindery.Binding
