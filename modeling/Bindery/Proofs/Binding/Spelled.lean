import Bindery.Binding.Listing

/-!
# The code, spelled out

A listing is written line by line, with the indentation worked out from the nesting. Here the text
is written down construct by construct, with every character in its place, and shown to be the same.
-/

namespace Bindery.Binding

/-- The line for a directive about the declaration of the given qualified name. -/
def Directive.spelled (qualified : String) (directive : Directive) : String :=
  let registered := match directive with
    | .inherit base => ".inherit< " ++ base ++ " >()"
    | .member name => ".set (\"" ++ name ++ "\", &" ++ qualified ++ "::" ++ name ++ ")"
    | .accessor name =>
      ".set (\"" ++ name ++ "\", &" ++ qualified ++ "::" ++ name ++ ", &" ++ qualified ++ "::"
        ++ name ++ ")"
    | .value name => ".set (" ++ qualified ++ "::" ++ name ++ ", \"" ++ name ++ "\")"
  "    " ++ registered ++ "\n"

/-- The name of a template. -/
def Template.spelled : Template → String
  | .enumeration => "Enum"
  | .plainData => "Serializable"
  | .object => "Class"

/-- The text of a statement: the declaration, and then the directives unless nothing is registered
about a class. -/
def Statement.spelled (statement : Statement) : String :=
  "  ::Jsonipc::" ++ statement.template.spelled ++ "< " ++ statement.qualified ++ " > "
    ++ statement.identifier ++ ";\n"
    ++ if statement.template ≠ .enumeration ∧ statement.directives = [] then ""
      else
        "  " ++ statement.identifier ++ "\n"
          ++ String.join (statement.directives.map (Directive.spelled statement.qualified))
          ++ "    ;\n"

/-- The text of a block: the comment with its namespace, and then the statements. -/
def Block.spelled (block : Block) : String :=
  "  // namespace " ++ block.name ++ "\n" ++ String.join (block.statements.map Statement.spelled)

/-- The text of a function. -/
def Listing.spelled (listing : Listing) : String :=
  "static void\n" ++ listing.function ++ "()\n\x7b\n"
    ++ String.join (listing.blocks.map Block.spelled) ++ "\x7d\n"

/-- A line that is not indented. -/
theorem Line.render_zero (text : String) : Line.render ⟨0, text⟩ = text ++ "\n" := by
  simp [render]

/-- A line of the first level. -/
theorem Line.render_one (text : String) : Line.render ⟨1, text⟩ = "  " ++ text ++ "\n" := by
  simp [render, String.join]

/-- A line of the second level. -/
theorem Line.render_two (text : String) : Line.render ⟨2, text⟩ = "    " ++ text ++ "\n" := by
  simp [render, String.join]

/-- The line of a directive is as it is spelled out. -/
theorem Directive.line_eq_spelled (directive : Directive) (qualified : String) :
    "    " ++ directive.line qualified ++ "\n" = directive.spelled qualified := by
  cases directive <;> rfl

/-- The line of a declaration is as it is spelled out. -/
theorem Statement.toList_declaration (statement : Statement) :
    "  ".toList ++ statement.declaration.toList ++ "\n".toList =
      ("  ::Jsonipc::" ++ statement.template.spelled ++ "< " ++ statement.qualified ++ " > "
        ++ statement.identifier ++ ";\n").toList := by
  rw [declaration_eq]
  cases statement.template <;>
    simp only [Template.name, Template.spelled, String.toList_append, String.reduceToList,
      List.cons_append, List.nil_append, List.append_assoc]

-- The texts are compared character by character: where they are put together of other parts, it
-- takes very long to see that they are the same.

/-- The lines of a statement are as they are spelled out. -/
theorem Statement.render_lines (statement : Statement) :
    String.join (statement.lines.map Line.render) = statement.spelled := by
  have hends : statement.goesOn = false ↔
      statement.template ≠ .enumeration ∧ statement.directives = [] := by
    simp [goesOn]
  refine String.toList_inj.mp ?_
  unfold lines spelled
  cases hgoesOn : statement.goesOn with
  | true =>
    have hopen := mt hends.mpr (by simp [hgoesOn])
    simp only [if_neg hopen, if_true, List.cons_append, List.map_cons, List.map_append,
      List.map_map, List.map_nil, Function.comp_def, Line.render_one, Line.render_two,
      Directive.line_eq_spelled, String.join_cons, String.join_append, String.toList_append,
      toList_declaration]
    simp only [String.join_nil, String.reduceToList, List.cons_append, List.nil_append,
      List.append_nil, List.append_assoc]
  | false =>
    simp only [if_pos (hends.mp hgoesOn), Bool.false_eq_true, if_false, List.map_cons,
      List.map_nil, String.join_cons, Line.render_one, String.toList_append, toList_declaration]
    rfl

/-- The lines of a block are as they are spelled out. -/
theorem Block.render_lines (block : Block) :
    String.join (block.lines.map Line.render) = block.spelled := by
  refine String.toList_inj.mp ?_
  unfold lines spelled
  simp only [List.map_cons, List.map_flatMap, String.toList_join, String.toList_append,
    List.flatMap_cons, List.flatMap_assoc, Line.render_one, List.flatMap_map,
    ← Statement.render_lines, String.reduceToList, List.cons_append, List.nil_append]

/-- A function is written as it is spelled out. -/
theorem Listing.render_eq_spelled (listing : Listing) : listing.render = listing.spelled := by
  refine String.toList_inj.mp ?_
  unfold render lines spelled
  simp only [List.map_cons, List.map_nil, List.map_append, List.map_flatMap, String.toList_join,
    String.toList_append, List.flatMap_cons, List.flatMap_nil, List.flatMap_append,
    List.flatMap_assoc, Line.render_zero, List.flatMap_map, ← Block.render_lines,
    String.reduceToList, List.cons_append, List.nil_append, List.append_assoc]

end Bindery.Binding
