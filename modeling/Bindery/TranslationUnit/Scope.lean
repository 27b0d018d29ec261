import Bindery.TranslationUnit.Session

/-!
# Qualified names

The qualified name of a declaration is that of its scope, then `::` and its own name. The global
namespace and scopes that cannot be found count as empty. Where scopes lead round in a circle, each
declaration on the circle is named as if it stood in the global namespace, so that a name does not
depend on which declaration is asked for first.

Names that were worked out once are kept in the session: the walk outwards ends at the first scope
whose name is known.
-/

namespace Bindery

namespace TranslationUnit

/-- Where a walk outwards ends. -/
inductive Stop where
  /-- At a declaration that has no scope but the global one. -/
  | outermost
  /-- At a scope whose qualified name is known. -/
  | named (qualified : String)
  /-- At a scope that the walk came through before. -/
  | cycle (entry : NodeId)
  deriving DecidableEq, Repr

/-- The number of nodes that do not stand on the way. -/
def unvisited (unit : TranslationUnit) (way : List NodeId) : Nat :=
  (List.range unit.size).countP (· ∉ way)

/-- A node that is no longer counted makes the count smaller. -/
theorem countP_lt_countP {p q : Nat → Bool} {x : Nat} {numbers : List Nat} (hx : x ∈ numbers)
    (hp : p x = true) (hq : q x = false) (himp : ∀ a, q a = true → p a = true) :
    numbers.countP q < numbers.countP p := by
  induction numbers with
  | nil => cases hx
  | cons a numbers ih =>
    have hle : numbers.countP q ≤ numbers.countP p := List.countP_mono_left fun b _ => himp b
    rcases List.mem_cons.1 hx with rfl | hmem
    · simp only [List.countP_cons, hp, hq]
      simpa using Nat.lt_succ_of_le hle
    · have hlt := ih hmem
      cases ha : q a with
      | true =>
        simp only [List.countP_cons, ha, himp a ha, if_true]
        omega
      | false =>
        simp only [List.countP_cons, ha, Bool.false_eq_true, if_false]
        omega

/-- A step to a new node leaves fewer unvisited ones. -/
theorem unvisited_cons_lt {unit : TranslationUnit} {way : List NodeId} {n : NodeId}
    (hlt : n < unit.size) (hnew : n ∉ way) : unit.unvisited (n :: way) < unit.unvisited way :=
  countP_lt_countP (List.mem_range.2 hlt) (by simpa using hnew) (by simp)
    (fun a ha => by simp_all)

/-- Walks outwards from the node `n`, the head of the way so far. The answer is the whole way,
outermost node first, and why it ends. -/
def climb (unit : TranslationUnit) (names : Std.TreeMap NodeId String) (way : List NodeId)
    (n : NodeId) : List NodeId × Stop :=
  match _hscope : unit.scope? n with
  | none => (way, .outermost)
  | some scope =>
    match names[scope]? with
    | some qualified => (way, .named qualified)
    | none =>
      if _hseen : scope ∈ way then (way, .cycle scope)
      else climb unit names (scope :: way) scope
termination_by unit.unvisited way
decreasing_by exact unvisited_cons_lt (lt_size_of_scope? _hscope) _hseen

/-- The name of a node below a scope of the given qualified name. -/
def nameBelow (unit : TranslationUnit) (qualified : String) (n : NodeId) : String :=
  qualified ++ "::" ++ (unit.node n).name

/-- Names the nodes of a way, outermost first, each below the one before it. -/
def nameWay (unit : TranslationUnit) (qualified : String) : List NodeId → Query String
  | [] => return qualified
  | n :: inner => do
    let own := unit.nameBelow qualified n
    modify fun session => { session with names := session.names.insertIfNew n own }
    nameWay unit own inner

/-- Names the nodes of a circle as if each stood in the global namespace. -/
def nameCircle (unit : TranslationUnit) (circle : List NodeId) : Query Unit :=
  circle.forM fun n =>
    modify fun session =>
      { session with names := session.names.insertIfNew n (unit.nameBelow "" n) }

/-- The qualified name of a node, for instance `::Outer::Inner::Name`. -/
def qualifiedName (unit : TranslationUnit) (n : NodeId) : Query String := do
  let session ← get
  match session.names[n]? with
  | some qualified => return qualified
  | none =>
    if unit.isGlobal n then
      set { session with names := session.names.insertIfNew n "" }
      return ""
    else
      match unit.climb session.names [n] n with
      | (way, .outermost) => unit.nameWay "" way
      | (way, .named qualified) => unit.nameWay qualified way
      | (way, .cycle entry) =>
        Session.tell (.scopeCycle (unit.node entry).id?)
        unit.nameCircle (way.takeWhile (· != entry) ++ [entry])
        unit.nameWay (unit.nameBelow "" entry) (way.dropWhile (· != entry)).tail

end TranslationUnit

end Bindery
