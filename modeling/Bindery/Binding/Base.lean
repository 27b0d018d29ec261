import Bindery.Member.Classify
import Bindery.TranslationUnit.Scope

/-!
# Base classes

A class lists its bases as ids, each of which may have access words in front, as in
`virtual:private:_15`. A base is bound if it is a class with a name that may be bound, and is
declared somewhere inside one of the selected namespaces.
-/

namespace Bindery

/-- The id in an entry of a list of bases: what stands after the last `:`. -/
def baseId (token : String) : String :=
  String.ofList (Text.afterLast ':' token.toList)

/-- Whether a qualified name leads through one of the given namespaces first. -/
def isInside (namespaces : List String) (qualified : String) : Bool :=
  match Text.segments qualified.toList with
  | [] :: outermost :: _ => namespaces.contains (String.ofList outermost)
  | _ => false

namespace TranslationUnit

/-- The base that an entry stands for, if it may be bound. -/
def resolveBase (unit : TranslationUnit) (namespaces : List String) (token : String) :
    Query (Option NodeId) := do
  match unit.byIdOfKind? (baseId token) NodeKind.isClassLike with
  | none =>
    Session.tell (.unknownBase token)
    return none
  | some base =>
    if Binding.isBindable (unit.node base).name? then
      let qualified ← unit.qualifiedName base
      if isInside namespaces qualified then return some base
      else
        Session.tell (.foreignBase qualified)
        return none
    else return none

/-- The bases of a class that may be bound, in the order of its list. -/
def resolveBases (unit : TranslationUnit) (namespaces : List String) (n : NodeId) :
    Query (List NodeId) := do
  let found ← ((unit.node n).idList "bases").mapM (unit.resolveBase namespaces)
  return found.reduceOption

end TranslationUnit

end Bindery
