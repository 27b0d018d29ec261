import Bindery.Proofs.Scope.Way

/-!
# What a session remembers

The names that a session keeps are those of `scopedName`, and with each node but the global
namespace that has a name its scope has one, too. Such a session is called sound. Asking a sound
session for a qualified name answers with `scopedName` and leaves a sound session.
-/

namespace Bindery

open TranslationUnit

/-- The names that a session keeps are right, and with each of them it keeps that of the scope. The
global namespace is left out: nothing is asked about what it stands in. -/
structure Session.Sound (unit : TranslationUnit) (session : Session) : Prop where
  /-- Every name is the one that the node has without any memory. -/
  eq_scopedName : ∀ {n qualified}, session.names[n]? = some qualified →
    qualified = unit.scopedName n
  /-- A node has a name only if its scope has one. -/
  closedOutward : unit.ClosedOutward fun n => n ∈ session.names ∧ unit.isGlobal n = false

namespace TranslationUnit

variable {unit : TranslationUnit} {session : Session} {n : NodeId} {way circle : List NodeId}
  {qualified : String}

/-- A session that nothing was asked in is sound. -/
theorem sound_start (unit : TranslationUnit) (journal : Array Log.Notice) :
    (Session.start journal).Sound unit where
  eq_scopedName h := by simp [Session.start] at h
  closedOutward _ _ h := by simp [Session.start] at h

/-- A node with a name is one of those that a session knows. -/
theorem mem_names_iff : n ∈ session.names ↔ ∃ qualified, session.names[n]? = some qualified := by
  rw [Std.TreeMap.mem_iff_isSome_getElem?, Option.isSome_iff_exists]

/-- Writing down the right name of a node whose scope has a name keeps a session sound. -/
theorem sound_insert (hsound : session.Sound unit) (hname : qualified = unit.scopedName n)
    (hscope : unit.isGlobal n = false → ∀ scope, unit.InScope n scope → scope ∈ session.names) :
    Session.Sound unit { session with names := session.names.insertIfNew n qualified } where
  eq_scopedName {m found} h := by
    rw [Std.TreeMap.getElem?_insertIfNew] at h
    split at h
    next heq =>
      obtain rfl := Std.LawfulEqCmp.eq_of_compare heq.1
      rw [← Option.some.inj h, hname]
    · exact hsound.eq_scopedName h
  closedOutward m scope hm hstep := by
    simp only [Std.TreeMap.mem_insertIfNew] at hm ⊢
    refine ⟨.inr ?_, isGlobal_eq_false_of_inScope hstep⟩
    rcases hm with ⟨heq | hm, hlocal⟩
    · obtain rfl := Std.LawfulEqCmp.eq_of_compare heq
      exact hscope hlocal scope hstep
    · exact (hsound.closedOutward ⟨hm, hlocal⟩ hstep).1

/-- A node of which nothing is known but its scope is named below that scope. -/
theorem nameBelow_scopedName {scope : NodeId} (hlocal : unit.isGlobal n = false)
    (hfree : ¬unit.OnCircle n) (hscope : unit.InScope n scope) :
    unit.nameBelow (unit.scopedName scope) n = unit.scopedName n :=
  (scopedName_of_inScope hlocal hfree hscope).symm

/-- The name of a node below nothing. -/
theorem nameBelow_empty (unit : TranslationUnit) (n : NodeId) :
    unit.nameBelow "" n = "::" ++ (unit.node n).name := by
  rw [nameBelow, String.empty_append]

/-- Naming a way begins with its outermost node. -/
theorem run_nameWay_cons (qualified : String) (n : NodeId) (inner : List NodeId)
    (session : Session) :
    (unit.nameWay qualified (n :: inner)).run session =
      (unit.nameWay (unit.nameBelow qualified n) inner).run
        { session with names := session.names.insertIfNew n (unit.nameBelow qualified n) } :=
  rfl

/-- Naming a way inwards from a scope that has a name keeps a session sound and answers with the
name of the node that the way leads to. -/
theorem nameWay_spec {scope : NodeId} (hsound : session.Sound unit)
    (hlinked : unit.Linked (scope :: way)) (hname : scope ∈ session.names)
    (hlocal : ∀ m ∈ way, unit.isGlobal m = false) (hfree : ∀ m ∈ way, ¬unit.OnCircle m) :
    ((unit.nameWay (unit.scopedName scope) way).run session).1 =
        unit.scopedName (way.getLast?.getD scope) ∧
      ((unit.nameWay (unit.scopedName scope) way).run session).2.Sound unit := by
  induction way generalizing scope session with
  | nil => exact ⟨rfl, hsound⟩
  | cons n inner ih =>
    obtain ⟨hstep, hrest⟩ := List.isChain_cons_cons.mp hlinked
    rw [List.forall_mem_cons] at hlocal hfree
    have hown := nameBelow_scopedName hlocal.1 hfree.1 hstep
    have hnext : Session.Sound unit
        { session with names := session.names.insertIfNew n (unit.scopedName n) } := by
      refine sound_insert hsound rfl fun _ found hfound => ?_
      rwa [inScope_rightUnique unit hfound hstep]
    rw [run_nameWay_cons, hown, List.getLast?_cons, Option.getD_some]
    exact ih hnext hrest Std.TreeMap.mem_insertIfNew_self hlocal.2 hfree.2

/-- Naming a circle writes down the names of its nodes and of no others. -/
theorem names_nameCircle (circle : List NodeId) (session : Session) (m : NodeId) :
    ((unit.nameCircle circle).run session).2.names[m]? =
      session.names[m]?.or (if m ∈ circle then some (unit.nameBelow "" m) else none) := by
  induction circle generalizing session with
  | nil =>
    change session.names[m]? = _
    simp
  | cons n circle ih =>
    let next : Session :=
      { session with names := session.names.insertIfNew n (unit.nameBelow "" n) }
    have hrest : ((unit.nameCircle (n :: circle)).run session).2 =
        ((unit.nameCircle circle).run next).2 := rfl
    rw [hrest, ih, Std.TreeMap.getElem?_insertIfNew]
    by_cases hm : n = m
    · subst hm
      cases hfound : session.names[n]? with
      | none =>
        have hnot : n ∉ session.names := by simp [mem_names_iff, hfound]
        simp [hnot]
      | some qualified =>
        have hmem : n ∈ session.names := mem_names_iff.mpr ⟨qualified, hfound⟩
        simp [hmem]
    · have hne : compare n m ≠ .eq := fun h => hm (Std.LawfulEqOrd.eq_of_compare h)
      simp [hne, Ne.symm hm]

/-- Naming a circle keeps a session sound and leaves no node of the circle without a name. -/
theorem nameCircle_spec {inner : List NodeId} {entry : NodeId} (hsound : session.Sound unit)
    (hlinked : unit.Linked (n :: inner)) (hlast : (n :: inner).getLast? = some entry)
    (hscope : unit.InScope n entry) (hlocal : ∀ m ∈ n :: inner, unit.isGlobal m = false) :
    ((unit.nameCircle (n :: inner)).run session).2.Sound unit ∧
      ∀ m ∈ n :: inner, m ∈ ((unit.nameCircle (n :: inner)).run session).2.names := by
  have hmem (m : NodeId) : m ∈ ((unit.nameCircle (n :: inner)).run session).2.names ↔
      m ∈ session.names ∨ m ∈ n :: inner := by
    simp only [Std.TreeMap.mem_iff_isSome_getElem?, names_nameCircle]
    split <;> simp [*]
  refine ⟨⟨fun {m qualified} h => ?_, fun m scope hm hstep => ?_⟩, fun m hm =>
    (hmem m).mpr (.inr hm)⟩
  · rw [names_nameCircle] at h
    rcases Option.or_eq_some_iff.mp h with h | ⟨_, h⟩
    · exact hsound.eq_scopedName h
    · split at h
      next hin =>
        rw [← Option.some.inj h, nameBelow_empty,
          scopedName_of_onCircle (hlocal m hin) (hlinked.onCircle hlast hscope hin)]
      · cases h
  · simp only [hmem] at hm ⊢
    refine ⟨?_, isGlobal_eq_false_of_inScope hstep⟩
    rcases hm with ⟨hm | hm, hstart⟩
    · exact .inl (hsound.closedOutward ⟨hm, hstart⟩ hstep).1
    · exact .inr (hlinked.closedOutward hlast hscope hm hstep)

/-- Telling the log something keeps a session sound. -/
theorem sound_tell (hsound : session.Sound unit) (notice : Log.Notice) :
    ((Session.tell notice).run session).2.Sound unit :=
  ⟨hsound.eq_scopedName, hsound.closedOutward⟩

/-- The name of a way whose head has no scope. -/
theorem nameWay_outermost {inner : List NodeId} (hsound : session.Sound unit)
    (hway : unit.IsWay session.names (n :: inner)) (hscope : unit.scope? n = none) :
    ((unit.nameWay "" (n :: inner)).run session).1 = unit.scopedName (inner.getLast?.getD n) ∧
      ((unit.nameWay "" (n :: inner)).run session).2.Sound unit := by
  have hlocal := List.forall_mem_cons.mp hway.declared
  have hown : unit.nameBelow "" n = unit.scopedName n := by
    rw [nameBelow_empty, scopedName_of_scope?_eq_none hlocal.1 hscope]
  have hnext : Session.Sound unit
      { session with names := session.names.insertIfNew n (unit.scopedName n) } := by
    refine sound_insert hsound rfl fun _ found hfound => ?_
    rw [InScope, hscope] at hfound
    cases hfound
  rw [run_nameWay_cons, hown]
  exact nameWay_spec hnext hway.linked Std.TreeMap.mem_insertIfNew_self hlocal.2 fun m hm =>
    hway.linked.not_onCircle_of_outermost hscope (List.mem_cons_of_mem _ hm)

/-- The name of a way whose head stands in a scope that has a name. -/
theorem nameWay_named {inner : List NodeId} {scope : NodeId} (hsound : session.Sound unit)
    (hway : unit.IsWay session.names (n :: inner)) (hscope : unit.InScope n scope)
    (hname : session.names[scope]? = some qualified) :
    ((unit.nameWay qualified (n :: inner)).run session).1 =
        unit.scopedName (inner.getLast?.getD n) ∧
      ((unit.nameWay qualified (n :: inner)).run session).2.Sound unit := by
  obtain rfl := hsound.eq_scopedName hname
  have hmem : scope ∈ session.names := mem_names_iff.mpr ⟨_, hname⟩
  have hlinked : unit.Linked (scope :: n :: inner) :=
    List.isChain_cons_cons.mpr ⟨hscope, hway.linked⟩
  have hspec := nameWay_spec hsound hlinked hmem hway.declared fun m hm =>
    not_onCircle_of_passes_closed hsound.closedOutward
      ((hway.linked.passes_head hm).tail hscope) ⟨hmem, isGlobal_eq_false_of_inScope hscope⟩
      fun hnamed => hway.unnamed m hm hnamed.1
  rwa [List.getLast?_cons, Option.getD_some] at hspec

/-- The names of a way whose head stands in a scope that is on the way: first those of the circle,
then those of the nodes behind it. -/
theorem nameWay_cycle {entry : NodeId} {outer inner : List NodeId} (hsound : session.Sound unit)
    (hway : unit.IsWay session.names (outer ++ entry :: inner))
    (hscope : ∀ n ∈ (outer ++ [entry]).head?, unit.InScope n entry) :
    let named := ((unit.nameCircle (outer ++ [entry])).run session).2
    ((unit.nameWay (unit.nameBelow "" entry) inner).run named).1 =
        unit.scopedName (inner.getLast?.getD entry) ∧
      ((unit.nameWay (unit.nameBelow "" entry) inner).run named).2.Sound unit := by
  have hsplit : outer ++ entry :: inner = (outer ++ [entry]) ++ inner := by simp
  have hlast : (outer ++ [entry]).getLast? = some entry := List.getLast?_concat
  obtain ⟨n, circle, hcircle⟩ := List.exists_cons_of_ne_nil (List.concat_ne_nil entry outer)
  have hinner : unit.Linked (entry :: inner) := (List.isChain_split.mp hway.linked).2
  rw [hcircle] at hlast hscope ⊢
  have hn : unit.InScope n entry := hscope n rfl
  rw [hsplit, hcircle] at hway
  have hlinked : unit.Linked (n :: circle) := hway.linked.left_of_append
  have hentry : entry ∈ n :: circle := List.mem_of_getLast? hlast
  have hlocal : ∀ m ∈ n :: circle, unit.isGlobal m = false := fun m hm =>
    hway.declared m (List.mem_append_left _ hm)
  obtain ⟨hnamed, hmem⟩ := nameCircle_spec hsound hlinked hlast hn hlocal
  have hown : unit.nameBelow "" entry = unit.scopedName entry := by
    rw [nameBelow_empty, scopedName_of_onCircle (hlocal _ hentry)
      (hlinked.onCircle hlast hn hentry)]
  rw [hown]
  refine nameWay_spec hnamed hinner (hmem entry hentry) (fun m hm =>
    hway.declared m (List.mem_append_right _ hm)) fun m hm => ?_
  refine not_onCircle_of_passes_closed (hlinked.closedOutward hlast hn)
    (hinner.passes_head (List.mem_cons_of_mem _ hm)) hentry fun hin => ?_
  exact List.disjoint_of_nodup_append hway.nodup hin hm

/-- Naming what a walk outwards found, from its outermost node inwards. -/
def nameClimbed (unit : TranslationUnit) : List NodeId × Stop → Query String
  | (way, .outermost) => unit.nameWay "" way
  | (way, .named qualified) => unit.nameWay qualified way
  | (way, .cycle entry) => do
    Session.tell (.scopeCycle (unit.node entry).id?)
    unit.nameCircle (way.takeWhile (· != entry) ++ [entry])
    unit.nameWay (unit.nameBelow "" entry) (way.dropWhile (· != entry)).tail

/-- A name that is not known yet is worked out from what a walk outwards finds. -/
theorem run_qualifiedName (hname : session.names[n]? = none) (hlocal : unit.isGlobal n = false) :
    (unit.qualifiedName n).run session =
      (unit.nameClimbed (unit.climb session.names [n] n)).run session := by
  simp only [qualifiedName, StateT.run_bind, StateT.run_get, pure_bind, hname, hlocal,
    Bool.false_eq_true, if_false]
  cases unit.climb session.names [n] n with
  | mk way stop => cases stop <;> rfl

/-- Naming what a walk found answers with the name of the last node of the way. -/
theorem nameClimbed_spec {stop : Stop} (hsound : session.Sound unit)
    (hway : unit.IsWay session.names way) (hends : unit.Ends session.names way stop)
    (hlast : way.getLast? = some n) :
    ((unit.nameClimbed (way, stop)).run session).1 = unit.scopedName n ∧
      ((unit.nameClimbed (way, stop)).run session).2.Sound unit := by
  cases hends with
  | outermost hscope =>
    rw [List.getLast?_cons, Option.some.injEq] at hlast
    rw [← hlast]
    exact nameWay_outermost hsound hway hscope
  | named hscope hname =>
    rw [List.getLast?_cons, Option.some.injEq] at hlast
    rw [← hlast]
    exact nameWay_named hsound hway hscope hname
  | @cycle head entry rest hscope hmem =>
    obtain ⟨outer, inner, hsplit, hnot⟩ := List.eq_append_cons_of_mem hmem
    have hhead : (outer ++ [entry]).head? = some head := by
      cases outer with
      | nil => rw [(List.cons.inj hsplit).1, List.nil_append, List.head?_cons]
      | cons first outer => rw [(List.cons.inj hsplit).1, List.cons_append, List.head?_cons]
    rw [hsplit] at hway hlast ⊢
    have hpass : ∀ m ∈ outer, (m != entry) = true := fun m hm =>
      bne_iff_ne.mpr (ne_of_mem_of_not_mem hm hnot)
    have htake : (outer ++ entry :: inner).takeWhile (· != entry) = outer := by
      rw [List.takeWhile_append_of_pos hpass]
      simp
    have hdrop : (outer ++ entry :: inner).dropWhile (· != entry) = entry :: inner := by
      rw [List.dropWhile_append_of_pos hpass]
      simp
    rw [List.getLast?_append_cons, List.getLast?_cons, Option.some.injEq] at hlast
    rw [nameClimbed, htake, hdrop, List.tail_cons, ← hlast]
    refine nameWay_cycle (sound_tell hsound _) hway fun n hn => ?_
    rw [hhead] at hn
    rwa [← Option.some.inj hn]

/-- A question answers with the given value in every sound session, and leaves it sound. -/
def Answers {α : Type} (unit : TranslationUnit) (query : Query α) (answer : α) : Prop :=
  ∀ session : Session, session.Sound unit →
    (query.run session).1 = answer ∧ (query.run session).2.Sound unit

/-- The qualified name of a node is the one it has without any memory. -/
theorem answers_qualifiedName (unit : TranslationUnit) (n : NodeId) :
    unit.Answers (unit.qualifiedName n) (unit.scopedName n) := by
  intro session hsound
  cases hname : session.names[n]? with
  | some qualified =>
    have hrun : (unit.qualifiedName n).run session = (qualified, session) := by
      simp only [qualifiedName, StateT.run_bind, StateT.run_get, pure_bind, hname]
      rfl
    rw [hrun]
    exact ⟨hsound.eq_scopedName hname, hsound⟩
  | none =>
    cases hlocal : unit.isGlobal n with
    | true =>
      have hrun : (unit.qualifiedName n).run session =
          ("", { session with names := session.names.insertIfNew n "" }) := by
        simp only [qualifiedName, StateT.run_bind, StateT.run_get, pure_bind, hname, hlocal]
        rfl
      rw [hrun]
      have hown := scopedName_of_isGlobal hlocal
      refine ⟨hown.symm, sound_insert hsound hown.symm fun hnot => ?_⟩
      rw [hlocal] at hnot
      cases hnot
    | false =>
      have hunnamed : n ∉ session.names := by simp [mem_names_iff, hname]
      have hstart : unit.IsWay session.names [n] :=
        ⟨.singleton n, List.nodup_singleton n, by simpa using hunnamed, by simpa using hlocal⟩
      obtain ⟨hway, hsuffix, hends⟩ := climb_spec hstart
      rw [run_qualifiedName hname hlocal]
      obtain ⟨outer, hway'⟩ := hsuffix
      have hlast : (unit.climb session.names [n] n).1.getLast? = some n := by
        rw [← hway', List.getLast?_concat]
      exact nameClimbed_spec hsound hway hends hlast

end TranslationUnit

end Bindery
