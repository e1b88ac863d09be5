import Stencil.Proofs.Lexemes

/-!
# Arrows

In an arrow function with a return type, nothing but comments stands between that type and the
arrow, and the body comes after it (`Tree.Parsed.arrow`).
-/

namespace Stencil.TypeScript

open Text

/-! ### Last parts of rules -/

namespace Rule

/-- Whether at most one tree that the rule builds has a role, and it comes last. -/
def endsIn (quiet one : Nonterminal → Bool) (given : Role) : GrammarRule → Bool
  | .seq first second     =>
    avoidsAs quiet (fun _ => false) given (fun _ => true) first && endsIn quiet one given second
  | .choice first second  => endsIn quiet one given first && endsIn quiet one given second
  | .role other rule      => other != given || buildsOne one rule
  | rule                  => avoidsAs quiet (fun _ => false) given (fun _ => true) rule

end Rule

namespace Reads

variable {rule : GrammarRule} {left trees : List Tree} {place later : Place}
  {quiet one : Nonterminal → Bool} {given : Role}

/-- What a rule builds in a role comes last. -/
lemma endsIn (hquiet : ∀ nonterminal, quiet nonterminal →
      (grammar nonterminal).avoidsAs quiet (fun _ => false) given (fun _ => true))
    (hone : ∀ nonterminal, one nonterminal → (grammar nonterminal).buildsOne one)
    (h : Reads grammar rule left place trees later) (hrule : rule.endsIn quiet one given)
    {tree : Tree} (hmem : tree ∈ trees) (hrole : tree.role = some given) :
    ∃ first, trees = first ++ [tree] := by
  have hclear : ∀ nonterminal, (fun _ : Nonterminal => false) nonterminal = true →
      (grammar nonterminal).avoids (fun _ => false) (fun _ => true) := nofun
  have hnone {rule : GrammarRule} {left trees : List Tree} {place later : Place}
      (h : Reads grammar rule left place trees later)
      (hrule : rule.avoidsAs quiet (fun _ => false) given fun _ => true) (hmem : tree ∈ trees) :
      False := by
    cases (h.avoidsAs hclear hquiet).1 hrule tree hmem hrole
  induction rule generalizing left trees place later with
  | seq first second _ ih =>
    simp only [Rule.endsIn, Bool.and_eq_true] at hrule
    cases h with | @seq _ _ _ trees _ _ _ _ hfirst hsecond =>
    rcases List.mem_append.mp hmem with hmem | hmem
    · cases hnone hfirst hrule.1 hmem
    · obtain ⟨before, rfl⟩ := ih hsecond hrule.2 hmem
      exact ⟨trees ++ before, (List.append_assoc ..).symm⟩
  | choice first second ihfirst ihsecond =>
    simp only [Rule.endsIn, Bool.and_eq_true] at hrule
    cases h with
    | first h => exact ihfirst h hrule.1 hmem
    | second h => exact ihsecond h hrule.2 hmem
  | role other rule =>
    cases h with | role h =>
    obtain ⟨inner, hinner, rfl⟩ := List.mem_map.mp hmem
    rw [Tree.role_withRole, Option.some.injEq] at hrole
    simp only [Rule.endsIn, hrole, bne_self_eq_false, Bool.false_or] at hrule
    obtain ⟨single, rfl, -⟩ := (h.buildsOne hone).1 hrule
    rw [List.mem_singleton.mp hinner]
    exact ⟨[], rfl⟩
  | _ => exact (hnone h hrule hmem).elim

end Reads

/-! ### Arrow functions -/

/-- The nonterminals that build nothing in the role of a return type. -/
def noReturnType (nonterminal : Nonterminal) : Bool := nonterminal != .callSignature

/-- The nonterminals that build return types. -/
def annotations (nonterminal : Nonterminal) : Bool :=
  flags.any fun flag => nonterminal == .returnAscription flag || nonterminal == .typeAscription flag

/-- Whether the rule reads a head in which a return type comes last, then an arrow and a body. -/
def Rule.isArrow : GrammarRule → Bool
  | .seq head (.seq (.operator texts) body) =>
    texts == ["=>"] && endsIn noReturnType annotations .returnType head &&
      avoids (fun _ => true) (fun symbol => symbol == .token "=>") head &&
      avoidsAs noReturnType (fun _ => false) .returnType (fun _ => true) body && advances body
  | _ => false

variable {source : List Char} {tree : Tree}

/-- What is read of an arrow function: a return type stands right before the arrow, and something
comes after it. -/
lemma Reads.arrow {rule : GrammarRule} {trees : List Tree} {place later : Place}
    (h : Reads grammar rule [] place trees later) (hplace : place.Valid source)
    (hrule : rule.isArrow) :
    ∃ before operator after, trees = before ++ operator :: after ∧ operator.isToken "=>" ∧
      operator.start < operator.stop ∧ operator.stop < later.position ∧
      (∀ tree ∈ before, tree.isToken "=>" = false) ∧
      ∀ tree ∈ trees, tree.role = some .returnType → ∃ first, before = first ++ [tree] := by
  have hquiet := @avoidsAs_of_quiets noReturnType (fun _ => false) .returnType (fun _ => true)
    (by decide +kernel)
  have hone := @check_of_rulesPass annotations (Rule.buildsOne annotations) (by decide +kernel)
  unfold Rule.isArrow at hrule
  split at hrule
  next head texts body =>
    simp only [Bool.and_eq_true, beq_iff_eq] at hrule
    obtain ⟨⟨⟨⟨rfl, hlast⟩, harrow⟩, hbody⟩, hadvances⟩ := hrule
    cases h with | @seq _ _ _ before _ _ middle _ hhead h =>
    cases h with | @seq _ _ _ _ after _ _ _ hoperator hrest =>
    cases hoperator with | operator hmark =>
    have hmark : longestMark middle.next = "=>" := by simpa using hmark
    have hadvanced := hrest.advances ((hhead.valid hplace).1.pass _) hadvances
    have hpositive := size_take_longestMark_pos (by rw [hmark]; decide)
    rw [hmark] at hrest hadvanced hpositive ⊢
    refine ⟨before, _, after, rfl, rfl, ?_, hadvanced, fun child hchild => ?_, ?_⟩
    · rw [tokenTree, Tree.start_node, Tree.stop_node, Place.position_pass]
      exact Nat.lt_add_of_pos_right hpositive
    · exact (hhead.avoids (avoids_of_clears (by decide +kernel))).1 harrow child hchild
    intro child hchild hrole
    rcases List.mem_append.mp hchild with hchild | hchild
    · exact hhead.endsIn hquiet hone hlast hchild hrole
    rcases List.mem_append.mp hchild with hchild | hchild
    · rw [List.mem_singleton.mp hchild] at hrole
      cases hrole
    · cases (hrest.avoidsAs (fun _ h => absurd h Bool.false_ne_true) hquiet).1 hbody child hchild
        hrole
  next => cases hrule

/-- The first token is found among the parts. -/
lemma Tree.token?_eq (tree : Tree) (text : String) :
    tree.token? text = tree.parts.find? (isToken text) := by
  rw [token?, parts, List.find?_filter]
  congr 1
  funext child
  rcases htoken : child.isToken text with _ | _
  · simp
  · rw [isToken_iff] at htoken
    simp [isKind, htoken]

/-- A return type stands right before the arrow, which is not empty, and a body that is not empty
comes after it. -/
theorem Tree.Parsed.arrow (h : tree.Parsed source) (hkind : tree.isKind .arrowFunction)
    {type token : Tree} (htype : tree.child? .returnType = some type)
    (htoken : tree.token? "=>" = some token) :
    (∃ first last, tree.parts = first ++ type :: token :: last) ∧
      token.start < token.stop ∧ token.stop < tree.stop := by
  obtain ⟨rule, trees, place, later, hrule, hplace, hread, hparts, hspan⟩ :=
    h.exists_rule Rule.isArrow hkind (by decide) (by decide +kernel)
  obtain ⟨before, operator, after, rfl, hoperator, hstart, hstop, hbefore, hlast⟩ :=
    hread.arrow hplace hrule
  obtain rfl : operator.withComments source = token := by
    have hnone : (before.map (withComments source)).find? (isToken "=>") = none := by
      refine List.find?_eq_none.mpr (List.forall_mem_map.mpr fun child hchild => ?_)
      rw [isToken, symbol_withComments]
      exact Bool.eq_false_iff.mp (hbefore child hchild)
    rw [token?_eq, hparts, List.map_append, List.find?_append, hnone, Option.none_or, List.map_cons,
      List.find?_cons_of_pos] at htoken
    · exact Option.some.inj htoken
    · rwa [isToken, symbol_withComments]
  refine ⟨?_, ?_, ?_⟩
  · have hmem := h.mem_parts_of_role (mem_of_child? htype) (role_of_child? htype)
    have hrole := role_of_child? htype
    rw [hparts] at hmem
    obtain ⟨other, hother, rfl⟩ := List.mem_map.mp hmem
    rw [role_withComments] at hrole
    obtain ⟨first, rfl⟩ := hlast other hother hrole
    exact ⟨first.map (withComments source), after.map (withComments source), by simp [hparts]⟩
  · rwa [start, stop, span_withComments]
  · rw [stop, stop, span_withComments, hspan]
    exact Nat.lt_of_lt_of_le hstop (Nat.le_max_right _ _)

end Stencil.TypeScript
