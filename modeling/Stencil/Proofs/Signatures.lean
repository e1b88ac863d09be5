import Mathlib.Data.List.Basic
import Stencil.Proofs.Arrows
import Stencil.Proofs.Leaves

/-!
# Signatures of arrow functions

In an arrow function with a return type, the parameters stand right before that type
(`Tree.Parsed.isBehindParameters`), and end with their closing parenthesis (`Tree.Parsed.closing`).
Nothing but white space and comments stands between two parts of a node that come one after another
(`Tree.Parsed.skipped`).
-/

namespace Stencil.TypeScript

open Text

variable {source : List Char} {tree type token : Tree} {rule : GrammarRule}
  {left trees : List Tree} {place later : Place} {kind : Kind} {text : String}

/-! ### Nodes that are not empty -/

/-- What begins with a word or a mark is not empty. -/
lemma Reads.start_lt (h : Reads grammar rule left place trees later) (hplace : place.Valid source)
    (hrule : rule.begins text) (htext : text ≠ "") : place.start < later.position := by
  have hpass {place : Place} {n : Nat} {text : String} (htake : place.next.take n = text.toList)
      (htext : text ≠ "") : place.start < (place.pass n).position := by
    rw [Place.position_pass, htake]
    refine Nat.lt_add_of_pos_right (Nat.pos_of_ne_zero fun hzero => htext ?_)
    exact String.toList_eq_nil_iff.mp (eq_nil_of_size_eq_zero hzero)
  induction h with
  | word hword =>
    obtain rfl := beq_iff_eq.mp hrule
    exact hpass (wordLength?_eq_some hword).1 htext
  | mark hmark =>
    obtain rfl := beq_iff_eq.mp hrule
    exact hpass (take_of_isPrefixOf hmark) htext
  | seq hfirst hsecond ih _ =>
    exact Nat.lt_of_lt_of_le (ih hplace hrule) (hsecond.valid (hfirst.valid hplace).1).2
  | _ => cases hrule

/-- A node is not empty when all rules for its kind begin with a word or a mark. -/
lemma Tree.Parsed.start_lt_stop (h : tree.Parsed source) (hkind : tree.isKind kind)
    (hother : kind ∉ [.comment, .stringFragment]) (htext : text ≠ "")
    (hcheck : allRules fun rule => rule.makers.all (Rule.nodesPass kind (Rule.begins text))) :
    tree.start < tree.stop := by
  obtain ⟨rule, trees, place, later, hrule, hplace, hread, -, hspan⟩ :=
    h.exists_rule _ hkind hother hcheck
  rw [start, stop, hspan]
  exact Nat.lt_of_lt_of_le (hread.start_lt hplace hrule htext) (Nat.le_max_right _ _)

/-! ### Between parts -/

lemma Tree.Filled.skipped {lo hi : Nat} {first rest : List Tree} {left right : Tree}
    (h : Filled source lo hi (first ++ left :: right :: rest)) :
    Skipped source left.stop right.start := by
  induction first generalizing lo with
  | nil => exact h.2.2.1
  | cons _ _ ih => exact ih h.2.2

/-- Nothing but white space and comments stands between two parts one after another. -/
lemma Tree.Parsed.skipped (h : tree.Parsed source) (hkind : tree.isKind kind)
    (hother : kind ∉ [.comment, .stringFragment])
    (hcheck : allRules fun rule => rule.makers.all (Rule.nodesPass kind Rule.isFresh))
    {first rest : List Tree} {left right : Tree}
    (hparts : tree.parts = first ++ left :: right :: rest) :
    Skipped source left.stop right.start := by
  obtain ⟨rule, trees, place, later, hrule, hplace, hread, hbare, -⟩ :=
    h.exists_rule _ hkind hother hcheck
  rw [hparts] at hbare
  obtain ⟨first, rest, rfl, -, hrest⟩ := List.map_eq_append_iff.mp hbare.symm
  obtain ⟨left, others, rfl, rfl, hothers⟩ := List.map_eq_cons_iff.mp hrest
  obtain ⟨right, rest, rfl, rfl, -⟩ := List.map_eq_cons_iff.mp hothers
  rw [stop_withComments, start_withComments]
  exact ((hread.fills hplace).1 hrule).filled.skipped

/-! ### Parameters -/

/-- Whether a rule reads something between parentheses. -/
def Rule.isEnclosed : GrammarRule → Bool
  | .seq (.mark opening) (.seq _ (.mark closing)) => opening == "(" && closing == ")"
  | _                                             => false

/-- Parameters end with the parenthesis that closes them. -/
lemma Tree.Parsed.closing (h : tree.Parsed source) (hkind : tree.isKind .formalParameters) :
    ∃ first closing, tree.parts = first ++ [closing] ∧ closing.isToken ")" ∧
      closing.stop = tree.stop := by
  obtain ⟨rule, trees, place, later, hrule, hplace, hread, hparts, hspan⟩ :=
    h.exists_rule Rule.isEnclosed hkind (by decide) (by decide +kernel)
  have hbegins : rule.begins "(" := by
    unfold Rule.isEnclosed at hrule
    split at hrule
    next => exact (Bool.and_eq_true .. ▸ hrule).1
    next => cases hrule
  have hlt := hread.start_lt hplace hbegins (by decide)
  unfold Rule.isEnclosed at hrule
  split at hrule
  next opening inner closing =>
    simp only [Bool.and_eq_true, beq_iff_eq] at hrule
    obtain ⟨-, rfl⟩ := hrule
    cases hread with | @seq _ _ _ first _ _ _ _ _ hread =>
    cases hread with | @seq _ _ _ second _ _ middle _ _ hclosing =>
    cases hclosing with | mark hclosing =>
    refine ⟨(first ++ second).map (withComments source), _, by
      rw [hparts, ← List.append_assoc, List.map_append]; rfl, ?_, ?_⟩
    · rw [isToken, symbol_withComments]
      exact beq_self_eq_true _
    · rw [stop_withComments, stop, stop, hspan]
      exact (Nat.max_eq_right (Nat.le_of_lt hlt)).symm
  next => cases hrule

/-! ### Return types -/

/-- The kinds of return types. -/
def ascriptionKinds : List Kind :=
  [.typeAscription, .typePredicateAscription, .assertsAscription]

namespace Rule

/-- Whether a rule reads a return type or nothing. -/
def isReturned : GrammarRule → Bool
  | .choice (.role given (.ref (.returnAscription _))) .empty => given == .returnType
  | .empty                                                    => true
  | _                                                         => false

/-- Whether a rule reads what is generic, parameters and a return type if any, or a name. -/
def isSignature : GrammarRule → Bool
  | .choice (.seq generic (.seq (.role given (.ref .formalParameters)) returned)) (.leaf _ _) =>
    avoidsAs noReturnType (fun _ => false) .returnType (fun _ => true) generic &&
      given == .parameters && isReturned returned
  | _ => false

/-- Whether a rule reads a signature, a mark and a body. -/
def hasSignature : GrammarRule → Bool
  | .seq (.choice (.seq async signature) signature') (.seq (.operator _) body) =>
    avoidsAs noReturnType (fun _ => false) .returnType (fun _ => true) async &&
      isSignature signature && isSignature signature' &&
      avoidsAs noReturnType (fun _ => false) .returnType (fun _ => true) body
  | _ => false

end Rule

/-- Whether a return type stands among trees right behind parameters. -/
def IsBehindParameters (trees : List Tree) (type : Tree) : Prop :=
  ∃ first parameters last, trees = first ++ parameters :: type :: last ∧
    parameters.role = some .parameters ∧ parameters.isKind .formalParameters ∧
    ∃ kind ∈ ascriptionKinds, type.isKind kind

lemma IsBehindParameters.append (h : IsBehindParameters trees type) (first last : List Tree) :
    IsBehindParameters (first ++ (trees ++ last)) type := by
  obtain ⟨before, parameters, after, rfl, h⟩ := h
  exact ⟨first ++ before, parameters, after ++ last, by simp, h⟩

namespace Reads

lemma isAscription {flag : Bool}
    (h : Reads grammar (.ref (.returnAscription flag)) left place trees later) :
    ∃ tree, trees = [tree] ∧ ∃ kind ∈ ascriptionKinds, tree.isKind kind := by
  have of_node {kind : Kind} {rule : GrammarRule} {place later : Place}
      (hkind : kind ∈ ascriptionKinds)
      (h : Reads grammar (.node kind rule) left place trees later) :
      ∃ tree, trees = [tree] ∧ ∃ kind ∈ ascriptionKinds, tree.isKind kind := by
    cases h
    exact ⟨_, rfl, kind, hkind, beq_self_eq_true _⟩
  cases h with | ref h =>
  cases h with
  | first h => exact of_node (by decide) h
  | second h =>
    cases h with
    | first h => exact of_node (by decide) h
    | second h =>
      cases h with | ref h =>
      exact of_node (by decide) h

lemma returned (h : Reads grammar rule left place trees later) (hrule : rule.isReturned)
    (hmem : type ∈ trees) : trees = [type] ∧ ∃ kind ∈ ascriptionKinds, type.isKind kind := by
  unfold Rule.isReturned at hrule
  split at hrule
  next given ending =>
    cases h with
    | second h =>
      cases h
      cases hmem
    | first h =>
      cases h with | role h =>
      obtain ⟨tree, rfl, hkind⟩ := h.isAscription
      rw [List.map_singleton, List.mem_singleton] at hmem
      simpa only [hmem, Tree.isKind, Tree.symbol_withRole, List.map_singleton, true_and] using hkind
  next =>
    cases h
    cases hmem
  next => cases hrule

/-- What avoids return types has none. -/
lemma not_returnType (h : Reads grammar rule left place trees later)
    (hrule : rule.avoidsAs noReturnType (fun _ => false) .returnType (fun _ => true))
    (hmem : type ∈ trees) : type.role ≠ some .returnType := fun hrole => by
  have hquiet := @avoidsAs_of_quiets noReturnType (fun _ => false) .returnType (fun _ => true)
    (by decide +kernel)
  cases (h.avoidsAs (fun _ h => absurd h Bool.false_ne_true) hquiet).1 hrule type hmem hrole

lemma signature (h : Reads grammar rule left place trees later) (hrule : rule.isSignature)
    (hmem : type ∈ trees) (hrole : type.role = some .returnType) :
    IsBehindParameters trees type := by
  unfold Rule.isSignature at hrule
  split at hrule
  next generic given returned lexeme kind =>
    simp only [Bool.and_eq_true, beq_iff_eq] at hrule
    obtain ⟨⟨hgeneric, rfl⟩, hreturned⟩ := hrule
    cases h with
    | second h =>
      cases h
      rw [List.mem_singleton.mp hmem] at hrole
      cases hrole
    | first h =>
      cases h with | @seq _ _ _ first _ _ _ _ hfirst h =>
      cases h with | @seq _ _ _ _ last _ _ _ hparameters hlast =>
      cases hparameters with | role hparameters =>
      cases hparameters with | ref hparameters =>
      cases (show Reads grammar (.node .formalParameters _) _ _ _ _ from hparameters)
      rcases List.mem_append.mp hmem with hmem | hmem
      · exact absurd hrole (hfirst.not_returnType hgeneric hmem)
      rcases List.mem_append.mp hmem with hmem | hmem
      · rw [List.mem_singleton.mp hmem] at hrole
        cases hrole
      · obtain ⟨rfl, hkind⟩ := hlast.returned hreturned hmem
        exact ⟨first, _, [], rfl, rfl, beq_self_eq_true _, hkind⟩
  next => cases hrule

lemma hasSignature (h : Reads grammar rule left place trees later) (hrule : rule.hasSignature)
    (hmem : type ∈ trees) (hrole : type.role = some .returnType) :
    IsBehindParameters trees type := by
  unfold Rule.hasSignature at hrule
  split at hrule
  next async signature signature' texts body =>
    simp only [Bool.and_eq_true] at hrule
    obtain ⟨⟨⟨hasync, hsignature⟩, hsignature'⟩, hbody⟩ := hrule
    cases h with | @seq _ _ _ head rest _ _ _ hhead h =>
    rcases List.mem_append.mp hmem with hmem | hmem
    · suffices hbehind : IsBehindParameters head type from hbehind.append [] rest
      cases hhead with
      | second h => exact h.signature hsignature' hmem hrole
      | first h =>
        cases h with | @seq _ _ _ word _ _ _ _ hword h =>
        rcases List.mem_append.mp hmem with hmem | hmem
        · exact absurd hrole (hword.not_returnType hasync hmem)
        · have hbehind := (h.signature hsignature hmem hrole).append word []
          rwa [List.append_nil] at hbehind
    · cases h with | seq harrow h =>
      cases harrow
      rcases List.mem_append.mp hmem with hmem | hmem
      · rw [List.mem_singleton.mp hmem] at hrole
        cases hrole
      · exact absurd hrole (h.not_returnType hbody hmem)
  next => cases hrule

end Reads

/-- In an arrow function, a return type stands right behind the parameters. -/
lemma Tree.Parsed.isBehindParameters (h : tree.Parsed source) (hkind : tree.isKind .arrowFunction)
    (htype : tree.child? .returnType = some type) : IsBehindParameters tree.parts type := by
  obtain ⟨rule, trees, place, later, hrule, -, hread, hparts, -⟩ :=
    h.exists_rule Rule.hasSignature hkind (by decide) (by decide +kernel)
  have hmem := h.mem_parts_of_role (mem_of_child? htype) (role_of_child? htype)
  have hrole := role_of_child? htype
  rw [hparts] at hmem ⊢
  obtain ⟨bare, hbare, rfl⟩ := List.mem_map.mp hmem
  rw [role_withComments] at hrole
  obtain ⟨first, parameters, last, rfl, hgiven, hformal, hascription⟩ :=
    hread.hasSignature hrule hbare hrole
  refine ⟨first.map (withComments source), parameters.withComments source,
    last.map (withComments source), by simp, ?_, ?_, ?_⟩
  · rwa [role_withComments]
  · rwa [isKind, symbol_withComments]
  · simpa only [isKind, symbol_withComments] using hascription

/-- Of trees in order, one that is not empty stands in one place only. -/
lemma Tree.Ordered.append_cons_inj {lo hi : Nat} {first last first' last' : List Tree}
    (h : Ordered lo hi (first ++ tree :: last)) (hlt : tree.start < tree.stop)
    (heq : first ++ tree :: last = first' ++ tree :: last') : first = first' ∧ last = last' := by
  obtain ⟨mid, hfirst, hmid, -, hlast⟩ := h.of_append
  have hnot : tree ∉ first := fun hmem => by
    have := (hfirst.mem hmem).2.2
    omega
  have hnot' : tree ∉ last := fun hmem => by
    have := (hlast.mem hmem).1
    omega
  obtain ⟨hfirst, -, hlast⟩ := (List.append_cons_inj_of_notMem hnot hnot').mp heq
  exact ⟨hfirst, hlast⟩

end Stencil.TypeScript
