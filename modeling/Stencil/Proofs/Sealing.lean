import Stencil.Erasure.Types
import Stencil.Proofs.Shapes

/-!
# Where the syntax of types stands

Types may be of any shape inside the nodes that are erased as a whole. Outside of them a parsed
module has no syntax of types but for the words that modify a declaration and for what comes after
the value of an assertion (`parse_sealed`).
-/

namespace Stencil.TypeScript

open Erasure (typeKinds isTypeSyntax isAssertion)

/-! ### Symbols -/

/-- The kinds of the nodes that types consist of. -/
def typePartKinds : List Kind :=
  [.typeParameter, .constraint, .defaultType, .typePredicate, .asserts, .predefinedType,
   .literalType, .templateLiteralType, .templateType, .objectType, .propertySignature,
   .callSignature, .constructSignature, .mappedTypeClause, .arrayType, .tupleType, .optionalType,
   .restType, .parenthesizedType, .functionType, .constructorType, .unionType, .intersectionType,
   .conditionalType, .inferType, .typeQuery, .indexTypeQuery, .lookupType, .readonlyType,
   .genericType, .thisType, .existentialType]

/-- The words that have a use in the syntax of types only. -/
def typeOnlyWords : List String :=
  ["readonly", "abstract", "declare", "implements", "interface", "satisfies", "keyof", "infer",
   "asserts", "is", "unique"]

/-- Whether a symbol belongs to the syntax of types wherever it stands. -/
def Symbol.isTypeLevel : Symbol → Bool
  | .kind given => typeKinds.contains given || typePartKinds.contains given
  | .token text => typeOnlyWords.contains text

/-- The words that modify a declaration of this kind and belong to the syntax of types. -/
def Symbol.modifiers : Symbol → List String
  | .kind .requiredParameter | .kind .optionalParameter | .kind .methodDefinition => ["readonly"]
  | .kind .publicFieldDefinition    => ["declare", "abstract", "readonly"]
  | .kind .abstractClassDeclaration => ["abstract"]
  | _                               => []

/-! ### Sealed trees -/

/-- Whether the syntax of types in a tree is where it can be erased: in nodes that are erased as a
whole, after the values of assertions, or in words that modify a declaration. The tree may itself be
one of some words. -/
inductive Tree.Sealed : (words : List String) → Tree → Prop where
  | whole {words : List String} {tree : Tree} (h : isTypeSyntax tree) : Sealed words tree
  | word {words : List String} {tree : Tree} {text : String} (hword : text ∈ words)
      (htoken : tree.isToken text) (hchildren : tree.children = []) : Sealed words tree
  | assertion {words : List String} {tree value : Tree} {rest : List Tree} (h : isAssertion tree)
      (hparts : tree.parts = value :: rest) (hnamed : value.isNamed)
      (hvalue : value.Sealed []) : Sealed words tree
  | node {words : List String} {tree : Tree} (hsymbol : tree.symbol.isTypeLevel = false)
      (hparts : ∀ part ∈ tree.parts, part.Sealed tree.symbol.modifiers) : Sealed words tree

namespace Tree.Sealed

variable {words : List String} {tree : Tree} {source : List Char}

lemma mono {more : List String} (h : tree.Sealed words) (hsub : words ⊆ more) :
    tree.Sealed more := by
  cases h with
  | whole h                             => exact .whole h
  | word hword htoken hchildren         => exact .word (hsub hword) htoken hchildren
  | assertion h hparts hnamed hvalue    => exact .assertion h hparts hnamed hvalue
  | node hsymbol hparts                 => exact .node hsymbol hparts

/-- A tree without children is sealed when its symbol is allowed. -/
lemma of_leaf (hchildren : tree.children = [])
    (h : tree.symbol.isTypeLevel → isTypeSyntax tree ∨ ∃ text ∈ words, tree.isToken text) :
    tree.Sealed words := by
  rcases hsymbol : tree.symbol.isTypeLevel with _ | _
  · exact .node hsymbol (by simp [parts, hchildren])
  rcases h hsymbol with h | ⟨text, hword, htoken⟩
  · exact .whole h
  · exact .word hword htoken hchildren

lemma withRole (h : tree.Sealed words) (role : Role) : (tree.withRole role).Sealed words := by
  obtain ⟨symbol, _, span, children⟩ := tree
  cases h with
  | whole h                             => exact .whole h
  | word hword htoken hchildren         => exact .word hword htoken hchildren
  | assertion h hparts hnamed hvalue    => exact .assertion h hparts hnamed hvalue
  | node hsymbol hparts                 => exact .node hsymbol hparts

/-- A token is sealed when it is one of the words that are allowed. -/
lemma of_token {text : String} {start : Nat} {later : Place}
    (h : !(Symbol.token text).isTypeLevel || words.contains text) :
    ∀ tree ∈ [tokenTree (.token text) start later], tree.Sealed words := by
  refine List.forall_mem_singleton.mpr (.of_leaf rfl fun hsymbol => .inr ⟨text, ?_, ?_⟩)
  · rw [tokenTree, symbol_node] at hsymbol
    simpa [hsymbol] using h
  · exact isToken_iff.mpr rfl

/-- A node is sealed when it is erased as a whole or its children are sealed. -/
lemma of_kind {kind : Kind} {span : Span} {children : List Tree}
    (h : typeKinds.contains kind ∨ (Symbol.kind kind).isTypeLevel = false ∧
      ∀ child ∈ children, child.Sealed (Symbol.kind kind).modifiers) :
    ∀ tree ∈ [Tree.node (.kind kind) none span children], tree.Sealed words := by
  refine List.forall_mem_singleton.mpr ?_
  rcases h with h | ⟨hsymbol, hchildren⟩
  · exact .whole (by simpa [isTypeSyntax, isKind] using h)
  · exact .node hsymbol fun part hpart => hchildren part (List.mem_filter.mp hpart).1

/-- An assertion is sealed when the value that stands first in it is. -/
lemma of_assertion {kind : Kind} {span : Span} {value : Tree} {trees : List Tree}
    (h : kind = .asExpression ∨ kind = .satisfiesExpression) (hnamed : value.isNamed)
    (hvalue : value.Sealed []) :
    ∀ tree ∈ [Tree.node (.kind kind) none span (value :: trees)], tree.Sealed words := by
  refine List.forall_mem_singleton.mpr (@assertion _ _ value
    (trees.filter fun child => !child.isKind .comment) ?_ ?_ hnamed hvalue)
  · rcases h with rfl | rfl <;> rfl
  · rw [parts, children_node, List.filter_cons_of_pos]
    simp [not_isComment_of_isNamed hnamed]

/-- A tree stays sealed when comments are put into it. -/
lemma withComments (h : tree.Sealed words) (hbuilt : tree.Every (Built source)) :
    (tree.withComments source).Sealed words := by
  have parts_eq {tree : Tree} (hbuilt : tree.Every (Built source)) :
      (tree.withComments source).parts = tree.parts.map (Tree.withComments source) := by
    rw [parts_withComments hbuilt, parts_eq_children hbuilt]
  have of_part {tree part : Tree} (hbuilt : tree.Every (Built source)) (hpart : part ∈ tree.parts) :
      part.Every (Built source) :=
    hbuilt.of_child (parts_eq_children hbuilt ▸ hpart)
  induction h with
  | whole h => exact .whole (by simpa [isTypeSyntax, isKind] using h)
  | word hword htoken hchildren =>
    rw [withComments_eq_self hchildren]
    exact .word hword htoken hchildren
  | @assertion _ tree value rest h hparts hnamed _ ih =>
    have hvalue : value ∈ tree.parts := by
      rw [hparts]
      exact List.mem_cons_self
    have hparts : (tree.withComments source).parts =
        value.withComments source :: rest.map (Tree.withComments source) := by
      rw [parts_eq hbuilt, hparts, List.map_cons]
    exact .assertion (by simpa [isAssertion, isKind] using h) hparts
      (by simpa [isNamed] using hnamed) (ih (of_part hbuilt hvalue))
  | node hsymbol _ ih =>
    refine .node (by simpa using hsymbol) ?_
    rw [parts_eq hbuilt, symbol_withComments]
    exact List.forall_mem_map.mpr fun part hpart => ih part hpart (of_part hbuilt hpart)

end Tree.Sealed

/-! ### What rules seal -/

namespace Rule

/-- Whether the rule builds sealed trees, when this is so of what the nonterminals build that are
`clear`; a part of a `chained` rule takes over a sealed node that stands before it. -/
def seals (one clear : Nonterminal → Bool) : (chained : Bool) → (words : List String) →
    GrammarRule → Bool
  | _, _, .leaf _ kind =>
    !(Symbol.kind kind).isTypeLevel || typeKinds.contains kind
  | _, words, .word text | _, words, .mark text | _, words, .glued text =>
    !(Symbol.token text).isTypeLevel || words.contains text
  | _, words, .operator texts =>
    texts.all fun text => !(Symbol.token text).isTypeLevel || words.contains text
  | _, _, .node kind rule =>
    typeKinds.contains kind ||
      (!(Symbol.kind kind).isTypeLevel && seals one clear false (Symbol.kind kind).modifiers rule)
  | chained, _, .adopt kind _ rule =>
    chained && (kind == .asExpression || kind == .satisfiesExpression ||
      (!(Symbol.kind kind).isTypeLevel && seals one clear false (Symbol.kind kind).modifiers rule))
  | chained, words, .seq first second | chained, words, .choice first second =>
    seals one clear chained words first && seals one clear chained words second
  | chained, words, .many rule | chained, words, .role _ rule | chained, words, .only _ rule =>
    seals one clear chained words rule
  | _, _, .grow base tail =>
    seals one clear false [] base && buildsOne one base &&
      (seals one clear true [] tail && buildsOne one tail)
  | _, _, .ref nonterminal => clear nonterminal
  | _, _, .tails _         => false
  | _, _, _                => true

end Rule

namespace Reads

variable {rule : GrammarRule} {left trees : List Tree} {place later : Place}
  {one clear : Nonterminal → Bool}

/-- What a rule builds is sealed when it passes the check. -/
lemma seals (hone : ∀ nonterminal, one nonterminal → (grammar nonterminal).buildsOne one)
    (hclear : ∀ nonterminal, clear nonterminal → (grammar nonterminal).seals one clear false [])
    (h : Reads grammar rule left place trees later) :
    (∀ chained words, rule.seals one clear chained words →
      (chained → ∃ value, left = [value] ∧ value.isNamed ∧ value.Sealed []) →
      ∀ tree ∈ trees, tree.Sealed words) ∧
    ∀ tail, rule = .tails tail → tail.seals one clear true [] → tail.buildsOne one →
      (∃ value, left = [value] ∧ value.isNamed ∧ value.Sealed []) →
      ∃ value, trees = [value] ∧ value.isNamed ∧ value.Sealed [] := by
  induction h with
  | leaf =>
    refine ⟨fun _ _ hrule _ => Tree.Sealed.of_kind ?_, nofun⟩
    simp only [Rule.seals, Bool.or_eq_true, Bool.not_eq_true'] at hrule
    exact hrule.symm.imp_right fun hsymbol => ⟨hsymbol, List.forall_mem_nil _⟩
  | word | mark | glued => exact ⟨fun _ _ hrule _ => Tree.Sealed.of_token hrule, nofun⟩
  | operator htext =>
    refine ⟨fun _ _ hrule _ => Tree.Sealed.of_token ?_, nofun⟩
    exact List.all_eq_true.mp hrule _ (List.contains_iff_mem.mp htext)
  | templateText =>
    exact ⟨fun _ _ _ _ => Tree.Sealed.of_kind (.inr ⟨rfl, List.forall_mem_nil _⟩), nofun⟩
  | empty | after | done | ahead | notAhead | endingHere | endingLater | manyNone =>
    exact ⟨fun _ _ _ _ => List.forall_mem_nil _, nofun⟩
  | seq _ _ ihfirst ihsecond =>
    simp only [Rule.seals, Bool.and_eq_true]
    exact ⟨fun chained words hrule hleft => List.forall_mem_append.mpr
      ⟨ihfirst.1 chained words hrule.1 hleft, ihsecond.1 chained words hrule.2 hleft⟩, nofun⟩
  | first _ ih =>
    simp only [Rule.seals, Bool.and_eq_true]
    exact ⟨fun chained words hrule => ih.1 chained words hrule.1, nofun⟩
  | second _ ih =>
    simp only [Rule.seals, Bool.and_eq_true]
    exact ⟨fun chained words hrule => ih.1 chained words hrule.2, nofun⟩
  | manyLast _ _ ih | only _ ih => exact ⟨ih.1, nofun⟩
  | manyMore _ _ ih ihmore =>
    exact ⟨fun chained words hrule hleft => List.forall_mem_append.mpr
      ⟨ih.1 chained words hrule hleft, ihmore.1 chained words hrule hleft⟩, nofun⟩
  | node _ ih =>
    refine ⟨fun _ _ hrule _ => Tree.Sealed.of_kind ?_, nofun⟩
    simp only [Rule.seals, Bool.or_eq_true, Bool.and_eq_true, Bool.not_eq_true'] at hrule
    exact hrule.imp_right fun ⟨hsymbol, hrule⟩ => ⟨hsymbol, ih.1 false _ hrule nofun⟩
  | role _ ih =>
    refine ⟨fun chained words hrule hleft => List.forall_mem_map.mpr fun tree hmem => ?_, nofun⟩
    exact (ih.1 chained words hrule hleft tree hmem).withRole _
  | @ref nonterminal _ _ _ _ _ ih =>
    refine ⟨fun _ words hrule _ tree hmem => ?_, nofun⟩
    exact (ih.1 false [] (hclear nonterminal hrule) nofun tree hmem).mono (List.nil_subset words)
  | grow hbase _ ihbase ihtails =>
    refine ⟨fun _ words hrule _ => ?_, nofun⟩
    simp only [Rule.seals, Bool.and_eq_true] at hrule
    obtain ⟨⟨hseals, hone'⟩, hseals', hone''⟩ := hrule
    obtain ⟨value, rfl, hnamed⟩ := (hbase.buildsOne hone).1 hone'
    have hvalue := ihbase.1 false [] hseals nofun value (List.mem_singleton_self _)
    obtain ⟨tree, rfl, -, htree⟩ := ihtails.2 _ rfl hseals' hone'' ⟨value, rfl, hnamed, hvalue⟩
    exact List.forall_mem_singleton.mpr (htree.mono (List.nil_subset words))
  | tailsNone => exact ⟨nofun, fun _ _ _ _ hleft => hleft⟩
  | tailsMore hread _ ih ihmore =>
    refine ⟨nofun, fun tail heq hseals hone' hleft => ?_⟩
    cases heq
    obtain ⟨value, rfl, hnamed⟩ := (hread.buildsOne hone).1 hone'
    have hvalue := ih.1 true [] hseals (fun _ => hleft) value (List.mem_singleton_self _)
    exact ihmore.2 _ rfl hseals hone' ⟨value, rfl, hnamed, hvalue⟩
  | @adopt kind given _ left trees place later _ ih =>
    refine ⟨fun chained words hrule hleft => ?_, nofun⟩
    simp only [Rule.seals, Bool.and_eq_true, Bool.or_eq_true, beq_iff_eq,
      Bool.not_eq_true'] at hrule
    obtain ⟨hchained, hrule⟩ := hrule
    obtain ⟨first, rfl, hfirst, hsealed⟩ := hleft hchained
    obtain ⟨value, heq, hnamed, hvalue⟩ : ∃ value, adopted given [first] = [value] ∧
        value.isNamed ∧ value.Sealed [] := by
      cases given with
      | none => exact ⟨first, rfl, hfirst, hsealed⟩
      | some role =>
        exact ⟨first.withRole role, rfl, by simpa [Tree.isNamed] using hfirst,
          hsealed.withRole role⟩
    rw [heq]
    rcases hrule with hassertion | ⟨hsymbol, hrule⟩
    · exact Tree.Sealed.of_assertion hassertion hnamed hvalue
    · refine Tree.Sealed.of_kind
        (.inr ⟨hsymbol, List.forall_mem_append.mpr ⟨?_, ih.1 false _ hrule nofun⟩⟩)
      exact List.forall_mem_singleton.mpr (hvalue.mono (List.nil_subset _))

end Reads

/-! ### Modules -/

/-- The nonterminals that stand outside types. -/
def outsideTypes : Nonterminal → Bool
  | .type _ | .unionType _ | .intersectionType _ | .operatorType _ | .primaryType | .objectType =>
    false
  | _ => true

/-- The nonterminals outside types that build one node each. -/
def builders (nonterminal : Nonterminal) : Bool :=
  outsideTypes nonterminal && nonterminal != .callSignature && nonterminal != .classHead

lemma buildsOne_grammar (nonterminal : Nonterminal) (h : builders nonterminal) :
    (grammar nonterminal).buildsOne builders :=
  @check_of_rulesPass builders (Rule.buildsOne builders) (by decide +kernel) nonterminal h

lemma seals_grammar (nonterminal : Nonterminal) (h : outsideTypes nonterminal) :
    (grammar nonterminal).seals builders outsideTypes false [] :=
  @check_of_rulesPass outsideTypes (Rule.seals builders outsideTypes false []) (by decide +kernel)
    nonterminal h

/-- The tree of a module is sealed. -/
theorem parse_sealed {source : List Char} {tree : Tree} (h : parse source = .ok tree) :
    tree.Sealed [] := by
  unfold parse at h
  split at h
  next root rest later hread =>
    cases h
    have hprogram := read_reads hread
    have hroot := hprogram.built (Place.first_valid source) (List.forall_mem_nil _)
      (List.forall_mem_nil _) root (List.mem_cons_self ..)
    cases hprogram with | ref hprogram =>
    cases hprogram with | node hrules =>
    rename_i trees
    refine .node rfl fun part hpart => ?_
    rw [Tree.parts, wholeModule, Tree.children_node, Tree.filter_withCommentsAmong] at hpart
    · obtain ⟨bare, hbare, rfl⟩ := List.mem_map.mp hpart
      refine ((hrules.seals buildsOne_grammar seals_grammar).1 false [] ?_ (by rintro ⟨⟩) bare
        hbare).withComments (hroot.of_child hbare)
      decide +kernel
    · exact fun child hchild => (hroot.of_child hchild).self.not_isComment
  all_goals cases h

end Stencil.TypeScript
