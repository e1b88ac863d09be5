import Stencil.Proofs.Parse

/-!
# What the nodes of a module are made of

Every node of a parsed module is a comment or was built at some place of the grammar: as the leaf of
a lexeme, around what a rule reads, or around a tree and what a rule reads after it
(`parse_parsed`). So what holds of all those places of the grammar holds of all nodes of a kind
(`Tree.Parsed.exists_rule`), and simple checks on rules tell which trees they build.
-/

namespace Stencil.TypeScript

open Text

/-! ### The places of the grammar -/

/-- Both truth values. -/
def flags : List Bool := [false, true]

/-- What may be around an expression. -/
def settings : List Setting :=
  flags.flatMap fun ending => flags.flatMap fun noIn => flags.map fun noReturnType =>
    ⟨ending, noIn, noReturnType⟩

def nonterminals : List Nonterminal :=
  [.program, .declaration, .statementBlock, .enumDeclaration, .internalModule, .ambientDeclaration,
   .classBody, .classHead, .callSignature, .formalParameters, .propertyName, .decorator, .pattern,
   .bindingTarget, .destructuring, .parenthesized, .arguments, .object, .templateString,
   .primaryType, .objectType, .typeParameters, .typeArguments] ++
  (flags.flatMap fun flag =>
    [.statement flag, .methodDefinition flag, .type flag, .unionType flag, .intersectionType flag,
     .operatorType flag, .typeAscription flag, .returnAscription flag, .indexSignature flag]) ++
  (settings.flatMap fun setting =>
    [.expressions setting, .expression setting, .binary setting, .unary setting, .chain setting,
     .primary setting, .arrowFunction setting, .newExpression setting])

lemma mem_nonterminals (nonterminal : Nonterminal) : nonterminal ∈ nonterminals := by
  have hflag (flag : Bool) : flag ∈ flags := by cases flag <;> decide
  have hsetting (setting : Setting) : setting ∈ settings := by
    rcases setting with ⟨_ | _, _ | _, _ | _⟩ <;> decide
  simp only [nonterminals, List.mem_append, List.mem_flatMap]
  cases nonterminal with
  | statement flag | methodDefinition flag | type flag | unionType flag | intersectionType flag
  | operatorType flag | typeAscription flag | returnAscription flag | indexSignature flag =>
    exact .inl (.inr ⟨flag, hflag flag, by simp⟩)
  | expressions setting | expression setting | binary setting | unary setting | chain setting
  | primary setting | arrowFunction setting | newExpression setting =>
    exact .inr ⟨setting, hsetting setting, by simp⟩
  | _ => exact .inl (.inl (by simp))

/-- Whether all rules of the grammar pass a check. -/
def allRules (check : GrammarRule → Bool) : Bool :=
  nonterminals.all fun nonterminal => check (grammar nonterminal)

lemma check_grammar {check : GrammarRule → Bool} (h : allRules check) (nonterminal : Nonterminal) :
    check (grammar nonterminal) :=
  List.all_eq_true.mp h nonterminal (mem_nonterminals nonterminal)

/-- Whether the rules of some nonterminals pass a check. -/
def rulesPass (p : Nonterminal → Bool) (check : GrammarRule → Bool) : Bool :=
  nonterminals.all fun nonterminal => !p nonterminal || check (grammar nonterminal)

lemma check_of_rulesPass {p : Nonterminal → Bool} {check : GrammarRule → Bool}
    (h : rulesPass p check) (nonterminal : Nonterminal) (hnonterminal : p nonterminal) :
    check (grammar nonterminal) := by
  have := List.all_eq_true.mp h nonterminal (mem_nonterminals nonterminal)
  simpa [hnonterminal] using this

namespace Rule

/-- The parts of a rule that build a node each. -/
def makers : GrammarRule → List GrammarRule
  | .leaf lexeme kind       => [.leaf lexeme kind]
  | .templateText           => [.templateText]
  | .node kind rule         => .node kind rule :: makers rule
  | .adopt kind given rule  => .adopt kind given rule :: makers rule
  | .seq first second | .choice first second | .grow first second => makers first ++ makers second
  | .many rule | .role _ rule | .only _ rule | .tails rule => makers rule
  | _                       => []

/-- Whether nothing that the rule builds has such a symbol, when this is so of what the nonterminals
build that are `clear`. -/
def avoids (clear : Nonterminal → Bool) (p : Symbol → Bool) : GrammarRule → Bool
  | .leaf _ kind | .node kind _ | .adopt kind _ _ => !p (.kind kind)
  | .word text | .mark text | .glued text         => !p (.token text)
  | .operator texts                               => texts.all fun text => !p (.token text)
  | .templateText                                 => !p (.kind .stringFragment)
  | .seq first second | .choice first second | .grow first second =>
    avoids clear p first && avoids clear p second
  | .many rule | .role _ rule | .only _ rule      => avoids clear p rule
  | .ref nonterminal                              => clear nonterminal
  | .tails _                                      => false
  | _                                             => true

/-- Whether nothing that the rule builds in a role has such a symbol, when this is so of what the
nonterminals build that are `quiet`, and what those build in any role that are `clear`. -/
def avoidsAs (quiet clear : Nonterminal → Bool) (given : Role) (p : Symbol → Bool) :
    GrammarRule → Bool
  | .role other rule                          => other != given || avoids clear p rule
  | .seq first second | .choice first second | .grow first second =>
    avoidsAs quiet clear given p first && avoidsAs quiet clear given p second
  | .many rule | .only _ rule                 => avoidsAs quiet clear given p rule
  | .ref nonterminal                          => quiet nonterminal
  | .tails _                                  => false
  | _                                         => true

/-- Whether the rule builds one node, no token, when this is so of the rules of the nonterminals
`one`. -/
def buildsOne (one : Nonterminal → Bool) : GrammarRule → Bool
  | .leaf _ kind | .node kind _ | .adopt kind _ _          => kind != .comment
  | .role _ rule | .only _ rule                            => buildsOne one rule
  | .seq first second                                      => isSilent first && buildsOne one second
  | .choice first second | .grow first second              =>
    buildsOne one first && buildsOne one second
  | .ref nonterminal                                       => one nonterminal
  | _                                                      => false

/-- Whether all nodes of a kind that a part of a rule builds are built around rules that pass a
check. -/
def nodesPass (kind : Kind) (check : GrammarRule → Bool) : GrammarRule → Bool
  | .node given rule                  => given != kind || check rule
  | .leaf _ given | .adopt given _ _  => given != kind
  | .templateText                     => kind != .stringFragment
  | _                                 => true

end Rule

/-- Whether a rule builds a node at some place of the grammar. -/
def Rule.IsMaker (rule : GrammarRule) : Prop := ∃ nonterminal, rule ∈ (grammar nonterminal).makers

lemma Rule.IsMaker.check {check : GrammarRule → Bool} {rule : GrammarRule} (hrule : rule.IsMaker)
    (h : allRules fun rule => rule.makers.all check) : check rule := by
  obtain ⟨nonterminal, hmem⟩ := hrule
  exact List.all_eq_true.mp (check_grammar h nonterminal) rule hmem

/-! ### What rules avoid -/

namespace Reads

variable {rule : GrammarRule} {left trees : List Tree} {place later : Place}
  {clear : Nonterminal → Bool} {p : Symbol → Bool}
  (hclear : ∀ nonterminal, clear nonterminal → (grammar nonterminal).avoids clear p)
include hclear

/-- What a rule builds has no symbol that it avoids. -/
lemma avoids (h : Reads grammar rule left place trees later) :
    (rule.avoids clear p → ∀ tree ∈ trees, p tree.symbol = false) ∧
    ∀ tail, rule = .tails tail → tail.avoids clear p →
      (∀ tree ∈ left, p tree.symbol = false) → ∀ tree ∈ trees, p tree.symbol = false := by
  induction h with
  | leaf | word | mark | glued | templateText | node | adopt =>
    exact ⟨fun hrule => by simpa [Rule.avoids, tokenTree] using hrule, by rintro _ ⟨⟩⟩
  | operator htext =>
    refine ⟨fun hrule => ?_, by rintro _ ⟨⟩⟩
    simp only [Rule.avoids, List.all_eq_true] at hrule
    simpa [tokenTree] using hrule _ (List.contains_iff_mem.mp htext)
  | empty | after | done | ahead | notAhead | endingHere | endingLater | manyNone =>
    exact ⟨fun _ => List.forall_mem_nil _, by rintro _ ⟨⟩⟩
  | seq _ _ ihfirst ihsecond =>
    simp only [Rule.avoids, Bool.and_eq_true]
    refine ⟨fun hrule => ?_, by rintro _ ⟨⟩⟩
    exact List.forall_mem_append.mpr ⟨ihfirst.1 hrule.1, ihsecond.1 hrule.2⟩
  | first _ ih =>
    simp only [Rule.avoids, Bool.and_eq_true]
    exact ⟨fun hrule => ih.1 hrule.1, by rintro _ ⟨⟩⟩
  | second _ ih =>
    simp only [Rule.avoids, Bool.and_eq_true]
    exact ⟨fun hrule => ih.1 hrule.2, by rintro _ ⟨⟩⟩
  | manyLast _ _ ih | only _ ih => exact ⟨ih.1, by rintro _ ⟨⟩⟩
  | manyMore _ _ ih ihmore =>
    exact ⟨fun hrule => List.forall_mem_append.mpr ⟨ih.1 hrule, ihmore.1 hrule⟩, by rintro _ ⟨⟩⟩
  | role _ ih =>
    refine ⟨fun hrule => List.forall_mem_map.mpr fun tree hmem => ?_, by rintro _ ⟨⟩⟩
    rw [Tree.symbol_withRole]
    exact ih.1 hrule tree hmem
  | @ref nonterminal _ _ _ _ _ ih =>
    exact ⟨fun hrule => ih.1 (hclear nonterminal hrule), by rintro _ ⟨⟩⟩
  | grow _ _ ihbase ihtails =>
    simp only [Rule.avoids, Bool.and_eq_true]
    exact ⟨fun hrule => ihtails.2 _ rfl hrule.2 (ihbase.1 hrule.1), by rintro _ ⟨⟩⟩
  | tailsNone => exact ⟨fun hrule => (Bool.false_ne_true hrule).elim, fun _ _ _ hleft => hleft⟩
  | tailsMore _ _ ih ihmore =>
    refine ⟨fun hrule => (Bool.false_ne_true hrule).elim, fun tail heq hrule _ => ?_⟩
    cases heq
    exact ihmore.2 _ rfl hrule (ih.1 hrule)

/-- What a rule builds in a role has no symbol that it avoids there. -/
lemma avoidsAs {quiet : Nonterminal → Bool} {given : Role}
    (hquiet : ∀ nonterminal, quiet nonterminal →
      (grammar nonterminal).avoidsAs quiet clear given p)
    (h : Reads grammar rule left place trees later) :
    (rule.avoidsAs quiet clear given p →
      ∀ tree ∈ trees, tree.role = some given → p tree.symbol = false) ∧
    ∀ tail, rule = .tails tail → tail.avoidsAs quiet clear given p →
      (∀ tree ∈ left, tree.role = some given → p tree.symbol = false) →
      ∀ tree ∈ trees, tree.role = some given → p tree.symbol = false := by
  induction h with
  | leaf | word | mark | operator | glued | templateText | node | adopt =>
    exact ⟨fun _ => by simp [tokenTree, Tree.role], by rintro _ ⟨⟩⟩
  | empty | after | done | ahead | notAhead | endingHere | endingLater | manyNone =>
    exact ⟨fun _ => List.forall_mem_nil _, by rintro _ ⟨⟩⟩
  | seq _ _ ihfirst ihsecond =>
    simp only [Rule.avoidsAs, Bool.and_eq_true]
    refine ⟨fun hrule => ?_, by rintro _ ⟨⟩⟩
    exact List.forall_mem_append.mpr ⟨ihfirst.1 hrule.1, ihsecond.1 hrule.2⟩
  | first _ ih =>
    simp only [Rule.avoidsAs, Bool.and_eq_true]
    exact ⟨fun hrule => ih.1 hrule.1, by rintro _ ⟨⟩⟩
  | second _ ih =>
    simp only [Rule.avoidsAs, Bool.and_eq_true]
    exact ⟨fun hrule => ih.1 hrule.2, by rintro _ ⟨⟩⟩
  | manyLast _ _ ih | only _ ih => exact ⟨ih.1, by rintro _ ⟨⟩⟩
  | manyMore _ _ ih ihmore =>
    exact ⟨fun hrule => List.forall_mem_append.mpr ⟨ih.1 hrule, ihmore.1 hrule⟩, by rintro _ ⟨⟩⟩
  | role hread _ =>
    refine ⟨fun hrule => List.forall_mem_map.mpr fun tree hmem hrole => ?_, by rintro _ ⟨⟩⟩
    rw [Tree.role_withRole, Option.some.injEq] at hrole
    simp only [Rule.avoidsAs, hrole, bne_self_eq_false, Bool.false_or] at hrule
    rw [Tree.symbol_withRole]
    exact (hread.avoids hclear).1 hrule tree hmem
  | @ref nonterminal _ _ _ _ _ ih =>
    exact ⟨fun hrule => ih.1 (hquiet nonterminal hrule), by rintro _ ⟨⟩⟩
  | grow _ _ ihbase ihtails =>
    simp only [Rule.avoidsAs, Bool.and_eq_true]
    exact ⟨fun hrule => ihtails.2 _ rfl hrule.2 (ihbase.1 hrule.1), by rintro _ ⟨⟩⟩
  | tailsNone => exact ⟨fun hrule => (Bool.false_ne_true hrule).elim, fun _ _ _ hleft => hleft⟩
  | tailsMore _ _ ih ihmore =>
    refine ⟨fun hrule => (Bool.false_ne_true hrule).elim, fun tail heq hrule _ => ?_⟩
    cases heq
    exact ihmore.2 _ rfl hrule (ih.1 hrule)

omit hclear in
/-- A rule builds one node when it passes the check. -/
lemma buildsOne {one : Nonterminal → Bool}
    (hone : ∀ nonterminal, one nonterminal → (grammar nonterminal).buildsOne one)
    (h : Reads grammar rule left place trees later) :
    (rule.buildsOne one → ∃ tree, trees = [tree] ∧ tree.isNamed) ∧
    ∀ tail, rule = .tails tail → tail.buildsOne one →
      (∃ tree, left = [tree] ∧ tree.isNamed) → ∃ tree, trees = [tree] ∧ tree.isNamed := by
  have of_kind {kind : Kind} {span : Span} {children : List Tree} (hkind : kind != .comment) :
      ∃ tree, [Tree.node (.kind kind) none span children] = [tree] ∧ tree.isNamed := by
    refine ⟨_, rfl, ?_⟩
    cases kind <;> first | rfl | cases hkind
  induction h with
  | leaf | node | adopt => exact ⟨of_kind, nofun⟩
  | seq hfirst _ _ ihsecond =>
    simp only [Rule.buildsOne, Bool.and_eq_true]
    refine ⟨fun ⟨hsilent, hrule⟩ => ?_, nofun⟩
    rw [hfirst.eq_nil_of_isSilent hsilent, List.nil_append]
    exact ihsecond.1 hrule
  | first _ ih =>
    simp only [Rule.buildsOne, Bool.and_eq_true]
    exact ⟨fun hrule => ih.1 hrule.1, nofun⟩
  | second _ ih =>
    simp only [Rule.buildsOne, Bool.and_eq_true]
    exact ⟨fun hrule => ih.1 hrule.2, nofun⟩
  | only _ ih => exact ⟨ih.1, nofun⟩
  | role _ ih =>
    refine ⟨fun hrule => ?_, nofun⟩
    obtain ⟨tree, rfl, hnamed⟩ := ih.1 hrule
    exact ⟨_, rfl, by simpa [Tree.isNamed] using hnamed⟩
  | @ref nonterminal _ _ _ _ _ ih => exact ⟨fun hrule => ih.1 (hone nonterminal hrule), nofun⟩
  | grow _ _ ihbase ihtails =>
    simp only [Rule.buildsOne, Bool.and_eq_true]
    exact ⟨fun hrule => ihtails.2 _ rfl hrule.2 (ihbase.1 hrule.1), nofun⟩
  | tailsNone => exact ⟨nofun, fun _ _ _ hleft => hleft⟩
  | tailsMore _ _ ih ihmore =>
    refine ⟨nofun, fun tail heq hrule _ => ?_⟩
    cases heq
    exact ihmore.2 _ rfl hrule (ih.1 hrule)
  | _ => exact ⟨nofun, nofun⟩

end Reads

/-! ### Nodes before comments are put in -/

/-- Whether a node, without comments, was built at some place of the grammar. -/
inductive Tree.Built (source : List Char) : Tree → Prop where
  | token {text : String} {role : Option Role} {span : Span} :
      Built source (.node (.token text) role span [])
  | leaf {lexeme : Lexeme} {kind : Kind} {role : Option Role} {place : Place} {n : Nat}
      (hplace : place.Valid source) (hlexeme : lexeme.length? place.next = some n)
      (hrule : (Rule.leaf lexeme kind : GrammarRule).IsMaker) :
      Built source (.node (.kind kind) role ⟨place.start, (place.pass n).position⟩ [])
  | fragment {role : Option Role} {span : Span} :
      Built source (.node (.kind .stringFragment) role span [])
  | node {kind : Kind} {rule : GrammarRule} {role : Option Role} {trees : List Tree}
      {place later : Place} (hplace : place.Valid source) (hrule : (Rule.node kind rule).IsMaker)
      (hread : Reads grammar rule [] place trees later) :
      Built source (.node (.kind kind) role ⟨place.start, max place.start later.position⟩ trees)
  | adopt {kind : Kind} {given : Option Role} {rule : GrammarRule} {role : Option Role}
      {span : Span} {left trees : List Tree} {place later : Place} (hplace : place.Valid source)
      (hrule : (Rule.adopt kind given rule).IsMaker)
      (hread : Reads grammar rule [] place trees later) :
      Built source (.node (.kind kind) role span (adopted given left ++ trees))

variable {source : List Char} {tree : Tree}

lemma Tree.Built.withRole (h : tree.Built source) (role : Role) :
    (tree.withRole role).Built source := by
  cases h with
  | token                       => exact .token
  | leaf hplace hlexeme hrule   => exact .leaf hplace hlexeme hrule
  | fragment                    => exact .fragment
  | node hplace hrule hread     => exact .node hplace hrule hread
  | adopt hplace hrule hread    => exact .adopt hplace hrule hread

lemma Tree.every_built_withRole (h : tree.Every (Tree.Built source)) (role : Role) :
    (tree.withRole role).Every (Tree.Built source) := by
  rw [every_iff] at h ⊢
  exact ⟨h.1.withRole role, by simpa using h.2⟩

/-- All nodes of what a part of the grammar builds were built at some place of the grammar, when
those before it in a chain were. -/
theorem Reads.built {rule : GrammarRule} {left trees : List Tree} {place later : Place}
    (h : Reads grammar rule left place trees later) (hplace : place.Valid source)
    (hrule : ∀ part ∈ rule.makers, part.IsMaker)
    (hleft : ∀ tree ∈ left, tree.Every (Tree.Built source)) :
    ∀ tree ∈ trees, tree.Every (Tree.Built source) := by
  have of_node {symbol : Symbol} {span : Span} {children : List Tree}
      (hnode : (Tree.node symbol none span children).Built source)
      (hchildren : ∀ tree ∈ children, tree.Every (Tree.Built source)) :
      ∀ tree ∈ [Tree.node symbol none span children], tree.Every (Tree.Built source) := by
    rw [List.forall_mem_singleton, Tree.every_iff]
    exact ⟨hnode, hchildren⟩
  induction h with
  | leaf hlexeme =>
    exact of_node (.leaf hplace hlexeme (hrule _ (List.mem_singleton_self _)))
      (List.forall_mem_nil _)
  | word | mark | operator | glued => exact of_node .token (List.forall_mem_nil _)
  | templateText => exact of_node .fragment (List.forall_mem_nil _)
  | empty | after | done | ahead | notAhead | endingHere | endingLater | manyNone =>
    exact List.forall_mem_nil _
  | seq hfirst _ ihfirst ihsecond =>
    obtain ⟨hrule, hrule'⟩ := List.forall_mem_append.mp hrule
    exact List.forall_mem_append.mpr ⟨ihfirst hplace hrule hleft,
      ihsecond (hfirst.valid hplace).1 hrule' hleft⟩
  | first _ ih  => exact ih hplace (List.forall_mem_append.mp hrule).1 hleft
  | second _ ih => exact ih (hplace.withReach _) (List.forall_mem_append.mp hrule).2 hleft
  | manyLast _ _ ih | only _ ih => exact ih hplace hrule hleft
  | manyMore hfirst _ ih ihmore =>
    exact List.forall_mem_append.mpr ⟨ih hplace hrule hleft,
      ihmore (hfirst.valid hplace).1 hrule hleft⟩
  | node hread ih =>
    obtain ⟨hself, hrule⟩ := List.forall_mem_cons.mp hrule
    exact of_node (.node hplace hself hread) (ih hplace hrule (List.forall_mem_nil _))
  | role _ ih =>
    exact List.forall_mem_map.mpr fun tree hmem =>
      Tree.every_built_withRole (ih hplace hrule hleft tree hmem) _
  | @ref nonterminal _ _ _ _ _ ih => exact ih hplace (fun part hmem => ⟨nonterminal, hmem⟩) hleft
  | grow hbase _ ihbase ihtails =>
    obtain ⟨hrule, hrule'⟩ := List.forall_mem_append.mp hrule
    exact ihtails (hbase.valid hplace).1 hrule' (ihbase hplace hrule (List.forall_mem_nil _))
  | tailsNone => exact hleft
  | tailsMore hfirst _ ih ihmore =>
    exact ihmore (hfirst.valid hplace).1 hrule (ih hplace hrule hleft)
  | @adopt kind given _ left _ _ _ hread ih =>
    obtain ⟨hself, hrule⟩ := List.forall_mem_cons.mp hrule
    refine of_node (.adopt hplace hself hread)
      (List.forall_mem_append.mpr ⟨?_, ih hplace hrule (List.forall_mem_nil _)⟩)
    refine List.forall_mem_map.mpr fun tree hmem => ?_
    cases given with
    | none       => exact hleft tree hmem
    | some given => exact Tree.every_built_withRole (hleft tree hmem) given

/-- No comment is built by a rule. -/
lemma Tree.Built.not_isComment (h : tree.Built source) : tree.isKind .comment = false := by
  have hcheck : allRules fun rule => rule.makers.all fun part => match part with
      | .leaf _ kind | .node kind _ | .adopt kind _ _ => kind != .comment
      | _                                             => true := by
    decide +kernel
  cases h with
  | token | fragment                                   => rfl
  | leaf _ _ hrule | node _ hrule _ | adopt _ hrule _  =>
    simpa [isKind] using hrule.check hcheck

/-! ### Nodes with their comments -/

/-- Whether a node is a comment, or was built at some place of the grammar before comments were put
into it. -/
def Tree.Parsed (source : List Char) (tree : Tree) : Prop :=
  tree.IsComment ∨ ∃ bare : Tree, bare.Every (Tree.Built source) ∧ tree = bare.withComments source

/-- The children of a tree other than comments. -/
def Tree.parts (tree : Tree) : List Tree := tree.children.filter fun child => !child.isKind .comment

namespace Tree

lemma mem_parts {child : Tree} (h : child ∈ tree.children) (hkind : child.isKind .comment = false) :
    child ∈ tree.parts :=
  List.mem_filter.mpr ⟨h, by simpa using hkind⟩

lemma isNamed_of_isKind {kind : Kind} (h : tree.isKind kind) (hkind : kind ≠ .comment) :
    tree.isNamed := by
  rw [isKind_iff] at h
  unfold isNamed
  split <;> simp_all

lemma mem_parts_of_isNamed {child : Tree} (h : child ∈ tree.children) (hnamed : child.isNamed) :
    child ∈ tree.parts :=
  mem_parts h (not_isComment_of_isNamed hnamed)

/-- The first part that is named is the first child that is. -/
lemma namedChildren_eq (tree : Tree) : tree.namedChildren = tree.parts.filter isNamed := by
  rw [namedChildren, parts, List.filter_filter]
  refine List.filter_congr fun child _ => ?_
  rcases hnamed : child.isNamed with _ | _
  · rfl
  · simp [not_isComment_of_isNamed hnamed]

/-- A child of a node is a comment without any role or was built before comments were put in. -/
lemma Parsed.of_child {child : Tree} (h : tree.Parsed source) (hchild : child ∈ tree.children) :
    child.Parsed source := by
  rcases h with hcomment | ⟨bare, hbare, rfl⟩
  · rw [hcomment.2.2] at hchild
    cases hchild
  rcases hchildren : bare.children with _ | _
  · rw [withComments_eq_self hchildren, hchildren] at hchild
    cases hchild
  rw [withComments_eq (by simp [hchildren]), children_node] at hchild
  rcases mem_withCommentsAmong hchild with hcomment | ⟨other, hother, rfl⟩
  · exact .inl hcomment
  · exact .inr ⟨other, hbare.of_child hother, rfl⟩

/-- A child in a role is no comment. -/
lemma Parsed.mem_parts_of_role {role : Role} {child : Tree} (h : tree.Parsed source)
    (hchild : child ∈ tree.children) (hrole : child.role = some role) : child ∈ tree.parts := by
  refine mem_parts hchild ?_
  rcases h.of_child hchild with hcomment | ⟨bare, hbare, rfl⟩
  · rw [hcomment.2.1] at hrole
    cases hrole
  · rw [isKind, symbol_withComments]
    exact hbare.self.not_isComment

lemma Parsed.every (h : tree.Parsed source) : tree.Every (Parsed source) := by
  induction tree using ofChildren with
  | h tree ih =>
    rw [every_iff]
    exact ⟨h, fun child hchild => ih child hchild (h.of_child hchild)⟩

/-- Taking the comments out again leaves the trees that they were put among. -/
lemma filter_withCommentsAmong {cursor stop : Nat} {trees : List Tree}
    (h : ∀ tree ∈ trees, tree.isKind .comment = false) :
    (withCommentsAmong source cursor stop trees).filter (fun child => !child.isKind .comment) =
      trees.map (withComments source) := by
  have hcomments (start stop : Nat) : (commentsBetween source start stop).filter
      (fun child => !child.isKind .comment) = [] := by
    rw [List.filter_eq_nil_iff]
    intro child hmem
    simp [(isComment_of_mem_commentsBetween child hmem).isKind]
  induction trees generalizing cursor with
  | nil => rw [withCommentsAmong, hcomments, List.map_nil]
  | cons tree trees ih =>
    obtain ⟨htree, htrees⟩ := List.forall_mem_cons.mp h
    rw [withCommentsAmong, List.filter_append, hcomments, List.nil_append,
      List.filter_cons_of_pos (by simpa [isKind] using htree), ih htrees, List.map_cons]

lemma parts_eq_children {bare : Tree} (h : bare.Every (Built source)) :
    bare.parts = bare.children := by
  refine List.filter_eq_self.mpr fun child hchild => ?_
  simp [(h.of_child hchild).self.not_isComment]

lemma parts_withComments {bare : Tree} (h : bare.Every (Built source)) :
    (bare.withComments source).parts = bare.children.map (withComments source) := by
  rcases hchildren : bare.children with _ | _
  · rw [withComments_eq_self hchildren, parts, hchildren]
    rfl
  · rw [withComments_eq (by simp [hchildren]), parts, children_node, filter_withCommentsAmong,
      hchildren]
    exact fun child hchild => (h.of_child hchild).self.not_isComment

end Tree

/-- A node of a kind holds what a rule reads that passes a check, when all rules do around which the
grammar builds nodes of this kind. -/
lemma Tree.Parsed.exists_rule {kind : Kind} (check : GrammarRule → Bool) (h : tree.Parsed source)
    (hkind : tree.isKind kind) (hother : kind ∉ [.comment, .stringFragment])
    (hcheck : allRules fun rule => rule.makers.all (Rule.nodesPass kind check)) :
    ∃ rule trees place later, check rule ∧ place.Valid source ∧
      Reads grammar rule [] place trees later ∧ tree.parts = trees.map (Tree.withComments source) ∧
      tree.span = ⟨place.start, max place.start later.position⟩ := by
  simp only [List.mem_cons, List.not_mem_nil, or_false, not_or] at hother
  rcases h with hcomment | ⟨bare, hbare, rfl⟩
  · rw [isKind_iff, hcomment.1] at hkind
    exact absurd (Symbol.kind.inj hkind).symm hother.1
  rw [Tree.isKind, Tree.symbol_withComments] at hkind
  have hparts := Tree.parts_withComments hbare
  rw [Tree.span_withComments]
  cases hbare.self with
  | token => simp at hkind
  | leaf _ _ hrule | adopt _ hrule _ =>
    have := hrule.check hcheck
    simp_all [Rule.nodesPass]
  | fragment =>
    simp only [symbol_node, beq_iff_eq, Symbol.kind.injEq] at hkind
    exact absurd hkind.symm hother.2
  | node hplace hrule hread =>
    have := hrule.check hcheck
    simp only [symbol_node, beq_iff_eq, Symbol.kind.injEq] at hkind
    subst hkind
    exact ⟨_, _, _, _, by simpa [Rule.nodesPass] using this, hplace, hread, hparts, rfl⟩

/-- Whether the rules of all nonterminals that are `clear` avoid such symbols. -/
def clears (clear : Nonterminal → Bool) (p : Symbol → Bool) : Bool :=
  nonterminals.all fun nonterminal =>
    !clear nonterminal || (grammar nonterminal).avoids clear p

/-- Whether the rules of all nonterminals that are `quiet` avoid such symbols in a role. -/
def quiets (quiet clear : Nonterminal → Bool) (given : Role) (p : Symbol → Bool) : Bool :=
  nonterminals.all fun nonterminal =>
    !quiet nonterminal || (grammar nonterminal).avoidsAs quiet clear given p

lemma avoids_of_clears {clear : Nonterminal → Bool} {p : Symbol → Bool} (h : clears clear p)
    (nonterminal : Nonterminal) (hnonterminal : clear nonterminal) :
    (grammar nonterminal).avoids clear p :=
  check_of_rulesPass h nonterminal hnonterminal

lemma avoidsAs_of_quiets {quiet clear : Nonterminal → Bool} {given : Role} {p : Symbol → Bool}
    (h : quiets quiet clear given p) (nonterminal : Nonterminal)
    (hnonterminal : quiet nonterminal) : (grammar nonterminal).avoidsAs quiet clear given p :=
  check_of_rulesPass h nonterminal hnonterminal

/-- What the parts of nodes of a kind have no symbols of, when all rules around which the grammar
builds such nodes avoid them. -/
lemma Tree.Parsed.avoids {kind : Kind} (clear : Nonterminal → Bool) (p : Symbol → Bool)
    (h : tree.Parsed source) (hkind : tree.isKind kind)
    (hother : kind ∉ [.comment, .stringFragment]) (hclear : clears clear p)
    (hcheck : allRules fun rule => rule.makers.all (Rule.nodesPass kind (Rule.avoids clear p))) :
    ∀ child ∈ tree.parts, p child.symbol = false := by
  obtain ⟨rule, trees, place, later, hrule, -, hread, hparts, -⟩ :=
    h.exists_rule _ hkind hother hcheck
  rw [hparts]
  refine List.forall_mem_map.mpr fun child hmem => ?_
  rw [Tree.symbol_withComments]
  exact (hread.avoids (avoids_of_clears hclear)).1 hrule child hmem

/-- What the parts of nodes of a kind in a role have no symbols of, when all rules around which the
grammar builds such nodes avoid them there. -/
lemma Tree.Parsed.avoidsAs {kind : Kind} (quiet clear : Nonterminal → Bool) (given : Role)
    (p : Symbol → Bool) (h : tree.Parsed source) (hkind : tree.isKind kind)
    (hother : kind ∉ [.comment, .stringFragment]) (hclear : clears clear p)
    (hquiet : quiets quiet clear given p)
    (hcheck : allRules fun rule =>
      rule.makers.all (Rule.nodesPass kind (Rule.avoidsAs quiet clear given p))) :
    ∀ child ∈ tree.parts, child.role = some given → p child.symbol = false := by
  obtain ⟨rule, trees, place, later, hrule, -, hread, hparts, -⟩ :=
    h.exists_rule _ hkind hother hcheck
  rw [hparts]
  refine List.forall_mem_map.mpr fun child hmem hrole => ?_
  rw [Tree.role_withComments] at hrole
  rw [Tree.symbol_withComments]
  exact (hread.avoidsAs (avoids_of_clears hclear) (avoidsAs_of_quiets hquiet)).1 hrule child hmem
    hrole

/-- Whether a symbol is a kind, and none of these. -/
def Symbol.isOther (kinds : List Kind) : Symbol → Bool
  | .kind given => !kinds.contains given
  | .token _    => false

lemma Tree.exists_kind {kinds : List Kind} (hnamed : tree.isNamed)
    (h : tree.symbol.isOther kinds = false) : ∃ kind ∈ kinds, tree.isKind kind := by
  unfold isNamed at hnamed
  split at hnamed
  · cases hnamed
  next kind _ hkind =>
    refine ⟨kind, ?_, isKind_iff.mpr hkind⟩
    simpa [Symbol.isOther, hkind] using h
  · cases hnamed

/-- Whether a symbol is none of these kinds. -/
def Symbol.isNoneOf (kinds : List Kind) (symbol : Symbol) : Bool :=
  !kinds.any fun kind => symbol == .kind kind

lemma Tree.exists_kind_of_isNoneOf {kinds : List Kind} (h : tree.symbol.isNoneOf kinds = false) :
    ∃ kind ∈ kinds, tree.isKind kind := by
  rwa [Symbol.isNoneOf, Bool.not_eq_false', List.any_eq_true] at h

/-- All nodes in a parsed module are comments or were built at some place of the grammar. -/
theorem parse_parsed (h : parse source = .ok tree) :
    ∀ child ∈ tree.children, child.Every (Tree.Parsed source) := by
  unfold parse at h
  split at h
  next root rest later hread =>
    cases h
    have hroot := (read_reads hread).built (Place.first_valid source) (List.forall_mem_nil _)
      (List.forall_mem_nil _) root (List.mem_cons_self ..)
    intro child hchild
    refine Tree.Parsed.every ?_
    rcases Tree.mem_withCommentsAmong hchild with hcomment | ⟨other, hother, rfl⟩
    · exact .inl hcomment
    · exact .inr ⟨other, hroot.of_child hother, rfl⟩
  all_goals cases h

end Stencil.TypeScript
