import Stencil.Proofs.Progress

/-!
# Bodies of namespaces

What stands in the bodies of namespaces, nested at any depth, and the statements that it becomes. A
body gives values to names of its own and exports some of them to the object of its namespace. Of
all that is declared for a path of names, `keptAt` tells what is kept: a namespace in the body of
another begins anew each time the outer one is reopened, so the object that is exported last counts.
-/

namespace Stencil.Script

/-! ### Declarations -/

/-- Statements in the body of a function that do nothing but give values to some of its names. -/
structure Code where
  statements : List Tree
  names : List Utf16
  /-- How many steps they take at most. -/
  steps : Nat
  settles : ∀ (h : Host) (a : Activation) (m : Machine) (tasks : List Task),
    m.IsFunctionScope a.scope → ∃ m' result,
      Comes h steps (a.plan (statements.map (Task.execute []) ++ tasks)) m
        ({ a with result }.plan tasks) m' ∧
      m.Settles m' a.scope names

/-- A declaration with `const` or `let` that gives a name the value of a literal. -/
def Code.literal (name : Utf16) (value : Literal) : Code where
  statements := [.lexicalDeclaration [.declarator (.name name) (.literal value)]]
  names := [name]
  steps := 3
  settles h a m tasks hscope := by
    let tasks' := .bind .declare (.name name) :: tasks
    have hdeclaration : Comes h 1 (a.plan (.execute []
          (.lexicalDeclaration [.declarator (.name name) (.literal value)]) :: tasks)) m
        (a.plan (.evaluate (.literal value) :: tasks')) m := comes_step rfl
    have hvalue : Comes h 1 (a.plan (.evaluate (.literal value) :: tasks')) m
        ((a.push value.toValue).plan tasks') m := comes_step rfl
    have hbind : Comes h 1 ((a.push value.toValue).plan tasks') m
        (a.plan tasks) (m.initialized a.scope name value.toValue) := comes_step rfl
    exact ⟨_, a.result, (hdeclaration.trans hvalue).trans hbind, .of_initialized hscope name _⟩

/-- The function of a namespace apart from its parameter and its statements. -/
structure Frame where
  head : FunctionHead
  lexicals : List LexicalName
  functions : List Tree

/-- The functions that are declared in the function of a namespace. -/
def Frame.names (frame : Frame) : List Utf16 := frame.functions.filterMap Syntax.functionName

/-- What stands in the body of a namespace: other code, with the names that it exports and those
that they have in the body, or a namespace, exported or not. -/
inductive Item where
  | code (code : Code) (exports : List (Utf16 × Utf16))
  | space (isExported : Bool) (name : Utf16) (frame : Frame) (items : List Item)

namespace Item

/-- The names that an item exports. -/
def exports : Item → List Utf16
  | code _ exports            => exports.map Prod.fst
  | space isExported name _ _ => if isExported then [name] else []

/-- The name of an item that is a namespace. -/
def name? : Item → Option Utf16
  | code _ _         => none
  | space _ name _ _ => some name

/-- The body of an item that is the namespace of this name. -/
def bodyOf? (name : Utf16) : Item → Option (List Item)
  | code _ _              => none
  | space _ other _ items => if other = name then some items else none

end Item

/-- The names that the items of a body export. -/
def exportsOf (items : List Item) : List Utf16 := items.flatMap Item.exports

/-- The names of the namespaces in a body. -/
def spacesOf (items : List Item) : List Utf16 := items.filterMap Item.name?

/-- The bodies of the namespaces of one name in a body. -/
def bodiesOf (name : Utf16) (items : List Item) : List (List Item) :=
  items.filterMap (Item.bodyOf? name)

lemma mem_spacesOf {name : Utf16} {items : List Item} (hbodies : bodiesOf name items ≠ []) :
    name ∈ spacesOf items := by
  obtain ⟨body, hbody⟩ := List.exists_mem_of_ne_nil _ hbodies
  obtain ⟨item, hitem, hbody⟩ := List.mem_filterMap.mp hbody
  refine List.mem_filterMap.mpr ⟨item, hitem, ?_⟩
  cases item with
  | code _ _          => cases hbody
  | space _ other _ _ =>
    by_cases hname : other = name
    · exact congrArg some hname
    · rw [Item.bodyOf?, if_neg hname] at hbody
      cases hbody

lemma bodiesOf_ne_nil {name : Utf16} {items : List Item} (hname : name ∈ spacesOf items) :
    bodiesOf name items ≠ [] := by
  obtain ⟨item, hitem, hsome⟩ := List.mem_filterMap.mp hname
  cases item with
  | code _ _           => cases hsome
  | space _ _ _ inner  =>
    cases hsome
    exact List.ne_nil_of_mem (List.mem_filterMap.mpr ⟨_, hitem, if_pos rfl⟩)

/-! ### Statements -/

/-- The assignments of names to the namespace that exports them. -/
def assignments (owner : Option Utf16) (exports : List (Utf16 × Utf16)) : List Tree :=
  match owner with
  | some owner => exports.map fun e => assignment owner e.1 e.2
  | none       => []

mutual

/-- The statements of an item in the body of a namespace, or of a module. -/
def Item.statements (owner : Option Utf16) : Item → List Tree
  | .code code exports                 => code.statements ++ assignments owner exports
  | .space isExported name frame items =>
    namespaceStatements name (.function frame.head [.name name] .absent
      (.block frame.lexicals frame.functions (statementsOf (some name) items))) ++
    assignments owner (if isExported then [(name, name)] else [])

/-- The statements of the items of a body. -/
def statementsOf (owner : Option Utf16) : List Item → List Tree
  | []            => []
  | item :: items => item.statements owner ++ statementsOf owner items

end

mutual

/-- How deep namespaces are nested in an item. -/
def Item.depth : Item → Nat
  | .code _ _          => 0
  | .space _ _ _ items => depthOf items + 1

def depthOf : List Item → Nat
  | []            => 0
  | item :: items => max item.depth (depthOf items)

end

mutual

/-- How many steps the statements of an item take at most, those of all functions together. -/
def Item.cost : Item → Nat
  | .code code exports          => code.steps + 9 * exports.length
  | .space isExported _ _ items => 14 + costOf items + 9 * (if isExported then 1 else 0)

def costOf : List Item → Nat
  | []            => 0
  | item :: items => item.cost + costOf items

end

mutual

/-- The names that an item exports, at any depth. -/
def Item.names : Item → List Utf16
  | .code _ exports                => exports.map Prod.fst
  | .space isExported name _ items => (if isExported then [name] else []) ++ namesOf items

def namesOf : List Item → List Utf16
  | []            => []
  | item :: items => item.names ++ namesOf items

end

mutual

/-- Whether an item suits the function that it stands in, with this parameter, these namespaces and
these declared functions: its names are no other's, and what it exports has a value by then. -/
def Item.Suits (owner : Option Utf16) (spaces functions : List Utf16) : Item → Prop
  | .code code exports        =>
    (∀ name ∈ code.names, name ∉ spaces ∧ owner ≠ some name) ∧
    ∀ e ∈ exports, (e.2 ∈ code.names ∨ e.2 ∈ functions) ∧ e.1 ∉ spaces ∧
      Key.ofText e.1 = .text e.1
  | .space _ name frame items =>
    name ∈ spaces ∧ owner ≠ some name ∧ name ∉ functions ∧ Key.ofText name = .text name ∧
    frame.head.IsBare ∧ name ∉ frame.names ∧ (∀ inner ∈ spacesOf items, inner ∈ frame.head.vars) ∧
    Suit (some name) (spacesOf items) frame.names items

/-- Whether all items of a body suit the function that they stand in. -/
def Suit (owner : Option Utf16) (spaces functions : List Utf16) : List Item → Prop
  | []            => True
  | item :: items => item.Suits owner spaces functions ∧ Suit owner spaces functions items

end

section

variable {owner : Option Utf16} {spaces functions : List Utf16} {items : List Item} {name : Utf16}

/-- A namespace that suits a function has a name of its own there. -/
lemma Suit.apart (hsuit : Suit owner spaces functions items) (hname : name ∈ spacesOf items) :
    owner ≠ some name ∧ name ∉ functions := by
  induction items with
  | nil             => cases hname
  | cons item items ih =>
    obtain ⟨hitem, hsuit⟩ := hsuit
    cases item with
    | code _ _          => exact ih hsuit hname
    | space _ other _ _ =>
      rcases List.mem_cons.mp hname with rfl | hname
      · exact ⟨hitem.2.1, hitem.2.2.1⟩
      · exact ih hsuit hname

end

/-! ### What is declared and what is kept -/

/-- The last body that exports a name. -/
def lastBody? (name : Utf16) (bodies : List (List Item)) : Option (List Item) :=
  (bodies.filter fun items => (exportsOf items).contains name).getLast?

/-- The declared bodies of the namespace at a path. -/
def declaredAt : List (List Item) → List Utf16 → List (List Item)
  | bodies, []           => bodies
  | bodies, name :: path => declaredAt
      ((bodies.filter fun items => (exportsOf items).contains name).flatMap (bodiesOf name)) path

/-- The bodies whose members the object at a path keeps: on each level, those in the last outer body
that exports the name. -/
def keptAt : List (List Item) → List Utf16 → List (List Item)
  | bodies, []           => bodies
  | bodies, name :: path =>
    match lastBody? name bodies with
    | some items => keptAt (bodiesOf name items) path
    | none       => []

/-- Whether no namespace on a path is exported by more than one outer body. -/
def IsOpenedOnce : List (List Item) → List Utf16 → Prop
  | _, []                => True
  | bodies, name :: path =>
    (bodies.filter fun items => (exportsOf items).contains name).length ≤ 1 ∧
    IsOpenedOnce
      ((bodies.filter fun items => (exportsOf items).contains name).flatMap (bodiesOf name)) path

/-- Everything declared is kept along a path on which each namespace is exported by one outer body
only. -/
lemma keptAt_eq_declaredAt {bodies : List (List Item)} {path : List Utf16}
    (honce : IsOpenedOnce bodies path) : keptAt bodies path = declaredAt bodies path := by
  induction path generalizing bodies with
  | nil              => rfl
  | cons name path ih =>
    obtain ⟨hlength, honce⟩ := honce
    have hnone (path : List Utf16) : declaredAt [] path = [] := by
      induction path with
      | nil              => rfl
      | cons name path ih => exact ih
    rw [keptAt, declaredAt, lastBody?]
    rcases hbodies : bodies.filter fun items => (exportsOf items).contains name with
      _ | ⟨items, _ | ⟨_, _⟩⟩
    · exact (hnone path).symm
    · rw [hbodies] at honce
      have hflat : [items].flatMap (bodiesOf name) = bodiesOf name items := by simp
      rw [hflat] at honce ⊢
      exact ih honce
    · rw [hbodies] at hlength
      simp at hlength

end Stencil.Script
