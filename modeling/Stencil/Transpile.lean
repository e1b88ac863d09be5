import Stencil.Erasure.Types
import Stencil.TypeScript.Diagnosis

/-!
# From a TypeScript module to a script

`transpile` parses a module, erases its types and turns its exports into definitions on the object
`exports`. Everything that has a meaning at run time is copied as it stands and keeps its line.
-/

namespace Stencil

open Erasure

/-- The edits of a module with this tree, and what it exports. -/
def moduleEdits (source : List Char) (tree : TypeScript.Tree) :
    Except Flaw (List Edit × Exports) := do
  let erasing ← erase source false none tree
  let (exports, exporting) ← Exports.collect source .empty tree.namedChildren
  return (erasing ++ exporting, exports)

/-- The script of a module; `none` where an edit cuts a character. -/
def scriptOf? (source : List Char) : Except Flaw (Option (List Char)) :=
  match TypeScript.parse source with
  | .error reach =>
    let (fault, offset) := TypeScript.diagnose source reach
    .error ⟨fault, offset⟩
  | .ok tree => do
    let (edits, exports) ← moduleEdits source tree
    return ((Edits.ofList edits).applyTo? source).map fun body =>
      exports.header.toList ++ body ++ exports.footer.toList

/-- The script of the module `source`, which is that of the template `file`. -/
def transpile (source file : String) : Except Failure String :=
  let chars := source.toList
  match scriptOf? chars with
  | .ok (some script) => .ok (String.ofList script)
  | .ok none          => .error (.brokenOff file)
  | .error flaw       => .error (.translation file flaw.fault (Text.lineAt chars flaw.offset))

end Stencil
