import Stencil.Failure
import Stencil.Template
import Stencil.Text.Blank
import Stencil.Text.Search

/-!
# Names of artifacts

A template that describes several artifacts names each of them. A name is a single path component
that is not blank; the artifact's extension is added when it is missing.
-/

namespace Stencil

/-- Whether a name stays in its directory: it holds no separator, no NUL and no `..`, and it is
not `.`. -/
def isBaseName (name : List Char) : Bool :=
  !name.contains '/' && !name.contains '\\' && !name.contains '\x00' &&
  name != ['.'] && !Text.holds ['.', '.'] name

/-- A name with the artifact extension, which is added when the name does not end in it. -/
def withArtifactExtension (name : String) : String :=
  if artifactExtension.toList.isSuffixOf name.toList then name else name ++ artifactExtension

/-- The file name for a produced name, which is `none` when something other than a text was
produced. -/
def artifactFileName? (name : Option String) : Except NameFault String :=
  match name with
  | none      => .error .blank
  | some name =>
    if name.toList.all Text.isBlank then .error .blank
    else if isBaseName name.toList then .ok (withArtifactExtension name)
    else .error (.notABaseName name)

end Stencil
