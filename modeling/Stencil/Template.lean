/-!
# Templates

A template is a source text with the place it came from. Its artifacts are written beside it, so
the directory and the base name are part of it.
-/

namespace Stencil

/-- The extension of template sources. -/
def templateExtension : String := ".ts"

/-- The extension of artifacts. -/
def artifactExtension : String := ".json"

/-- A template read from the working directory. -/
structure Template where
  /-- Path from the working directory, with slashes. -/
  path : String
  source : String
  /-- What stands before the last slash of the path, empty without one. -/
  directory : String
  /-- The last part of the path without the template extension. -/
  baseName : String
  deriving DecidableEq

/-- A finished document and the place it is written to. -/
structure Artifact where
  path : String
  content : String
  deriving DecidableEq

namespace Template

/-- Split a text at its last slash. -/
def splitLastSlash (text : List Char) : List Char × List Char :=
  let name := (text.reverse.takeWhile (· ≠ '/')).reverse
  (text.take (text.length - name.length - 1), name)

/-- Remove `tail` from the end when the text ends with it. -/
def dropTail (tail text : List Char) : List Char :=
  if tail.isSuffixOf text then text.take (text.length - tail.length) else text

/-- The template at a path, whose backslashes count as slashes. -/
def ofPath (path source : String) : Template :=
  let path := path.toList.map fun c => if c = '\\' then '/' else c
  let (directory, name) := splitLastSlash path
  { path      := String.ofList path
    source    := source
    directory := String.ofList directory
    baseName  := String.ofList (dropTail templateExtension.toList name) }

/-- The path of an artifact of this name beside the template. -/
def outputPath (template : Template) (fileName : String) : String :=
  if template.directory.isEmpty then fileName else template.directory ++ "/" ++ fileName

/-- The path of the one artifact named after the template. -/
def singleOutputPath (template : Template) : String :=
  template.outputPath (template.baseName ++ artifactExtension)

end Template

end Stencil
