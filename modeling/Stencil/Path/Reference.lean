/-!
# References to packs

A project keeps its packs under `packs/`, and generation runs where that directory has been
flattened away. Every path or pattern that a user writes is brought to the flattened form here:
`normalize` for a pattern, `packReference?` for the name of a pack.

The rewrites work on character lists, one after another, each removing at most one lead.
-/

namespace Stencil.Path

/-- Remove `lead` from the front when the text begins with it. -/
def dropLead (lead text : List Char) : List Char :=
  if lead.isPrefixOf text then text.drop lead.length else text

/-- Remove one trailing separator. -/
def dropTrailingSlash (text : List Char) : List Char :=
  if text.getLast? = some '/' then text.dropLast else text

/-- Write every backslash as a slash. -/
def slashed (text : List Char) : List Char :=
  text.map fun c => if c = '\\' then '/' else c

/-- The directory that holds the packs of a project. -/
def packsRoot : List Char := "packs/".toList

/-- A pattern as it reads in the flattened directory: slashes only, then one `./`, one `/` and
one `packs/` removed from its front, in this order. -/
def normalizeChars (text : List Char) : List Char :=
  dropLead packsRoot (dropLead ['/'] (dropLead ['.', '/'] (slashed text)))

/-- A pattern as it reads in the flattened directory. -/
def normalize (pattern : String) : String :=
  String.ofList (normalizeChars pattern.toList)

/-- The name of a pack in the flattened directory, `none` when nothing is left of it. -/
def packReference? (reference : String) : Option String :=
  match dropTrailingSlash (normalizeChars reference.toList) with
  | []   => none
  | name => some (String.ofList name)

end Stencil.Path
