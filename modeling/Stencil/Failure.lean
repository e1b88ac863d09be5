/-!
# Failures

Why a run of the generator stops. A failure is a cause: what went wrong, and in which template.
The wording is in one place, the function `message` of each kind of cause.

`Failure.template` names the template to blame. Only failures before any template is read
(settings, discovery) and those of the file system have none.
-/

namespace Stencil

/-! ### Translation -/

/-- Why a template cannot be turned into a script. -/
inductive TranslationFault where
  /-- A token is missing. -/
  | expected (token : String)
  /-- The text that fits nowhere, up to its first line break. -/
  | unexpected (text : String)
  | unexpectedEnd
  | reExport
  | exportAssignment
  | duplicateDefault
  | unsupportedExport
  | namelessSpecifier
  | namelessDeclaration
  | notABindingName
  | patternProperty
  | malformedEnum
  | enumMemberName
  | enumInitializer (member : String)
  | qualifiedNamespace
  | defaultInNamespace
  deriving DecidableEq

/-- Characters of an unexpected text that are shown. -/
def TranslationFault.shown : Nat := 24

/-- The wording of a fault. -/
def TranslationFault.message : TranslationFault → String
  | .expected token       => "Expected '" ++ token ++ "'"
  | .unexpected text      =>
    if text.length > shown then
      "Unexpected '" ++ String.ofList (text.toList.take shown) ++ "...'"
    else "Unexpected '" ++ text ++ "'"
  | .unexpectedEnd        => "Unexpected end of input"
  | .reExport             => "Re-exports are not supported in templates"
  | .exportAssignment     => "'export =' is not supported in templates"
  | .duplicateDefault     => "Duplicate default export"
  | .unsupportedExport    => "Unsupported export statement"
  | .namelessSpecifier    => "Expected a local name in export list"
  | .namelessDeclaration  => "Exported declaration needs a name"
  | .notABindingName      => "Expected a binding name in exported declaration"
  | .patternProperty      => "Parameter properties must be plain identifiers"
  | .malformedEnum        => "Malformed enum declaration"
  | .enumMemberName       => "Invalid enum member name"
  | .enumInitializer name => "Enum member '" ++ name ++ "' must have an initializer"
  | .qualifiedNamespace   => "Only namespaces with a single identifier name are supported"
  | .defaultInNamespace   => "Default exports are not allowed in namespaces"

/-! ### Evaluation -/

/-- Why a template cannot be evaluated. -/
inductive EvaluationFault where
  /-- An error that reached the host, by its name (empty when it has none) and its text. -/
  | thrown (name text : String)
  | neverSettled
  | notAFunction
  | unknownValue (reference : Nat)
  /-- A hand-made table of values has no such entry. -/
  | noValue (reference : Nat)
  deriving DecidableEq

/-- The wording of a fault. -/
def EvaluationFault.message : EvaluationFault → String
  | .thrown name text       => if name.isEmpty then text else name ++ ": " ++ text
  | .neverSettled           => "Promise returned by the template never settled"
  | .notAFunction           => "Template value is not a function"
  | .unknownValue reference => "Unknown template value #" ++ toString reference
  | .noValue reference      => "no value " ++ toString reference

/-- Why a value has no JSON text. -/
inductive SerializationFault where
  /-- An error thrown during serialization, by its text. -/
  | thrown (text : String)
  /-- The value has no JSON form; the text says what it is. -/
  | unserializable (found : String)
  deriving DecidableEq

/-- The wording of a fault. -/
def SerializationFault.message : SerializationFault → String
  | .thrown text          => text
  | .unserializable found => found ++ " is not JSON-serializable"

/-! ### Contract -/

/-- A member of the triple that describes several artifacts. -/
inductive TripleMember where
  | nameFunction
  | dataFunction
  | items
  deriving DecidableEq

/-- What the member has to be. -/
def TripleMember.demand : TripleMember → String
  | .nameFunction => "First element must be a function that returns a filename."
  | .dataFunction => "Second element must be a function that returns JSON data."
  | .items        => "Third element must be an array of items to generate from."

/-- Why a produced name cannot name an artifact. -/
inductive NameFault where
  | blank
  | notABaseName (name : String)
  deriving DecidableEq

/-- The wording of a fault. -/
def NameFault.message : NameFault → String
  | .blank             => "Name generator must return a non-empty string"
  | .notABaseName name => "Invalid filename '" ++ name ++ "'. Use a basename without directories."

/-! ### The file system -/

/-- Why the file system refuses an operation. -/
inductive FileFault where
  | notPermitted
  | notFound
  | exists
  | notADirectory
  | isADirectory
  | nameTooLong
  | tooManyLinks
  | notText
  | nulInName
  /-- A reason given in words by whoever refuses. -/
  | refused (reason : String)
  deriving DecidableEq

/-- The wording of a fault. -/
def FileFault.message : FileFault → String
  | .notPermitted   => "Permission denied (os error 13)"
  | .notFound       => "No such file or directory (os error 2)"
  | .exists         => "File exists (os error 17)"
  | .notADirectory  => "Not a directory (os error 20)"
  | .isADirectory   => "Is a directory (os error 21)"
  | .nameTooLong    => "File name too long (os error 36)"
  | .tooManyLinks   => "Too many levels of symbolic links (os error 40)"
  | .notText        => "stream did not contain valid UTF-8"
  | .nulInName      => "file name contained an unexpected NUL byte"
  | .refused reason => reason

/-! ### Discovery -/

/-- Why a text is no glob. -/
inductive GlobFault where
  | unclosedSet
  | invalidRange (first last : Char)
  | unclosedGroup
  | unopenedGroup
  | danglingEscape
  deriving DecidableEq

/-- The wording of a fault. -/
def GlobFault.message : GlobFault → String
  | .unclosedSet             => "unclosed character class; missing ']'"
  | .invalidRange first last =>
    "invalid range; '" ++ String.singleton first ++ "' > '" ++ String.singleton last ++ "'"
  | .unclosedGroup           =>
    "unclosed alternate group; missing '\x7d' (maybe escape '\x7b' with '[\x7b]'?)"
  | .unopenedGroup           =>
    "unopened alternate group; missing '\x7b' (maybe escape '\x7d' with '[\x7d]'?)"
  | .danglingEscape          => "dangling '\\'"

/-- Why templates cannot be found. -/
inductive DiscoveryFault where
  | badPattern (pattern : String) (fault : GlobFault)
  /-- The directory to search cannot be entered. -/
  | noEntry (directory : String) (fault : FileFault)
  deriving DecidableEq

/-- The wording of a fault. -/
def DiscoveryFault.message : DiscoveryFault → String
  | .badPattern pattern fault =>
    "Invalid glob pattern '" ++ pattern ++ "': error parsing glob '" ++ pattern ++ "': " ++
      fault.message
  | .noEntry directory fault  =>
    "Failed to walk " ++ directory ++ ": IO error for operation on " ++ directory ++ ": " ++
      fault.message

/-! ### Failures of a run -/

/-- Why a run stops. -/
inductive Failure where
  | moduleLoad (file statement : String)
  | translation (file : String) (fault : TranslationFault) (line : Nat)
  /-- Translation cuts a character and breaks the whole run off. -/
  | brokenOff (file : String)
  | moduleLoadDisabled (file specifier : String)
  | evaluation (file : String) (fault : EvaluationFault)
  | contract (file : String) (member : TripleMember)
  | invalidName (file : String) (index : Nat) (fault : NameFault)
  | unsupported (file found : String)
  | serialization (file : String) (fault : SerializationFault)
  | discovery (fault : DiscoveryFault)
  | settings (reason : String)
  | fileSystem (path : String) (fault : FileFault)
  deriving DecidableEq

namespace Failure

/-- The template that a failure is attributed to. -/
def template : Failure → Option String
  | .moduleLoad file _         => some file
  | .translation file _ _      => some file
  | .brokenOff file            => some file
  | .moduleLoadDisabled file _ => some file
  | .evaluation file _         => some file
  | .contract file _           => some file
  | .invalidName file _ _      => some file
  | .unsupported file _        => some file
  | .serialization file _      => some file
  | .discovery _               => none
  | .settings _                => none
  | .fileSystem _ _            => none

/-- The wording of a failure. -/
def message : Failure → String
  | .moduleLoad file statement =>
    "Imports are not allowed in template files: " ++ file ++ " (" ++ statement ++ ")"
  | .translation file fault line =>
    "Failed to transpile " ++ file ++ ": " ++ fault.message ++ " (line " ++ toString line ++ ")"
  | .brokenOff file =>
    "Translation of " ++ file ++ " cuts a character"
  | .moduleLoadDisabled file specifier =>
    "require('" ++ specifier ++ "') is disabled in templates: " ++ file
  | .evaluation file fault =>
    "Failed to evaluate " ++ file ++ ": " ++ fault.message
  | .contract file member =>
    "Invalid default export array in " ++ file ++ ": " ++ member.demand
  | .invalidName file index fault =>
    "Invalid filename for item " ++ toString index ++ " in " ++ file ++ ": " ++ fault.message
  | .unsupported file found =>
    "Unsupported template in " ++ file ++ " (default export was " ++ found ++
      "). Expected either:\n - default export object (single file), or\n" ++
      " - default export array [nameFn, dataFn, items] for multiple files."
  | .serialization file fault =>
    "Failed to serialize output of " ++ file ++ ": " ++ fault.message
  | .discovery fault =>
    "Template discovery error: " ++ fault.message
  | .settings reason =>
    "Invalid settings: " ++ reason
  | .fileSystem path fault =>
    "IO error on " ++ path ++ ": " ++ fault.message

/-- The wording of a failure, followed by that of its cause if the cause has one of its own. -/
def fullMessage (failure : Failure) : String :=
  match failure with
  | .fileSystem _ fault => failure.message ++ ": " ++ fault.message
  | _                   => failure.message

end Failure

end Stencil
