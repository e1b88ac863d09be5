import Stencil.Path.Parts

/-!
# Arguments of the command

`Request.ofArguments` reads what a user asks for: a run with its settings and directories, or a text
about the command. Options are given before or after the settings, with their value behind an equals
sign or as the next argument; behind two dashes alone there are no options.
-/

namespace Stencil.Command

/-- What is given for a run. -/
structure Arguments where
  settings : Option String := none
  projectRoot : Option String := none
  directory : Option String := none
  deriving DecidableEq

/-- What a user asks for. -/
inductive Request where
  | generate (arguments : Arguments)
  | help
  | version
  /-- Arguments that make no sense. -/
  | misuse
  deriving DecidableEq

namespace Arguments

/-- Gives settings, which can be given once. -/
def addSettings? (a : Arguments) (text : String) : Option Arguments :=
  if a.settings.isSome then none else some { a with settings := some text }

/-- Gives an option, which can be given once and has a value. -/
def addOption? (a : Arguments) (name value : String) : Option Arguments :=
  if value.isEmpty then none
  else
    match name with
    | "root-dir"    =>
      if a.projectRoot.isSome then none else some { a with projectRoot := some value }
    | "working-dir" =>
      if a.directory.isSome then none else some { a with directory := some value }
    | _             => none

end Arguments

/-- An argument by its form. -/
inductive Word where
  /-- Two dashes alone. -/
  | dashes
  /-- The name of an option with the value behind its equals sign. -/
  | long (name : String) (value : Option String)
  /-- The first letter of options in short form. -/
  | short (letter : Char)
  | plain (text : String)

def Word.ofArgument (argument : String) : Word :=
  match argument.toList with
  | ['-', '-']         => .dashes
  | '-' :: '-' :: text =>
    let name := text.takeWhile (· ≠ '=')
    match text.drop name.length with
    | []         => .long (String.ofList name) none
    | _ :: value => .long (String.ofList name) (some (String.ofList value))
  | '-' :: letter :: _ => .short letter
  | _                  => .plain argument

namespace Request

/-- The request of arguments behind two dashes. -/
def ofPlain (a : Arguments) : List String → Request
  | []               => .generate a
  | argument :: rest =>
    match a.addSettings? argument with
    | some a => ofPlain a rest
    | none   => .misuse

/-- The request of arguments behind others. -/
def ofRest (a : Arguments) : List String → Request
  | []               => .generate a
  | argument :: rest =>
    match Word.ofArgument argument with
    | .dashes                 => ofPlain a rest
    | .short 'h'              => .help
    | .short 'V'              => .version
    | .short _                => .misuse
    | .long "help" none       => .help
    | .long "version" none    => .version
    | .long name (some value) =>
      match a.addOption? name value with
      | some a => ofRest a rest
      | none   => .misuse
    | .long name none         =>
      match rest with
      | value :: rest =>
        match Word.ofArgument value, a.addOption? name value with
        | .plain _, some a => ofRest a rest
        | _, _             => .misuse
      | []            => .misuse
    | .plain text             =>
      match a.addSettings? text with
      | some a => ofRest a rest
      | none   => .misuse

/-- What arguments ask for. A root of the project that they do not tell may be told by the
environment. -/
def ofArguments (rootOfEnvironment : Option String) (arguments : List String) : Request :=
  match ofRest {} arguments, rootOfEnvironment with
  | .generate a, some root =>
    if a.projectRoot.isSome then .generate a
    else
      match a.addOption? "root-dir" root with
      | some a => .generate a
      | none   => .misuse
  | request, _             => request

end Request

end Stencil.Command
