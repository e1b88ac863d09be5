import Stencil.Generation
import Stencil.Script.Machine

/-!
# The journal of a run

What a run has to tell while it goes on: its own events, and what templates write to their console.
`Event.message` is the wording of an event and `Event.line` the whole line of a log.
-/

namespace Stencil

open Script (Level)

/-- The wording of a level. -/
def Script.Level.name : Level → String
  | info  => "INFO"
  | warn  => "WARN"
  | error => "ERROR"
  | debug => "DEBUG"
  | trace => "TRACE"

/-- How much a level lets through; more important ones let less through. -/
def Script.Level.rank : Level → Nat
  | error => 1
  | warn  => 2
  | info  => 3
  | debug => 4
  | trace => 5

/-- What the work on a template is called in a log. -/
def Journal.workName : String := "template"

/-- The part of the program that works on templates. -/
def Journal.workTarget : String := "packgen::generation::orchestrator"

/-- Something that a run tells. -/
inductive Event where
  | started
  | projectRoot (path : String)
  | workingDirectory (path : String)
  | noConfiguration
  /-- The configuration cannot be used. -/
  | badConfiguration (reason : String)
  | packs (behavior resource : String)
  | scanning
  | found (count : Nat)
  | progress (step : Progress)
  /-- A note of a template to its console. -/
  | console (template : String) (level : Level) (text : String)
  | generated (count : Nat)
  | failed (reason : String)
  deriving DecidableEq

namespace Event

def level : Event → Level
  | noConfiguration     => .warn
  | badConfiguration _  => .warn
  | failed _            => .error
  | console _ level _   => level
  | _                   => .info

/-- The wording of an event. -/
def message : Event → String
  | started               => "🛠️ packgen"
  | projectRoot path      => "📂 Project root: " ++ path
  | workingDirectory path => "📂 Working directory: " ++ path
  | noConfiguration       => "config.json not found in project root; using defaults BP/RP"
  | badConfiguration _    => "Failed to read packs from config.json; using defaults BP/RP"
  | packs _ _             => "📦 Packs"
  | scanning              => "🔎 Scanning for templates..."
  | found 0               => "ℹ️ No .ts templates found."
  | found count           => "📄 Found " ++ toString count ++ " file(s)"
  | progress (.wroteSingle template artifact) => "   ✓ " ++ template ++ " -> " ++ artifact
  | progress (.wroteItem template index total artifact) =>
    "   ✓ " ++ template ++ " (" ++ toString index ++ "/" ++ toString total ++ ") -> " ++ artifact
  | console _ _ text      => text
  | generated count       => "✨ Generated " ++ toString count ++ " JSON file(s)."
  | failed reason         => "❌ Generation failed: " ++ reason

/-- Values that are told beside the message. -/
def fields : Event → List (String × String)
  | badConfiguration reason  => [("error", reason)]
  | packs behavior resource  => [("behavior_pack", behavior), ("resource_pack", resource)]
  | _                        => []

/-- The part of the program that an event comes from. -/
def target : Event → String
  | noConfiguration    => "packgen::infrastructure::config::pack_layout"
  | badConfiguration _ => "packgen::infrastructure::config::pack_layout"
  | scanning           => "packgen::application::generate_artifacts"
  | found _            => "packgen::application::generate_artifacts"
  | progress _         => Journal.workTarget
  | console _ _ _      => "packgen::template"
  | _                  => "packgen"

/-- The template that is being worked on. -/
def template? : Event → Option String
  | progress (.wroteSingle template _)     => some template
  | progress (.wroteItem template _ _ _)   => some template
  | console template _ _                   => some template
  | _                                      => none

/-- A character in a line of a log. Those that a terminal acts upon are shown as codes. -/
def shown (c : Char) : List Char :=
  let n := c.toNat
  let hex := Nat.toDigits 16 n
  if n = 7 || n = 8 || n = 12 || n = 27 || n = 127 then
    '\\' :: 'x' :: (if n < 16 then '0' :: hex else hex)
  else if 128 ≤ n && n < 160 then ['\\', 'u', '\x7b'] ++ hex ++ ['\x7d']
  else [c]

/-- The line of an event in a log. It may tell the template that is worked on. -/
def line (event : Event) (showsWork : Bool) : String :=
  let work := match event.template? with
    | some template =>
      if showsWork then Journal.workName ++ "\x7bfile=" ++ template ++ "\x7d: " else ""
    | none          => ""
  let message := String.ofList (event.message.toList.flatMap shown)
  let fields := event.fields.map fun (name, value) => " " ++ name ++ "=" ++ value
  event.level.name ++ " " ++ work ++ event.target ++ ": " ++ message ++ String.join fields

end Event

end Stencil
