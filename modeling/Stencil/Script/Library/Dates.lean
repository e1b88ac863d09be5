import Stencil.Script.Calendar
import Stencil.Script.Library.Builtin

/-!
# Dates

The members of dates. A date holds a moment, or no number if it is none.
-/

namespace Stencil.Script.Library

open Calendar (Fields)

/-! ### Moments -/

/-- A moment within the bounds of dates; others are no number. -/
def clipMoment (t : Int) : Float :=
  if t.natAbs ≤ 8640000000000000 then Number.ofInt t else NumberText.nan

/-- The moment of a number. -/
def clipTime (x : Float) : Float :=
  if x.isNaN || x.isInf then NumberText.nan else clipMoment (Number.truncate x)

/-- The moment of fields, the greatest first. -/
def timeOf (fields : List Float) : Float :=
  if fields.all fun x => !(x.isNaN || x.isInf) then
    clipMoment (Calendar.momentOf (fields.map Number.truncate))
  else NumberText.nan

/-- The moment of fields that are given as arguments: years below 100 are in the last century. -/
def timeOfArguments (arguments : List Value) : Exec Float := do
  let fields ← (arguments.take 7).mapM toNumber
  match fields with
  | year :: rest =>
    let whole := integral year
    let year := if 0 ≤ whole && whole ≤ 99 then 1900 + whole else year
    return timeOf (year :: rest)
  | []           => return NumberText.nan

/-- The moment that a text writes. -/
def parseTime (text : Utf16) : Float :=
  match Calendar.read? text.toChars with
  | some t => clipMoment t
  | none   => NumberText.nan

/-- The moment of a date. -/
def thisTime (v : Value) : Exec Float := do
  match v with
  | .object r =>
    match ← kindOf r with
    | .date t => return t
    | _       => throwType "value is not a date"
  | _         => throwType "value is not a date"

/-! ### Making -/

def makeDate (i : Invocation) : Exec Value := do
  -- no two runs may differ, so it is always the beginning of 1970
  if i.newTarget.isUndefined then return .ofString (Calendar.write 0)
  let time ← match i.arguments with
    | []  => pure 0
    | [v] =>
      match v with
      | .object r =>
        match ← kindOf r with
        | .date t => pure t
        | _       => ofPrimitive (← toPrimitive v .either)
      | v => ofPrimitive v
    | vs  => timeOfArguments vs
  return .object (← allocateFor i.newTarget .date (.date time))
where
  ofPrimitive (v : Value) : Exec Float := do
    match v with
    | .text t => return parseTime t
    | v       => return clipTime (← toNumber v)

def dateStatics : List Builtin := [
  method "now" 0 fun _ => return .number 0,
  method "parse" 1 fun i => do return .number (parseTime (← toText (i.arg 0))),
  method "UTC" 7 fun i => do return .number (← timeOfArguments i.arguments)]

/-! ### Reading -/

/-- A getter of a field. Local time is that of the calendar. -/
def fieldGetters (name : String) (f : Int → Int) : List Builtin :=
  let run (i : Invocation) : Exec Value := do
    let t ← thisTime i.this
    if t.isNaN then return .number t
    return .ofInt (f (Number.truncate t))
  [method ("get" ++ name) 0 run, method ("getUTC" ++ name) 0 run]

/-- Setters of a field and of those that follow it, up to a number of them. -/
def fieldSetters (name : String) (start count : Nat) : List Builtin :=
  let run (i : Invocation) : Exec Value := do
    let t ← thisTime i.this
    let given ← (i.arguments.take count).mapM toNumber
    let given := if given.isEmpty then [NumberText.nan] else given
    -- a year makes a date of what is none
    let t := if t.isNaN && start = 0 then 0 else t
    let time :=
      if t.isNaN then t
      else
        let fields := (Fields.ofMoment (Number.truncate t)).toList.map Number.ofInt
        timeOf (fields.take start ++ given ++ fields.drop (start + given.length))
    match i.this with
    | .object r => setKind r (.date time)
    | _         => pure ()
    return .number time
  [method ("set" ++ name) count run, method ("setUTC" ++ name) count run]

/-- A text of a date. -/
def dateText (name : String) (f : Int → String) : Builtin :=
  method name 0 fun i => do
    let t ← thisTime i.this
    if t.isNaN then return .ofString "Invalid Date"
    return .ofString (f (Number.truncate t))

def dateMethods : List Builtin :=
  fieldGetters "FullYear" (fun t => (Fields.ofMoment t).year) ++
  fieldGetters "Month" (fun t => (Fields.ofMoment t).month) ++
  fieldGetters "Date" (fun t => (Fields.ofMoment t).day) ++
  fieldGetters "Hours" (fun t => (Fields.ofMoment t).hour) ++
  fieldGetters "Minutes" (fun t => (Fields.ofMoment t).minute) ++
  fieldGetters "Seconds" (fun t => (Fields.ofMoment t).second) ++
  fieldGetters "Milliseconds" (fun t => (Fields.ofMoment t).milli) ++
  fieldGetters "Day" Calendar.weekday ++
  fieldSetters "FullYear" 0 3 ++
  fieldSetters "Month" 1 2 ++
  fieldSetters "Date" 2 1 ++
  fieldSetters "Hours" 3 4 ++
  fieldSetters "Minutes" 4 3 ++
  fieldSetters "Seconds" 5 2 ++
  fieldSetters "Milliseconds" 6 1 ++ [
  method "getTime" 0 fun i => do return .number (← thisTime i.this),
  method "getTimezoneOffset" 0 fun i => do
    let t ← thisTime i.this
    return .number (if t.isNaN then t else 0),
  method "getYear" 0 fun i => do
    let t ← thisTime i.this
    if t.isNaN then return .number t
    return .ofInt ((Fields.ofMoment (Number.truncate t)).year - 1900),
  method "setTime" 1 fun i => do
    let _ ← thisTime i.this
    let time := clipTime (← toNumber (i.arg 0))
    match i.this with
    | .object r => setKind r (.date time)
    | _         => pure ()
    return .number time,
  dateText "toDateString" Calendar.writeDate,
  dateText "toGMTString" Calendar.writeLetter,
  method "toISOString" 0 fun i => do
    let t ← thisTime i.this
    if t.isNaN then throwRange "invalid time value"
    return .ofString (Calendar.writeStandard (Number.truncate t)),
  method "toJSON" 1 fun i => do
    let r ← toObject i.this
    match ← toPrimitive (.object r) .number with
    | .number x => if x.isNaN || x.isInf then return .null
    | _         => pure ()
    invoke (.object r) "toISOString" [],
  dateText "toLocaleDateString" Calendar.writeDate,
  dateText "toLocaleString" Calendar.write,
  dateText "toLocaleTimeString" Calendar.writeTime,
  dateText "toString" Calendar.write,
  dateText "toTimeString" Calendar.writeTime,
  dateText "toUTCString" Calendar.writeLetter,
  method "valueOf" 0 fun i => do return .number (← thisTime i.this),
  symbolMethod .toPrimitive 1 fun i => do
    match i.this, i.arg 0 with
    | .object r, .text hint =>
      if hint == .ofString "number" then ordinaryPrimitive r ["valueOf", "toString"]
      else if hint == .ofString "string" || hint == .ofString "default" then
        ordinaryPrimitive r ["toString", "valueOf"]
      else throwType "invalid hint"
    | _, _ => throwType "invalid hint"]

end Stencil.Script.Library
