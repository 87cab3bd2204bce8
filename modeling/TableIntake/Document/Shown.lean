import TableIntake.Calendar
import TableIntake.Document.FieldType
import TableIntake.Numeral.Layout
import TableIntake.Text.Hex

/-! # Shown values

The text of a value whose type has no cell of its own. A value that its type cannot
represent shows an error in its place, and nothing behind it. A few values that their type
can represent have no text at all.
-/

namespace TableIntake

open Numeral

inductive Shown where
  | whole (text : String)
  | broken (text : String)
  /-- A value without a text, which is more than its reader survives. -/
  | fatal
deriving DecidableEq, Repr

namespace Shown

def failed (message : String) : Shown :=
  .broken ("ERROR: Cast error: " ++ message)

def append : Shown → Shown → Shown
  | .whole first, .whole second => .whole (first ++ second)
  | .whole first, .broken second => .broken (first ++ second)
  | .whole _, .fatal => .fatal
  | first, _ => first

instance : Append Shown := ⟨append⟩

def text? : Shown → Option String
  | .whole text | .broken text => some text
  | .fatal => none

end Shown

/-! ## Numbers -/

/-- Doubles show their places from the fifth behind the point to the sixteenth before. -/
def doubleLayout : Layout :=
  ⟨some (-5, 15), ".0", .even⟩

def singleLayout : Layout :=
  ⟨some (-6, 12), ".0", .even⟩

/-- `unscaled / 10 ^ scale` with all its places. Of a number that is longer than its scale,
the sign and the first `precision` digits are kept, and the point stands `scale` characters
before their end. If they are fewer, there is no place for it. -/
def showDecimal (precision : Nat) (scale : Int) (unscaled : Int) : Shown :=
  let digits := Nat.toDigits 10 unscaled.natAbs
  let sign := if unscaled < 0 then ['-'] else []
  let kept := sign ++ digits.take precision
  let behind := scale.toNat
  if scale ≤ 0 then
    .whole (String.ofList (kept ++ List.replicate (-scale).toNat '0'))
  else if digits.length ≤ behind then
    let zeros := List.replicate (behind - digits.length) '0'
    .whole (String.ofList (sign ++ ['0', '.'] ++ zeros ++ digits))
  else if kept.length < behind then
    .fatal
  else
    let before := kept.length - behind
    .whole (String.ofList (kept.take before ++ '.' :: kept.drop before))

example : showDecimal 5 2 (-5) = .whole "-0.05" := by decide +kernel

example : showDecimal 5 (-2) 0 = .whole "000" := by decide +kernel

example : showDecimal 1 2 123 = .fatal := by decide +kernel

/-! ## Dates and times -/

namespace FieldType

def temporalName : FieldType → String
  | .date32 => "Date32"
  | .date64 => "Date64"
  | .time32 unit => "Time32(" ++ unit.name ++ ")"
  | .time64 unit => "Time64(" ++ unit.name ++ ")"
  | .timestamp unit none => "Timestamp(" ++ unit.name ++ ", None)"
  | .timestamp unit (some zone) => "Timestamp(" ++ unit.name ++ ", Some(\"" ++ zone.text ++ "\"))"
  | _ => ""

def outOfRange (type : FieldType) (value : Int) (target : String) : Shown :=
  .failed ("Failed to convert " ++ toString value ++ " to " ++ target ++ " for " ++
    type.temporalName)

end FieldType

def showDate32 (days : Int) : Shown :=
  match Calendar.keptDate? days with
  | some date => .whole date.text
  | none => FieldType.date32.outOfRange days "temporal"

/-- Date and time of day, `offset` seconds ahead of universal time. A moment that has a date
there but not with the offset has no text. -/
def showMoment (unit : TimeUnit) (value offset : Int) (failure : Shown) : Shown :=
  let moment := Calendar.momentOfTicks unit.perSecond value
  let shifted := moment.later offset
  if !moment.isKept then failure
  else if !shifted.isKept then .fatal
  else .whole shifted.text

def showDate64 (milliseconds : Int) : Shown :=
  showMoment .millisecond milliseconds 0 (FieldType.date64.outOfRange milliseconds "temporal")

def showTimestamp (unit : TimeUnit) (zone : Option Zone) (value : Int) : Shown :=
  let failure := (FieldType.timestamp unit zone).outOfRange value "datetime"
  match zone with
  | none => showMoment unit value 0 failure
  | some zone =>
      match zone.offset? with
      | some offset => showMoment unit value offset failure ++ .whole (Calendar.offsetText offset)
      | none => .fatal

/-- Seconds and billionths count within 32 bits. A second that lasts longer than others
is the last of its minute. -/
def showTime (unit : TimeUnit) (value : Int) (failure : Shown) : Shown :=
  let perSecond := unit.perSecond
  let seconds := (value.tdiv perSecond % 4294967296).toNat
  let nanoseconds := (value.tmod perSecond * (1000000000 / perSecond : Nat) % 4294967296).toNat
  if 86400 ≤ seconds || 2000000000 ≤ nanoseconds ||
      (1000000000 ≤ nanoseconds && seconds % 60 != 59) then
    failure
  else
    .whole (Calendar.timeText seconds nanoseconds)

/-! ## All values -/

namespace Shown

def between (opening closing : String) (parts : List Shown) : Shown :=
  match parts with
  | [] => .whole (opening ++ closing)
  | first :: rest =>
      rest.foldl (fun text part => text ++ .whole ", " ++ part) (.whole opening ++ first) ++
        .whole closing

end Shown

mutual

def FieldType.show : FieldType → Datum → Shown
  | _, .null => .whole ""
  | .boolean, .boolean value => .whole (if value then "true" else "false")
  | .int8, .whole value | .int16, .whole value | .int32, .whole value | .int64, .whole value
  | .uint8, .whole value | .uint16, .whole value | .uint32, .whole value
  | .uint64, .whole value => .whole (toString value)
  | .float32, .single bits => .whole (singleLayout.single bits)
  | .float64, .double bits => .whole (doubleLayout.double bits)
  | .utf8, .text value | .largeUtf8, .text value => .whole value
  | .binary, .bytes value | .largeBinary, .bytes value
  | .fixedSizeBinary _, .bytes value => .whole (Text.hex value)
  | .date32, .whole days => showDate32 days
  | .date64, .whole milliseconds => showDate64 milliseconds
  | .timestamp unit zone, .whole value => showTimestamp unit zone value
  | .time32 unit, .whole value =>
      showTime unit value ((FieldType.time32 unit).outOfRange value "temporal")
  | .time64 unit, .whole value =>
      showTime unit value ((FieldType.time64 unit).outOfRange value "temporal")
  | .decimal128 precision scale, .whole value => showDecimal precision scale value
  | .list item, .many data | .largeList item, .many data
  | .fixedSizeList item _, .many data => .between "[" "]" (data.map item.show)
  | .dictionary values, datum => values.show datum
  | .record members, .many data => .between "\x7b" "\x7d" (showMembers members data)
  | _, _ => .whole ""

def FieldType.showMembers : List (String × FieldType) → List Datum → List Shown
  | (name, type) :: members, datum :: data =>
      (.whole (name ++ ": ") ++ type.show datum) :: showMembers members data
  | _, _ => []

end

end TableIntake
