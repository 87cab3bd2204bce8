import TableIntake.Upload.Files
import TableIntake.Upload.Settings
import TableIntake.Yaml.Form

/-! # Settings as text

The settings that a text in block or flow form states. Settings that are left out have
their usual values, and no other keys are known. Nodes are read in their order, and the
first fault counts.
-/

namespace TableIntake.Yaml

structure NodeReader where
  slots : Slots
  lack : Fault

namespace NodeReader

variable (reader : NodeReader)

def read (expected : String) (decode : Node → Option α) (path : List String) (node : Node) :
    Except Fault α :=
  match node.target reader.slots with
  | .missing => .error reader.lack
  | node =>
      match decode node with
      | some value => .ok value
      | none => .error (.unexpected (node.misfit expected) (some ⟨path, node.mark⟩))

/-- Reads a node that may be a scalar for the absence of a value. A tag for it has to fit the
text. -/
def optional (decode : List String → Node → Except Fault α) (path : List String) (node : Node) :
    Except Fault (Option α) :=
  match node.target reader.slots with
  | .scalar label .plain text =>
      if label.tag = some (commonTag "null") then
        if isNullText text then .ok none
        else .error (.unexpected (.value (.text text) "null") none)
      else if label.tag = none && (text = "" || isNullText text) then .ok none
      else (decode path node).map some
  | _ => (decode path node).map some

/-! ## Choices -/

def localName? (tag : Tag) : Option String :=
  if isLocal tag then String.fromUTF8? ⟨tag.tail.toArray⟩ else none

def chosenUnit (name : String) : Except Misfit LimitUnit :=
  match LimitUnit.ofName? name with
  | some unit => .ok unit
  | none => .error (.unknownVariant name (LimitUnit.all.map LimitUnit.name))

def taggedUnit (path : List String) (name : String) (node : Node) : Except Fault LimitUnit := do
  let unit ← (chosenUnit name).mapError (.unexpected · none)
  let misfit : Option Misfit := match node with
    | .scalar _ style text =>
        if style = .plain && (text = "" || isNullText text) then none
        else some (.value (.text text) "null")
    | node => some (node.misfit "unit")
  match misfit with
  | none => return unit
  | some misfit => .error (.unexpected misfit (some ⟨path, node.mark⟩))

def unit (path : List String) (node : Node) : Except Fault LimitUnit :=
  let target := node.target reader.slots
  let spot : Spot := ⟨path, target.mark⟩
  let untagged := target.misfit "a YAML tag starting with '!'"
  let chosen := match target with
    | .missing | .alias _ _ => .error reader.lack
    | .scalar label _ text =>
        match label.tag.bind localName? with
        | some name => taggedUnit path name target
        | none => (chosenUnit text).mapError (.unexpected · (some spot))
    | .sequence label _ | .mapping label _ =>
        match label.tag.bind localName? with
        | some name => taggedUnit path name target
        | none => .error (.unexpected untagged (some spot))
  match node with
  | .alias mark _ => chosen.mapError (Fault.located ⟨path, mark⟩)
  | _ => chosen

/-! ## Structures -/

/-- Reads the entries of a structure one by one, each into what was read before it. Their names
are known and differ. -/
def entries (known : List String) (path : List String)
    (take : String → List String → Node → σ → Except Fault σ) :
    (seen : List String) → σ → List (Node × Node) → Except Fault σ
  | _, state, [] => .ok state
  | seen, state, (key, value) :: rest => do
      let name ← reader.read "field identifier" Node.text? path key
      if !known.contains name then
        let spot : Spot := ⟨path, (key.target reader.slots).mark⟩
        .error (.unexpected (.unknownField name known) (some spot))
      else if seen.contains name then
        .error (.unexpected (.repeatedField name) none)
      else
        let step := match key with
          | .scalar _ _ text => text
          | _ => "?"
        entries known path take (name :: seen) (← take name (path ++ [step]) value state) rest

def structured (expected : String) (usual : σ) (known : List String)
    (take : String → List String → Node → σ → Except Fault σ) (path : List String) (node : Node) :
    Except Fault σ :=
  match node.target reader.slots with
  | .missing => .error reader.lack
  | .scalar _ .plain "" => .ok usual
  | .mapping label entries =>
      (reader.entries known path take [] usual entries).mapError (Fault.located ⟨path, label.mark⟩)
  | node => .error (.unexpected (node.misfit expected) (some ⟨path, node.mark⟩))

def word (path : List String) (node : Node) : Except Fault UInt64 :=
  reader.read "u64" Node.word? path node

def takeLimit (name : String) (path : List String) (node : Node) (settings : LimitSettings) :
    Except Fault LimitSettings := do
  if name = "unit" then return { settings with unit := ← reader.unit path node }
  else return { settings with limit := ← reader.optional reader.word path node }

def limit (path : List String) (node : Node) : Except Fault LimitSettings :=
  reader.structured "struct LimitConfig" {} ["unit", "limit"] reader.takeLimit path node

def takeSetting (name : String) (path : List String) (node : Node) (settings : Settings) :
    Except Fault Settings := do
  if name = "enabled" then
    return { settings with enabled := ← reader.read "a boolean" Node.boolean? path node }
  else if name = "format" then
    return { settings with format := ← reader.read "a string" Node.text? path node }
  else if name = "limit" then
    return { settings with limit := ← reader.limit path node }
  else
    return { settings with waitTimeout := ← reader.optional reader.word path node }

def settings (node : Node) : Except Fault Settings :=
  reader.structured "struct UploadConfig" {} ["enabled", "format", "limit", "wait_timeout_ms"]
    reader.takeSetting [] node

end NodeReader

/-- The settings that contents state. A text without a fault lacks nothing. -/
def Contents.settings (contents : Contents) : Except Fault Settings := do
  let reader : NodeReader :=
    { slots := contents.root.held []
      lack := contents.fault.getD (.malformed (.met .endOfText {} none)) }
  let settings ← reader.settings contents.root
  match contents.fault with
  | some fault => .error fault
  | none => return settings

inductive SettingsFault where
  | unreadable (path cause : String)
  | illegible (fault : Fault)
  | refused (message : String)
deriving DecidableEq, Repr

namespace SettingsFault

def message : SettingsFault → String
  | .unreadable path _ => "Failed to read config file: " ++ path
  | .illegible _ => "Failed to parse YAML configuration"
  | .refused message => message

def cause? : SettingsFault → Option String
  | .unreadable _ cause => some cause
  | .illegible fault => some fault.message
  | .refused _ => none

end SettingsFault

def settings (text : String) : Except SettingsFault Settings :=
  match (Contents.ofText text).settings with
  | .error fault => .error (.illegible fault)
  | .ok settings =>
      match settings.problem? with
      | some message => .error (.refused message)
      | none => .ok settings

def textOfFile (files : Files) (path : String) : Except String String :=
  match files.openPath path with
  | .error cause => .error cause
  | .ok (.unreadable cause) => .error cause
  | .ok (.bytes bytes) =>
      match String.fromUTF8? ⟨bytes.toArray⟩ with
      | some text => .ok text
      | none => .error notText
  | .ok (.document _) | .ok (.script _) => .error notText
where
  notText : String := "stream did not contain valid UTF-8"

def settingsOfFile (files : Files) (path : String) : Except SettingsFault Settings :=
  match textOfFile files path with
  | .error cause => .error (.unreadable path cause)
  | .ok text => settings text

end TableIntake.Yaml
