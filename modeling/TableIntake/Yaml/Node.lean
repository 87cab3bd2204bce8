import TableIntake.Yaml.Fault
import TableIntake.Yaml.Tokens

/-! # Nodes

The scalars, sequences and mappings of a document. An anchored node is held in a numbered
slot, and an alias names a slot: it stands for the node that the slot holds at the end. Of
a text with a fault, the nodes in front of it are kept.
-/

namespace TableIntake.Yaml

structure Label where
  mark : Mark
  slot : Option Nat := none
  tag : Option Tag := none
deriving DecidableEq, Repr

/-- `missing` stands where the text has its fault. -/
inductive Node where
  | scalar (label : Label) (style : Style) (text : String)
  | sequence (label : Label) (items : List Node)
  | mapping (label : Label) (entries : List (Node × Node))
  | alias (mark : Mark) (slot : Nat)
  | missing
deriving Repr, Inhabited

/-! ## Slots -/

abbrev Slots := List (Nat × Node)

namespace Node

def inSlot (label : Label) (node : Node) (slots : Slots) : Slots :=
  match label.slot with
  | some slot => (slot, node) :: slots
  | none => slots

mutual

def held : Node → Slots → Slots
  | .scalar label style text, slots => inSlot label (.scalar label style text) slots
  | .sequence label items, slots => heldByItems items (inSlot label (.sequence label items) slots)
  | .mapping label entries, slots =>
      heldByEntries entries (inSlot label (.mapping label entries) slots)
  | .alias _ _, slots | .missing, slots => slots

def heldByItems : List Node → Slots → Slots
  | [], slots => slots
  | item :: rest, slots => heldByItems rest (item.held slots)

def heldByEntries : List (Node × Node) → Slots → Slots
  | [], slots => slots
  | (key, value) :: rest, slots => heldByEntries rest (value.held (key.held slots))

end

def target (slots : Slots) : Node → Node
  | .alias _ slot => (slots.lookup slot).getD .missing
  | node => node

def empty (mark : Mark) : Node :=
  .scalar { mark := mark } .plain ""

end Node

/-! ## Names -/

structure Names where
  anchors : List (List Char × Nat) := []
  handles : List (List Char × Tag) :=
    [(['!'], tagOfText "!"), (['!', '!'], tagOfText "tag:yaml.org,2002:")]

namespace Names

/-- An anchor takes the slot whose number counts the names so far. So one whose name is
known already leaves its slot to the next anchor as well. -/
def declare (names : Names) (name : List Char) : Nat × Names :=
  let slot := names.anchors.length
  (slot, { names with anchors := (name, slot) :: names.anchors.filter (·.1 ≠ name) })

def slot (names : Names) : Option (List Char) → Option Nat × Names
  | some name =>
      let (slot, names) := names.declare name
      (some slot, names)
  | none => (none, names)

def tag? (names : Names) (handle : List Char) (suffix : Tag) : Option Tag :=
  if handle.isEmpty then some suffix
  else (names.handles.lookup handle).map (· ++ suffix)

end Names

/-! ## Reading -/

/-- Why reading stops: a fault, or the last of the tokens that there are. -/
inductive Stop where
  | fault (fault : Fault)
  | noTokens

def Stop.met (problem : Problem) (mark : Mark) (during : Option Undertaking) : Stop :=
  .fault (.malformed (.met problem mark during))

abbrev Rest := Names × List Located

structure Parsed (α : Type) where
  value : α
  next : Except Stop Rest

namespace Parsed

/-- Reads a second thing behind a first one. If reading stops before it, it is `absent`. -/
def andThen (absent : β) (combine : α → β → γ) (first : Parsed α) (second : Rest → Parsed β) :
    Parsed γ :=
  match first.next with
  | .error stop => ⟨combine first.value absent, .error stop⟩
  | .ok rest =>
      let second := second rest
      ⟨combine first.value second.value, second.next⟩

def map (f : α → β) (parsed : Parsed α) : Parsed β :=
  ⟨f parsed.value, parsed.next⟩

end Parsed

structure Properties where
  anchor : Option (List Char) := none
  tag : Option (List Char × Tag × Mark) := none

def properties : List Located → Properties × List Located
  | ⟨.anchor anchor, _, _⟩ :: ⟨.tag handle suffix, mark, _⟩ :: rest
  | ⟨.tag handle suffix, mark, _⟩ :: ⟨.anchor anchor, _, _⟩ :: rest =>
      ({ anchor := some anchor, tag := some (handle, suffix, mark) }, rest)
  | ⟨.anchor anchor, _, _⟩ :: rest => ({ anchor := some anchor }, rest)
  | ⟨.tag handle suffix, mark, _⟩ :: rest => ({ tag := some (handle, suffix, mark) }, rest)
  | tokens => ({}, tokens)

def Properties.fullTag (names : Names) (start : Mark) (properties : Properties) :
    Except Stop (Option Tag) :=
  match properties.tag with
  | none => .ok none
  | some (handle, suffix, mark) =>
      match names.tag? handle suffix with
      | some tag => .ok (some tag)
      | none => .error (.met .undefinedHandle mark (some ⟨.node, start⟩))

/-- Where a node stands: whether it may be in block form, and whether it may be a sequence that
is indented no further than the key in front of it. -/
inductive Position where
  | flow
  | item
  | entry
deriving DecidableEq

def Position.isLeftEmpty (position : Position) (token : Token) : Bool :=
  match position with
  | .flow => token = .flowEntry || token = .flowMappingEnd
  | .item => token = .blockEntry || token = .blockEnd
  | .entry => token = .key || token = .value || token = .blockEnd

namespace Node

mutual

def parse (position : Position) : (fuel : Nat) → Rest → Parsed Node
  | 0, _ => ⟨.missing, .error .noTokens⟩
  | _, (_, []) => ⟨.missing, .error .noTokens⟩
  | _ + 1, (names, ⟨.alias name, mark, _⟩ :: rest) =>
      match names.anchors.lookup name with
      | some slot => ⟨.alias mark slot, .ok (names, rest)⟩
      | none => ⟨.missing, .error (.fault (.unknownAnchor mark))⟩
  | fuel + 1, (names, first :: others) =>
      let start := first.start
      let (properties, rest) := properties (first :: others)
      match rest, properties.fullTag names start with
      | [], _ => ⟨.missing, .error .noTokens⟩
      | _, .error stop => ⟨.missing, .error stop⟩
      | token :: rest, .ok tag =>
          let (slot, after) := names.slot properties.anchor
          let label : Label := ⟨start, slot, tag⟩
          match position, token.token with
          | _, .scalar style text =>
              ⟨.scalar label style (String.ofList text), .ok (after, rest)⟩
          | _, .flowSequenceStart =>
              (parseFlowSequence token.start true fuel (after, rest)).map (.sequence label)
          | _, .flowMappingStart =>
              (parseFlowMapping token.start true fuel (after, rest)).map (.mapping label)
          | .item, .blockSequenceStart | .entry, .blockSequenceStart =>
              (parseBlockSequence token.start fuel (after, rest)).map (.sequence label)
          | .item, .blockMappingStart | .entry, .blockMappingStart =>
              (parseBlockMapping token.start fuel (after, rest)).map (.mapping label)
          | .entry, .blockEntry =>
              (parseDashes fuel (after, token :: rest)).map (.sequence label)
          | _, _ =>
              if slot.isNone && tag.isNone then
                let activity := if position = .flow then .flowNode else .blockNode
                ⟨.missing, .error (.met .noContent token.start (some ⟨activity, start⟩))⟩
              else ⟨.scalar label .plain "", .ok (after, token :: rest)⟩

/-- Reads a node, or nothing where its place is left empty. Nothing lies at `mark`, or else
where the next token begins. -/
def parseOrEmpty (position : Position) (mark : Option Mark) : (fuel : Nat) → Rest → Parsed Node
  | 0, _ => ⟨.missing, .error .noTokens⟩
  | _, (_, []) => ⟨.missing, .error .noTokens⟩
  | fuel + 1, (names, token :: rest) =>
      if position.isLeftEmpty token.token then
        ⟨empty (mark.getD token.start), .ok (names, token :: rest)⟩
      else parse position fuel (names, token :: rest)

def parseValue (position : Position) : (fuel : Nat) → Rest → Parsed Node
  | 0, _ => ⟨.missing, .error .noTokens⟩
  | _, (_, []) => ⟨.missing, .error .noTokens⟩
  | fuel + 1, (names, ⟨.value, _, stop⟩ :: rest) =>
      parseOrEmpty position (if position = .flow then none else some stop) fuel (names, rest)
  | _ + 1, (names, token :: rest) => ⟨empty token.start, .ok (names, token :: rest)⟩

def parseBlockSequence (start : Mark) : (fuel : Nat) → Rest → Parsed (List Node)
  | 0, _ => ⟨[.missing], .error .noTokens⟩
  | _, (_, []) => ⟨[.missing], .error .noTokens⟩
  | _ + 1, (names, ⟨.blockEnd, _, _⟩ :: rest) => ⟨[], .ok (names, rest)⟩
  | fuel + 1, (names, ⟨.blockEntry, _, stop⟩ :: rest) =>
      (parseOrEmpty .item (some stop) fuel (names, rest)).andThen [] List.cons fun rest =>
        parseBlockSequence start fuel rest
  | _ + 1, (_, token :: _) =>
      ⟨[.missing], .error (.met .noDash token.start (some ⟨.blockSequence, start⟩))⟩

def parseDashes : (fuel : Nat) → Rest → Parsed (List Node)
  | 0, _ => ⟨[.missing], .error .noTokens⟩
  | _, (_, []) => ⟨[.missing], .error .noTokens⟩
  | fuel + 1, (names, ⟨.blockEntry, _, stop⟩ :: rest) =>
      let item : Parsed Node := match rest with
        | ⟨.key, _, _⟩ :: _ | ⟨.value, _, _⟩ :: _ => ⟨empty stop, .ok (names, rest)⟩
        | rest => parseOrEmpty .item (some stop) fuel (names, rest)
      item.andThen [] List.cons fun rest => parseDashes fuel rest
  | _ + 1, rest => ⟨[], .ok rest⟩

def parseBlockMapping (start : Mark) : (fuel : Nat) → Rest → Parsed (List (Node × Node))
  | 0, _ => ⟨[(.missing, .missing)], .error .noTokens⟩
  | _, (_, []) => ⟨[(.missing, .missing)], .error .noTokens⟩
  | _ + 1, (names, ⟨.blockEnd, _, _⟩ :: rest) => ⟨[], .ok (names, rest)⟩
  | fuel + 1, (names, ⟨.key, _, stop⟩ :: rest) =>
      let key := parseOrEmpty .entry (some stop) fuel (names, rest)
      let entry := key.andThen .missing Prod.mk fun rest => parseValue .entry fuel rest
      entry.andThen [] List.cons fun rest => parseBlockMapping start fuel rest
  | _ + 1, (_, token :: _) =>
      ⟨[(.missing, .missing)], .error (.met .noKey token.start (some ⟨.blockMapping, start⟩))⟩

def parseFlowSequence (start : Mark) (isFirst : Bool) : (fuel : Nat) → Rest →
    Parsed (List Node)
  | 0, _ => ⟨[.missing], .error .noTokens⟩
  | _, (_, []) => ⟨[.missing], .error .noTokens⟩
  | _ + 1, (names, ⟨.flowSequenceEnd, _, _⟩ :: rest) => ⟨[], .ok (names, rest)⟩
  | fuel + 1, (names, token :: rest) =>
      if isFirst then parseItems start fuel (names, token :: rest)
      else
        match token.token, rest with
        | .flowEntry, ⟨.flowSequenceEnd, _, _⟩ :: rest => ⟨[], .ok (names, rest)⟩
        | .flowEntry, rest => parseItems start fuel (names, rest)
        | _, _ =>
            ⟨[.missing],
              .error (.met .noCommaOrBracket token.start (some ⟨.flowSequence, start⟩))⟩

def parseItems (start : Mark) : (fuel : Nat) → Rest → Parsed (List Node)
  | 0, _ => ⟨[.missing], .error .noTokens⟩
  | _, (_, []) => ⟨[.missing], .error .noTokens⟩
  | fuel + 1, (names, ⟨.key, mark, _⟩ :: rest) =>
      let pair := (parsePair fuel (names, rest)).map fun entry =>
        Node.mapping { mark := mark } [entry]
      pair.andThen [] List.cons fun rest => parseFlowSequence start false fuel rest
  | fuel + 1, rest =>
      (parse .flow fuel rest).andThen [] List.cons fun rest =>
        parseFlowSequence start false fuel rest

/-- Reads a key and a value that are an item of a sequence in brackets. A key that is left out
takes the token behind it along. -/
def parsePair : (fuel : Nat) → Rest → Parsed (Node × Node)
  | 0, _ => ⟨(.missing, .missing), .error .noTokens⟩
  | _, (_, []) => ⟨(.missing, .missing), .error .noTokens⟩
  | fuel + 1, (names, token :: rest) =>
      let isEnd (token : Token) : Bool := token = .flowEntry || token = .flowSequenceEnd
      let key : Parsed Node :=
        if token.token = .value || isEnd token.token then ⟨empty token.stop, .ok (names, rest)⟩
        else parse .flow fuel (names, token :: rest)
      key.andThen .missing Prod.mk fun
        | (names, ⟨.value, _, _⟩ :: next :: rest) =>
            if isEnd next.token then ⟨empty next.start, .ok (names, next :: rest)⟩
            else parse .flow fuel (names, next :: rest)
        | (_, [⟨.value, _, _⟩]) | (_, []) => ⟨.missing, .error .noTokens⟩
        | (names, token :: rest) => ⟨empty token.start, .ok (names, token :: rest)⟩

def parseFlowMapping (start : Mark) (isFirst : Bool) : (fuel : Nat) → Rest →
    Parsed (List (Node × Node))
  | 0, _ => ⟨[(.missing, .missing)], .error .noTokens⟩
  | _, (_, []) => ⟨[(.missing, .missing)], .error .noTokens⟩
  | _ + 1, (names, ⟨.flowMappingEnd, _, _⟩ :: rest) => ⟨[], .ok (names, rest)⟩
  | fuel + 1, (names, token :: rest) =>
      if isFirst then parseEntries start fuel (names, token :: rest)
      else
        match token.token, rest with
        | .flowEntry, ⟨.flowMappingEnd, _, _⟩ :: rest => ⟨[], .ok (names, rest)⟩
        | .flowEntry, rest => parseEntries start fuel (names, rest)
        | _, _ =>
            ⟨[(.missing, .missing)],
              .error (.met .noCommaOrBrace token.start (some ⟨.flowMapping, start⟩))⟩

def parseEntries (start : Mark) : (fuel : Nat) → Rest → Parsed (List (Node × Node))
  | 0, _ => ⟨[(.missing, .missing)], .error .noTokens⟩
  | _, (_, []) => ⟨[(.missing, .missing)], .error .noTokens⟩
  | fuel + 1, (names, ⟨.key, _, _⟩ :: rest) =>
      let key : Parsed Node := match rest with
        | ⟨.value, mark, _⟩ :: _ => ⟨empty mark, .ok (names, rest)⟩
        | rest => parseOrEmpty .flow none fuel (names, rest)
      let entry := key.andThen .missing Prod.mk fun rest => parseValue .flow fuel rest
      entry.andThen [] List.cons fun rest => parseFlowMapping start false fuel rest
  | fuel + 1, rest =>
      let entry : Parsed (Node × Node) := (parse .flow fuel rest).andThen .missing Prod.mk fun
        | (_, []) => ⟨.missing, .error .noTokens⟩
        | (names, token :: rest) => ⟨empty token.start, .ok (names, token :: rest)⟩
      entry.andThen [] List.cons fun rest => parseFlowMapping start false fuel rest

end

end Node

/-! ## Texts -/

/-- The directives in front of a document: at most one version, which is 1.1 or 1.2, and
tag handles that differ. -/
def directives : (seenVersion : Bool) → (handles : List (List Char × Tag)) → List Located →
    Except Stop (List (List Char × Tag) × List Located)
  | seenVersion, handles, ⟨.version major minor, mark, _⟩ :: rest =>
      if seenVersion then .error (.met .repeatedVersion mark none)
      else if major ≠ 1 || (minor ≠ 1 && minor ≠ 2) then .error (.met .otherVersion mark none)
      else directives true handles rest
  | seenVersion, handles, ⟨.tagHandle handle replacement, mark, _⟩ :: rest =>
      if (handles.lookup handle).isSome then .error (.met .repeatedHandle mark none)
      else directives seenVersion (handles ++ [(handle, replacement)]) rest
  | _, _, [] => .error .noTokens
  | _, handles, rest => .ok (handles, rest)

def isDirective : Token → Bool
  | .version _ _ | .tagHandle _ _ => true
  | _ => false

def isNoContent (token : Token) : Bool :=
  isDirective token || token = .documentStart || token = .documentEnd || token = .streamEnd

structure Contents where
  root : Node
  fault : Option Fault := none

namespace Contents

/-- Reads the first node of a text. More steps than five for each token are not needed. -/
def parseRoot (tokens : List Located) : Parsed Node :=
  let fuel := 5 * tokens.length + 5
  match tokens with
  | [] => ⟨.missing, .error .noTokens⟩
  | first :: _ =>
      if first.token = .streamEnd then ⟨.empty first.start, .ok ({}, tokens)⟩
      else if isDirective first.token || first.token = .documentStart then
        match directives false [] tokens with
        | .error stop => ⟨.missing, .error stop⟩
        | .ok (handles, ⟨.documentStart, _, _⟩ :: rest) =>
            let names : Names := { handles := handles ++ ({} : Names).handles }
            match rest with
            | [] => ⟨.missing, .error .noTokens⟩
            | next :: _ =>
                if isNoContent next.token then ⟨.empty next.start, .ok (names, rest)⟩
                else Node.parse .item fuel (names, rest)
        | .ok (_, other :: _) => ⟨.missing, .error (.met .noDocumentStart other.start none)⟩
        | .ok (_, []) => ⟨.missing, .error .noTokens⟩
      else Node.parse .item fuel ({}, tokens)

def ending (fault : Option Fault) : (tokens : List Located) → Option Fault
  | [] => fault
  | tokens =>
      match tokens.dropWhile (·.token = .documentEnd) with
      | [⟨.streamEnd, _, _⟩] => none
      | _ => some .severalDocuments

def ofTokens (tokens : Tokens) : Contents :=
  let root := parseRoot tokens.list
  let lack := tokens.fault.map Fault.malformed
  let fault := match root.next with
    | .error (.fault fault) => some fault
    | .error .noTokens => lack
    | .ok (_, rest) => ending lack rest
  { root := root.value, fault := fault }

def ofText (text : String) : Contents :=
  ofTokens (Tokens.ofText text)

end Contents

end TableIntake.Yaml
