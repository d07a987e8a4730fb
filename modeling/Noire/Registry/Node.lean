import Noire.Basic
import Std.Data.TreeMap

namespace Noire

/-!
# Registry nodes

What the daemon keeps of one registry global: the properties it arrives with, the
descriptor parsed from them, and which descriptors are microphones a user may choose.

* `NodeDescriptor.fromProperties` — parse one node global;
* `NodeDescriptor.isCandidate` — an eligible physical microphone;
* `DeviceSelector.matches` — whether a persisted selector identifies a node.
-/

/-- Stable node name reserved for the daemon's own virtual source. -/
def reservedNodeName : String := "io.github.rayan6ms.Noire.Microphone"

/-- The media class of a capture node. -/
def mediaClassSource : String := "Audio/Source"

/-- Availability reported for a capture node. -/
inductive DeviceAvailability
  | available
  | unavailable
  | unknown
  deriving DecidableEq

/-- One advertised raw-audio layout. -/
structure AdvertisedFormat where
  sampleRate : ℕ
  channels : ℕ
  positions : List String
  deriving DecidableEq

/-- The properties of one global, by key. -/
abbrev NodeProperties := Std.TreeMap String String

/-- Immutable capture-node information copied from a registry event. -/
structure NodeDescriptor where
  globalId : ℕ
  objectSerial : Option ℕ := none
  nodeName : String
  description : Option String := none
  nick : Option String := none
  mediaClass : Option String := none
  mediaRole : Option String := none
  virtualNode : Bool := false
  deviceId : Option ℕ := none
  deviceName : Option String := none
  deviceSerial : Option String := none
  deviceApi : Option String := none
  formats : List AdvertisedFormat := []
  availability : DeviceAvailability := .unknown
  isDefault : Bool := false
  label : String
  deriving DecidableEq

/-! ## Parsing properties

`NodeDescriptor::from_properties`, field by field, as the text of each property comes.
-/

/-- The trimmed value, unless nothing is left of it. -/
def nonempty (value : Option String) : Option String :=
  (value.map trim).filter (· ≠ "")

/-- `parse_property` at an unsigned type. -/
def parseProperty (max : ℕ) (properties : NodeProperties) (key : String) : Option ℕ :=
  (properties.get? key).bind (parseUnsigned max)

/-- The spellings of a true property. -/
def parseBool (value : Option String) : Bool :=
  value.any fun v => v = "1" ∨ v = "true" ∨ v = "yes" ∨ v = "on"

/-- Availability, from the property that reports it. -/
def parseAvailability (properties : NodeProperties) : DeviceAvailability :=
  match properties.get? "device.available" with
  | some v =>
    if v = "1" ∨ v = "true" ∨ v = "yes" ∨ v = "available" then .available
    else if v = "0" ∨ v = "false" ∨ v = "no" ∨ v = "unavailable" then .unavailable
    else .unknown
  | none => .unknown

/-- The pieces of a character list between the characters that meet `p`. -/
def splitOnChars (p : Char → Bool) : List Char → List (List Char)
  | [] => [[]]
  | c :: rest =>
    if p c then [] :: splitOnChars p rest
    else match splitOnChars p rest with
      | piece :: pieces => (c :: piece) :: pieces
      | [] => [[c]]

/-- The channel positions of an `audio.position` value such as `[ FL, FR ]`. -/
def parsePositions (value : String) : List String :=
  let inner := trimMatches (fun c => c = '[' ∨ c = ']') value
  ((splitOnChars (fun c => c = ',' ∨ c = ' ') inner.toList).map
    fun piece => trim (String.ofList piece)).filter (· ≠ "")

/-- Split the characters of a string at a byte offset, when that is a boundary:
    `(s.get(..n), s.get(n..))`. -/
def splitAtByte (n : ℕ) : List Char → Option (List Char × List Char)
  | [] => if n = 0 then some ([], []) else none
  | c :: rest =>
    if n = 0 then some ([], c :: rest)
    else if n < c.utf8Size then none
    else (splitAtByte (n - c.utf8Size) rest).map fun (before, after) => (c :: before, after)

/-- What follows `prefixed` in `s`, when `s` starts with it up to ASCII case. -/
def stripPrefixIgnoreCase (prefixed s : String) : Option String :=
  (splitAtByte prefixed.utf8ByteSize s.toList).bind fun (before, after) =>
    if eqIgnoreAsciiCase (String.ofList before) prefixed then some (String.ofList after) else none

/-- The label a node is shown under: its nickname when the description only adds to it,
    else the description, the nickname or the node name. -/
def preferredLabel (description nick : Option String) (nodeName : String) : String :=
  match description, nick with
  | some description, some nick =>
    if (stripPrefixIgnoreCase nick description).any (fun suffix => trim suffix ≠ "") then nick
    else description
  | some description, none => description
  | none, some nick => nick
  | none, none => nodeName

/-- `NodeDescriptor::from_properties`: parse one node global.  A missing `node.name` produces
    nothing. -/
def NodeDescriptor.fromProperties (globalId : ℕ) (properties : NodeProperties) :
    Option NodeDescriptor :=
  (nonempty (properties.get? "node.name")).map fun nodeName =>
    let positions := ((properties.get? "audio.position").map parsePositions).getD []
    let formats :=
      match parseProperty u32Max properties "audio.rate",
          parseProperty 65535 properties "audio.channels" with
      | some sampleRate, some channels =>
        if sampleRate ≠ 0 ∧ channels ≠ 0 then [⟨sampleRate, channels, positions⟩] else []
      | _, _ => []
    let description := nonempty (properties.get? "node.description")
    let nick := nonempty (properties.get? "node.nick")
    { globalId
      objectSerial := parseProperty u64Max properties "object.serial"
      nodeName, description, nick
      mediaClass := nonempty (properties.get? "media.class")
      mediaRole := nonempty (properties.get? "media.role")
      virtualNode := parseBool (properties.get? "node.virtual")
      deviceId := parseProperty u32Max properties "device.id"
      deviceName := nonempty (properties.get? "device.name")
      deviceSerial := nonempty (properties.get? "device.serial")
      deviceApi := nonempty (properties.get? "device.api")
      formats
      availability := parseAvailability properties
      isDefault := false
      label := preferredLabel description nick nodeName }

/-! ## Eligible microphones

What Noire takes for a physical microphone, and how a device is named across sessions.
-/

/-- Whether the characters of `part` occur one after another in `s`. -/
def containsStr (s part : String) : Bool := s.toList.tails.any (part.toList.isPrefixOf ·)

/-- The names of monitor nodes. -/
def isMonitorName (name : String) : Bool :=
  let lower := toAsciiLowercase name
  (".monitor".toList.isSuffixOf lower.toList) || containsStr lower ".monitor."

/-- The descriptions of monitor nodes. -/
def isMonitorDescription (description : String) : Bool :=
  "monitor of ".toList.isPrefixOf (toAsciiLowercase description).toList

/-- Whether the node is an eligible physical microphone candidate. -/
def NodeDescriptor.isCandidate (node : NodeDescriptor) : Bool :=
  node.mediaClass = some mediaClassSource
    && !node.virtualNode
    && node.nodeName ≠ reservedNodeName
    && !isMonitorName node.nodeName
    && !node.description.any isMonitorDescription
    && node.availability ≠ .unavailable

/-- Persistable input identity ordered from strongest to weakest match fields. -/
structure DeviceSelector where
  nodeName : String
  deviceSerial : Option String := none
  deviceName : Option String := none
  deriving DecidableEq

/-- The strongest stable selector the descriptor supports. -/
def NodeDescriptor.selector (node : NodeDescriptor) : DeviceSelector :=
  ⟨node.nodeName, node.deviceSerial, node.deviceName⟩

/-- Whether the selector identifies `candidate`, without its transient global ID. -/
def DeviceSelector.matches (selector : DeviceSelector) (candidate : NodeDescriptor) : Bool :=
  if selector.nodeName ≠ candidate.nodeName then false
  else match selector.deviceSerial, selector.deviceName with
    -- Where a serial is kept it decides, and the device's name is not compared.
    | some serial, _ => candidate.deviceSerial = some serial
    | none, some deviceName => candidate.deviceName = some deviceName
    | none, none => true

end Noire
