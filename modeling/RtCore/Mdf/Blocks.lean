import Mathlib.Data.Finset.Dedup
import Mathlib.Data.List.ReduceOption
import RtCore.Foundation.Bytes
import RtCore.Foundation.DepthFirst

/-!
# The blocks of an MDF 4 file

An MDF 4 file starts with an identifier and a header block, from which links lead to all other
blocks: data and channel groups, channels, conversions, sources and texts. Blocks are shared (a text
is stored once, a source serves many groups) and the links have cycles: the data bytes of a CAN
group refer to a group for payloads, from which the chain of groups leads back.

A block is named here by its place in the description of the file, and what a pointer of the source
refers to is computed from the description.

## Main definitions

* `Description` — groups, channels, sources, conversions and comments of a file
* `Block` — the blocks of the description
* `Description.links`, `Description.children`, `Description.next` — the links of a block as they are
  stored, and in the order in which the walks follow them
* `Description.serialize` — the bytes of a block

## Main results

* `Description.length_serialize` — a block has the bytes that its size announces
* `Description.successors_mem_nodes` — the blocks of a description are closed under links
-/

namespace RtCore.Mdf

open RtCore.Foundation

/-- The bytes of a text. -/
abbrev Text := List UInt8

/-! ### Descriptions -/

/-- `ChannelBlock::Type`, the types in use. -/
inductive ChannelType where
  | fixedLength
  | variableLength
  | master
  deriving DecidableEq, Repr

/-- `ChannelBlock::SyncType`, the types in use. -/
inductive SyncType where
  | noSync
  | time
  deriving DecidableEq, Repr

/-- `ChannelBlock::DataType`. -/
inductive DataType where
  | unsignedIntegerLe
  | signedIntegerLe
  | floatLe
  | byteArray
  deriving DecidableEq, Repr

/-- The code of a channel type. -/
def ChannelType.code : ChannelType → UInt8
  | .fixedLength => 0
  | .variableLength => 1
  | .master => 2

/-- The code of a sync type. -/
def SyncType.code : SyncType → UInt8
  | .noSync => 0
  | .time => 1

/-- The code of a data type. -/
def DataType.code : DataType → UInt8
  | .unsignedIntegerLe => 0
  | .signedIntegerLe => 2
  | .floatLe => 4
  | .byteArray => 10

/-- The numbers of a `ChannelBlock`. -/
structure ChannelFields where
  type : ChannelType := .fixedLength
  syncType : SyncType := .noSync
  dataType : DataType
  bitOffset : ℕ := 0
  byteOffset : ℕ := 0
  bitCount : ℕ
  flags : ℕ := 0
  invalidationBitPos : ℕ := 0
  deriving DecidableEq, Repr

/-- A channel of a composite channel; `signalData` is the index of the group its values are in. -/
structure Member where
  name : Text
  fields : ChannelFields
  signalData : Option ℕ := none
  deriving DecidableEq, Repr

/-- A channel of a group. The conversion is an index into the conversions of the file. -/
structure Channel where
  name : Option Text
  unit : Option Text := none
  comment : Option Text := none
  conversion : Option ℕ := none
  fields : ChannelFields
  members : List Member := []
  deriving DecidableEq, Repr

/-- A channel group. The source is an index into the sources of the file. -/
structure Group where
  recordId : ℕ
  flags : ℕ := 0
  pathSeparator : ℕ := 0
  dataBytes : ℕ := 0
  invalidationBytes : ℕ := 0
  name : Option Text := none
  source : Option ℕ := none
  comment : Option Text := none
  channels : List Channel := []
  deriving DecidableEq, Repr

/-- A source of signals, with the codes of `SourceType` and `BusType`. -/
structure Source where
  sourceType : UInt8
  busType : UInt8
  name : Option Text
  path : Option Text := none
  deriving DecidableEq, Repr

/-- What a file describes: the arguments of the calls that built it, in order. -/
structure Description where
  recordIdSizeBytes : ℕ
  headerComment : Option Text := none
  fileHistoryComment : Text
  groups : List Group := []
  sources : List Source := []
  /-- The formulas of the algebraic conversions. -/
  conversions : List Text := []
  deriving DecidableEq, Repr

/-! ### Blocks and links -/

/-- The blocks linked from the header, the header included. -/
inductive Block where
  | header
  | headerComment
  | fileHistory
  | fileHistoryComment
  | dataGroup
  | data
  | group (i : ℕ)
  | groupComment (i : ℕ)
  | channel (i j : ℕ)
  | channelComment (i j : ℕ)
  | member (i j k : ℕ)
  | source (k : ℕ)
  | conversion (k : ℕ)
  | text (content : Text)
  deriving DecidableEq, Repr

namespace Description

variable (f : Description)

/-- The channel at an index of a group. -/
def channel? (i j : ℕ) : Option Channel :=
  f.groups[i]?.bind (·.channels[j]?)

/-- The member at an index of a composite channel. -/
def member? (i j k : ℕ) : Option Member :=
  (f.channel? i j).bind (·.members[k]?)

/-- A link to a group, to a channel and so on, none past the end. -/
def groupLink (i : ℕ) : Option Block :=
  f.groups[i]?.map fun _ => .group i

/-- A link to a channel, none past the end. -/
def channelLink (i j : ℕ) : Option Block :=
  (f.channel? i j).map fun _ => .channel i j

/-- A link to a member of a composite channel, none past the end. -/
def memberLink (i j k : ℕ) : Option Block :=
  (f.member? i j k).map fun _ => .member i j k

/-- A link to a source, none past the end. -/
def sourceLink (k : ℕ) : Option Block :=
  f.sources[k]?.map fun _ => .source k

/-- A link to a conversion, none past the end. -/
def conversionLink (k : ℕ) : Option Block :=
  f.conversions[k]?.map fun _ => .conversion k

/-- `GetNext`: the link to the following block of a chain. -/
def next : Block → Option Block
  | .group i => f.groupLink (i + 1)
  | .channel i j => f.channelLink i (j + 1)
  | .member i j k => f.memberLink i j (k + 1)
  | _ => none

/-- The links of a block in the order in which they are stored. -/
def links : Block → List (Option Block)
  | .header => [some .dataGroup, some .fileHistory, none, none, none,
      f.headerComment.map fun _ => .headerComment]
  | .fileHistory => [none, some .fileHistoryComment]
  | .dataGroup => [none, f.groupLink 0, some .data, none]
  | .group i =>
    match f.groups[i]? with
    | none => []
    | some g => [f.groupLink (i + 1), f.channelLink i 0, g.name.map .text,
        g.source.bind f.sourceLink, none, g.comment.map fun _ => .groupComment i]
  | .channel i j =>
    match f.channel? i j with
    | none => []
    | some c => [f.channelLink i (j + 1), f.memberLink i j 0, c.name.map .text, none,
        c.conversion.bind f.conversionLink, none, c.unit.map .text,
        c.comment.map fun _ => .channelComment i j]
  | .member i j k =>
    match f.member? i j k with
    | none => []
    | some m => [f.memberLink i j (k + 1), none, some (.text m.name), none, none,
        m.signalData.bind f.groupLink, none, none]
  | .source k =>
    match f.sources[k]? with
    | none => []
    | some s => [s.name.map .text, s.path.map .text, none]
  | .conversion k =>
    match f.conversions[k]? with
    | none => []
    | some formula => [none, none, none, none, some (.text formula)]
  | .headerComment | .fileHistoryComment | .data | .groupComment _ | .channelComment _ _
  | .text _ => []

/-- `GetChildren`: every other link, in the order in which the blocks are laid out. -/
def children : Block → List (Option Block)
  | .header => [f.headerComment.map fun _ => .headerComment, some .fileHistory, none, none, none,
      some .dataGroup]
  | .fileHistory => [some .fileHistoryComment]
  | .dataGroup => [none, f.groupLink 0, some .data]
  | .group i =>
    match f.groups[i]? with
    | none => []
    | some g => [g.comment.map fun _ => .groupComment i, g.name.map .text,
        g.source.bind f.sourceLink, none, f.channelLink i 0]
  | .channel i j =>
    match f.channel? i j with
    | none => []
    | some c => [c.comment.map fun _ => .channelComment i j, c.name.map .text, c.unit.map .text,
        none, c.conversion.bind f.conversionLink, f.memberLink i j 0, none]
  | .member i j k =>
    match f.member? i j k with
    | none => []
    | some m => [none, some (.text m.name), none, none, none, none, m.signalData.bind f.groupLink]
  | .source k =>
    match f.sources[k]? with
    | none => []
    | some s => [s.name.map .text, s.path.map .text, none]
  | .conversion k =>
    match f.conversions[k]? with
    | none => []
    | some formula => [none, none, none, none, some (.text formula)]
  | .headerComment | .fileHistoryComment | .data | .groupComment _ | .channelComment _ _
  | .text _ => []

/-- The blocks that a walk follows from a block: its children, then the rest of its chain. -/
def successors (b : Block) : List Block :=
  (f.children b ++ [f.next b]).reduceOption

/-! ### Bytes -/

/-- The counters of a channel group. -/
structure Counters where
  cycleCount : ℕ := 0
  vlsdDataBytes : ℕ := 0
  deriving DecidableEq, Repr

/-- What changes in the blocks from one header to the next. -/
structure Contents where
  startTimeNs : ℕ
  counters : ℕ → Counters := fun _ => {}
  dataSizeBytes : ℕ := 0

/-- The flag of a group that holds the values of a variable length channel. -/
def vlsdChannelFlag : ℕ := 1

/-- Whether a group holds the values of a variable length channel. -/
def isVlsd (g : Group) : Bool := g.flags % 2 = 1

/-- The two characters of a block. -/
def idText : Block → List UInt8
  | .header => [72, 68]
  | .headerComment | .fileHistoryComment | .groupComment _ | .channelComment _ _ => [77, 68]
  | .fileHistory => [70, 72]
  | .dataGroup => [68, 71]
  | .data => [68, 84]
  | .group _ => [67, 71]
  | .channel _ _ | .member _ _ _ => [67, 78]
  | .source _ => [83, 73]
  | .conversion _ => [67, 67]
  | .text _ => [84, 88]

/-- A text with one to eight zero bytes, so that it ends in a zero and fills its last eight. -/
def paddedText (content : Text) : List UInt8 :=
  content ++ List.replicate (8 - content.length % 8) 0

/-- `GetPaddedTextSize`. -/
def paddedTextSize (content : Text) : ℕ :=
  content.length + (8 - content.length % 8)

/-- The fields of a `ChannelBlock` after its links; precision, attachments, ranges and limits stay
zero. -/
def channelBytes (c : ChannelFields) : List UInt8 :=
  [c.type.code, c.syncType.code, c.dataType.code, UInt8.ofNat c.bitOffset] ++
    leBytes 4 c.byteOffset ++ leBytes 4 c.bitCount ++ leBytes 4 c.flags ++
    leBytes 4 c.invalidationBitPos ++ [0, 0] ++ leBytes 2 0 ++ List.replicate 48 0

/-- The fields of a `ChannelGroupBlock` after its links. A group for variable length values has the
total size of them in place of the sizes of a record. -/
def groupBytes (g : Group) (c : Counters) : List UInt8 :=
  leBytes 8 g.recordId ++ leBytes 8 c.cycleCount ++ leBytes 2 g.flags ++
    leBytes 2 g.pathSeparator ++ List.replicate 4 0 ++
    leBytes 4 (if isVlsd g then c.vlsdDataBytes % 2 ^ 32 else g.dataBytes) ++
    leBytes 4 (if isVlsd g then c.vlsdDataBytes / 2 ^ 32 else g.invalidationBytes)

/-- The text of a comment block. -/
def commentText : Block → Text
  | .headerComment => f.headerComment.getD []
  | .fileHistoryComment => f.fileHistoryComment
  | .groupComment i => (f.groups[i]?.bind (·.comment)).getD []
  | .channelComment i j => ((f.channel? i j).bind (·.comment)).getD []
  | _ => []

/-- The bytes of a block after its links. -/
def payload (contents : Contents) : Block → List UInt8
  | .header => leBytes 8 contents.startTimeNs ++ leBytes 2 0 ++ leBytes 2 0 ++ [0, 0, 0, 0] ++
      List.replicate 16 0
  | .fileHistory => leBytes 8 contents.startTimeNs ++ leBytes 2 0 ++ leBytes 2 0 ++ [0, 0, 0, 0]
  | .dataGroup => UInt8.ofNat f.recordIdSizeBytes :: List.replicate 7 0
  | .data => []
  | .group i =>
    match f.groups[i]? with
    | none => []
    | some g => groupBytes g (contents.counters i)
  | .channel i j =>
    match f.channel? i j with
    | none => []
    | some c => channelBytes c.fields
  | .member i j k =>
    match f.member? i j k with
    | none => []
    | some m => channelBytes m.fields
  | .source k =>
    match f.sources[k]? with
    | none => []
    | some s => [s.sourceType, s.busType, 0] ++ List.replicate 5 0
  | .conversion k =>
    match f.conversions[k]? with
    | none => []
    | some _ => [3, 0] ++ leBytes 2 0 ++ leBytes 2 1 ++ leBytes 2 0 ++ List.replicate 16 0
  | .text content => paddedText content
  | .headerComment => paddedText (f.commentText .headerComment)
  | .fileHistoryComment => paddedText (f.commentText .fileHistoryComment)
  | .groupComment i => paddedText (f.commentText (.groupComment i))
  | .channelComment i j => paddedText (f.commentText (.channelComment i j))

/-- `GetBaseSize`. -/
def baseSize (b : Block) : ℕ := 4 + 4 + 8 + 8 + 8 * (f.links b).length

/-- The bytes that each class of block adds to its base size. -/
def payloadSize : Block → ℕ
  | .header => 8 + 2 + 2 + 1 + 1 + 1 + 1 + 8 + 8
  | .fileHistory => 8 + 2 + 2 + 1 + 3
  | .dataGroup => 1 + 7
  | .data => 0
  | .group i =>
    match f.groups[i]? with
    | none => 0
    | some _ => 8 + 8 + 2 + 2 + 4 + 4 + 4
  | .channel i j =>
    match f.channel? i j with
    | none => 0
    | some _ => 1 + 1 + 1 + 1 + 4 + 4 + 4 + 4 + 1 + 1 + 2 + 8 + 8 + 8 + 8 + 8 + 8
  | .member i j k =>
    match f.member? i j k with
    | none => 0
    | some _ => 1 + 1 + 1 + 1 + 4 + 4 + 4 + 4 + 1 + 1 + 2 + 8 + 8 + 8 + 8 + 8 + 8
  | .source k =>
    match f.sources[k]? with
    | none => 0
    | some _ => 1 + 1 + 1 + 5
  | .conversion k =>
    match f.conversions[k]? with
    | none => 0
    | some _ => 1 + 1 + 2 + 2 + 2 + 8 + 8
  | .text content => paddedTextSize content
  | .headerComment => paddedTextSize (f.commentText .headerComment)
  | .fileHistoryComment => paddedTextSize (f.commentText .fileHistoryComment)
  | .groupComment i => paddedTextSize (f.commentText (.groupComment i))
  | .channelComment i j => paddedTextSize (f.commentText (.channelComment i j))

/-- `GetSerializedSize`. -/
def serializedSize (b : Block) : ℕ :=
  f.baseSize b + f.payloadSize b

/-- `GetBlockSize`, which for the data block also covers the records after it. -/
def blockSize (contents : Contents) (b : Block) : ℕ :=
  f.serializedSize b + if b = .data then contents.dataSizeBytes else 0

/-- `BlockLinks::Serialize`, none when a link names a block without an address. -/
def serializeLinks (address : Block → ℕ) : List (Option Block) → Option (List UInt8)
  | [] => some []
  | none :: rest => (serializeLinks address rest).map (leBytes 8 0 ++ ·)
  | some b :: rest =>
    if address b = 0 then none
    else (serializeLinks address rest).map (leBytes 8 (address b) ++ ·)

/-- `SerializeBase` and the fields of the block. -/
def serialize (contents : Contents) (address : Block → ℕ) (b : Block) : Option (List UInt8) :=
  (serializeLinks address (f.links b)).map fun links =>
    [35, 35] ++ idText b ++ List.replicate 4 0 ++ leBytes 8 (f.blockSize contents b) ++
      leBytes 8 (f.links b).length ++ links ++ f.payload contents b

/-- The bytes of links whose targets all have an address. -/
def linkBytes (address : Block → ℕ) (links : List (Option Block)) : List UInt8 :=
  links.flatMap fun link => leBytes 8 (link.elim 0 address)

/-- The bytes of a block whose links all have an address. -/
def bytes (contents : Contents) (address : Block → ℕ) (b : Block) : List UInt8 :=
  [35, 35] ++ idText b ++ List.replicate 4 0 ++ leBytes 8 (f.blockSize contents b) ++
    leBytes 8 (f.links b).length ++ linkBytes address (f.links b) ++ f.payload contents b

/-! ### Sizes -/

variable {f}

@[simp] theorem length_linkBytes (address : Block → ℕ) (links : List (Option Block)) :
    (linkBytes address links).length = 8 * links.length := by
  induction links with
  | nil => rfl
  | cons link links ih =>
    have rest : (links.flatMap fun link => leBytes 8 (link.elim 0 address)).length =
        8 * links.length := ih
    simp only [linkBytes, List.flatMap_cons, List.length_append, length_leBytes, rest,
      List.length_cons]
    omega

theorem length_payload (contents : Contents) (b : Block) :
    (f.payload contents b).length = f.payloadSize b := by
  have padded (content : Text) : (paddedText content).length = paddedTextSize content := by
    simp [paddedText, paddedTextSize]
  cases b with
  | header => simp [payload, payloadSize]
  | headerComment => exact padded _
  | fileHistory => simp [payload, payloadSize]
  | fileHistoryComment => exact padded _
  | dataGroup => simp [payload, payloadSize]
  | data => rfl
  | group i =>
    simp only [payload, payloadSize]
    cases f.groups[i]? with
    | none => rfl
    | some g => simp [groupBytes]
  | groupComment i => exact padded _
  | channel i j =>
    simp only [payload, payloadSize]
    cases f.channel? i j with
    | none => rfl
    | some c => simp [channelBytes]
  | channelComment i j => exact padded _
  | member i j k =>
    simp only [payload, payloadSize]
    cases f.member? i j k with
    | none => rfl
    | some m => simp [channelBytes]
  | source k =>
    simp only [payload, payloadSize]
    cases f.sources[k]? <;> simp
  | conversion k =>
    simp only [payload, payloadSize]
    cases f.conversions[k]? <;> simp
  | text content => exact padded content

/-- A block has the bytes that its size announces. -/
theorem length_bytes (contents : Contents) (address : Block → ℕ) (b : Block) :
    (f.bytes contents address b).length = f.serializedSize b := by
  have identifier : (idText b).length = 2 := by cases b <;> rfl
  simp only [bytes, List.length_append, length_leBytes, length_linkBytes, length_payload,
    identifier, List.length_replicate, List.length_cons, List.length_nil, serializedSize, baseSize]

private theorem serializeLinks_eq {address : Block → ℕ} {links : List (Option Block)}
    (addressed : ∀ b, some b ∈ links → address b ≠ 0) :
    serializeLinks address links = some (linkBytes address links) := by
  induction links with
  | nil => rfl
  | cons link links ih =>
    have rest := ih fun b member => addressed b (List.mem_cons_of_mem _ member)
    cases link with
    | none => simp [serializeLinks, rest, linkBytes]
    | some b =>
      have here := addressed b List.mem_cons_self
      simp [serializeLinks, rest, linkBytes, here]

theorem serialize_eq {contents : Contents} {address : Block → ℕ} {b : Block}
    (addressed : ∀ target, some target ∈ f.links b → address target ≠ 0) :
    f.serialize contents address b = some (f.bytes contents address b) := by
  rw [serialize, serializeLinks_eq addressed]
  rfl

/-! ### The blocks of a description -/

/-- Every link that is stored is followed. -/
theorem link_mem_successors {b target : Block} (linked : some target ∈ f.links b) :
    target ∈ f.successors b := by
  rw [successors, List.reduceOption_mem_iff]
  cases b with
  | group i =>
    cases found : f.groups[i]? with
    | none => simp [links, found] at linked
    | some g =>
      simp only [links, children, next, found, List.mem_cons, List.mem_append, List.not_mem_nil,
        or_false] at linked ⊢
      tauto
  | channel i j =>
    cases found : f.channel? i j with
    | none => simp [links, found] at linked
    | some c =>
      simp only [links, children, next, found, List.mem_cons, List.mem_append, List.not_mem_nil,
        or_false] at linked ⊢
      tauto
  | member i j k =>
    cases found : f.member? i j k with
    | none => simp [links, found] at linked
    | some m =>
      simp only [links, children, next, found, List.mem_cons, List.mem_append, List.not_mem_nil,
        or_false] at linked ⊢
      tauto
  | source k => exact List.mem_append_left _ linked
  | conversion k => exact List.mem_append_left _ linked
  | header | fileHistory | dataGroup =>
    simp only [links, children, next, List.mem_cons, List.mem_append, List.not_mem_nil,
      or_false] at linked ⊢
    tauto
  | _ => simp [links] at linked

/-- Every link that is followed is stored. -/
theorem mem_links_of_mem_successors {b target : Block} (followed : target ∈ f.successors b) :
    some target ∈ f.links b := by
  rw [successors, List.reduceOption_mem_iff] at followed
  cases b with
  | group i =>
    cases found : f.groups[i]? with
    | none =>
      -- Behind the last element there is no next one, so a missing element links to nothing.
      have past : f.groups[i + 1]? = none := by
        rw [List.getElem?_eq_none_iff] at found ⊢
        omega
      simp [children, next, found, groupLink, past] at followed
    | some g =>
      simp only [links, children, next, found, List.mem_cons, List.mem_append, List.not_mem_nil,
        or_false] at followed ⊢
      tauto
  | channel i j =>
    cases found : f.channel? i j with
    | none =>
      have past : f.channel? i (j + 1) = none := by
        unfold channel? at found ⊢
        cases group : f.groups[i]? with
        | none => rfl
        | some g =>
          simp only [group, Option.bind_some, List.getElem?_eq_none_iff] at found ⊢
          omega
      simp [children, next, found, channelLink, past] at followed
    | some c =>
      simp only [links, children, next, found, List.mem_cons, List.mem_append, List.not_mem_nil,
        or_false] at followed ⊢
      tauto
  | member i j k =>
    cases found : f.member? i j k with
    | none =>
      have past : f.member? i j (k + 1) = none := by
        unfold member? at found ⊢
        cases channel : f.channel? i j with
        | none => rfl
        | some c =>
          simp only [channel, Option.bind_some, List.getElem?_eq_none_iff] at found ⊢
          omega
      simp [children, next, found, memberLink, past] at followed
    | some m =>
      simp only [links, children, next, found, List.mem_cons, List.mem_append, List.not_mem_nil,
        or_false] at followed ⊢
      tauto
  | source k =>
    have fromChildren : some target ∈ f.children (.source k) := by simpa [next] using followed
    exact fromChildren
  | conversion k =>
    have fromChildren : some target ∈ f.children (.conversion k) := by simpa [next] using followed
    exact fromChildren
  | header | fileHistory | dataGroup =>
    simp only [links, children, next, List.mem_cons, List.mem_append, List.not_mem_nil,
      or_false] at followed ⊢
    tauto
  | _ => simp [children, next] at followed

variable (f) in
/-- The blocks of the description other than texts. -/
def namedBlocks : List Block :=
  [.header, .headerComment, .fileHistory, .fileHistoryComment, .dataGroup, .data] ++
    (List.range f.groups.length).flatMap (fun i => [.group i, .groupComment i] ++
      (List.range (f.groups[i]?.elim 0 (·.channels.length))).flatMap fun j =>
        [.channel i j, .channelComment i j] ++
          (List.range ((f.channel? i j).elim 0 (·.members.length))).map (.member i j)) ++
    (List.range f.sources.length).map .source ++
    (List.range f.conversions.length).map .conversion

variable (f) in
/-- The blocks of the description and what they link to. -/
def nodes : Finset Block :=
  (f.namedBlocks ++ f.namedBlocks.flatMap f.successors).toFinset

private theorem group_mem_namedBlocks {i : ℕ} {g : Group} (found : f.groups[i]? = some g) :
    .group i ∈ f.namedBlocks ∧ .groupComment i ∈ f.namedBlocks := by
  have bound := (List.getElem?_eq_some_iff.mp found).1
  constructor <;> simp [namedBlocks, bound]

private theorem channel_mem_namedBlocks {i j : ℕ} {c : Channel} (found : f.channel? i j = some c) :
    .channel i j ∈ f.namedBlocks ∧ .channelComment i j ∈ f.namedBlocks := by
  obtain ⟨g, group, channel⟩ := Option.bind_eq_some_iff.mp found
  obtain ⟨bound, rfl⟩ := List.getElem?_eq_some_iff.mp group
  obtain ⟨inner, -⟩ := List.getElem?_eq_some_iff.mp channel
  constructor <;> simp [namedBlocks, bound, inner]

private theorem member_mem_namedBlocks {i j k : ℕ} {m : Member}
    (found : f.member? i j k = some m) : .member i j k ∈ f.namedBlocks := by
  obtain ⟨c, channel, member⟩ := Option.bind_eq_some_iff.mp found
  obtain ⟨g, group, channel'⟩ := Option.bind_eq_some_iff.mp channel
  obtain ⟨bound, rfl⟩ := List.getElem?_eq_some_iff.mp group
  obtain ⟨inner, -⟩ := List.getElem?_eq_some_iff.mp channel'
  obtain ⟨innermost, -⟩ := List.getElem?_eq_some_iff.mp member
  simp [namedBlocks, bound, inner, channel, innermost]

private theorem mem_namedBlocks_of_groupLink {i : ℕ} {b : Block} (link : f.groupLink i = some b) :
    b ∈ f.namedBlocks := by
  obtain ⟨g, found, rfl⟩ := Option.map_eq_some_iff.mp link
  exact (group_mem_namedBlocks found).1

private theorem mem_namedBlocks_of_channelLink {i j : ℕ} {b : Block}
    (link : f.channelLink i j = some b) : b ∈ f.namedBlocks := by
  obtain ⟨c, found, rfl⟩ := Option.map_eq_some_iff.mp link
  exact (channel_mem_namedBlocks found).1

private theorem mem_namedBlocks_of_memberLink {i j k : ℕ} {b : Block}
    (link : f.memberLink i j k = some b) : b ∈ f.namedBlocks := by
  obtain ⟨m, found, rfl⟩ := Option.map_eq_some_iff.mp link
  exact member_mem_namedBlocks found

private theorem mem_namedBlocks_of_sourceLink {k : ℕ} {b : Block}
    (link : f.sourceLink k = some b) : b ∈ f.namedBlocks := by
  obtain ⟨s, found, rfl⟩ := Option.map_eq_some_iff.mp link
  have bound := (List.getElem?_eq_some_iff.mp found).1
  simp [namedBlocks, bound]

private theorem mem_namedBlocks_of_conversionLink {k : ℕ} {b : Block}
    (link : f.conversionLink k = some b) : b ∈ f.namedBlocks := by
  obtain ⟨c, found, rfl⟩ := Option.map_eq_some_iff.mp link
  have bound := (List.getElem?_eq_some_iff.mp found).1
  simp [namedBlocks, bound]

/-- A link leads to a block of the description or to a text. -/
private theorem successors_named_or_text {b child : Block} (linked : child ∈ f.successors b) :
    child ∈ f.namedBlocks ∨ ∃ content, child = .text content := by
  -- The blocks that every file has; the others are named by their place in the description.
  have fixed : ∀ b ∈ [Block.header, .headerComment, .fileHistory, .fileHistoryComment, .dataGroup,
      .data], b ∈ f.namedBlocks := by
    intro b member
    simp only [namedBlocks, List.mem_append]
    tauto
  rw [successors, List.reduceOption_mem_iff, List.mem_append, List.mem_singleton] at linked
  cases b with
  | header =>
    simp only [children, next, List.mem_cons, List.not_mem_nil, or_false, reduceCtorEq, false_or,
      Option.some.injEq] at linked
    rcases linked with comment | history | group
    · obtain ⟨_, _, rfl⟩ := Option.map_eq_some_iff.mp comment.symm
      exact .inl (fixed .headerComment (by simp))
    · exact .inl (fixed child (by simp [history]))
    · exact .inl (fixed child (by simp [group]))
  | fileHistory =>
    simp only [children, next, List.mem_cons, List.not_mem_nil, or_false, reduceCtorEq,
      Option.some.injEq] at linked
    exact .inl (fixed child (by simp [linked]))
  | dataGroup =>
    simp only [children, next, List.mem_cons, List.not_mem_nil, or_false] at linked
    rcases linked with (none | group | data) | none
    · cases none
    · exact .inl (mem_namedBlocks_of_groupLink group.symm)
    · cases data
      exact .inl (fixed .data (by simp))
    · cases none
  | group i =>
    cases found : f.groups[i]? with
    | none =>
      have past : f.groups[i + 1]? = none := by
        rw [List.getElem?_eq_none_iff] at found ⊢
        omega
      simp [children, next, found, groupLink, past] at linked
    | some g =>
      simp only [children, next, found, List.mem_cons, List.not_mem_nil, or_false] at linked
      rcases linked with (comment | name | source | none | channel) | next
      · obtain ⟨_, _, rfl⟩ := Option.map_eq_some_iff.mp comment.symm
        exact .inl (group_mem_namedBlocks found).2
      · obtain ⟨content, _, rfl⟩ := Option.map_eq_some_iff.mp name.symm
        exact .inr ⟨content, rfl⟩
      · obtain ⟨k, _, link⟩ := Option.bind_eq_some_iff.mp source.symm
        exact .inl (mem_namedBlocks_of_sourceLink link)
      · cases none
      · exact .inl (mem_namedBlocks_of_channelLink channel.symm)
      · exact .inl (mem_namedBlocks_of_groupLink next.symm)
  | channel i j =>
    rcases linked with child | next
    · cases found : f.channel? i j with
      | none => simp [children, found] at child
      | some c =>
        simp only [children, found, List.mem_cons, List.not_mem_nil, or_false] at child
        rcases child with comment | name | unit | none | conversion | member | none
        · obtain ⟨_, _, rfl⟩ := Option.map_eq_some_iff.mp comment.symm
          exact .inl (channel_mem_namedBlocks found).2
        · obtain ⟨content, _, rfl⟩ := Option.map_eq_some_iff.mp name.symm
          exact .inr ⟨content, rfl⟩
        · obtain ⟨content, _, rfl⟩ := Option.map_eq_some_iff.mp unit.symm
          exact .inr ⟨content, rfl⟩
        · cases none
        · obtain ⟨k, _, link⟩ := Option.bind_eq_some_iff.mp conversion.symm
          exact .inl (mem_namedBlocks_of_conversionLink link)
        · exact .inl (mem_namedBlocks_of_memberLink member.symm)
        · cases none
    · exact .inl (mem_namedBlocks_of_channelLink next.symm)
  | member i j k =>
    rcases linked with child | next
    · cases found : f.member? i j k with
      | none => simp [children, found] at child
      | some m =>
        simp only [children, found, List.mem_cons, List.not_mem_nil, or_false, reduceCtorEq,
          Option.some.injEq, false_or] at child
        rcases child with name | signal
        · exact .inr ⟨m.name, name⟩
        · obtain ⟨i, _, link⟩ := Option.bind_eq_some_iff.mp signal.symm
          exact .inl (mem_namedBlocks_of_groupLink link)
    · exact .inl (mem_namedBlocks_of_memberLink next.symm)
  | source k =>
    right
    cases found : f.sources[k]? with
    | none => simp [children, next, found] at linked
    | some s =>
      simp only [children, next, found, List.mem_cons, List.not_mem_nil, or_false, reduceCtorEq]
        at linked
      rcases linked with name | path
      · obtain ⟨content, _, rfl⟩ := Option.map_eq_some_iff.mp name.symm
        exact ⟨content, rfl⟩
      · obtain ⟨content, _, rfl⟩ := Option.map_eq_some_iff.mp path.symm
        exact ⟨content, rfl⟩
  | conversion k =>
    right
    cases found : f.conversions[k]? with
    | none => simp [children, next, found] at linked
    | some formula =>
      refine ⟨formula, ?_⟩
      simpa [children, next, found] using linked
  | _ => simp [children, next] at linked

theorem header_mem_nodes : .header ∈ f.nodes := by
  simp [nodes, namedBlocks]

/-- The blocks of a description are closed under links. -/
theorem successors_mem_nodes : ∀ b ∈ f.nodes, ∀ child ∈ f.successors b, child ∈ f.nodes := by
  intro b member child linked
  simp only [nodes, List.mem_toFinset, List.mem_append, List.mem_flatMap] at member ⊢
  rcases member with named | ⟨parent, _, fromParent⟩
  · exact .inr ⟨b, named, linked⟩
  · rcases successors_named_or_text fromParent with named | ⟨content, rfl⟩
    · exact .inr ⟨b, named, linked⟩
    · cases linked

end Description

end RtCore.Mdf
