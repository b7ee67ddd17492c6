import RtCore.Foundation.Text

/-!
# Listing assets

A kind of assets has built-in files, which are part of the firmware, and the files in a directory of
a volume. Their positions are one number: the built-ins come first, then the entries of the
directory, whether these are assets or not. A listing starts at a position and takes as many assets
as fit into the response, from a page of built-ins and a page of the directory; where it stopped
before the end, it names the position to go on from. The number goes over the wire in 32 bits.

The encoder is the one of a library: what it writes for an entry has a size.

## Main definitions

* `AssetStore.isValidName`, `AssetStore.list`
* `AssetProvider`, `findBuiltIn`
* `executeList`
-/

namespace RtCore.Assets

open RtCore.Foundation

/-! ### Names -/

/-- `std::tolower` of one byte in the C locale. -/
def toLowerAscii (byte : UInt8) : UInt8 := if 65 ≤ byte && byte ≤ 90 then byte - 65 + 97 else byte

/-- As FAT compares names. -/
def equalsIgnoreAsciiCase (a b : Text) : Bool := a.bytes.map toLowerAscii = b.bytes.map toLowerAscii

/-- A letter, a digit, or one of `._-`. -/
def isNameCharacter (byte : UInt8) : Bool := isAlnum byte || byte = 46 || byte = 95 || byte = 45

/-- The text ends in the suffix, whatever the case of ASCII letters. -/
def endsWithIgnoreCase (text suffix : Text) : Bool :=
  suffix.size ≤ text.size &&
    (text.bytes.drop (text.size - suffix.size)).map toLowerAscii = suffix.bytes.map toLowerAscii

namespace AssetStore

/-- At least one character stays in front of the extension. -/
def isValidName (maxNameLength : ℕ) (extensions : List Text) (name : Text) : Bool :=
  !(name.isEmpty || maxNameLength < name.size || name.bytes.head? = some 46) &&
    name.bytes.all isNameCharacter &&
      extensions.any fun extension =>
        extension.size < name.size && endsWithIgnoreCase name extension

end AssetStore

/-! ### Stores -/

/-- An entry of a directory. -/
structure DirectoryEntry where
  name : Text
  size : ℕ
  isDirectory : Bool
deriving DecidableEq

/-- The entry as a page has it: a directory has no size. -/
def DirectoryEntry.read (entry : DirectoryEntry) : DirectoryEntry :=
  { entry with size := if entry.isDirectory then 0 else entry.size }

/-- A negative errno. -/
inductive StoreError
  | noDevice
  | noEntry
  | noMemory
  | other
deriving DecidableEq, Repr

/-- A file of a store, with its place in the directory. -/
structure AssetEntry where
  name : Text
  size : ℕ
  index : ℕ
deriving DecidableEq

/-- A directory on a volume, in the order in which the file system reads it. -/
structure AssetStore where
  isAvailable : Bool
  directory : Except StoreError (List DirectoryEntry)

/-- The loop of `ListDirectory` over the entries: those that were kept, and how many there were. -/
def readEntries (first maxEntries : ℕ) :
    List DirectoryEntry → List DirectoryEntry → ℕ → List DirectoryEntry × ℕ
  | [], kept, count => (kept, count)
  | entry :: later, kept, count =>
    let kept := if first ≤ count && kept.length < maxEntries then kept ++ [entry.read] else kept
    readEntries first maxEntries later kept (count + 1)

/-- What `List` gives: the files it kept, how many entries it read and how many there are. -/
structure StoreListing where
  entries : List AssetEntry := []
  scanned : ℕ := 0
  count : ℕ := 0

namespace AssetStore

/-- The files among entries that start at a place of the directory. -/
def keepFiles (maxNameLength : ℕ) (extensions : List Text) (first : ℕ)
    (entries : List DirectoryEntry) : List AssetEntry :=
  (entries.zipIdx first).filterMap fun (entry, index) =>
    if entry.isDirectory || !isValidName maxNameLength extensions entry.name then none
    else some { name := entry.name, size := entry.size, index }

/-- A directory that was never created holds nothing. -/
def list (store : AssetStore) (maxNameLength first maxEntries : ℕ) (extensions : List Text) :
    Except StoreError StoreListing :=
  if !store.isAvailable then .error .noDevice
  else
    match store.directory with
    | .error .noEntry => .ok {}
    | .error error => .error error
    | .ok directory =>
      let (entries, count) := readEntries first maxEntries directory [] 0
      .ok
        { entries := keepFiles maxNameLength extensions first entries
          scanned := entries.length
          count }

end AssetStore

/-! ### Providers -/

/-- A file of a kind that is part of the firmware. -/
structure BuiltInAsset where
  name : Text
  data : List UInt8

/-- What a unit serves of one kind, as far as listing it goes. -/
structure AssetProvider where
  store : AssetStore
  extensions : List Text
  builtIns : List BuiltInAsset
  /-- When a file ends, for a kind whose files have an end. -/
  getEndMs : Option (Text → Option ℤ)

/-- The built-in asset of a name; of several with one name the first. -/
def findBuiltIn (provider : AssetProvider) (name : Text) : Option BuiltInAsset :=
  provider.builtIns.find? fun builtIn => equalsIgnoreAsciiCase builtIn.name name

/-! ### The response -/

/-- An entry of the response. -/
structure ListEntry where
  name : Text
  size : UInt32
  isBuiltIn : Bool
  endMs : Option ℕ
deriving DecidableEq

/-- The most entries one page of a listing can hold. -/
def maxPageEntries : ℕ := 48

/-- Room an entry of a list needs besides its name. -/
def listEntryOverhead : ℕ := 40

/-- Room kept behind the last entry that is listed. -/
def listTailSize : ℕ := 16

/-- What the encoder writes: an entry, and the end of the list with the position to go on from. -/
structure ListEncoder where
  entrySize : ListEntry → ℕ
  tailSize : Option UInt32 → ℕ
  entrySize_le : ∀ entry, entrySize entry ≤ listEntryOverhead + entry.name.size
  tailSize_le : ∀ next, tailSize next ≤ listTailSize

/-- What a listing request finds in the unit: the providers of its kinds and the encoder of pages.
-/
structure AssetsUnit where
  maxNameLength : ℕ
  /-- `FindProvider`; none for a kind that is not registered. -/
  findProvider : UInt32 → Option AssetProvider
  encoder : ListEncoder

/-- A size beyond 32 bits is clamped. -/
def clampSize (size : ℕ) : UInt32 := UInt32.ofNat (min size (2 ^ 32 - 1))

/-- The listing's entry of a built-in asset: its data's length, and no end time. -/
def ListEntry.ofBuiltIn (builtIn : BuiltInAsset) : ListEntry where
  name := builtIn.name
  size := clampSize builtIn.data.length
  isBuiltIn := true
  endMs := none

/-- Only an end that is known and not before the epoch. -/
def ListEntry.ofStored (provider : AssetProvider) (name : Text) (size : ℕ) : ListEntry where
  name
  size := clampSize size
  isBuiltIn := false
  endMs :=
    match provider.getEndMs.bind fun getEndMs => getEndMs name with
    | some endMs => if 0 ≤ endMs then some endMs.toNat else none
    | none => none

/-- The entries that fit into the room there is, and the room they leave; none if one could not be
encoded. -/
def encodeEntries (encoder : ListEncoder) : ℕ → List ListEntry → Option (List ListEntry × ℕ)
  | remaining, [] => some ([], remaining)
  | remaining, entry :: later =>
    if remaining < listEntryOverhead + entry.name.size + listTailSize then some ([], remaining)
    else if remaining < encoder.entrySize entry then none
    else
      (encodeEntries encoder (remaining - encoder.entrySize entry) later).map
        fun (listed, left) => (entry :: listed, left)

/-- Group error codes a listing is answered with. -/
inductive AssetsError
  | unknownKind
  | unavailable
  | ioError
  | noMemory
deriving DecidableEq, Repr

/-- A listing request, with the fields the handler decodes from it. -/
structure ListRequest where
  kind : UInt32
  /-- 0 when the request has none. -/
  offset : UInt32

/-- What a listing request is answered with. -/
inductive ListAnswer
  /-- `MGMT_ERR_EINVAL`. -/
  | invalid
  | fail (error : AssetsError)
  /-- `MGMT_ERR_EMSGSIZE`. -/
  | messageSize
  | page (entries : List ListEntry) (next : Option UInt32)
deriving DecidableEq

/-- The end of a response. -/
def finishPage (encoder : ListEncoder) (entries : List ListEntry) (remaining : ℕ)
    (next : Option ℕ) : ListAnswer :=
  let next := next.map UInt32.ofNat
  if remaining < encoder.tailSize next then .messageSize else .page entries next

namespace AssetProvider

variable (unit : AssetsUnit) (provider : AssetProvider)

/-- A response with the built-ins that fit, and the stored files once every built-in was listed.
`entries` are the files that a page of the directory, from `storedOffset` on, has. -/
def respond (firstBuiltIn builtInPage storedOffset : ℕ) (listing : StoreListing) (room : ℕ) :
    ListAnswer :=
  let builtInCount := provider.builtIns.length
  -- A built-in wins over a stored file of its name.
  let entries := if 0 < builtInCount then
      listing.entries.filter fun entry => (findBuiltIn provider entry.name).isNone
    else listing.entries
  match encodeEntries unit.encoder room
      (((provider.builtIns.drop firstBuiltIn).take builtInPage).map .ofBuiltIn) with
  | none => .messageSize
  | some (builtIns, remaining) =>
    let nextBuiltIn := firstBuiltIn + builtIns.length
    if nextBuiltIn ≠ builtInCount then
      -- An entry that does not fit even alone would send the client round in circles.
      if builtIns.length = 0 then .messageSize
      else finishPage unit.encoder builtIns remaining (some nextBuiltIn)
    else
      match encodeEntries unit.encoder remaining
          (entries.map fun entry => .ofStored provider entry.name entry.size) with
      | none => .messageSize
      | some (stored, remaining) =>
        match entries[stored.length]? with
        | some entry =>
          if stored.length = 0 && builtIns.length = 0 then .messageSize
          else
            finishPage unit.encoder (builtIns ++ stored) remaining
              (some (builtInCount + entry.index))
        | none =>
          finishPage unit.encoder (builtIns ++ stored) remaining
            (if 0 < listing.scanned && storedOffset + listing.scanned < listing.count then
              some (builtInCount + storedOffset + listing.scanned)
            else none)

/-- A page of built-ins keeps room for one stored entry, so the stored files are always reached. -/
def listFrom (offset room : ℕ) : ListAnswer :=
  let builtInCount := provider.builtIns.length
  let firstBuiltIn := min offset builtInCount
  let storedOffset := if builtInCount < offset then offset - builtInCount else 0
  let builtInPage := min (builtInCount - firstBuiltIn) (maxPageEntries - 1)
  match provider.store.list unit.maxNameLength storedOffset (maxPageEntries - builtInPage)
      provider.extensions with
  | .error .noDevice => .fail .unavailable
  | .error .noMemory => .fail .noMemory
  | .error _ => .fail .ioError
  | .ok listing => provider.respond unit firstBuiltIn builtInPage storedOffset listing room

end AssetProvider

/-- `ExecuteList`, with the room of the response; a request that does not decode or has no kind is
none. -/
def executeList (unit : AssetsUnit) (request : Option ListRequest) (room : ℕ) : ListAnswer :=
  match request with
  | none => .invalid
  | some request =>
    match unit.findProvider request.kind with
    | none => .fail .unknownKind
    | some provider => provider.listFrom unit request.offset.toNat room

end RtCore.Assets
