import RtCore.Cbor.Zcbor

/-!
# An implementation of the CBOR primitives

The primitives over plain states: an encoder holds its output and the room left, a decoder its
cursor. It reads the items that encoders write, with heads of any width, and containers of
unknown length.

## Main definitions

* `Reference.zcbor`
* `Reference.laws` — it does what `Zcbor.Laws` asks for
-/

namespace RtCore.Cbor.Reference

open RtCore.Foundation

/-! ### Encoding -/

/-- What is written and how many more bytes fit. -/
structure Output where
  written : List UInt8
  room : ℕ
deriving DecidableEq, Repr

/-- Writes bytes, if they fit. -/
def put (bytes : List UInt8) : Walk Output Unit := do
  let output ← get
  if bytes.length ≤ output.room then
    set ({ written := output.written ++ bytes, room := output.room - bytes.length } : Output)
  else
    failure

/-- The output of an encoder. -/
def Holds (output : Output) (written : List UInt8) (room : ℕ) : Prop := output = ⟨written, room⟩

theorem writes_put (bytes : List UInt8) : Writes Holds (put bytes) bytes := by
  rintro _ out room rfl fits
  refine ⟨⟨out ++ bytes, room - bytes.length⟩, ?_, rfl⟩
  rw [put, Walk.step_bind_some (Walk.step_get _), if_pos fits]
  rfl

/-! ### Heads -/

/-- How many bytes follow a lead byte with this additional information. -/
def headWidth : ℕ → Option ℕ
  | 24 => some 1
  | 25 => some 2
  | 26 => some 4
  | 27 => some 8
  | _ => none

/-- The number in the head of an item of this major type, and what follows it. -/
def takeHead (major : ℕ) : List UInt8 → Option (ℕ × List UInt8)
  | [] => none
  | lead :: rest =>
    if lead.toNat / 32 ≠ major then none
    else if lead.toNat % 32 ≤ 23 then some (lead.toNat % 32, rest)
    else
      match headWidth (lead.toNat % 32) with
      | some width =>
        if width ≤ rest.length then some (ofLeBytes (rest.take width).reverse, rest.drop width)
        else none
      | none => none

private theorem toNat_lead {major additional : ℕ} (small : major < 8) (low : additional < 32) :
    (UInt8.ofNat (32 * major + additional)).toNat = 32 * major + additional := by
  rw [UInt8.toNat_ofNat']
  omega

private theorem takeHead_wide {major additional width number : ℕ} (small : major < 8)
    (low : additional < 32) (wide : ¬additional ≤ 23) (known : headWidth additional = some width)
    (fits : number < 256 ^ width) (rest : List UInt8) :
    takeHead major
        (UInt8.ofNat (32 * major + additional) :: ((leBytes width number).reverse ++ rest)) =
      some (number, rest) := by
  have lead := toNat_lead small low
  have quotient : (32 * major + additional) / 32 = major := by omega
  have remainder : (32 * major + additional) % 32 = additional := by omega
  rw [takeHead, lead, quotient, remainder, if_neg (by simp), if_neg wide, known]
  dsimp only
  have length : (leBytes width number).reverse.length = width := by simp
  rw [if_pos (by simp), List.take_left' length, List.drop_left' length, List.reverse_reverse,
    ofLeBytes_leBytes fits]

theorem takeHead_head {major number : ℕ} (small : major < 8) (fits : number < 2 ^ 64)
    (rest : List UInt8) : takeHead major (head major number ++ rest) = some (number, rest) := by
  unfold head
  split_ifs with tiny byte half word
  · have lead := toNat_lead small (by omega : number < 32)
    rw [List.singleton_append, takeHead, lead, if_neg (by omega), if_pos (by omega)]
    congr 2
    omega
  · exact takeHead_wide small (by decide) (by decide) rfl (by omega) rest
  · exact takeHead_wide small (by decide) (by decide) rfl (by omega) rest
  · exact takeHead_wide small (by decide) (by decide) rfl (by omega) rest
  · exact takeHead_wide small (by decide) (by decide) rfl (by omega) rest

/-- The lead byte of a head has its major type. -/
theorem head_lead {major : ℕ} (small : major < 8) (number : ℕ) :
    ∃ lead tail, head major number = lead :: tail ∧ lead.toNat / 32 = major := by
  unfold head
  split_ifs with tiny
  · exact ⟨_, _, rfl, by rw [toNat_lead small (by omega)]; omega⟩
  all_goals exact ⟨_, _, rfl, by rw [toNat_lead small (by decide)]; omega⟩

theorem takeHead_lead {major : ℕ} {lead : UInt8} (other : lead.toNat / 32 ≠ major)
    (rest : List UInt8) : takeHead major (lead :: rest) = none := by
  rw [takeHead, if_pos other]

theorem takeHead_other {major other : ℕ} (small : other < 8) (different : other ≠ major)
    (number : ℕ) (rest : List UInt8) : takeHead major (head other number ++ rest) = none := by
  obtain ⟨lead, tail, shape, type⟩ := head_lead small number
  rw [shape, List.cons_append]
  exact takeHead_lead (by omega) _

/-! ### Decoding -/

/-- An item read by a parser. Outside containers there is one item. -/
def read {α : Type} (parse : List UInt8 → Option (α × List UInt8)) : Walk Cursor α := do
  let cursor ← get
  if cursor.depth = 0 ∧ cursor.before ≠ [] then
    failure
  else
    match parse cursor.rest with
    | some (value, rest) =>
      let taken := cursor.rest.take (cursor.rest.length - rest.length)
      set ({ cursor with before := cursor.before ++ taken, rest } : Cursor)
      return value
    | none => failure

/-- Enters a container whose first byte is `start`. -/
def enter (start : UInt8) : Walk Cursor Unit := do
  let cursor ← get
  if cursor.depth = 0 ∧ cursor.before ≠ [] then
    failure
  else
    match cursor.rest, cursor.free with
    | byte :: rest, free + 1 =>
      if byte = start then
        set ({ before := cursor.before ++ [byte], rest, depth := cursor.depth + 1, free } : Cursor)
      else
        failure
    | _, _ => failure

/-- Leaves a container at its break. -/
def leave : Walk Cursor Unit := do
  let cursor ← get
  match cursor.rest, cursor.depth with
  | byte :: rest, depth + 1 =>
    if byte = breakByte then
      set ({ before := cursor.before ++ [byte], rest, depth, free := cursor.free + 1 } : Cursor)
    else
      failure
  | _, _ => failure

/-- Leaves a container wherever the decoder is in it. -/
def forceLeave : Walk Cursor Unit := do
  let cursor ← get
  set ({ cursor with depth := cursor.depth - 1, free := cursor.free + 1 } : Cursor)

theorem reads_read {α : Type} {parse : List UInt8 → Option (α × List UInt8)} {bytes : List UInt8}
    {value : α} (parses : ∀ rest, parse (bytes ++ rest) = some (value, rest)) {needs : ℕ} :
    Reads Eq (read parse) bytes value needs := by
  rintro before rest depth free - inside - _ rfl
  refine ⟨_, ?_, rfl⟩
  rw [read, Walk.step_bind_some (Walk.step_get _)]
  dsimp only
  rw [if_neg (by omega), parses rest]
  have taken : (bytes ++ rest).take ((bytes ++ rest).length - rest.length) = bytes :=
    List.take_left' (by simp)
  dsimp only
  rw [taken]
  rfl

theorem refuses_read {α : Type} {parse : List UInt8 → Option (α × List UInt8)} {bytes : List UInt8}
    (refuses : ∀ rest, parse (bytes ++ rest) = none) : Refuses Eq (read parse) bytes := by
  rintro _ before rest depth free inside rfl
  refine ⟨_, ?_, rfl⟩
  rw [read, Walk.step_bind_some (Walk.step_get _)]
  dsimp only
  rw [if_neg (by omega), refuses rest]
  rfl

theorem runs_enter {start : UInt8} (before rest : List UInt8) (depth free : ℕ)
    (mayRead : Cursor.MayRead ⟨before, start :: rest, depth, free + 1⟩) :
    Runs Eq (enter start) () ⟨before, start :: rest, depth, free + 1⟩
      ⟨before ++ [start], rest, depth + 1, free⟩ := by
  rintro _ rfl
  refine ⟨_, ?_, rfl⟩
  have allowed : ¬(depth = 0 ∧ before ≠ []) := by
    rcases mayRead with inside | first
    · rintro ⟨rfl, -⟩
      exact absurd inside (Nat.lt_irrefl 0)
    · exact fun outside => outside.2 first
  rw [enter, Walk.step_bind_some (Walk.step_get _)]
  dsimp only
  rw [if_neg allowed, if_pos rfl]
  rfl

theorem runs_leave (before rest : List UInt8) (depth free : ℕ) :
    Runs Eq leave () ⟨before, breakByte :: rest, depth + 1, free⟩
      ⟨before ++ [breakByte], rest, depth, free + 1⟩ := by
  rintro _ rfl
  exact ⟨_, rfl, rfl⟩

/-- Entering refuses an item that starts otherwise. -/
theorem refuses_enter {start lead : UInt8} {bytes tail : List UInt8} (shape : bytes = lead :: tail)
    (other : lead ≠ start) : Refuses Eq (enter start) bytes := by
  rintro _ before rest depth free inside rfl
  refine ⟨_, ?_, rfl⟩
  rw [enter, Walk.step_bind_some (Walk.step_get _), shape]
  dsimp only [List.cons_append]
  rw [if_neg (by omega)]
  cases free with
  | zero => rfl
  | succ free =>
    dsimp only
    rw [if_neg other]
    rfl

/-! ### Items -/

/-- An unsigned number of 32 bits. -/
def parseUint32 (bytes : List UInt8) : Option (UInt32 × List UInt8) :=
  match takeHead 0 bytes with
  | some (number, rest) => if number < 2 ^ 32 then some (UInt32.ofNat number, rest) else none
  | none => none

/-- An integer of either sign that fits into 64 bits. -/
def parseInt64 (bytes : List UInt8) : Option (ℤ × List UInt8) :=
  match takeHead 0 bytes with
  | some (number, rest) => if number < 2 ^ 63 then some ((number : ℤ), rest) else none
  | none =>
    match takeHead 1 bytes with
    | some (number, rest) => if number < 2 ^ 63 then some (-1 - (number : ℤ), rest) else none
    | none => none

/-- A signed number of 32 bits. -/
def parseInt32 (bytes : List UInt8) : Option (Int32 × List UInt8) :=
  match parseInt64 bytes with
  | some (number, rest) =>
    if -2 ^ 31 ≤ number ∧ number < 2 ^ 31 then some (Int32.ofInt number, rest) else none
  | none => none

/-- A text of valid UTF-8. -/
def parseTstr (bytes : List UInt8) : Option (Text × List UInt8) :=
  match takeHead 3 bytes with
  | some (size, rest) =>
    if size ≤ rest.length then (Text.ofBytes? (rest.take size)).map (·, rest.drop size) else none
  | none => none

/-- A truth value. -/
def parseBool : List UInt8 → Option (Bool × List UInt8)
  | 0xF4 :: rest => some (false, rest)
  | 0xF5 :: rest => some (true, rest)
  | _ => none

/-- A float of 32 bits, by its bits. -/
def parseFloat32 : List UInt8 → Option (UInt32 × List UInt8)
  | 0xFA :: rest =>
    if 4 ≤ rest.length then some (UInt32.ofNat (ofLeBytes (rest.take 4).reverse), rest.drop 4)
    else none
  | _ => none

theorem parseUint32_uintBytes (value : UInt32) (rest : List UInt8) :
    parseUint32 (uintBytes value ++ rest) = some (value, rest) := by
  have small := value.toNat_lt
  rw [parseUint32, uintBytes, takeHead_head (by decide) (by omega)]
  dsimp only
  rw [if_pos small, UInt32.ofNat_toNat]

theorem parseInt64_intBytes (value : Int32) (rest : List UInt8) :
    parseInt64 (intBytes value ++ rest) = some (value.toInt, rest) := by
  have low := value.le_toInt
  have high := value.toInt_lt
  unfold parseInt64 intBytes
  split_ifs with positive
  · rw [takeHead_head (by decide) (by omega)]
    dsimp only
    rw [if_pos (by omega), Int.toNat_of_nonneg positive]
  · rw [takeHead_other (by decide) (by decide), takeHead_head (by decide) (by omega)]
    dsimp only
    rw [if_pos (by omega)]
    congr 2
    omega

theorem parseInt32_intBytes (value : Int32) (rest : List UInt8) :
    parseInt32 (intBytes value ++ rest) = some (value, rest) := by
  rw [parseInt32, parseInt64_intBytes]
  dsimp only
  rw [if_pos ⟨value.le_toInt, value.toInt_lt⟩, Int32.ofInt_toInt]

theorem parseTstr_tstrBytes (text : Text) (rest : List UInt8) :
    parseTstr (tstrBytes text ++ rest) = some (text, rest) := by
  have fits := text.fits
  have size : text.bytes.length = text.size := rfl
  rw [parseTstr, tstrBytes, List.append_assoc, takeHead_head (by decide) (by omega)]
  dsimp only
  rw [if_pos (by simp [size]), List.take_left' size, List.drop_left' size, Text.ofBytes?,
    dif_pos fits]
  rfl

theorem parseBool_boolBytes (value : Bool) (rest : List UInt8) :
    parseBool (boolBytes value ++ rest) = some (value, rest) := by
  cases value <;> rfl

theorem parseFloat32_floatBytes (bits : UInt32) (rest : List UInt8) :
    parseFloat32 (floatBytes bits ++ rest) = some (bits, rest) := by
  have length : (leBytes 4 bits.toNat).reverse.length = 4 := by simp
  have small := bits.toNat_lt
  rw [floatBytes, List.cons_append, parseFloat32, if_pos (by simp), List.take_left' length,
    List.drop_left' length, List.reverse_reverse, ofLeBytes_leBytes (by omega), UInt32.ofNat_toNat]

theorem parseUint32_tstrBytes (text : Text) (rest : List UInt8) :
    parseUint32 (tstrBytes text ++ rest) = none := by
  rw [parseUint32, tstrBytes, List.append_assoc, takeHead_other (by decide) (by decide)]

theorem parseTstr_uintBytes (value : UInt32) (rest : List UInt8) :
    parseTstr (uintBytes value ++ rest) = none := by
  rw [parseTstr, uintBytes, takeHead_other (by decide) (by decide)]

theorem parseInt64_tstrBytes (text : Text) (rest : List UInt8) :
    parseInt64 (tstrBytes text ++ rest) = none := by
  rw [parseInt64, tstrBytes, List.append_assoc, takeHead_other (by decide) (by decide),
    takeHead_other (by decide) (by decide)]

theorem parseInt64_boolBytes (value : Bool) (rest : List UInt8) :
    parseInt64 (boolBytes value ++ rest) = none := by
  cases value <;> rfl

theorem parseTstr_boolBytes (value : Bool) (rest : List UInt8) :
    parseTstr (boolBytes value ++ rest) = none := by
  cases value <;> rfl

/-! ### The primitives -/

/-- The library written out: an output with its room, and a cursor into the payload. -/
def zcbor : Zcbor where
  EncodeState := Output
  DecodeState := Cursor
  newEncodeState capacity _ := ⟨[], capacity⟩
  newDecodeState payload stateCount := ⟨[], payload, 0, stateCount - 2⟩
  written output := output.written
  consumed cursor := cursor.before.length
  uint32Encode value := put (uintBytes value)
  int32Encode value := put (intBytes value)
  tstrEncode text := put (tstrBytes text)
  boolEncode value := put (boolBytes value)
  float32Encode bits := put (floatBytes bits)
  listStartEncode _ := put [listStart]
  listEndEncode _ := put [breakByte]
  mapStartEncode _ := put [mapStart]
  mapEndEncode _ := put [breakByte]
  listMapEndForceEncode := pure ()
  uint32Decode := read parseUint32
  int32Decode := read parseInt32
  int64Decode := read parseInt64
  tstrDecode := read parseTstr
  boolDecode := read parseBool
  float32Decode := read parseFloat32
  listStartDecode := enter listStart
  listEndDecode := leave
  mapStartDecode := enter mapStart
  mapEndDecode := leave
  listMapEndForceDecode := forceLeave
  arrayAtEnd cursor := cursor.rest.head? = some breakByte

/-- A head is not the start of a map, whose lead byte has major type 5. -/
private theorem refuses_mapStart {major : ℕ} (small : major < 5) (number : ℕ) (more : List UInt8) :
    Refuses Eq (enter mapStart) (head major number ++ more) := by
  obtain ⟨lead, tail, shape, type⟩ := head_lead (by omega : major < 8) number
  have starts : head major number ++ more = lead :: (tail ++ more) := by
    rw [shape, List.cons_append]
  apply refuses_enter starts
  rintro rfl
  have mapType : mapStart.toNat / 32 = 5 := rfl
  omega

/-- The laws hold of this library, with the room left and the cursor as what is known of a state. -/
def laws : zcbor.Laws where
  Room := Holds
  At := Eq
  room_new _ _ := rfl
  written_eq := by
    rintro _ out room rfl
    rfl
  at_new _ _ := rfl
  consumed_eq := by
    rintro _ cursor rfl
    rfl
  uint32Encode value := writes_put _
  int32Encode value := writes_put _
  tstrEncode text := writes_put _
  boolEncode value := writes_put _
  float32Encode bits := writes_put _
  listStartEncode _ := writes_put _
  listEndEncode _ := writes_put _
  mapStartEncode _ := writes_put _
  mapEndEncode _ := writes_put _
  uint32Decode value := reads_read (parseUint32_uintBytes value)
  int32Decode value := reads_read (parseInt32_intBytes value)
  int64Decode value := reads_read (parseInt64_intBytes value)
  tstrDecode text := reads_read (parseTstr_tstrBytes text)
  boolDecode value := reads_read (parseBool_boolBytes value)
  float32Decode bits := reads_read (parseFloat32_floatBytes bits)
  listStartDecode := runs_enter
  mapStartDecode := runs_enter
  listEndDecode := runs_leave
  mapEndDecode := runs_leave
  atEnd := by
    rintro _ before rest depth free - rfl
    simp [zcbor]
  not_atEnd := by
    rintro _ before byte rest depth free - other rfl
    simpa [zcbor] using other
  uint32Decode_tstr text := refuses_read (parseUint32_tstrBytes text)
  mapStartDecode_tstr text := refuses_mapStart (by decide) _ _
  mapStartDecode_uint value := by
    have refuses := refuses_mapStart (by decide : 0 < 5) value.toNat []
    rw [List.append_nil] at refuses
    exact refuses
  tstrDecode_uint value := refuses_read (parseTstr_uintBytes value)
  int64Decode_tstr text := refuses_read (parseInt64_tstrBytes text)
  int64Decode_bool value := refuses_read (parseInt64_boolBytes value)
  tstrDecode_bool value := refuses_read (parseTstr_boolBytes value)

end RtCore.Cbor.Reference
