import DocWeave.Text.Quoted

/-! # Character encodings

Texts become bytes and bytes texts in one of three encodings. A text that an encoding cannot
write and bytes that it cannot read give a fault that names the first offending span. Reading a
document also turns both other line endings into the line feed; writing leaves them alone.
-/

namespace DocWeave

/-- The encodings that documents are stored in. -/
inductive Encoding where
  | utf8
  | latin1
  | ascii
  deriving DecidableEq, Repr

/-- Bytes that an encoding cannot read: the span `[start, stop)`, its first byte and the reason. -/
structure DecodeFault where
  encoding : Encoding
  start : Nat
  stop : Nat
  byte : UInt8
  reason : Text
  deriving DecidableEq, Repr

/-- Code points that an encoding cannot write: the span `[start, stop)` and its first one. -/
structure EncodeFault where
  encoding : Encoding
  start : Nat
  stop : Nat
  char : Char
  reason : Text
  deriving DecidableEq, Repr

namespace Encoding

/-- The name that an encoding gives in its faults. -/
def name : Encoding → Text
  | utf8 => "utf-8"
  | latin1 => "latin-1"
  | ascii => "ascii"

/-- The name that an encoding is kept under. -/
def moduleName : Encoding → Text
  | utf8 => "utf_8"
  | latin1 => "latin_1"
  | ascii => "ascii"

/-- The other names of an encoding. -/
def aliases : Encoding → List Text
  | utf8 => ["cp65001", "u8", "utf", "utf8", "utf8_ucs2", "utf8_ucs4"]
  | latin1 => ["8859", "cp819", "csisolatin1", "ibm819", "iso8859", "iso8859_1", "iso_8859_1",
      "iso_8859_1_1987", "iso_ir_100", "l1", "latin", "latin1"]
  | ascii => ["646", "ansi_x3.4_1968", "ansi_x3.4_1986", "ansi_x3_4_1968", "cp367", "csascii",
      "ibm367", "iso646_us", "iso_646.irv_1991", "iso_ir_6", "us", "us_ascii"]

/-- The form in which names are compared: the runs of plain letters, digits and dots, in lower case,
with an underscore in place of whatever stands between them. -/
def plainName (text : Text) : Text :=
  let runs := Text.splitWhere (fun c => !(c.isAlphanum || c == '.')) (text.map Char.toLower)
  Text.join "_" (runs.filter fun run => !run.isEmpty)

/-- Whether a name in that form is one of the encoding's. A dot in it may stand for the underscore
of an alias. -/
def hasName (e : Encoding) (plain : Text) : Bool :=
  e.moduleName == plain || e.aliases.contains plain ||
    e.aliases.contains (plain.map fun c => if c = '.' then '_' else c)

/-- The encoding of a name. Names of encodings that documents are not stored in are names of none. -/
def ofName? (text : Text) : Option Encoding :=
  [utf8, latin1, ascii].find? fun e => e.hasName (plainName text)

/-- The least code point that a single-byte encoding has no byte for. -/
def limit : Encoding → Nat
  | ascii => 0x80
  | _ => 0x100

/-- What a single-byte encoding says of a byte or code point beyond its range. -/
def rangeReason (e : Encoding) : Text := "ordinal not in range(" ++ Text.ofNat e.limit ++ ")"

end Encoding

namespace DecodeFault

/-- The wording of the fault. -/
def message (f : DecodeFault) : Text :=
  Text.quoted f.encoding.name ++ " codec can't decode " ++
  (if f.stop = f.start + 1 then
    "byte 0x" ++ Text.hex 2 f.byte.toNat ++ " in position " ++ Text.ofNat f.start
  else "bytes in position " ++ Text.ofNat f.start ++ "-" ++ Text.ofNat (f.stop - 1)) ++
  ": " ++ f.reason

end DecodeFault

namespace EncodeFault

/-- The wording of the fault. -/
def message (f : EncodeFault) : Text :=
  Text.quoted f.encoding.name ++ " codec can't encode " ++
  (if f.stop = f.start + 1 then
    "character '" ++ Text.codePointEscape f.char ++ "' in position " ++ Text.ofNat f.start
  else "characters in position " ++ Text.ofNat f.start ++ "-" ++ Text.ofNat (f.stop - 1)) ++
  ": " ++ f.reason

end EncodeFault

namespace Codec

/-- One code point in UTF-8. -/
def utf8Bytes (c : Char) : List UInt8 :=
  let n := c.toNat
  if n < 0x80 then [.ofNat n]
  else if n < 0x800 then [.ofNat (0xC0 + n / 0x40), .ofNat (0x80 + n % 0x40)]
  else if n < 0x10000 then
    [.ofNat (0xE0 + n / 0x1000), .ofNat (0x80 + n / 0x40 % 0x40), .ofNat (0x80 + n % 0x40)]
  else
    [.ofNat (0xF0 + n / 0x40000), .ofNat (0x80 + n / 0x1000 % 0x40),
      .ofNat (0x80 + n / 0x40 % 0x40), .ofNat (0x80 + n % 0x40)]

/-- How many bytes follow a first byte, with the least and the greatest value of the next one;
`none` for a byte that starts no sequence. -/
def followers? (first : Nat) : Option (Nat × Nat × Nat) :=
  if first < 0x80 then some (0, 0x80, 0xBF)
  else if first < 0xC2 then none
  else if first < 0xE0 then some (1, 0x80, 0xBF)
  else if first = 0xE0 then some (2, 0xA0, 0xBF)
  else if first = 0xED then some (2, 0x80, 0x9F)
  else if first < 0xF0 then some (2, 0x80, 0xBF)
  else if first = 0xF0 then some (3, 0x90, 0xBF)
  else if first < 0xF4 then some (3, 0x80, 0xBF)
  else if first = 0xF4 then some (3, 0x80, 0x8F)
  else none

/-- The bits that a first byte contributes to its code point. -/
def leadingBits (first : Nat) : Nat :=
  if first < 0x80 then first
  else if first < 0xE0 then first - 0xC0
  else if first < 0xF0 then first - 0xE0
  else first - 0xF0

/-- Why a sequence breaks off. -/
inductive Break where
  | truncated
  | badContinuation
  deriving DecidableEq, Repr

/-- Reads `count` continuation bytes, the next one between `low` and `high`, onto `value`.
A break comes with the number of continuation bytes before it. -/
def continuation : Nat → Nat → Nat → Nat → List UInt8 → Except (Break × Nat) (Nat × List UInt8)
  | 0, _, _, value, bytes => .ok (value, bytes)
  | _ + 1, _, _, _, [] => .error (.truncated, 0)
  | count + 1, low, high, value, b :: rest =>
    if low ≤ b.toNat ∧ b.toNat ≤ high then
      match continuation count 0x80 0xBF (value * 0x40 + (b.toNat - 0x80)) rest with
      | .ok result => .ok result
      | .error (cause, good) => .error (cause, good + 1)
    else .error (.badContinuation, 0)

/-- The bytes that follow are a suffix. -/
theorem length_le_of_continuation {count low high value result : Nat} {bytes rest : List UInt8}
    (read : continuation count low high value bytes = .ok (result, rest)) :
    rest.length ≤ bytes.length := by
  induction count generalizing low high value bytes with
  | zero => simp_all [continuation]
  | succ count ih =>
    cases bytes with
    | nil => simp [continuation] at read
    | cons b after =>
      unfold continuation at read
      split at read
      · split at read
        · rename_i ran
          cases read
          exact Nat.le_succ_of_le (ih ran)
        · simp at read
      · simp at read

/-- Reads UTF-8 from the byte at position `start` on. -/
def decodeUtf8 (start : Nat) : List UInt8 → Except DecodeFault Text
  | [] => .ok []
  | b :: rest =>
    match followers? b.toNat with
    | none => .error ⟨.utf8, start, start + 1, b, "invalid start byte"⟩
    | some (count, low, high) =>
      match read : continuation count low high (leadingBits b.toNat) rest with
      | .ok (value, after) =>
        have : after.length < rest.length + 1 :=
          Nat.lt_succ_of_le (length_le_of_continuation read)
        match decodeUtf8 (start + 1 + count) after with
        | .ok text => .ok (Char.ofNat value :: text)
        | .error fault => .error fault
      | .error (.truncated, good) =>
        .error ⟨.utf8, start, start + 1 + good, b, "unexpected end of data"⟩
      | .error (.badContinuation, good) =>
        .error ⟨.utf8, start, start + 1 + good, b, "invalid continuation byte"⟩
  termination_by bytes => bytes.length

/-- Reads a single-byte encoding from the byte at position `start` on. -/
def decodeSingle (e : Encoding) (start : Nat) : List UInt8 → Except DecodeFault Text
  | [] => .ok []
  | b :: rest =>
    if b.toNat < e.limit then
      match decodeSingle e (start + 1) rest with
      | .ok text => .ok (Char.ofNat b.toNat :: text)
      | .error fault => .error fault
    else .error ⟨e, start, start + 1, b, e.rangeReason⟩

/-- The text that bytes stand for. -/
def decode (e : Encoding) (bytes : List UInt8) : Except DecodeFault Text :=
  match e with
  | .utf8 => decodeUtf8 0 bytes
  | single => decodeSingle single 0 bytes

/-- Writes a single-byte encoding from the code point at position `start` on. -/
def encodeSingle (e : Encoding) (start : Nat) : Text → Except EncodeFault (List UInt8)
  | [] => .ok []
  | c :: rest =>
    if c.toNat < e.limit then
      match encodeSingle e (start + 1) rest with
      | .ok bytes => .ok (.ofNat c.toNat :: bytes)
      | .error fault => .error fault
    else
      let span := (rest.takeWhile fun d => e.limit ≤ d.toNat).length
      .error ⟨e, start, start + 1 + span, c, e.rangeReason⟩

/-- The bytes that a text is stored as. -/
def encode (e : Encoding) (text : Text) : Except EncodeFault (List UInt8) :=
  match e with
  | .utf8 => .ok (text.flatMap utf8Bytes)
  | single => encodeSingle single 0 text

end Codec

namespace Text

/-- Both other line endings, a carriage return with or without a line feed, become a line feed. -/
def unifyLineEndings : Text → Text
  | [] => []
  | '\r' :: '\n' :: rest => '\n' :: unifyLineEndings rest
  | '\r' :: rest => '\n' :: unifyLineEndings rest
  | c :: rest => c :: unifyLineEndings rest

end Text

end DocWeave
