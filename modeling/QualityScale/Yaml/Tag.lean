import QualityScale.Text.Hex
import QualityScale.Yaml.Cursor

/-!
# Tags

A tag is written as a handle and a suffix.  The handle stands for the start of an address, which
is given by a directive or known beforehand; what matters in the end is only whether the address
names one of the four kinds of scalar, is local, or is anything else.

Addresses are kept as bytes, since an escape in a suffix stands for a byte.
-/

namespace QualityScale.Yaml

/-- A tag as written: `handle` is empty if `suffix` is the whole address. -/
structure TagText where
  handle : List Char
  suffix : List UInt8
  deriving DecidableEq, Repr

/-- What a tag says about its node. -/
inductive Tag where
  | bool
  | int
  | float
  | null
  /-- A local tag, without its mark. -/
  | named (name : String)
  /-- Any other tag: its scalars are strings. -/
  | other
  deriving DecidableEq, Repr

/-! ## Addresses -/

/-- The bytes of an ASCII text. -/
def asciiBytes (cs : List Char) : List UInt8 :=
  cs.map fun c => c.toNat.toUInt8

/-- The characters of an address, the sign of an escape aside; three only where it is bracketed. -/
def isAddressChar (bracketed : Bool) (c : Char) : Bool :=
  isNameChar c || ";/?:@&=+$.!~*'()".toList.contains c || (bracketed && ",[]".toList.contains c)

/-- How many bytes follow the first byte of an encoded character. -/
def followers? (octet : Nat) : Option Nat :=
  if octet < 0x80 then some 0
  else if 0xc0 ≤ octet ∧ octet < 0xe0 then some 1
  else if 0xe0 ≤ octet ∧ octet < 0xf0 then some 2
  else if 0xf0 ≤ octet ∧ octet < 0xf8 then some 3
  else none

/-- How many bytes are to follow this byte, if `pending` were to follow the one before it. -/
def pendingAfter? (pending octet : Nat) : Option Nat :=
  if pending = 0 then followers? octet
  else if 0x80 ≤ octet ∧ octet < 0xc0 then some (pending - 1)
  else none

/-- The bytes of an address and the text after it; the bytes of one character stay together. -/
def takeAddress (bracketed : Bool) (pending : Nat) :
    List Char → Except ReadError (List UInt8 × List Char)
  | '%' :: a :: b :: rest =>
    match Text.hexNumber? [a, b] with
    | none => .error .badTag
    | some octet =>
      match pendingAfter? pending octet with
      | none => .error .badTag
      | some pending => do
        let (bytes, rest) ← takeAddress bracketed pending rest
        return (octet.toUInt8 :: bytes, rest)
  | c :: rest =>
    if pending ≠ 0 ∨ c = '%' then .error .badTag
    else if isAddressChar bracketed c then do
      let (bytes, rest) ← takeAddress bracketed 0 rest
      return (c.toNat.toUInt8 :: bytes, rest)
    else .ok ([], c :: rest)
  | [] => if pending ≠ 0 then .error .badTag else .ok ([], [])

/-- An address that may not be empty, up to its first zero byte, and the place after it. -/
def readAddress (bracketed : Bool) (c : Cursor) : Except ReadError (List UInt8 × Cursor) := do
  let (bytes, rest) ← takeAddress bracketed 0 c.rest
  if bytes.isEmpty then throw .badTag
  return (bytes.takeWhile (· ≠ 0), c.advance (c.rest.length - rest.length))

/-! ## Handles -/

/-- The handle that starts at a mark, as far as it goes; a second mark ends it. -/
def takeHandle (cs : List Char) : List Char :=
  let name := (cs.drop 1).takeWhile isNameChar
  '!' :: name ++ (((cs.drop 1).dropWhile isNameChar).take 1).filter (· == '!')

/-- Whether a handle is closed by a second mark. -/
def isClosedHandle (handle : List Char) : Bool :=
  2 ≤ handle.length && handle.getLast? == some '!'

/-- A tag, starting at its mark, and the place after it. -/
def readTag (inFlow : Bool) (c : Cursor) : Except ReadError (TagText × Cursor) := do
  let (tag, c) ←
    match c.rest with
    | _ :: '<' :: _ => do
      let (suffix, c) ← readAddress true (c.advance 2)
      if c.rest.head? ≠ some '>' then throw .badTag
      pure ((⟨[], suffix⟩ : TagText), c.advance 1)
    | cs => do
      let handle := takeHandle cs
      if isClosedHandle handle then
        let (suffix, c) ← readAddress false (c.advance handle.length)
        pure (⟨handle, suffix⟩, c)
      else
        let (bytes, rest) ← takeAddress false 0 (cs.drop 1)
        let suffix := bytes.takeWhile (· ≠ 0)
        pure (if suffix.isEmpty then ⟨[], asciiBytes ['!']⟩ else ⟨['!'], suffix⟩,
          c.advance (cs.length - rest.length))
  if endsWord c.rest || (inFlow && c.rest.head? == some ',') then return (tag, c)
  else throw .badTag

/-! ## What a tag says -/

/-- What each handle stands for. -/
abbrev Handles := List (List Char × List UInt8)

/-- Where the addresses of the kinds of scalar start. -/
def coreAddress : List Char := "tag:yaml.org,2002:".toList

/-- The handles that need no directive. -/
def defaultHandles : Handles :=
  [(['!'], asciiBytes ['!']), (['!', '!'], asciiBytes coreAddress)]

/-- The address of a tag, if its handle is known. -/
def TagText.address? (t : TagText) (handles : Handles) : Option (List UInt8) :=
  if t.handle = [] then some t.suffix else (handles.lookup t.handle).map (· ++ t.suffix)

/-- The tags of the kinds of scalar. -/
def coreTags : List (List UInt8 × Tag) :=
  [("bool", Tag.bool), ("int", Tag.int), ("float", Tag.float), ("null", Tag.null)].map
    fun (name, tag) => (asciiBytes (coreAddress ++ name.toList), tag)

/-- The text without a mark at its start, unless there is nothing else. -/
def dropMark (name : String) : String :=
  match name.toList with
  | '!' :: c :: cs => String.ofList (c :: cs)
  | cs => String.ofList cs

/-- What the tag with an address says; nothing, if it is a local tag that is no text. -/
def Tag.ofAddress? (address : List UInt8) : Option Tag :=
  match coreTags.lookup address with
  | some tag => some tag
  | none =>
    if address.head? = some '!'.toNat.toUInt8 then
      (String.fromUTF8? ⟨address.toArray⟩).map fun text =>
        .named (dropMark (dropMark text))
    else some .other

end QualityScale.Yaml
