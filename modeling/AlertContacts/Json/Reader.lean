import AlertContacts.Json.Value

/-!
# Reading documents

`Value.parse?` reads one value from a text and refuses anything but blanks behind it. The reader
descends along the text with a bound on the number of steps: every step takes at least one
character, so the length of the text is bound enough. A repeated key of an object keeps its last
value, and a pair of surrogate escapes stands for one character, while a lone one is refused.
-/

namespace AlertContacts.Json.Value

def isSpace (char : Char) : Bool :=
  char = ' ' || char = '\t' || char = '\n' || char = '\r'

def skipSpace (text : List Char) : List Char :=
  text.dropWhile isSpace

def hexDigit? (char : Char) : Option Nat :=
  if char.isDigit then some (Text.digitValue char)
  else if 'a' ≤ char && char ≤ 'f' then some (char.toNat - 87)
  else if 'A' ≤ char && char ≤ 'F' then some (char.toNat - 55)
  else none

def readHex? : List Char → Option (Nat × List Char)
  | first :: second :: third :: fourth :: rest => do
    let digits ← [first, second, third, fourth].mapM hexDigit?
    return (digits.foldl (fun number digit => 16 * number + digit) 0, rest)
  | _ => none

/-- The character of a code point, which must not be a surrogate. -/
def charOf? (code : Nat) : Option Char :=
  if valid : code.isValidChar then some (Char.ofNatAux code valid) else none

def readEscape? : List Char → Option (Char × List Char)
  | '"' :: rest => some ('"', rest)
  | '\\' :: rest => some ('\\', rest)
  | '/' :: rest => some ('/', rest)
  | 'b' :: rest => some ('\x08', rest)
  | 'f' :: rest => some ('\x0c', rest)
  | 'n' :: rest => some ('\n', rest)
  | 'r' :: rest => some ('\r', rest)
  | 't' :: rest => some ('\t', rest)
  | 'u' :: rest => do
    let (code, rest) ← readHex? rest
    if 0xD800 ≤ code ∧ code < 0xDC00 then
      match rest with
      | '\\' :: 'u' :: rest =>
        let (low, rest) ← readHex? rest
        if 0xDC00 ≤ low ∧ low < 0xE000 then
          let char ← charOf? (0x10000 + (code - 0xD800) * 0x400 + (low - 0xDC00))
          return (char, rest)
        else none
      | _ => none
    else
      let char ← charOf? code
      return (char, rest)
  | _ => none

/-- The characters of a string, read from behind its opening quote, and the text behind it. -/
def readString? : Nat → List Char → Option (List Char × List Char)
  | 0, _ => none
  | _, [] => none
  | _, '"' :: rest => some ([], rest)
  | steps + 1, '\\' :: rest => do
    let (char, rest) ← readEscape? rest
    let (chars, rest) ← readString? steps rest
    return (char :: chars, rest)
  | steps + 1, char :: rest =>
    if char.toNat < 0x20 then none
    else do
      let (chars, rest) ← readString? steps rest
      return (char :: chars, rest)

def readDigits (text : List Char) : List Char × List Char :=
  (text.takeWhile Char.isDigit, text.dropWhile Char.isDigit)

def readFraction? : List Char → Option (Option (List Char) × List Char)
  | '.' :: text =>
    let (digits, rest) := readDigits text
    if digits.isEmpty then none else some (some digits, rest)
  | text => some (none, text)

def readExponent? : List Char → Option (Option Int × List Char)
  | 'e' :: text | 'E' :: text => signed text
  | text => some (none, text)
where
  signed : List Char → Option (Option Int × List Char)
    | '+' :: text => unsigned 1 text
    | '-' :: text => unsigned (-1) text
    | text => unsigned 1 text
  unsigned (sign : Int) (text : List Char) : Option (Option Int × List Char) :=
    let (digits, rest) := readDigits text
    if digits.isEmpty then none else some (some (sign * Text.number digits), rest)

def readNumber? (isNegative : Bool) (text : List Char) : Option (Number × List Char) := do
  let (whole, rest) := readDigits text
  if whole.isEmpty || (whole.head? = some '0' && 1 < whole.length) then none
  else
    let (fraction, rest) ← readFraction? rest
    let (exponent, rest) ← readExponent? rest
    let number ← Number.ofLiteral? ⟨isNegative, whole, fraction, exponent⟩
    return (number, rest)

mutual

/-- A value, and the text behind it. -/
def read? : Nat → List Char → Option (Value × List Char)
  | 0, _ => none
  | steps + 1, text =>
    match skipSpace text with
    | 'n' :: 'u' :: 'l' :: 'l' :: rest => some (.null, rest)
    | 't' :: 'r' :: 'u' :: 'e' :: rest => some (.boolean true, rest)
    | 'f' :: 'a' :: 'l' :: 's' :: 'e' :: rest => some (.boolean false, rest)
    | '"' :: rest =>
      (readString? (rest.length + 1) rest).map fun read =>
        (.string (String.ofList read.1), read.2)
    | '[' :: rest =>
      match skipSpace rest with
      | ']' :: rest => some (.array [], rest)
      | rest => (readItems? steps rest).map fun read => (.array read.1, read.2)
    | '{' :: rest =>
      match skipSpace rest with
      | '}' :: rest => some (.object [], rest)
      | rest => (readEntries? steps rest).map fun read => (.ofEntries read.1, read.2)
    | '-' :: rest => (readNumber? true rest).map fun read => (.number read.1, read.2)
    | rest => (readNumber? false rest).map fun read => (.number read.1, read.2)

def readItems? : Nat → List Char → Option (List Value × List Char)
  | 0, _ => none
  | steps + 1, text => do
    let (item, rest) ← read? steps text
    match skipSpace rest with
    | ',' :: rest =>
      let (items, rest) ← readItems? steps rest
      return (item :: items, rest)
    | ']' :: rest => return ([item], rest)
    | _ => none

def readEntries? : Nat → List Char → Option (List (String × Value) × List Char)
  | 0, _ => none
  | steps + 1, text =>
    match skipSpace text with
    | '"' :: rest => do
      let (key, rest) ← readString? (rest.length + 1) rest
      match skipSpace rest with
      | ':' :: rest =>
        let (value, rest) ← read? steps rest
        match skipSpace rest with
        | ',' :: rest =>
          let (entries, rest) ← readEntries? steps rest
          return ((String.ofList key, value) :: entries, rest)
        | '}' :: rest => return ([(String.ofList key, value)], rest)
        | _ => none
      | _ => none
    | _ => none

end

def parse? (text : String) : Option Value :=
  match read? (2 * text.length + 2) text.toList with
  | some (value, rest) => if (skipSpace rest).isEmpty then some value else none
  | none => none

end AlertContacts.Json.Value
