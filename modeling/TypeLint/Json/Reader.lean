import TypeLint.Json.Basic
import TypeLint.Text.Digit

/-!
# Reading JSON

`Json.read` reads a document, with `NaN`, `Infinity` and `-Infinity` as numbers beside those of the
standard.  A document that is none is refused at the first place that fits no value; `Json.Error.message`
says what was expected there, with line, column and offset.
-/

namespace TypeLint.Json

/-- What stands at a place where it cannot. -/
inductive Fault where
  | value
  | propertyName
  | colon
  | comma
  | extraData
  | unterminated
  | controlCharacter
  | escape
  | unicodeEscape
  | byteOrderMark
deriving DecidableEq

/-- Why a text is no document. -/
inductive Error where
  /-- a fault at an offset from the start -/
  | fault (f : Fault) (offset : Nat)
  /-- a whole number of more than `Text.maxDigits` digits -/
  | tooManyDigits
deriving DecidableEq

/-- The wording of a fault. -/
def Fault.message : Fault → Text
  | .value => text "Expecting value"
  | .propertyName => text "Expecting property name enclosed in double quotes"
  | .colon => text "Expecting ':' delimiter"
  | .comma => text "Expecting ',' delimiter"
  | .extraData => text "Extra data"
  | .unterminated => text "Unterminated string starting at"
  | .controlCharacter => text "Invalid control character at"
  | .escape => text "Invalid \\escape"
  | .unicodeEscape => text "Invalid \\uXXXX escape"
  | .byteOrderMark => text "Unexpected UTF-8 BOM (decode using utf-8-sig)"

/-- A fault with its line, its column and its offset. -/
def Fault.describe (f : Fault) (document : Text) (offset : Nat) : Text :=
  let before := document.take offset
  let line := before.count CodePoint.lineFeed + 1
  let column := (before.reverse.takeWhile (· ≠ CodePoint.lineFeed)).length + 1
  f.message ++ text ": line " ++ .ofNat line ++ text " column " ++ .ofNat column
    ++ text " (char " ++ .ofNat offset ++ text ")"

/-- What is left of a document, and how much of it has been read. -/
structure Rest where
  text : Text
  offset : Nat

/-- Without the next `n` code points. -/
def Rest.advance (r : Rest) (n : Nat) : Rest := ⟨r.text.drop n, r.offset + n⟩

/-- White space between the parts of a document. -/
def isSpace (c : CodePoint) : Bool := c = ' ' || c = '\t' || c = '\n' || c = '\r'

/-- Behind the white space. -/
def Rest.skip (r : Rest) : Rest := r.advance (r.text.takeWhile isSpace).length

/-! ## strings -/

/-- What a backslash and one letter stand for in a string. -/
def escapeOf? (c : CodePoint) : Option CodePoint :=
  if c = '"' || c = '\\' || c = '/' then some c
  else if c = 'b' then some '\x08'
  else if c = 'f' then some '\x0c'
  else if c = 'n' then some '\n'
  else if c = 'r' then some '\r'
  else if c = 't' then some '\t'
  else none

/-- The number that four hexadecimal digits at the start of a text spell.  The digits cannot end the
document. -/
def hex4? : Text → Option Nat
  | a :: b :: c :: d :: _ :: _ => do
    return ((← a.hexValue?) * 16 + (← b.hexValue?)) * 256 + (← c.hexValue?) * 16 + (← d.hexValue?)
  | _ => none

/-- The code point of two surrogates, the high one first. -/
def joinSurrogates? (high low : Nat) : Option CodePoint :=
  if 0xD800 ≤ high && high < 0xDC00 && 0xDC00 ≤ low && low < 0xE000 then
    CodePoint.ofNat? (0x10000 + (high - 0xD800) * 0x400 + (low - 0xDC00))
  else none

/-- A `\u` escape, behind the `u`: its code point and the number of code points it takes up.  A high
surrogate joins with a low one that follows at once. -/
def unicodeEscape (r : Rest) : Except Error (CodePoint × Nat) :=
  match hex4? r.text with
  | none => .error (.fault .unicodeEscape (r.offset - 1))
  | some high =>
    let alone := match CodePoint.ofNat? high with
      | some c => .ok (c, 4)
      | none => .error (.fault .unicodeEscape (r.offset - 1))
    match r.text.drop 4 with
    | a :: b :: more =>
      if 0xD800 ≤ high && high < 0xDC00 && a = '\\' && b = 'u' && more.length > 4 then
        match hex4? more with
        | none => .error (.fault .unicodeEscape (r.offset + 5))
        | some low =>
          match joinSurrogates? high low with
          | some c => .ok (c, 10)
          | none => alone
      else alone
    | _ => alone

/-- A string behind its opening quote, which stands at `start`: its text and what follows its closing
quote. -/
def string (start : Nat) : (fuel : Nat) → Rest → Text → Except Error (Text × Rest)
  | 0, _, _ => .error (.fault .unterminated start)
  | fuel + 1, r, read =>
    match r.text with
    | [] => .error (.fault .unterminated start)
    | c :: cs =>
      if c = '"' then .ok (read.reverse, r.advance 1)
      else if c = '\\' then
        match cs with
        | [] => .error (.fault .unterminated start)
        | e :: _ =>
          if e = 'u' then do
            let (d, n) ← unicodeEscape (r.advance 2)
            string start fuel (r.advance (2 + n)) (d :: read)
          else match escapeOf? e with
            | some d => string start fuel (r.advance 2) (d :: read)
            | none => .error (.fault .escape r.offset)
      else if c.val ≤ 0x1f then .error (.fault .controlCharacter r.offset)
      else string start fuel (r.advance 1) (c :: read)

/-! ## numbers -/

/-- The digits at the start of a text. -/
def digits (t : Text) : Text := t.takeWhile CodePoint.isAsciiDigit

/-- The number that decimal digits spell. -/
def decimal (ds : Text) : Nat := Text.ofDigits 10 (ds.map fun d => d.val - 48)

/-- The fraction at the start of a text, without the point. -/
def fraction (t : Text) : Text :=
  match t with
  | c :: cs => if c = '.' then digits cs else []
  | [] => []

/-- The exponent at the start of a text: its value and its length. -/
def exponent? (t : Text) : Option (Int × Nat) :=
  match t with
  | c :: cs =>
    if c = 'e' || c = 'E' then
      let (negative, signed, cs) := match cs with
        | s :: rest => if s = '-' then (true, 1, rest) else if s = '+' then (false, 1, rest) else (false, 0, cs)
        | [] => (false, 0, cs)
      let ds := digits cs
      if ds = [] then none
      else some (if negative then - (decimal ds : Int) else decimal ds, 1 + signed + ds.length)
    else none
  | [] => none

/-- A number at the start of what is left. -/
def number (r : Rest) : Except Error (Json × Rest) :=
  let (negative, t) := match r.text with
    | c :: cs => if c = '-' then (true, cs) else (false, r.text)
    | [] => (false, [])
  let whole := match t with
    | c :: _ => if c = '0' then t.take 1 else digits t
    | [] => []
  if whole = [] then .error (.fault .value r.offset)
  else
    let frac := fraction (t.drop whole.length)
    let fracLength := if frac = [] then 0 else frac.length + 1
    let power := exponent? (t.drop (whole.length + fracLength))
    let length := (if negative then 1 else 0) + whole.length + fracLength + (power.map (·.2)).getD 0
    if frac = [] && power.isNone then
      if whole.length > Text.maxDigits then .error .tooManyDigits
      else .ok (.int (if negative then - (decimal whole : Int) else decimal whole), r.advance length)
    else
      let shift := (power.map (·.1)).getD 0 - frac.length
      .ok (.float (.ofDecimal negative (decimal (whole ++ frac)) shift), r.advance length)

/-- A value that is a word, or a number. -/
def atom (r : Rest) : Except Error (Json × Rest) :=
  let words : List (Text × Json) := [
    (text "null", .null), (text "true", .bool true), (text "false", .bool false),
    (text "NaN", .float .nan), (text "Infinity", .float (.infinite false)),
    (text "-Infinity", .float (.infinite true))]
  match words.find? fun (w, _) => r.text.startsWith w with
  | some (w, v) => .ok (v, r.advance w.length)
  | none => number r

/-! ## values -/

mutual

/-- A value at the start of what is left. -/
def value : (fuel : Nat) → Rest → Except Error (Json × Rest)
  | 0, r => .error (.fault .value r.offset)
  | fuel + 1, r =>
    match r.text with
    | [] => .error (.fault .value r.offset)
    | c :: cs =>
      if c = '"' then do
        let (t, r) ← string r.offset (cs.length + 1) (r.advance 1) []
        return (.str t, r)
      else if c = '[' then
        let r := (r.advance 1).skip
        match r.text.head? with
        | some d => if d = ']' then .ok (.arr [], r.advance 1) else elements fuel r []
        | none => .error (.fault .value r.offset)
      else if c = '{' then
        let r := (r.advance 1).skip
        match r.text.head? with
        | some d => if d = '}' then .ok (.obj [], r.advance 1) else members fuel r []
        | none => .error (.fault .propertyName r.offset)
      else atom r

/-- The items of an array, from the next one to the closing bracket. -/
def elements : (fuel : Nat) → Rest → List Json → Except Error (Json × Rest)
  | 0, r, _ => .error (.fault .value r.offset)
  | fuel + 1, r, read => do
    let (v, r) ← value fuel r
    let r := r.skip
    match r.text.head? with
    | some d =>
      if d = ']' then return (.arr (v :: read).reverse, r.advance 1)
      else if d = ',' then elements fuel (r.advance 1).skip (v :: read)
      else .error (.fault .comma r.offset)
    | none => .error (.fault .comma r.offset)

/-- The members of an object, from the next one to the closing brace. -/
def members : (fuel : Nat) → Rest → List (Text × Json) → Except Error (Json × Rest)
  | 0, r, _ => .error (.fault .value r.offset)
  | fuel + 1, r, read => do
    unless r.text.head? = some (CodePoint.ofChar '"') do
      throw (.fault .propertyName r.offset)
    let (key, r) ← string r.offset r.text.length (r.advance 1) []
    let r := r.skip
    unless r.text.head? = some (CodePoint.ofChar ':') do
      throw (.fault .colon r.offset)
    let (v, r) ← value fuel (r.advance 1).skip
    let r := r.skip
    let read := set key v read
    match r.text.head? with
    | some d =>
      if d = '}' then return (.obj read, r.advance 1)
      else if d = ',' then members fuel (r.advance 1).skip read
      else throw (.fault .comma r.offset)
    | none => throw (.fault .comma r.offset)

end

/-- The value of a document. -/
def read (document : Text) : Except Error Json := do
  if document.head?.any (·.val = 0xFEFF) then throw (.fault .byteOrderMark 0)
  let start : Rest := ⟨document, 0⟩
  let (v, r) ← value (document.length + 1) start.skip
  let r := r.skip
  if r.text = [] then return v else throw (.fault .extraData r.offset)

end TypeLint.Json
