import ApiShapes.Number.Shortest
import ApiShapes.Text.Hex
import ApiShapes.Text.Identifier

/-!
# Tokens of TypeScript

* `Token`, `Token.next` : the next token of a text, without blanks and comments, and whether a line
  ended before it;
* `scanString`, `scanTemplate`, `scanRegex` : the texts whose end only their own rules show.

A `>` is always a token of its own, and `/` and the back quote only open what they open; the parser
knows which of their readings is meant.
-/

namespace ApiShapes.Source

open Text

inductive Token where
  /-- the end of the text -/
  | done
  /-- characters that begin no token -/
  | broken
  /-- an identifier or a keyword -/
  | word (text : String)
  /-- `#name` -/
  | privateName
  | number (value : Double)
  | bigint (digits : String)
  | string (text : String)
  /-- punctuation -/
  | mark (text : String)
  deriving DecidableEq

/-! ## Blanks and comments -/

def isLineBreak (c : Char) : Bool :=
  c == '\n' || c == '\r' || c == '\u2028' || c == '\u2029'

/-- Characters between tokens that end no line. -/
def isSpace (c : Char) : Bool :=
  let n := c.toNat
  c == ' ' || c == '\t' || n == 0x0B || n == 0x0C || n == 0x85 || n == 0xA0 || n == 0xFEFF ||
    n == 0x1680 || 0x2000 ≤ n && n ≤ 0x200B || n == 0x202F || n == 0x205F || n == 0x3000

mutual

/-- The text from the next token on, and whether a line ended before it. -/
def skipBlanks (lineEnded : Bool) : List Char → Bool × List Char
  | '/' :: '/' :: rest => skipLine lineEnded rest
  | '/' :: '*' :: rest => skipComment lineEnded rest
  | c :: rest =>
    if isLineBreak c then skipBlanks true rest
    else if isSpace c then skipBlanks lineEnded rest
    else (lineEnded, c :: rest)
  | [] => (lineEnded, [])

def skipLine (lineEnded : Bool) : List Char → Bool × List Char
  | c :: rest => if isLineBreak c then skipBlanks true rest else skipLine lineEnded rest
  | [] => (lineEnded, [])

/-- Skips a comment in progress; one that is never closed takes the rest of the text. -/
def skipComment (lineEnded : Bool) : List Char → Bool × List Char
  | '*' :: '/' :: rest => skipBlanks lineEnded rest
  | c :: rest => skipComment (lineEnded || isLineBreak c) rest
  | [] => (lineEnded, [])

end

/-! ## Strings -/

/-- A piece of a string's value: a character, or half of a surrogate pair. -/
inductive Unit16 where
  | char (c : Char)
  | half (code : Nat)

/-- The piece that a code point stands for; beyond the last code point there is none. -/
def Unit16.ofCode (code : Nat) : List Unit16 :=
  if 0xD800 ≤ code && code ≤ 0xDFFF then [.half code]
  else if code < 0x110000 then [.char (Char.ofNat code)]
  else []

/-- The value of a string from its pieces. Two halves of a pair make one character. If a half stands
alone, the text keeps it as the replacement character and four hexadecimal digits, and every
replacement character is then written that way. -/
def Unit16.text (units : List Unit16) : String :=
  let paired := pair units
  let lone := paired.any fun
    | .half _ => true
    | .char _ => false
  String.ofList (paired.flatMap fun
    | .half code => '\uFFFD' :: (List.replicate (4 - (Nat.toDigits 16 code).length) '0' ++
        Nat.toDigits 16 code)
    | .char c => if lone && c == '\uFFFD' then '\uFFFD' :: "fffd".toList else [c])
where
  pair : List Unit16 → List Unit16
    | .half high :: .half low :: rest =>
      if high < 0xDC00 && 0xDC00 ≤ low then
        .char (Char.ofNat (0x10000 + (high - 0xD800) * 0x400 + (low - 0xDC00))) :: pair rest
      else .half high :: pair (.half low :: rest)
    | unit :: rest => unit :: pair rest
    | [] => []

/-- What ends a stretch of quoted text. -/
inductive Stop where
  /-- the closing quote -/
  | closed
  /-- the opening of a substitution -/
  | substitution

def octalValue (c : Char) : Option Nat :=
  if '0' ≤ c && c ≤ '7' then some (c.toNat - '0'.toNat) else none

mutual

/-- Reads quoted text up to `quote`; `done` holds the pieces so far, the last one first. Only a back
quote allows line ends and substitutions. -/
def scanString (quote : Char) (done : List Unit16) :
    List Char → Option (List Unit16 × Stop × List Char)
  | [] => none
  | '\\' :: rest => scanEscape quote done rest
  | '$' :: '{' :: rest =>
    if quote == '`' then some (done.reverse, .substitution, rest)
    else scanString quote (.char '{' :: .char '$' :: done) rest
  | '\r' :: '\n' :: rest =>
    if quote == '`' then scanString quote (.char '\n' :: done) rest else none
  | c :: rest =>
    if c == quote then some (done.reverse, .closed, rest)
    else if c == '\n' || c == '\r' then
      if quote == '`' then scanString quote (.char '\n' :: done) rest else none
    else scanString quote (.char c :: done) rest

def scanEscape (quote : Char) (done : List Unit16) :
    List Char → Option (List Unit16 × Stop × List Char)
  | [] => none
  | '\r' :: '\n' :: rest => scanString quote done rest
  | 'x' :: a :: b :: rest =>
    scanString quote (((hexNumber [a, b]).map Unit16.ofCode).getD [] ++ done) rest
  | 'u' :: '{' :: rest => scanBraced quote done 0 rest
  | 'u' :: a :: b :: c :: d :: rest =>
    scanString quote (((hexNumber [a, b, c, d]).map Unit16.ofCode).getD [] ++ done) rest
  | c :: rest =>
    match octalValue c with
    | some n => scanOctal quote done n (if n < 4 then 2 else 1) rest
    | none =>
      if isLineBreak c then scanString quote done rest
      else scanString quote (.char (escaped c) :: done) rest

/-- Reads the digits of a braced code point. -/
def scanBraced (quote : Char) (done : List Unit16) (code : Nat) :
    List Char → Option (List Unit16 × Stop × List Char)
  | [] => none
  | '}' :: rest => scanString quote (Unit16.ofCode code ++ done) rest
  | c :: rest =>
    match hexValue c with
    | some n => scanBraced quote done (min (code * 16 + n) 0x110000) rest
    | none => none

/-- Reads up to `more` further octal digits. -/
def scanOctal (quote : Char) (done : List Unit16) (code more : Nat) :
    List Char → Option (List Unit16 × Stop × List Char)
  | [] => none
  | c :: rest =>
    match more, octalValue c with
    | more + 1, some n => scanOctal quote done (code * 8 + n) more rest
    | _, _ =>
      let done := Unit16.ofCode code ++ done
      if c == quote then some (done.reverse, .closed, rest)
      else if c == '\\' then scanEscape quote done rest
      else if c == '\n' || c == '\r' then none
      else scanString quote (.char c :: done) rest

/-- The character that a backslash and `c` stand for. -/
def escaped (c : Char) : Char :=
  match c with
  | 'n' => '\n'
  | 't' => '\t'
  | 'r' => '\r'
  | 'b' => '\x08'
  | 'v' => '\x0b'
  | 'f' => '\x0c'
  | _ => c

end

/-- The rest of a regular expression after its opening slash, flags included. -/
def scanRegex (inClass : Bool) : List Char → Option (List Char)
  | [] => none
  | '\\' :: c :: rest => if isLineBreak c then none else scanRegex inClass rest
  | '[' :: rest => scanRegex true rest
  | ']' :: rest => scanRegex false rest
  | '/' :: rest => if inClass then scanRegex true rest else some (rest.dropWhile isIdentifierPart)
  | c :: rest => if isLineBreak c then none else scanRegex inClass rest

/-! ## Numbers -/

/-- The digits of a run, without separators. -/
def digitsOf (isDigit : Char → Bool) (cs : List Char) : List Char × List Char :=
  let inRun := fun c => isDigit c || c == '_'
  ((cs.takeWhile inRun).filter (· != '_'), cs.dropWhile inRun)

/-- The integer that digits of a base write. Up to `exact` digits are taken as a whole, more one by
one. -/
def integerOf (base exact : Nat) (digits : List Char) : Double :=
  let values := digits.filterMap hexValue
  if values.length ≤ exact then .ofNat (values.foldl (fun n d => n * base + d) 0)
  else .ofDigits base values

/-- A number's token, if no identifier is glued to it. -/
def numberToken (token : Token) (rest : List Char) : Token × List Char :=
  match rest with
  | c :: _ => if isIdentifierPart c then (.broken, rest) else (token, rest)
  | [] => (token, rest)

/-- An integer of a base that is not ten, or its form with arbitrary precision. -/
def radixToken (base exact : Nat) (isDigit : Char → Bool) (cs : List Char) : Token × List Char :=
  match digitsOf isDigit cs with
  | ([], rest) => (.broken, rest)
  | (digits, 'n' :: rest) =>
    numberToken (.bigint (toString (digits.filterMap hexValue |>.foldl (· * base + ·) 0))) rest
  | (digits, rest) => numberToken (.number (integerOf base exact digits)) rest

/-- The exponent of a number, if one is written. -/
def exponentOf : List Char → Option (Int × List Char)
  | e :: rest =>
    if e == 'e' || e == 'E' then
      let (negative, rest) := match rest with
        | '-' :: rest => (true, rest)
        | '+' :: rest => (false, rest)
        | rest => (false, rest)
      match digitsOf Char.isDigit rest with
      | ([], _) => none
      | (digits, rest) =>
        let n := digits.foldl (fun n c => min (n * 10 + (c.toNat - '0'.toNat)) 100000) 0
        some (if negative then -(n : Int) else n, rest)
    else none
  | [] => none

def decimalToken (cs : List Char) : Token × List Char :=
  let (whole, rest) := digitsOf Char.isDigit cs
  let (fraction, rest, dotted) := match rest with
    | '.' :: rest =>
      let (fraction, rest) := digitsOf Char.isDigit rest
      (fraction, rest, true)
    | rest => ([], rest, false)
  let value (exponent : Int) : Double :=
    .ofDecimal ((whole ++ fraction).foldl (fun n c => n * 10 + (c.toNat - '0'.toNat)) 0)
      (exponent - fraction.length)
  match exponentOf rest with
  | some (exponent, rest) => numberToken (.number (value exponent)) rest
  | none =>
    if dotted then numberToken (.number (value 0)) rest
    else match rest with
      | 'n' :: rest => numberToken (.bigint (String.ofList whole)) rest
      | rest =>
        match whole with
        | '0' :: _ :: _ =>
          if whole.all fun c => '0' ≤ c && c ≤ '7' then
            numberToken (.number (integerOf 8 21 whole)) rest
          else numberToken (.number (integerOf 10 19 whole)) rest
        | _ => numberToken (.number (integerOf 10 19 whole)) rest

/-! ## Words and marks -/

/-- The name that starts the text; a code point may be written `\uXXXX`. -/
def scanWord (done : List Char) : List Char → List Char × List Char
  | '\\' :: 'u' :: a :: b :: c :: d :: rest =>
    match hexNumber [a, b, c, d] with
    | some code => scanWord (Char.ofNat code :: done) rest
    | none => (done.reverse, '\\' :: 'u' :: a :: b :: c :: d :: rest)
  | c :: rest => if isIdentifierPart c then scanWord (c :: done) rest else (done.reverse, c :: rest)
  | [] => (done.reverse, [])

/-- Punctuation, the longer marks before those that begin them. -/
def marks : List String :=
  ["...", "=>", "===", "!==", "==", "!=", "**=", "**", "*=", "*", "++", "+=", "+", "--", "-=", "-",
    "<<=", "<<", "<=", "<", "&&=", "&&", "&=", "&", "||=", "||", "|=", "|", "??=", "??", "?.", "?",
    "^=", "^", "%=", "%", "=", "!", "~", "(", ")", "[", "]", "\x7b", "\x7d", ";", ",", ":", ".",
    "@", "/=", "/", "`", ">"]

/-- The mark that starts the text. A `?.` before a digit is a lone `?`. -/
def scanMark (cs : List Char) : Token × List Char :=
  match marks.find? (·.toList.isPrefixOf cs) with
  | none => (.broken, cs)
  | some "?." =>
    match cs with
    | '?' :: '.' :: c :: rest =>
      if c.isDigit then (.mark "?", '.' :: c :: rest) else (.mark "?.", c :: rest)
    | _ => (.mark "?.", cs.drop 2)
  | some m => (.mark m, cs.drop m.toList.length)

def Token.read : List Char → Token × List Char
  | [] => (.done, [])
  | '0' :: x :: rest =>
    if x == 'x' || x == 'X' then radixToken 16 16 (hexValue · |>.isSome) rest
    else if x == 'o' || x == 'O' then radixToken 8 21 (octalValue · |>.isSome) rest
    else if x == 'b' || x == 'B' then radixToken 2 64 (fun c => c == '0' || c == '1') rest
    else decimalToken ('0' :: x :: rest)
  | '#' :: c :: rest =>
    if isIdentifierStart c then (.privateName, rest.dropWhile isIdentifierPart) else (.broken, rest)
  | c :: rest =>
    if c == '"' || c == '\'' then
      match scanString c [] rest with
      | some (units, _, rest) => (.string (Unit16.text units), rest)
      | none => (.broken, rest)
    else if c.isDigit || c == '.' && (rest.head?.map Char.isDigit).getD false then
      decimalToken (c :: rest)
    else if isIdentifierStart c || c == '\\' then
      match scanWord [] (c :: rest) with
      | ([], rest) => (.broken, rest)
      | (name, rest) => (.word (String.ofList name), rest)
    else scanMark (c :: rest)

/-- The next token, whether a line ended before it, and what follows it. -/
def Token.next (cs : List Char) : Token × Bool × List Char :=
  let (lineEnded, cs) := skipBlanks false cs
  let (token, rest) := Token.read cs
  (token, lineEnded, rest)

end ApiShapes.Source
