/-
Lexemes: how far a token reaches into the text. Which terminals are looked for depends on where in
the grammar the text is read; of those that fit, the longest wins. White space before a token is
passed over, save inside quoted strings and comments, where it belongs to the text.
-/
import LuaAtlas.Text.Blank
import LuaAtlas.Text.Digit
import LuaAtlas.Syntax.Place
import LuaAtlas.Syntax.Terminal

namespace LuaAtlas.Syntax.Lexeme

open LuaAtlas.Text

/-! ## Words and numbers -/

/-- Whether `c` may stand between two tokens. -/
def isSpace (c : Char) : Bool :=
  c = ' ' || c = '\t' || c = '\n' || c = '\r' || c = '\x0b' || c = '\x0c'

/-- The characters that end a word although they are neither space nor control characters. -/
def punctuation : List Char := "+-*/%^#&~|<>=()\x7b\x7d[];:,.\\'\"".toList

/-- Whether `c` can stand inside a word. -/
def isWordChar (c : Char) : Bool := !isControl c && c ≠ ' ' && !punctuation.contains c

/-- Whether `c` can open a word. -/
def isWordStart (c : Char) : Bool := isWordChar c && !isAsciiDigit c

/-- The number of leading characters that satisfy `p`. -/
def run (p : Char → Bool) (cs : List Char) : Nat := (cs.takeWhile p).length

/-- The length of the word at the start of a text, zero when there is none. -/
def wordLength : List Char → Nat
  | c :: cs => if isWordStart c then 1 + run isWordChar cs else 0
  | [] => 0

/-- The length of an exponent: its letter, a sign if there is one, and digits. -/
def exponent (letter : Char) : List Char → Nat
  | c :: cs =>
    if c.toLower = letter then
      match cs with
      | s :: ds =>
        if (s = '+' || s = '-') && run isAsciiDigit ds ≠ 0 then 2 + run isAsciiDigit ds
        else if run isAsciiDigit cs ≠ 0 then 1 + run isAsciiDigit cs
        else 0
      | [] => 0
    else 0
  | [] => 0

/-- The length of the marker of a 64-bit integer, `LL` or `ULL` in any case. -/
def integerMarker : List Char → Nat
  | a :: b :: c :: _ =>
    if a.toLower = 'u' && b.toLower = 'l' && c.toLower = 'l' then 3
    else if a.toLower = 'l' && b.toLower = 'l' then 2
    else 0
  | [a, b] => if a.toLower = 'l' && b.toLower = 'l' then 2 else 0
  | _ => 0

/-- The length of a numeral with the given digits and exponent letter, zero when there is none. -/
def numeral (isDigit : Char → Bool) (letter : Char) (cs : List Char) : Nat :=
  let whole := run isDigit cs
  let rest := cs.drop whole
  let point := if rest.head? = some '.' then 1 else 0
  let fraction := if point = 1 then run isDigit (rest.drop 1) else 0
  if whole + fraction = 0 then 0
  else
    let mantissa := whole + point + fraction
    let scaled := mantissa + exponent letter (cs.drop mantissa)
    let imaginary := match cs.drop scaled with
      | c :: _ => if c.toLower = 'i' then 1 else 0
      | [] => 0
    let marked := if whole ≠ 0 && integerMarker rest ≠ 0 then whole + integerMarker rest else 0
    max (scaled + imaginary) marked

/-- The length of the longest number at the start of a text, zero when there is none. -/
def numberLength (cs : List Char) : Nat :=
  let decimal := numeral isAsciiDigit 'e' cs
  let hexadecimal := match cs with
    | '0' :: x :: rest =>
      if x.toLower = 'x' && numeral isHexDigit 'p' rest ≠ 0 then 2 + numeral isHexDigit 'p' rest else 0
    | _ => 0
  max decimal hexadecimal

/-! ## Quoted text and comments -/

/-- The characters that a backslash may stand before on its own. -/
def plainEscapes : List Char := "\nabfnrtv\\'\"".toList

/-- The length of the escape at a backslash; when there is none, how many characters looked like
the beginning of one. -/
def escapeLength : List Char → Except Nat Nat
  | '\\' :: c :: cs =>
    if plainEscapes.contains c then .ok 2
    else if c = 'z' then .ok (2 + run isSpace cs)
    else if isAsciiDigit c then .ok (2 + min 2 (run isAsciiDigit cs))
    else if c = 'x' then
      let digits := min 2 (run isHexDigit cs)
      if digits = 2 then .ok 4 else .error (2 + digits)
    else if c = 'u' then
      match cs with
      | '\x7b' :: ds =>
        let digits := run isHexDigit ds
        if digits ≠ 0 && (ds.drop digits).head? = some '\x7d' then .ok (4 + digits)
        else .error (3 + digits)
      | _ => .error 2
    else .error 1
  | '\\' :: _ => .error 1
  | _ => .error 0

/-- The length of the plain text before a `quote` or a backslash. -/
def plainLength (quote : Char) (cs : List Char) : Nat :=
  run (fun c => c ≠ quote && c ≠ '\\' && c ≠ '\x00') cs

/-- The length of the rest of a line. -/
def lineLength (cs : List Char) : Nat := run (fun c => c ≠ '\r' && c ≠ '\n' && c ≠ '\x00') cs

/-- The length of the rest of a line that a directive takes up; a carriage return does not end it. -/
def directiveLength (cs : List Char) : Nat := run (fun c => c ≠ '\n' && c ≠ '\x00') cs

/-! ## The token at a place -/

/-- What is looked for at a place. -/
inductive Mode
  /-- Anything that may follow an operand, and anything at all where the text is at fault. -/
  | general
  /-- What may begin a statement or follow a name that begins one. -/
  | opening
  /-- What may begin an operand. -/
  | operand
  /-- The text of a string in double quotes. -/
  | doubleQuoted
  /-- The text of a string in single quotes. -/
  | singleQuoted
  /-- The text of a comment that ends with its line. -/
  | remark
deriving DecidableEq, Repr, Inhabited

/-- The terminals of a mode, those apart that make up strings and comments. -/
def Mode.terminals : Mode → List Terminal
  | general =>
    [.name, .number, .semicolon, .assign, .comma, .doubleColon, .dot, .colon, .less, .greater,
      .doubleQuote, .singleQuote, .openParen, .closeParen, .openBracket, .closeBracket, .openBrace,
      .closeBrace, .lessEqual, .equal, .notEqual, .greaterEqual, .pipe, .tilde, .ampersand, .shiftLeft,
      .shiftRight, .plus, .minus, .star, .slash, .doubleSlash, .percent, .concat, .caret, .hash, .dashes]
  | opening =>
    [.name, .directive, .semicolon, .assign, .comma, .doubleColon, .dot, .colon, .less, .greater,
      .doubleQuote, .singleQuote, .openParen, .closeParen, .openBracket, .closeBracket, .openBrace,
      .closeBrace, .lessEqual, .equal, .notEqual, .greaterEqual, .pipe, .tilde, .ampersand, .shiftLeft,
      .shiftRight, .plus, .minus, .star, .slash, .doubleSlash, .percent, .concat, .caret, .dashes]
  | operand =>
    [.name, .number, .semicolon, .greater, .doubleQuote, .singleQuote, .ellipsis, .openParen,
      .closeParen, .openBracket, .openBrace, .closeBrace, .tilde, .minus, .hash, .dashes]
  | doubleQuoted | singleQuoted | remark => []

/-- The length of the terminal `t` at the start of a text, zero when it is not there. -/
def length (t : Terminal) (cs : List Char) : Nat :=
  match t with
  | .name => wordLength cs
  | .number => numberLength cs
  | .directive => if cs.head? = some '#' then directiveLength cs else 0
  | t => if t.spelling.isPrefixOf cs then t.spelling.length else 0

/-- The longest of the terminals at the start of a text. -/
def longest? (ts : List Terminal) (cs : List Char) : Option (Terminal × Nat) :=
  ts.foldl (fun best t =>
    let n := length t cs
    if (best.map (·.2)).getD 0 < n then some (t, n) else best) none

/-- A token that was found, from `start` to `stop`. -/
structure Found where
  terminal : Terminal
  start : Place
  stop : Place

/-- Why there is no token: `start` is where it would begin, `stop` how far the text was read. -/
structure Stuck where
  start : Place
  stop : Place

/-- The token of `n` characters at `p`. -/
def Found.of (t : Terminal) (p : Place) (n : Nat) : Found := ⟨t, p, p.skip n⟩

/-- A byte order mark at the very beginning counts as white space. -/
def afterMark (p : Place) : Place :=
  if p.index = 0 && p.rest.head? = some '\uFEFF' then p.next else p

/-- The escape at `p`. -/
def scanEscape (p : Place) : Except Stuck Found :=
  match escapeLength p.rest with
  | .ok n => .ok (.of .escape p n)
  | .error n => .error ⟨p, p.skip n⟩

/-- The piece of a quoted string at `p`: plain text, an escape or the closing quote. -/
def scanQuoted (mark text : Terminal) (quote : Char) (p : Place) : Except Stuck Found :=
  let n := plainLength quote p.rest
  if n ≠ 0 then .ok (.of text p n)
  else if p.rest.head? = some quote then .ok (.of mark p 1)
  else scanEscape p

/-- The rest of the line at `p`. A rest that is nothing but two dashes opens a comment of its own. -/
def scanRemark (p : Place) : Found :=
  let n := lineLength p.rest
  if (p.rest.take n).dropWhile isSpace = ['-', '-'] then .of .dashes p n else .of .remark p n

/-- The token at `p` where any of the terminals of `mode` may stand. An escape counts only in the
general mode and only without white space before it. -/
def scanOpen (mode : Mode) (p : Place) : Except Stuck Found :=
  let start := p.skip (run isSpace p.rest)
  if start.rest.isEmpty then .ok ⟨.eof, start, start⟩
  else
    match longest? mode.terminals start.rest with
    | some (t, n) => .ok (.of t start n)
    | none => if mode = .general && start.index = p.index then scanEscape p else .error ⟨start, start⟩

/-- The token at a place. -/
def scan (mode : Mode) (p : Place) : Except Stuck Found :=
  match mode with
  | .doubleQuoted => scanQuoted .doubleQuote .doubleText '"' (afterMark p)
  | .singleQuoted => scanQuoted .singleQuote .singleText '\'' (afterMark p)
  | .remark => .ok (scanRemark (afterMark p))
  | mode => scanOpen mode (afterMark p)

end LuaAtlas.Syntax.Lexeme
