/-
Terminals: the kinds of token a Lua text is made of. A word is a keyword only where the grammar can
take that keyword; everywhere else it is a name.
-/

namespace LuaAtlas.Syntax

/-- A kind of token. The order of the constructors is the order in which repairs are tried. -/
inductive Terminal
  | name
  /-- The first line of a file when it opens with `#`, meant for the operating system. -/
  | directive
  | returnWord | semicolon | assign | comma | doubleColon | breakWord | gotoWord | doWord | endWord
  | whileWord | repeatWord | untilWord | ifWord | thenWord | elseifWord | elseWord | forWord | inWord
  | functionWord | localWord | dot | colon | less | greater | nilWord | falseWord | trueWord
  | number
  | doubleQuote | singleQuote
  /-- Plain characters between double quotes. -/
  | doubleText
  /-- Plain characters between single quotes. -/
  | singleText
  /-- An escape inside a quoted string. -/
  | escape
  | ellipsis | openParen | closeParen | openBracket | closeBracket | openBrace | closeBrace
  | orWord | andWord | lessEqual | equal | notEqual | greaterEqual | pipe | tilde | ampersand
  | shiftLeft | shiftRight | plus | minus | star | slash | doubleSlash | percent | concat | caret
  | notWord | hash
  /-- The two dashes that open a comment. -/
  | dashes
  /-- The rest of the line behind two dashes. -/
  | remark
  /-- The dashes and the long bracket that open a comment over several lines. -/
  | remarkOpen
  | remarkBody | remarkClose
  /-- The long bracket that opens a string over several lines. -/
  | longOpen
  | longBody | longClose
  /-- The end of the text. -/
  | eof
deriving DecidableEq, Repr, Inhabited

namespace Terminal

/-- The terminals with one spelling, keywords apart. -/
def spelling : Terminal → List Char
  | semicolon => [';'] | assign => ['='] | comma => [','] | doubleColon => [':', ':'] | dot => ['.']
  | colon => [':'] | less => ['<'] | greater => ['>'] | doubleQuote => ['"'] | singleQuote => ['\'']
  | ellipsis => ['.', '.', '.'] | openParen => ['('] | closeParen => [')'] | openBracket => ['[']
  | closeBracket => [']'] | openBrace => ['\x7b'] | closeBrace => ['\x7d'] | lessEqual => ['<', '=']
  | equal => ['=', '='] | notEqual => ['~', '='] | greaterEqual => ['>', '='] | pipe => ['|']
  | tilde => ['~'] | ampersand => ['&'] | shiftLeft => ['<', '<'] | shiftRight => ['>', '>']
  | plus => ['+'] | minus => ['-'] | star => ['*'] | slash => ['/'] | doubleSlash => ['/', '/']
  | percent => ['%'] | concat => ['.', '.'] | caret => ['^'] | hash => ['#'] | dashes => ['-', '-']
  | _ => []

/-- The keyword with the given spelling. -/
def keyword? : String → Option Terminal
  | "return" => some returnWord | "break" => some breakWord | "goto" => some gotoWord
  | "do" => some doWord | "end" => some endWord | "while" => some whileWord
  | "repeat" => some repeatWord | "until" => some untilWord | "if" => some ifWord
  | "then" => some thenWord | "elseif" => some elseifWord | "else" => some elseWord
  | "for" => some forWord | "in" => some inWord | "function" => some functionWord
  | "local" => some localWord | "nil" => some nilWord | "false" => some falseWord
  | "true" => some trueWord | "or" => some orWord | "and" => some andWord | "not" => some notWord
  | _ => none

/-- The terminals that a repair may supply, in the order in which they are tried. -/
def supplies : List Terminal :=
  [name, directive, returnWord, semicolon, assign, comma, doubleColon, breakWord, gotoWord, doWord,
    endWord, whileWord, repeatWord, untilWord, ifWord, thenWord, elseifWord, elseWord, forWord, inWord,
    functionWord, localWord, dot, colon, less, greater, nilWord, falseWord, trueWord, number,
    doubleQuote, singleQuote, doubleText, singleText, escape, ellipsis, openParen, closeParen,
    openBracket, closeBracket, openBrace, closeBrace, orWord, andWord, lessEqual, equal, notEqual,
    greaterEqual, pipe, tilde, ampersand, shiftLeft, shiftRight, plus, minus, star, slash, doubleSlash,
    percent, concat, caret, notWord, hash, dashes, remark, remarkOpen, remarkBody, remarkClose,
    longOpen, longBody, longClose]

/-- Whether a token of this kind is a node of the tree in its own right. -/
def isVisible : Terminal → Bool
  | doubleText | singleText | eof => false
  | _ => true

/-- Whether a token of this kind says more than its spelling. -/
def isNamed : Terminal → Bool
  | name | directive | breakWord | nilWord | falseWord | trueWord | number | escape | ellipsis
  | remark | remarkBody | longBody => true
  | _ => false

end Terminal

end LuaAtlas.Syntax
