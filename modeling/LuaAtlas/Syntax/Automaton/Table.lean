/-
The states of the automaton that reads Lua, one row each. State 0 skips text that fits nowhere,
state 1 begins a file. A reduction names a set of terminals it looks for and a rule of the grammar,
both by their number.
-/
import LuaAtlas.Syntax.Automaton.Row

namespace LuaAtlas.Syntax.Automaton

/-- The sets of terminals that reductions look for. -/
def lookaheads : Array (List Terminal) := #[
  [.eof],
  [.name, .returnWord, .semicolon, .assign, .comma, .doubleColon, .breakWord, .gotoWord, .doWord,
  .endWord, .whileWord, .repeatWord, .untilWord, .ifWord, .thenWord, .elseifWord, .elseWord,
  .forWord, .functionWord, .localWord, .dot, .colon, .less, .greater, .doubleQuote, .singleQuote,
  .openParen, .closeParen, .openBracket, .closeBracket, .openBrace, .closeBrace, .orWord, .andWord,
  .lessEqual, .equal, .notEqual, .greaterEqual, .pipe, .tilde, .ampersand, .shiftLeft, .shiftRight,
  .plus, .minus, .star, .slash, .doubleSlash, .percent, .concat, .caret, .longOpen, .eof],
  [.name, .returnWord, .semicolon, .comma, .doubleColon, .breakWord, .gotoWord, .doWord, .endWord,
  .whileWord, .repeatWord, .untilWord, .ifWord, .thenWord, .elseifWord, .elseWord, .forWord,
  .functionWord, .localWord, .less, .greater, .closeParen, .closeBracket, .closeBrace, .orWord,
  .andWord, .lessEqual, .equal, .notEqual, .greaterEqual, .pipe, .tilde, .ampersand, .shiftLeft,
  .shiftRight, .plus, .minus, .star, .slash, .doubleSlash, .percent, .concat, .caret, .eof],
  [.dot, .colon, .doubleQuote, .singleQuote, .openParen, .openBracket, .openBrace, .longOpen],
  [.name, .returnWord, .semicolon, .comma, .doubleColon, .breakWord, .gotoWord, .doWord, .endWord,
  .whileWord, .repeatWord, .untilWord, .ifWord, .thenWord, .elseifWord, .elseWord, .forWord,
  .functionWord, .localWord, .dot, .colon, .less, .greater, .doubleQuote, .singleQuote, .openParen,
  .closeParen, .openBracket, .closeBracket, .openBrace, .closeBrace, .orWord, .andWord, .lessEqual,
  .equal, .notEqual, .greaterEqual, .pipe, .tilde, .ampersand, .shiftLeft, .shiftRight, .plus,
  .minus, .star, .slash, .doubleSlash, .percent, .concat, .caret, .longOpen, .eof],
  [.name, .returnWord, .semicolon, .comma, .doubleColon, .breakWord, .gotoWord, .doWord, .endWord,
  .whileWord, .repeatWord, .untilWord, .ifWord, .thenWord, .elseifWord, .elseWord, .forWord,
  .functionWord, .localWord, .less, .greater, .openParen, .closeParen, .closeBracket, .closeBrace,
  .orWord, .andWord, .lessEqual, .equal, .notEqual, .greaterEqual, .pipe, .tilde, .ampersand,
  .shiftLeft, .shiftRight, .plus, .minus, .star, .slash, .doubleSlash, .percent, .concat, .caret,
  .eof],
  [.name, .returnWord, .semicolon, .comma, .doubleColon, .breakWord, .gotoWord, .doWord, .endWord,
  .whileWord, .repeatWord, .untilWord, .ifWord, .thenWord, .elseifWord, .elseWord, .forWord,
  .functionWord, .localWord, .less, .greater, .openParen, .closeParen, .closeBracket, .closeBrace,
  .orWord, .andWord, .lessEqual, .equal, .notEqual, .greaterEqual, .pipe, .tilde, .ampersand,
  .shiftLeft, .shiftRight, .plus, .minus, .star, .slash, .doubleSlash, .percent, .concat, .eof],
  [.name, .returnWord, .semicolon, .comma, .doubleColon, .breakWord, .gotoWord, .doWord, .endWord,
  .whileWord, .repeatWord, .untilWord, .ifWord, .thenWord, .elseifWord, .elseWord, .forWord,
  .functionWord, .localWord, .less, .greater, .openParen, .closeParen, .closeBracket, .closeBrace,
  .orWord, .andWord, .lessEqual, .equal, .notEqual, .greaterEqual, .eof],
  [.name, .returnWord, .semicolon, .comma, .doubleColon, .breakWord, .gotoWord, .doWord, .endWord,
  .whileWord, .repeatWord, .untilWord, .ifWord, .thenWord, .elseifWord, .elseWord, .forWord,
  .functionWord, .localWord, .openParen, .closeParen, .closeBracket, .closeBrace, .orWord, .eof],
  [.name, .returnWord, .semicolon, .comma, .doubleColon, .breakWord, .gotoWord, .doWord, .endWord,
  .whileWord, .repeatWord, .untilWord, .ifWord, .thenWord, .elseifWord, .elseWord, .forWord,
  .functionWord, .localWord, .openParen, .closeParen, .closeBracket, .closeBrace, .orWord,
  .andWord, .eof],
  [.name, .returnWord, .semicolon, .comma, .doubleColon, .breakWord, .gotoWord, .doWord, .endWord,
  .whileWord, .repeatWord, .untilWord, .ifWord, .thenWord, .elseifWord, .elseWord, .forWord,
  .functionWord, .localWord, .less, .greater, .openParen, .closeParen, .closeBracket, .closeBrace,
  .orWord, .andWord, .lessEqual, .equal, .notEqual, .greaterEqual, .pipe, .eof],
  [.name, .returnWord, .semicolon, .comma, .doubleColon, .breakWord, .gotoWord, .doWord, .endWord,
  .whileWord, .repeatWord, .untilWord, .ifWord, .thenWord, .elseifWord, .elseWord, .forWord,
  .functionWord, .localWord, .less, .greater, .openParen, .closeParen, .closeBracket, .closeBrace,
  .orWord, .andWord, .lessEqual, .equal, .notEqual, .greaterEqual, .pipe, .tilde, .eof],
  [.name, .returnWord, .semicolon, .comma, .doubleColon, .breakWord, .gotoWord, .doWord, .endWord,
  .whileWord, .repeatWord, .untilWord, .ifWord, .thenWord, .elseifWord, .elseWord, .forWord,
  .functionWord, .localWord, .less, .greater, .openParen, .closeParen, .closeBracket, .closeBrace,
  .orWord, .andWord, .lessEqual, .equal, .notEqual, .greaterEqual, .pipe, .tilde, .ampersand,
  .eof],
  [.name, .returnWord, .semicolon, .comma, .doubleColon, .breakWord, .gotoWord, .doWord, .endWord,
  .whileWord, .repeatWord, .untilWord, .ifWord, .thenWord, .elseifWord, .elseWord, .forWord,
  .functionWord, .localWord, .less, .greater, .openParen, .closeParen, .closeBracket, .closeBrace,
  .orWord, .andWord, .lessEqual, .equal, .notEqual, .greaterEqual, .pipe, .tilde, .ampersand,
  .shiftLeft, .shiftRight, .eof],
  [.name, .returnWord, .semicolon, .comma, .doubleColon, .breakWord, .gotoWord, .doWord, .endWord,
  .whileWord, .repeatWord, .untilWord, .ifWord, .thenWord, .elseifWord, .elseWord, .forWord,
  .functionWord, .localWord, .less, .greater, .openParen, .closeParen, .closeBracket, .closeBrace,
  .orWord, .andWord, .lessEqual, .equal, .notEqual, .greaterEqual, .pipe, .tilde, .ampersand,
  .shiftLeft, .shiftRight, .plus, .minus, .concat, .eof],
  [.endWord, .untilWord, .elseifWord, .elseWord],
  [.name, .returnWord, .semicolon, .doubleColon, .breakWord, .gotoWord, .doWord, .endWord,
  .whileWord, .repeatWord, .untilWord, .ifWord, .elseifWord, .elseWord, .forWord, .functionWord,
  .localWord, .openParen, .eof],
  [.endWord, .elseifWord, .elseWord],
  [.name, .returnWord, .semicolon, .comma, .doubleColon, .breakWord, .gotoWord, .doWord, .endWord,
  .whileWord, .repeatWord, .untilWord, .ifWord, .elseifWord, .elseWord, .forWord, .functionWord,
  .localWord, .openParen, .eof],
  [.endWord],
  [.endWord, .untilWord, .elseifWord, .elseWord, .eof],
  [.closeBrace],
  [.semicolon, .comma, .dot, .colon, .less, .greater, .doubleQuote, .singleQuote, .openParen,
  .openBracket, .openBrace, .closeBrace, .orWord, .andWord, .lessEqual, .equal, .notEqual,
  .greaterEqual, .pipe, .tilde, .ampersand, .shiftLeft, .shiftRight, .plus, .minus, .star, .slash,
  .doubleSlash, .percent, .concat, .caret, .longOpen],
  [.semicolon, .doWord, .endWord, .untilWord, .elseifWord, .elseWord, .eof],
  [.semicolon, .comma, .doWord, .endWord, .untilWord, .elseifWord, .elseWord, .closeParen, .eof],
  [.name, .returnWord, .semicolon, .doubleColon, .breakWord, .gotoWord, .doWord, .endWord,
  .whileWord, .repeatWord, .untilWord, .ifWord, .elseifWord, .elseWord, .forWord, .functionWord,
  .localWord, .eof],
  [.name, .returnWord, .semicolon, .assign, .doubleColon, .breakWord, .gotoWord, .doWord, .endWord,
  .whileWord, .repeatWord, .untilWord, .ifWord, .elseifWord, .elseWord, .forWord, .functionWord,
  .localWord, .openParen, .eof],
  [.semicolon, .comma, .closeBrace],
  [.name, .returnWord, .semicolon, .assign, .comma, .doubleColon, .breakWord, .gotoWord, .doWord,
  .endWord, .whileWord, .repeatWord, .untilWord, .ifWord, .elseifWord, .elseWord, .forWord,
  .functionWord, .localWord, .openParen, .eof],
  [.doWord],
  [.name, .functionWord, .nilWord, .falseWord, .trueWord, .number, .doubleQuote, .singleQuote,
  .ellipsis, .openParen, .openBracket, .openBrace, .closeBrace, .tilde, .minus, .notWord, .hash,
  .longOpen],
  [.name, .returnWord, .semicolon, .doubleColon, .breakWord, .gotoWord, .doWord, .endWord,
  .whileWord, .repeatWord, .ifWord, .forWord, .functionWord, .localWord, .openParen],
  [.assign],
  [.assign, .comma],
  [.doubleQuote, .singleQuote, .openParen, .openBrace, .longOpen],
  [.inWord],
  [.doubleQuote, .doubleText, .escape],
  [.singleQuote, .singleText, .escape],
  [.comma, .inWord, .closeParen],
  [.dot, .colon, .openParen],
  [.openParen],
  [.closeParen],
  []]

/-- The states from 0 to 37. -/
def rows1 : List Row := [
  ⟨some .general, [], [], [], []⟩,
  ⟨some .opening, [(0, 3)], [(.name, 2), (.directive, 56), (.returnWord, 59), (.semicolon, 124),
    (.doubleColon, 215), (.breakWord, 125), (.gotoWord, 216), (.doWord, 48), (.whileWord, 70),
    (.repeatWord, 49), (.ifWord, 71), (.forWord, 175), (.functionWord, 167), (.localWord, 176),
    (.openParen, 72)], [], [(.chunk, 217), (.statement, 126), (.returnStat, 218),
    (.emptyStat, 125), (.assignment, 125), (.targets, 219), (.labelStat, 125), (.gotoStat, 125),
    (.doStat, 125), (.whileStat, 125), (.repeatStat, 125), (.ifStat, 125), (.forStat, 125),
    (.declaration, 127), (.functionDecl, 128), (.localFunction, 129), (.localDecl, 130),
    (.primary, 155), (.var, 156), (.bracketIndex, 2), (.dotIndex, 2), (.call, 99),
    (.methodIndex, 157), (.parenthesized, 162), (.statements, 57)]⟩,
  ⟨some .opening, [(1, 76)], [], [], []⟩,
  ⟨some .opening, [(1, 78)], [], [], []⟩,
  ⟨some .opening, [(1, 77)], [], [], []⟩,
  ⟨some .opening, [(2, 56), (3, 75)], [], [], []⟩,
  ⟨some .opening, [(4, 79)], [], [], []⟩,
  ⟨some .opening, [(4, 84)], [], [], []⟩,
  ⟨some .opening, [(4, 85)], [], [], []⟩,
  ⟨some .opening, [(4, 83)], [], [], []⟩,
  ⟨some .opening, [(4, 82)], [], [], []⟩,
  ⟨some .opening, [(4, 81)], [], [], []⟩,
  ⟨some .opening, [(4, 57)], [], [], []⟩,
  ⟨some .opening, [(4, 57)], [], [], []⟩,
  ⟨some .opening, [(4, 59)], [], [], []⟩,
  ⟨some .opening, [(4, 87)], [], [], []⟩,
  ⟨some .opening, [(4, 58)], [], [], []⟩,
  ⟨some .opening, [(4, 86)], [], [], []⟩,
  ⟨some .opening, [(4, 64)], [], [], []⟩,
  ⟨some .general, [(5, 56)], [], [], []⟩,
  ⟨some .general, [(5, 57)], [], [], []⟩,
  ⟨some .general, [(5, 57)], [], [], []⟩,
  ⟨some .general, [(5, 65)], [], [], []⟩,
  ⟨some .general, [(5, 59)], [], [], []⟩,
  ⟨some .general, [(5, 87)], [], [], []⟩,
  ⟨some .general, [(6, 96)], [(.caret, 88)], [], []⟩,
  ⟨some .general, [], [(.name, 2), (.returnWord, 59), (.semicolon, 124), (.doubleColon, 215),
    (.breakWord, 125), (.gotoWord, 216), (.doWord, 48), (.endWord, 139), (.whileWord, 70),
    (.repeatWord, 49), (.ifWord, 71), (.elseifWord, 92), (.elseWord, 55), (.forWord, 175),
    (.functionWord, 167), (.localWord, 176), (.openParen, 72)], [], [(.block, 164),
    (.statement, 126), (.returnStat, 179), (.emptyStat, 125), (.assignment, 125), (.targets, 219),
    (.labelStat, 125), (.gotoStat, 125), (.doStat, 125), (.whileStat, 125), (.repeatStat, 125),
    (.ifStat, 125), (.elseifClause, 204), (.elseClause, 245), (.forStat, 125), (.declaration, 127),
    (.functionDecl, 128), (.localFunction, 129), (.localDecl, 130), (.primary, 155), (.var, 156),
    (.bracketIndex, 2), (.dotIndex, 2), (.call, 99), (.methodIndex, 157), (.parenthesized, 162),
    (.statements, 43), (.elseifClauses, 165)]⟩,
  ⟨some .general, [(5, 67)], [], [], []⟩,
  ⟨some .general, [(5, 58)], [], [], []⟩,
  ⟨some .general, [(5, 86)], [], [], []⟩,
  ⟨some .general, [(5, 64)], [], [], []⟩,
  ⟨some .general, [(7, 95)], [(.pipe, 81), (.tilde, 82), (.ampersand, 83), (.shiftLeft, 84),
    (.shiftRight, 84), (.plus, 85), (.minus, 85), (.star, 86), (.slash, 86), (.doubleSlash, 86),
    (.percent, 86), (.concat, 87), (.caret, 88)], [], []⟩,
  ⟨some .general, [(8, 95)], [(.less, 78), (.greater, 78), (.andWord, 80), (.lessEqual, 78),
    (.equal, 78), (.notEqual, 78), (.greaterEqual, 78), (.pipe, 81), (.tilde, 82),
    (.ampersand, 83), (.shiftLeft, 84), (.shiftRight, 84), (.plus, 85), (.minus, 85), (.star, 86),
    (.slash, 86), (.doubleSlash, 86), (.percent, 86), (.concat, 87), (.caret, 88)], [], []⟩,
  ⟨some .general, [(9, 95)], [(.less, 78), (.greater, 78), (.lessEqual, 78), (.equal, 78),
    (.notEqual, 78), (.greaterEqual, 78), (.pipe, 81), (.tilde, 82), (.ampersand, 83),
    (.shiftLeft, 84), (.shiftRight, 84), (.plus, 85), (.minus, 85), (.star, 86), (.slash, 86),
    (.doubleSlash, 86), (.percent, 86), (.concat, 87), (.caret, 88)], [], []⟩,
  ⟨some .general, [(10, 95)], [(.tilde, 82), (.ampersand, 83), (.shiftLeft, 84),
    (.shiftRight, 84), (.plus, 85), (.minus, 85), (.star, 86), (.slash, 86), (.doubleSlash, 86),
    (.percent, 86), (.concat, 87), (.caret, 88)], [], []⟩,
  ⟨some .general, [(11, 95)], [(.ampersand, 83), (.shiftLeft, 84), (.shiftRight, 84),
    (.plus, 85), (.minus, 85), (.star, 86), (.slash, 86), (.doubleSlash, 86), (.percent, 86),
    (.concat, 87), (.caret, 88)], [], []⟩,
  ⟨some .general, [(12, 95)], [(.shiftLeft, 84), (.shiftRight, 84), (.plus, 85), (.minus, 85),
    (.star, 86), (.slash, 86), (.doubleSlash, 86), (.percent, 86), (.concat, 87), (.caret, 88)],
    [], []⟩,
  ⟨some .general, [(13, 95)], [(.plus, 85), (.minus, 85), (.star, 86), (.slash, 86),
    (.doubleSlash, 86), (.percent, 86), (.concat, 87), (.caret, 88)], [], []⟩]

/-- The states from 38 to 75. -/
def rows2 : List Row := [
  ⟨some .general, [(14, 95)], [(.star, 86), (.slash, 86), (.doubleSlash, 86), (.percent, 86),
    (.caret, 88)], [], []⟩,
  ⟨some .general, [(6, 95)], [(.caret, 88)], [], []⟩,
  ⟨some .general, [(13, 95)], [(.plus, 85), (.minus, 85), (.star, 86), (.slash, 86),
    (.doubleSlash, 86), (.percent, 86), (.concat, 87), (.caret, 88)], [], []⟩,
  ⟨some .general, [(6, 95)], [(.caret, 88)], [], []⟩,
  ⟨some .general, [(5, 66)], [], [], []⟩,
  ⟨some .general, [(15, 5)], [(.name, 2), (.returnWord, 59), (.semicolon, 124),
    (.doubleColon, 215), (.breakWord, 125), (.gotoWord, 216), (.doWord, 48), (.whileWord, 70),
    (.repeatWord, 49), (.ifWord, 71), (.forWord, 175), (.functionWord, 167), (.localWord, 176),
    (.openParen, 72)], [], [(.statement, 126), (.returnStat, 184), (.emptyStat, 125),
    (.assignment, 125), (.targets, 219), (.labelStat, 125), (.gotoStat, 125), (.doStat, 125),
    (.whileStat, 125), (.repeatStat, 125), (.ifStat, 125), (.forStat, 125), (.declaration, 127),
    (.functionDecl, 128), (.localFunction, 129), (.localDecl, 130), (.primary, 155), (.var, 156),
    (.bracketIndex, 2), (.dotIndex, 2), (.call, 99), (.methodIndex, 157), (.parenthesized, 162),
    (.statements, 44)]⟩,
  ⟨some .general, [(16, 99)], [], [(.name, 2), (.semicolon, 124), (.doubleColon, 215),
    (.breakWord, 125), (.gotoWord, 216), (.doWord, 48), (.whileWord, 70), (.repeatWord, 49),
    (.ifWord, 71), (.forWord, 175), (.functionWord, 167), (.localWord, 176), (.openParen, 72)],
    [(.statement, 126), (.emptyStat, 125), (.assignment, 125), (.targets, 219), (.labelStat, 125),
    (.gotoStat, 125), (.doStat, 125), (.whileStat, 125), (.repeatStat, 125), (.ifStat, 125),
    (.forStat, 125), (.declaration, 127), (.functionDecl, 128), (.localFunction, 129),
    (.localDecl, 130), (.primary, 155), (.var, 156), (.bracketIndex, 2), (.dotIndex, 2),
    (.call, 99), (.methodIndex, 157), (.parenthesized, 162), (.statements, 44)]⟩,
  ⟨some .general, [(16, 15)], [(.comma, 93), (.less, 78), (.greater, 78), (.orWord, 79),
    (.andWord, 80), (.lessEqual, 78), (.equal, 78), (.notEqual, 78), (.greaterEqual, 78),
    (.pipe, 81), (.tilde, 82), (.ampersand, 83), (.shiftLeft, 84), (.shiftRight, 84), (.plus, 85),
    (.minus, 85), (.star, 86), (.slash, 86), (.doubleSlash, 86), (.percent, 86), (.concat, 87),
    (.caret, 88)], [], [(.moreValues, 119)]⟩,
  ⟨some .general, [(17, 31)], [(.name, 2), (.returnWord, 59), (.semicolon, 124),
    (.doubleColon, 215), (.breakWord, 125), (.gotoWord, 216), (.doWord, 48), (.whileWord, 70),
    (.repeatWord, 49), (.ifWord, 71), (.forWord, 175), (.functionWord, 167), (.localWord, 176),
    (.openParen, 72)], [], [(.block, 210), (.statement, 126), (.returnStat, 179),
    (.emptyStat, 125), (.assignment, 125), (.targets, 219), (.labelStat, 125), (.gotoStat, 125),
    (.doStat, 125), (.whileStat, 125), (.repeatStat, 125), (.ifStat, 125), (.forStat, 125),
    (.declaration, 127), (.functionDecl, 128), (.localFunction, 129), (.localDecl, 130),
    (.primary, 155), (.var, 156), (.bracketIndex, 2), (.dotIndex, 2), (.call, 99),
    (.methodIndex, 157), (.parenthesized, 162), (.statements, 43)]⟩,
  ⟨some .general, [(18, 104)], [(.less, 78), (.greater, 78), (.orWord, 79), (.andWord, 80),
    (.lessEqual, 78), (.equal, 78), (.notEqual, 78), (.greaterEqual, 78), (.pipe, 81),
    (.tilde, 82), (.ampersand, 83), (.shiftLeft, 84), (.shiftRight, 84), (.plus, 85), (.minus, 85),
    (.star, 86), (.slash, 86), (.doubleSlash, 86), (.percent, 86), (.concat, 87), (.caret, 88)],
    [], []⟩,
  ⟨some .general, [], [(.name, 2), (.returnWord, 59), (.semicolon, 124), (.doubleColon, 215),
    (.breakWord, 125), (.gotoWord, 216), (.doWord, 48), (.endWord, 132), (.whileWord, 70),
    (.repeatWord, 49), (.ifWord, 71), (.forWord, 175), (.functionWord, 167), (.localWord, 176),
    (.openParen, 72)], [], [(.block, 224), (.statement, 126), (.returnStat, 179),
    (.emptyStat, 125), (.assignment, 125), (.targets, 219), (.labelStat, 125), (.gotoStat, 125),
    (.doStat, 125), (.whileStat, 125), (.repeatStat, 125), (.ifStat, 125), (.forStat, 125),
    (.declaration, 127), (.functionDecl, 128), (.localFunction, 129), (.localDecl, 130),
    (.primary, 155), (.var, 156), (.bracketIndex, 2), (.dotIndex, 2), (.call, 99),
    (.methodIndex, 157), (.parenthesized, 162), (.statements, 43)]⟩,
  ⟨some .general, [], [(.name, 2), (.returnWord, 59), (.semicolon, 124), (.doubleColon, 215),
    (.breakWord, 125), (.gotoWord, 216), (.doWord, 48), (.whileWord, 70), (.repeatWord, 49),
    (.untilWord, 74), (.ifWord, 71), (.forWord, 175), (.functionWord, 167), (.localWord, 176),
    (.openParen, 72)], [], [(.block, 225), (.statement, 126), (.returnStat, 179),
    (.emptyStat, 125), (.assignment, 125), (.targets, 219), (.labelStat, 125), (.gotoStat, 125),
    (.doStat, 125), (.whileStat, 125), (.repeatStat, 125), (.ifStat, 125), (.forStat, 125),
    (.declaration, 127), (.functionDecl, 128), (.localFunction, 129), (.localDecl, 130),
    (.primary, 155), (.var, 156), (.bracketIndex, 2), (.dotIndex, 2), (.call, 99),
    (.methodIndex, 157), (.parenthesized, 162), (.statements, 43)]⟩,
  ⟨some .general, [], [(.name, 2), (.returnWord, 59), (.semicolon, 124), (.doubleColon, 215),
    (.breakWord, 125), (.gotoWord, 216), (.doWord, 48), (.endWord, 27), (.whileWord, 70),
    (.repeatWord, 49), (.ifWord, 71), (.forWord, 175), (.functionWord, 167), (.localWord, 176),
    (.openParen, 72)], [], [(.block, 243), (.statement, 126), (.returnStat, 179),
    (.emptyStat, 125), (.assignment, 125), (.targets, 219), (.labelStat, 125), (.gotoStat, 125),
    (.doStat, 125), (.whileStat, 125), (.repeatStat, 125), (.ifStat, 125), (.forStat, 125),
    (.declaration, 127), (.functionDecl, 128), (.localFunction, 129), (.localDecl, 130),
    (.primary, 155), (.var, 156), (.bracketIndex, 2), (.dotIndex, 2), (.call, 99),
    (.methodIndex, 157), (.parenthesized, 162), (.statements, 43)]⟩,
  ⟨some .general, [], [(.name, 2), (.returnWord, 59), (.semicolon, 124), (.doubleColon, 215),
    (.breakWord, 125), (.gotoWord, 216), (.doWord, 48), (.endWord, 138), (.whileWord, 70),
    (.repeatWord, 49), (.ifWord, 71), (.forWord, 175), (.functionWord, 167), (.localWord, 176),
    (.openParen, 72)], [], [(.block, 244), (.statement, 126), (.returnStat, 179),
    (.emptyStat, 125), (.assignment, 125), (.targets, 219), (.labelStat, 125), (.gotoStat, 125),
    (.doStat, 125), (.whileStat, 125), (.repeatStat, 125), (.ifStat, 125), (.forStat, 125),
    (.declaration, 127), (.functionDecl, 128), (.localFunction, 129), (.localDecl, 130),
    (.primary, 155), (.var, 156), (.bracketIndex, 2), (.dotIndex, 2), (.call, 99),
    (.methodIndex, 157), (.parenthesized, 162), (.statements, 43)]⟩,
  ⟨some .general, [(16, 23)], [(.less, 78), (.greater, 78), (.orWord, 79), (.andWord, 80),
    (.lessEqual, 78), (.equal, 78), (.notEqual, 78), (.greaterEqual, 78), (.pipe, 81),
    (.tilde, 82), (.ampersand, 83), (.shiftLeft, 84), (.shiftRight, 84), (.plus, 85), (.minus, 85),
    (.star, 86), (.slash, 86), (.doubleSlash, 86), (.percent, 86), (.concat, 87), (.caret, 88)],
    [], []⟩,
  ⟨some .general, [], [(.name, 2), (.returnWord, 59), (.semicolon, 124), (.doubleColon, 215),
    (.breakWord, 125), (.gotoWord, 216), (.doWord, 48), (.endWord, 140), (.whileWord, 70),
    (.repeatWord, 49), (.ifWord, 71), (.forWord, 175), (.functionWord, 167), (.localWord, 176),
    (.openParen, 72)], [], [(.block, 246), (.statement, 126), (.returnStat, 179),
    (.emptyStat, 125), (.assignment, 125), (.targets, 219), (.labelStat, 125), (.gotoStat, 125),
    (.doStat, 125), (.whileStat, 125), (.repeatStat, 125), (.ifStat, 125), (.forStat, 125),
    (.declaration, 127), (.functionDecl, 128), (.localFunction, 129), (.localDecl, 130),
    (.primary, 155), (.var, 156), (.bracketIndex, 2), (.dotIndex, 2), (.call, 99),
    (.methodIndex, 157), (.parenthesized, 162), (.statements, 43)]⟩,
  ⟨some .general, [(16, 22)], [(.less, 78), (.greater, 78), (.orWord, 79), (.andWord, 80),
    (.lessEqual, 78), (.equal, 78), (.notEqual, 78), (.greaterEqual, 78), (.pipe, 81),
    (.tilde, 82), (.ampersand, 83), (.shiftLeft, 84), (.shiftRight, 84), (.plus, 85), (.minus, 85),
    (.star, 86), (.slash, 86), (.doubleSlash, 86), (.percent, 86), (.concat, 87), (.caret, 88)],
    [], []⟩,
  ⟨some .general, [(19, 33)], [(.name, 2), (.returnWord, 59), (.semicolon, 124),
    (.doubleColon, 215), (.breakWord, 125), (.gotoWord, 216), (.doWord, 48), (.whileWord, 70),
    (.repeatWord, 49), (.ifWord, 71), (.forWord, 175), (.functionWord, 167), (.localWord, 176),
    (.openParen, 72)], [], [(.block, 251), (.statement, 126), (.returnStat, 179),
    (.emptyStat, 125), (.assignment, 125), (.targets, 219), (.labelStat, 125), (.gotoStat, 125),
    (.doStat, 125), (.whileStat, 125), (.repeatStat, 125), (.ifStat, 125), (.forStat, 125),
    (.declaration, 127), (.functionDecl, 128), (.localFunction, 129), (.localDecl, 130),
    (.primary, 155), (.var, 156), (.bracketIndex, 2), (.dotIndex, 2), (.call, 99),
    (.methodIndex, 157), (.parenthesized, 162), (.statements, 43)]⟩,
  ⟨some .general, [(0, 2)], [(.name, 2), (.returnWord, 59), (.semicolon, 124),
    (.doubleColon, 215), (.breakWord, 125), (.gotoWord, 216), (.doWord, 48), (.whileWord, 70),
    (.repeatWord, 49), (.ifWord, 71), (.forWord, 175), (.functionWord, 167), (.localWord, 176),
    (.openParen, 72)], [], [(.statement, 126), (.returnStat, 221), (.emptyStat, 125),
    (.assignment, 125), (.targets, 219), (.labelStat, 125), (.gotoStat, 125), (.doStat, 125),
    (.whileStat, 125), (.repeatStat, 125), (.ifStat, 125), (.forStat, 125), (.declaration, 127),
    (.functionDecl, 128), (.localFunction, 129), (.localDecl, 130), (.primary, 155), (.var, 156),
    (.bracketIndex, 2), (.dotIndex, 2), (.call, 99), (.methodIndex, 157), (.parenthesized, 162),
    (.statements, 58)]⟩,
  ⟨some .general, [(0, 2)], [(.name, 2), (.returnWord, 59), (.semicolon, 124),
    (.doubleColon, 215), (.breakWord, 125), (.gotoWord, 216), (.doWord, 48), (.whileWord, 70),
    (.repeatWord, 49), (.ifWord, 71), (.forWord, 175), (.functionWord, 167), (.localWord, 176),
    (.openParen, 72)], [], [(.statement, 126), (.returnStat, 230), (.emptyStat, 125),
    (.assignment, 125), (.targets, 219), (.labelStat, 125), (.gotoStat, 125), (.doStat, 125),
    (.whileStat, 125), (.repeatStat, 125), (.ifStat, 125), (.forStat, 125), (.declaration, 127),
    (.functionDecl, 128), (.localFunction, 129), (.localDecl, 130), (.primary, 155), (.var, 156),
    (.bracketIndex, 2), (.dotIndex, 2), (.call, 99), (.methodIndex, 157), (.parenthesized, 162),
    (.statements, 44)]⟩,
  ⟨some .general, [(0, 1)], [(.name, 2), (.returnWord, 59), (.semicolon, 124),
    (.doubleColon, 215), (.breakWord, 125), (.gotoWord, 216), (.doWord, 48), (.whileWord, 70),
    (.repeatWord, 49), (.ifWord, 71), (.forWord, 175), (.functionWord, 167), (.localWord, 176),
    (.openParen, 72)], [], [(.statement, 126), (.returnStat, 233), (.emptyStat, 125),
    (.assignment, 125), (.targets, 219), (.labelStat, 125), (.gotoStat, 125), (.doStat, 125),
    (.whileStat, 125), (.repeatStat, 125), (.ifStat, 125), (.forStat, 125), (.declaration, 127),
    (.functionDecl, 128), (.localFunction, 129), (.localDecl, 130), (.primary, 155), (.var, 156),
    (.bracketIndex, 2), (.dotIndex, 2), (.call, 99), (.methodIndex, 157), (.parenthesized, 162),
    (.statements, 44)]⟩,
  ⟨some .operand, [(20, 9)], [(.name, 2), (.semicolon, 168), (.functionWord, 192),
    (.nilWord, 19), (.falseWord, 19), (.trueWord, 19), (.number, 19), (.doubleQuote, 177),
    (.singleQuote, 178), (.ellipsis, 19), (.openParen, 72), (.openBrace, 60), (.tilde, 73),
    (.minus, 73), (.notWord, 73), (.hash, 73), (.longOpen, 222)], [], [(.expressions, 163),
    (.expression, 97), (.string, 19), (.quotedString, 20), (.longString, 21), (.functionExpr, 19),
    (.primary, 155), (.var, 5), (.bracketIndex, 2), (.dotIndex, 2), (.call, 5),
    (.methodIndex, 157), (.parenthesized, 5), (.table, 19), (.binary, 19), (.unary, 19)]⟩,
  ⟨some .operand, [], [(.name, 64), (.functionWord, 192), (.nilWord, 19), (.falseWord, 19),
    (.trueWord, 19), (.number, 19), (.doubleQuote, 177), (.singleQuote, 178), (.ellipsis, 19),
    (.openParen, 72), (.openBracket, 76), (.openBrace, 60), (.closeBrace, 24), (.tilde, 73),
    (.minus, 73), (.notWord, 73), (.hash, 73), (.longOpen, 222)], [], [(.expression, 101),
    (.string, 19), (.quotedString, 20), (.longString, 21), (.functionExpr, 19), (.primary, 155),
    (.var, 5), (.bracketIndex, 2), (.dotIndex, 2), (.call, 5), (.methodIndex, 157),
    (.parenthesized, 5), (.table, 19), (.entries, 234), (.entry, 169), (.binary, 19),
    (.unary, 19)]⟩,
  ⟨some .operand, [], [(.name, 64), (.functionWord, 192), (.nilWord, 19), (.falseWord, 19),
    (.trueWord, 19), (.number, 19), (.doubleQuote, 177), (.singleQuote, 178), (.ellipsis, 19),
    (.openParen, 72), (.openBracket, 76), (.openBrace, 60), (.closeBrace, 15), (.tilde, 73),
    (.minus, 73), (.notWord, 73), (.hash, 73), (.longOpen, 222)], [], [(.expression, 101),
    (.string, 19), (.quotedString, 20), (.longString, 21), (.functionExpr, 19), (.primary, 155),
    (.var, 5), (.bracketIndex, 2), (.dotIndex, 2), (.call, 5), (.methodIndex, 157),
    (.parenthesized, 5), (.table, 19), (.entries, 257), (.entry, 169), (.binary, 19),
    (.unary, 19)]⟩,
  ⟨some .operand, [(21, 89)], [(.name, 64), (.functionWord, 192), (.nilWord, 19),
    (.falseWord, 19), (.trueWord, 19), (.number, 19), (.doubleQuote, 177), (.singleQuote, 178),
    (.ellipsis, 19), (.openParen, 72), (.openBracket, 76), (.openBrace, 60), (.tilde, 73),
    (.minus, 73), (.notWord, 73), (.hash, 73), (.longOpen, 222)], [], [(.expression, 101),
    (.string, 19), (.quotedString, 20), (.longString, 21), (.functionExpr, 19), (.primary, 155),
    (.var, 5), (.bracketIndex, 2), (.dotIndex, 2), (.call, 5), (.methodIndex, 157),
    (.parenthesized, 5), (.table, 19), (.entry, 209), (.binary, 19), (.unary, 19)]⟩,
  ⟨some .operand, [(21, 88)], [(.name, 64), (.functionWord, 192), (.nilWord, 19),
    (.falseWord, 19), (.trueWord, 19), (.number, 19), (.doubleQuote, 177), (.singleQuote, 178),
    (.ellipsis, 19), (.openParen, 72), (.openBracket, 76), (.openBrace, 60), (.tilde, 73),
    (.minus, 73), (.notWord, 73), (.hash, 73), (.longOpen, 222)], [], [(.expression, 101),
    (.string, 19), (.quotedString, 20), (.longString, 21), (.functionExpr, 19), (.primary, 155),
    (.var, 5), (.bracketIndex, 2), (.dotIndex, 2), (.call, 5), (.methodIndex, 157),
    (.parenthesized, 5), (.table, 19), (.entry, 209), (.binary, 19), (.unary, 19)]⟩,
  ⟨some .opening, [(22, 76)], [(.assign, 91)], [], []⟩,
  ⟨some .operand, [], [(.name, 64), (.functionWord, 192), (.nilWord, 19), (.falseWord, 19),
    (.trueWord, 19), (.number, 19), (.doubleQuote, 177), (.singleQuote, 178), (.ellipsis, 19),
    (.openParen, 72), (.openBracket, 76), (.openBrace, 60), (.tilde, 73), (.minus, 73),
    (.notWord, 73), (.hash, 73), (.longOpen, 222)], [], [(.expression, 101), (.string, 19),
    (.quotedString, 20), (.longString, 21), (.functionExpr, 19), (.primary, 155), (.var, 5),
    (.bracketIndex, 2), (.dotIndex, 2), (.call, 5), (.methodIndex, 157), (.parenthesized, 5),
    (.table, 19), (.entry, 209), (.binary, 19), (.unary, 19)]⟩,
  ⟨some .operand, [], [(.name, 2), (.functionWord, 192), (.nilWord, 19), (.falseWord, 19),
    (.trueWord, 19), (.number, 19), (.doubleQuote, 177), (.singleQuote, 178), (.ellipsis, 19),
    (.openParen, 72), (.closeParen, 9), (.openBrace, 60), (.tilde, 73), (.minus, 73),
    (.notWord, 73), (.hash, 73), (.longOpen, 222)], [], [(.expression, 102), (.string, 19),
    (.quotedString, 20), (.longString, 21), (.functionExpr, 19), (.primary, 155), (.var, 5),
    (.bracketIndex, 2), (.dotIndex, 2), (.call, 5), (.methodIndex, 157), (.parenthesized, 5),
    (.table, 19), (.binary, 19), (.unary, 19)]⟩,
  ⟨some .operand, [], [(.name, 2), (.functionWord, 192), (.nilWord, 19), (.falseWord, 19),
    (.trueWord, 19), (.number, 19), (.doubleQuote, 177), (.singleQuote, 178), (.ellipsis, 19),
    (.openParen, 72), (.openBrace, 60), (.tilde, 73), (.minus, 73), (.notWord, 73), (.hash, 73),
    (.longOpen, 222)], [], [(.values, 137), (.expression, 45), (.string, 19), (.quotedString, 20),
    (.longString, 21), (.functionExpr, 19), (.primary, 155), (.var, 5), (.bracketIndex, 2),
    (.dotIndex, 2), (.call, 5), (.methodIndex, 157), (.parenthesized, 5), (.table, 19),
    (.binary, 19), (.unary, 19)]⟩,
  ⟨some .operand, [], [(.name, 2), (.functionWord, 192), (.nilWord, 19), (.falseWord, 19),
    (.trueWord, 19), (.number, 19), (.doubleQuote, 177), (.singleQuote, 178), (.ellipsis, 19),
    (.openParen, 72), (.openBrace, 60), (.tilde, 73), (.minus, 73), (.notWord, 73), (.hash, 73),
    (.longOpen, 222)], [], [(.expressions, 247), (.expression, 97), (.string, 19),
    (.quotedString, 20), (.longString, 21), (.functionExpr, 19), (.primary, 155), (.var, 5),
    (.bracketIndex, 2), (.dotIndex, 2), (.call, 5), (.methodIndex, 157), (.parenthesized, 5),
    (.table, 19), (.binary, 19), (.unary, 19)]⟩,
  ⟨some .operand, [], [(.name, 2), (.functionWord, 192), (.nilWord, 19), (.falseWord, 19),
    (.trueWord, 19), (.number, 19), (.doubleQuote, 177), (.singleQuote, 178), (.ellipsis, 19),
    (.openParen, 72), (.openBrace, 60), (.tilde, 73), (.minus, 73), (.notWord, 73), (.hash, 73),
    (.longOpen, 222)], [], [(.values, 142), (.expression, 45), (.string, 19), (.quotedString, 20),
    (.longString, 21), (.functionExpr, 19), (.primary, 155), (.var, 5), (.bracketIndex, 2),
    (.dotIndex, 2), (.call, 5), (.methodIndex, 157), (.parenthesized, 5), (.table, 19),
    (.binary, 19), (.unary, 19)]⟩,
  ⟨some .operand, [], [(.name, 2), (.functionWord, 192), (.nilWord, 19), (.falseWord, 19),
    (.trueWord, 19), (.number, 19), (.doubleQuote, 177), (.singleQuote, 178), (.ellipsis, 19),
    (.openParen, 72), (.openBrace, 60), (.tilde, 73), (.minus, 73), (.notWord, 73), (.hash, 73),
    (.longOpen, 222)], [], [(.expression, 107), (.string, 19), (.quotedString, 20),
    (.longString, 21), (.functionExpr, 19), (.primary, 155), (.var, 5), (.bracketIndex, 2),
    (.dotIndex, 2), (.call, 5), (.methodIndex, 157), (.parenthesized, 5), (.table, 19),
    (.binary, 19), (.unary, 19)]⟩,
  ⟨some .operand, [], [(.name, 2), (.functionWord, 192), (.nilWord, 19), (.falseWord, 19),
    (.trueWord, 19), (.number, 19), (.doubleQuote, 177), (.singleQuote, 178), (.ellipsis, 19),
    (.openParen, 72), (.openBrace, 60), (.tilde, 73), (.minus, 73), (.notWord, 73), (.hash, 73),
    (.longOpen, 222)], [], [(.expression, 108), (.string, 19), (.quotedString, 20),
    (.longString, 21), (.functionExpr, 19), (.primary, 155), (.var, 5), (.bracketIndex, 2),
    (.dotIndex, 2), (.call, 5), (.methodIndex, 157), (.parenthesized, 5), (.table, 19),
    (.binary, 19), (.unary, 19)]⟩,
  ⟨some .operand, [], [(.name, 2), (.functionWord, 192), (.nilWord, 19), (.falseWord, 19),
    (.trueWord, 19), (.number, 19), (.doubleQuote, 177), (.singleQuote, 178), (.ellipsis, 19),
    (.openParen, 72), (.openBrace, 60), (.tilde, 73), (.minus, 73), (.notWord, 73), (.hash, 73),
    (.longOpen, 222)], [], [(.expression, 109), (.string, 19), (.quotedString, 20),
    (.longString, 21), (.functionExpr, 19), (.primary, 155), (.var, 5), (.bracketIndex, 2),
    (.dotIndex, 2), (.call, 5), (.methodIndex, 157), (.parenthesized, 5), (.table, 19),
    (.binary, 19), (.unary, 19)]⟩,
  ⟨some .operand, [], [(.name, 2), (.functionWord, 192), (.nilWord, 19), (.falseWord, 19),
    (.trueWord, 19), (.number, 19), (.doubleQuote, 177), (.singleQuote, 178), (.ellipsis, 19),
    (.openParen, 72), (.openBrace, 60), (.tilde, 73), (.minus, 73), (.notWord, 73), (.hash, 73),
    (.longOpen, 222)], [], [(.expression, 25), (.string, 19), (.quotedString, 20),
    (.longString, 21), (.functionExpr, 19), (.primary, 155), (.var, 5), (.bracketIndex, 2),
    (.dotIndex, 2), (.call, 5), (.methodIndex, 157), (.parenthesized, 5), (.table, 19),
    (.binary, 19), (.unary, 19)]⟩,
  ⟨some .operand, [], [(.name, 2), (.functionWord, 192), (.nilWord, 19), (.falseWord, 19),
    (.trueWord, 19), (.number, 19), (.doubleQuote, 177), (.singleQuote, 178), (.ellipsis, 19),
    (.openParen, 72), (.openBrace, 60), (.tilde, 73), (.minus, 73), (.notWord, 73), (.hash, 73),
    (.longOpen, 222)], [], [(.expression, 52), (.string, 19), (.quotedString, 20),
    (.longString, 21), (.functionExpr, 19), (.primary, 155), (.var, 5), (.bracketIndex, 2),
    (.dotIndex, 2), (.call, 5), (.methodIndex, 157), (.parenthesized, 5), (.table, 19),
    (.binary, 19), (.unary, 19)]⟩,
  ⟨some .operand, [], [(.name, 2), (.functionWord, 192), (.nilWord, 19), (.falseWord, 19),
    (.trueWord, 19), (.number, 19), (.doubleQuote, 177), (.singleQuote, 178), (.ellipsis, 19),
    (.openParen, 72), (.openBrace, 60), (.tilde, 73), (.minus, 73), (.notWord, 73), (.hash, 73),
    (.longOpen, 222)], [], [(.expression, 112), (.string, 19), (.quotedString, 20),
    (.longString, 21), (.functionExpr, 19), (.primary, 155), (.var, 5), (.bracketIndex, 2),
    (.dotIndex, 2), (.call, 5), (.methodIndex, 157), (.parenthesized, 5), (.table, 19),
    (.binary, 19), (.unary, 19)]⟩]

/-- The states from 76 to 113. -/
def rows3 : List Row := [
  ⟨some .operand, [], [(.name, 2), (.functionWord, 192), (.nilWord, 19), (.falseWord, 19),
    (.trueWord, 19), (.number, 19), (.doubleQuote, 177), (.singleQuote, 178), (.ellipsis, 19),
    (.openParen, 72), (.openBrace, 60), (.tilde, 73), (.minus, 73), (.notWord, 73), (.hash, 73),
    (.longOpen, 222)], [], [(.expression, 113), (.string, 19), (.quotedString, 20),
    (.longString, 21), (.functionExpr, 19), (.primary, 155), (.var, 5), (.bracketIndex, 2),
    (.dotIndex, 2), (.call, 5), (.methodIndex, 157), (.parenthesized, 5), (.table, 19),
    (.binary, 19), (.unary, 19)]⟩,
  ⟨some .operand, [], [(.name, 2), (.functionWord, 192), (.nilWord, 19), (.falseWord, 19),
    (.trueWord, 19), (.number, 19), (.doubleQuote, 177), (.singleQuote, 178), (.ellipsis, 19),
    (.openParen, 72), (.openBrace, 60), (.tilde, 73), (.minus, 73), (.notWord, 73), (.hash, 73),
    (.longOpen, 222)], [], [(.expression, 98), (.string, 19), (.quotedString, 20),
    (.longString, 21), (.functionExpr, 19), (.primary, 155), (.var, 5), (.bracketIndex, 2),
    (.dotIndex, 2), (.call, 5), (.methodIndex, 157), (.parenthesized, 5), (.table, 19),
    (.binary, 19), (.unary, 19)]⟩,
  ⟨some .operand, [], [(.name, 2), (.functionWord, 192), (.nilWord, 19), (.falseWord, 19),
    (.trueWord, 19), (.number, 19), (.doubleQuote, 177), (.singleQuote, 178), (.ellipsis, 19),
    (.openParen, 72), (.openBrace, 60), (.tilde, 73), (.minus, 73), (.notWord, 73), (.hash, 73),
    (.longOpen, 222)], [], [(.expression, 31), (.string, 19), (.quotedString, 20),
    (.longString, 21), (.functionExpr, 19), (.primary, 155), (.var, 5), (.bracketIndex, 2),
    (.dotIndex, 2), (.call, 5), (.methodIndex, 157), (.parenthesized, 5), (.table, 19),
    (.binary, 19), (.unary, 19)]⟩,
  ⟨some .operand, [], [(.name, 2), (.functionWord, 192), (.nilWord, 19), (.falseWord, 19),
    (.trueWord, 19), (.number, 19), (.doubleQuote, 177), (.singleQuote, 178), (.ellipsis, 19),
    (.openParen, 72), (.openBrace, 60), (.tilde, 73), (.minus, 73), (.notWord, 73), (.hash, 73),
    (.longOpen, 222)], [], [(.expression, 32), (.string, 19), (.quotedString, 20),
    (.longString, 21), (.functionExpr, 19), (.primary, 155), (.var, 5), (.bracketIndex, 2),
    (.dotIndex, 2), (.call, 5), (.methodIndex, 157), (.parenthesized, 5), (.table, 19),
    (.binary, 19), (.unary, 19)]⟩,
  ⟨some .operand, [], [(.name, 2), (.functionWord, 192), (.nilWord, 19), (.falseWord, 19),
    (.trueWord, 19), (.number, 19), (.doubleQuote, 177), (.singleQuote, 178), (.ellipsis, 19),
    (.openParen, 72), (.openBrace, 60), (.tilde, 73), (.minus, 73), (.notWord, 73), (.hash, 73),
    (.longOpen, 222)], [], [(.expression, 33), (.string, 19), (.quotedString, 20),
    (.longString, 21), (.functionExpr, 19), (.primary, 155), (.var, 5), (.bracketIndex, 2),
    (.dotIndex, 2), (.call, 5), (.methodIndex, 157), (.parenthesized, 5), (.table, 19),
    (.binary, 19), (.unary, 19)]⟩,
  ⟨some .operand, [], [(.name, 2), (.functionWord, 192), (.nilWord, 19), (.falseWord, 19),
    (.trueWord, 19), (.number, 19), (.doubleQuote, 177), (.singleQuote, 178), (.ellipsis, 19),
    (.openParen, 72), (.openBrace, 60), (.tilde, 73), (.minus, 73), (.notWord, 73), (.hash, 73),
    (.longOpen, 222)], [], [(.expression, 34), (.string, 19), (.quotedString, 20),
    (.longString, 21), (.functionExpr, 19), (.primary, 155), (.var, 5), (.bracketIndex, 2),
    (.dotIndex, 2), (.call, 5), (.methodIndex, 157), (.parenthesized, 5), (.table, 19),
    (.binary, 19), (.unary, 19)]⟩,
  ⟨some .operand, [], [(.name, 2), (.functionWord, 192), (.nilWord, 19), (.falseWord, 19),
    (.trueWord, 19), (.number, 19), (.doubleQuote, 177), (.singleQuote, 178), (.ellipsis, 19),
    (.openParen, 72), (.openBrace, 60), (.tilde, 73), (.minus, 73), (.notWord, 73), (.hash, 73),
    (.longOpen, 222)], [], [(.expression, 35), (.string, 19), (.quotedString, 20),
    (.longString, 21), (.functionExpr, 19), (.primary, 155), (.var, 5), (.bracketIndex, 2),
    (.dotIndex, 2), (.call, 5), (.methodIndex, 157), (.parenthesized, 5), (.table, 19),
    (.binary, 19), (.unary, 19)]⟩,
  ⟨some .operand, [], [(.name, 2), (.functionWord, 192), (.nilWord, 19), (.falseWord, 19),
    (.trueWord, 19), (.number, 19), (.doubleQuote, 177), (.singleQuote, 178), (.ellipsis, 19),
    (.openParen, 72), (.openBrace, 60), (.tilde, 73), (.minus, 73), (.notWord, 73), (.hash, 73),
    (.longOpen, 222)], [], [(.expression, 36), (.string, 19), (.quotedString, 20),
    (.longString, 21), (.functionExpr, 19), (.primary, 155), (.var, 5), (.bracketIndex, 2),
    (.dotIndex, 2), (.call, 5), (.methodIndex, 157), (.parenthesized, 5), (.table, 19),
    (.binary, 19), (.unary, 19)]⟩,
  ⟨some .operand, [], [(.name, 2), (.functionWord, 192), (.nilWord, 19), (.falseWord, 19),
    (.trueWord, 19), (.number, 19), (.doubleQuote, 177), (.singleQuote, 178), (.ellipsis, 19),
    (.openParen, 72), (.openBrace, 60), (.tilde, 73), (.minus, 73), (.notWord, 73), (.hash, 73),
    (.longOpen, 222)], [], [(.expression, 37), (.string, 19), (.quotedString, 20),
    (.longString, 21), (.functionExpr, 19), (.primary, 155), (.var, 5), (.bracketIndex, 2),
    (.dotIndex, 2), (.call, 5), (.methodIndex, 157), (.parenthesized, 5), (.table, 19),
    (.binary, 19), (.unary, 19)]⟩,
  ⟨some .operand, [], [(.name, 2), (.functionWord, 192), (.nilWord, 19), (.falseWord, 19),
    (.trueWord, 19), (.number, 19), (.doubleQuote, 177), (.singleQuote, 178), (.ellipsis, 19),
    (.openParen, 72), (.openBrace, 60), (.tilde, 73), (.minus, 73), (.notWord, 73), (.hash, 73),
    (.longOpen, 222)], [], [(.expression, 38), (.string, 19), (.quotedString, 20),
    (.longString, 21), (.functionExpr, 19), (.primary, 155), (.var, 5), (.bracketIndex, 2),
    (.dotIndex, 2), (.call, 5), (.methodIndex, 157), (.parenthesized, 5), (.table, 19),
    (.binary, 19), (.unary, 19)]⟩,
  ⟨some .operand, [], [(.name, 2), (.functionWord, 192), (.nilWord, 19), (.falseWord, 19),
    (.trueWord, 19), (.number, 19), (.doubleQuote, 177), (.singleQuote, 178), (.ellipsis, 19),
    (.openParen, 72), (.openBrace, 60), (.tilde, 73), (.minus, 73), (.notWord, 73), (.hash, 73),
    (.longOpen, 222)], [], [(.expression, 39), (.string, 19), (.quotedString, 20),
    (.longString, 21), (.functionExpr, 19), (.primary, 155), (.var, 5), (.bracketIndex, 2),
    (.dotIndex, 2), (.call, 5), (.methodIndex, 157), (.parenthesized, 5), (.table, 19),
    (.binary, 19), (.unary, 19)]⟩,
  ⟨some .operand, [], [(.name, 2), (.functionWord, 192), (.nilWord, 19), (.falseWord, 19),
    (.trueWord, 19), (.number, 19), (.doubleQuote, 177), (.singleQuote, 178), (.ellipsis, 19),
    (.openParen, 72), (.openBrace, 60), (.tilde, 73), (.minus, 73), (.notWord, 73), (.hash, 73),
    (.longOpen, 222)], [], [(.expression, 40), (.string, 19), (.quotedString, 20),
    (.longString, 21), (.functionExpr, 19), (.primary, 155), (.var, 5), (.bracketIndex, 2),
    (.dotIndex, 2), (.call, 5), (.methodIndex, 157), (.parenthesized, 5), (.table, 19),
    (.binary, 19), (.unary, 19)]⟩,
  ⟨some .operand, [], [(.name, 2), (.functionWord, 192), (.nilWord, 19), (.falseWord, 19),
    (.trueWord, 19), (.number, 19), (.doubleQuote, 177), (.singleQuote, 178), (.ellipsis, 19),
    (.openParen, 72), (.openBrace, 60), (.tilde, 73), (.minus, 73), (.notWord, 73), (.hash, 73),
    (.longOpen, 222)], [], [(.expression, 41), (.string, 19), (.quotedString, 20),
    (.longString, 21), (.functionExpr, 19), (.primary, 155), (.var, 5), (.bracketIndex, 2),
    (.dotIndex, 2), (.call, 5), (.methodIndex, 157), (.parenthesized, 5), (.table, 19),
    (.binary, 19), (.unary, 19)]⟩,
  ⟨some .operand, [], [(.name, 2), (.functionWord, 192), (.nilWord, 19), (.falseWord, 19),
    (.trueWord, 19), (.number, 19), (.doubleQuote, 177), (.singleQuote, 178), (.ellipsis, 19),
    (.openParen, 72), (.openBrace, 60), (.tilde, 73), (.minus, 73), (.notWord, 73), (.hash, 73),
    (.longOpen, 222)], [], [(.expression, 54), (.string, 19), (.quotedString, 20),
    (.longString, 21), (.functionExpr, 19), (.primary, 155), (.var, 5), (.bracketIndex, 2),
    (.dotIndex, 2), (.call, 5), (.methodIndex, 157), (.parenthesized, 5), (.table, 19),
    (.binary, 19), (.unary, 19)]⟩,
  ⟨some .operand, [], [(.name, 2), (.functionWord, 192), (.nilWord, 19), (.falseWord, 19),
    (.trueWord, 19), (.number, 19), (.doubleQuote, 177), (.singleQuote, 178), (.ellipsis, 19),
    (.openParen, 72), (.openBrace, 60), (.tilde, 73), (.minus, 73), (.notWord, 73), (.hash, 73),
    (.longOpen, 222)], [], [(.expression, 114), (.string, 19), (.quotedString, 20),
    (.longString, 21), (.functionExpr, 19), (.primary, 155), (.var, 5), (.bracketIndex, 2),
    (.dotIndex, 2), (.call, 5), (.methodIndex, 157), (.parenthesized, 5), (.table, 19),
    (.binary, 19), (.unary, 19)]⟩,
  ⟨some .operand, [], [(.name, 2), (.functionWord, 192), (.nilWord, 19), (.falseWord, 19),
    (.trueWord, 19), (.number, 19), (.doubleQuote, 177), (.singleQuote, 178), (.ellipsis, 19),
    (.openParen, 72), (.openBrace, 60), (.tilde, 73), (.minus, 73), (.notWord, 73), (.hash, 73),
    (.longOpen, 222)], [], [(.expression, 103), (.string, 19), (.quotedString, 20),
    (.longString, 21), (.functionExpr, 19), (.primary, 155), (.var, 5), (.bracketIndex, 2),
    (.dotIndex, 2), (.call, 5), (.methodIndex, 157), (.parenthesized, 5), (.table, 19),
    (.binary, 19), (.unary, 19)]⟩,
  ⟨some .operand, [], [(.name, 2), (.functionWord, 192), (.nilWord, 19), (.falseWord, 19),
    (.trueWord, 19), (.number, 19), (.doubleQuote, 177), (.singleQuote, 178), (.ellipsis, 19),
    (.openParen, 72), (.openBrace, 60), (.tilde, 73), (.minus, 73), (.notWord, 73), (.hash, 73),
    (.longOpen, 222)], [], [(.expression, 117), (.string, 19), (.quotedString, 20),
    (.longString, 21), (.functionExpr, 19), (.primary, 155), (.var, 5), (.bracketIndex, 2),
    (.dotIndex, 2), (.call, 5), (.methodIndex, 157), (.parenthesized, 5), (.table, 19),
    (.binary, 19), (.unary, 19)]⟩,
  ⟨some .operand, [], [(.name, 2), (.functionWord, 192), (.nilWord, 19), (.falseWord, 19),
    (.trueWord, 19), (.number, 19), (.doubleQuote, 177), (.singleQuote, 178), (.ellipsis, 19),
    (.openParen, 72), (.openBrace, 60), (.tilde, 73), (.minus, 73), (.notWord, 73), (.hash, 73),
    (.longOpen, 222)], [], [(.expression, 47), (.string, 19), (.quotedString, 20),
    (.longString, 21), (.functionExpr, 19), (.primary, 155), (.var, 5), (.bracketIndex, 2),
    (.dotIndex, 2), (.call, 5), (.methodIndex, 157), (.parenthesized, 5), (.table, 19),
    (.binary, 19), (.unary, 19)]⟩,
  ⟨some .operand, [], [(.name, 2), (.functionWord, 192), (.nilWord, 19), (.falseWord, 19),
    (.trueWord, 19), (.number, 19), (.doubleQuote, 177), (.singleQuote, 178), (.ellipsis, 19),
    (.openParen, 72), (.openBrace, 60), (.tilde, 73), (.minus, 73), (.notWord, 73), (.hash, 73),
    (.longOpen, 222)], [], [(.expression, 106), (.string, 19), (.quotedString, 20),
    (.longString, 21), (.functionExpr, 19), (.primary, 155), (.var, 5), (.bracketIndex, 2),
    (.dotIndex, 2), (.call, 5), (.methodIndex, 157), (.parenthesized, 5), (.table, 19),
    (.binary, 19), (.unary, 19)]⟩,
  ⟨some .operand, [], [(.name, 2), (.functionWord, 192), (.nilWord, 19), (.falseWord, 19),
    (.trueWord, 19), (.number, 19), (.doubleQuote, 177), (.singleQuote, 178), (.ellipsis, 19),
    (.openParen, 72), (.openBrace, 60), (.tilde, 73), (.minus, 73), (.notWord, 73), (.hash, 73),
    (.longOpen, 222)], [], [(.expression, 104), (.string, 19), (.quotedString, 20),
    (.longString, 21), (.functionExpr, 19), (.primary, 155), (.var, 5), (.bracketIndex, 2),
    (.dotIndex, 2), (.call, 5), (.methodIndex, 157), (.parenthesized, 5), (.table, 19),
    (.binary, 19), (.unary, 19)]⟩,
  ⟨some .operand, [], [(.name, 2), (.functionWord, 192), (.nilWord, 19), (.falseWord, 19),
    (.trueWord, 19), (.number, 19), (.doubleQuote, 177), (.singleQuote, 178), (.ellipsis, 19),
    (.openParen, 72), (.openBrace, 60), (.tilde, 73), (.minus, 73), (.notWord, 73), (.hash, 73),
    (.longOpen, 222)], [], [(.expression, 118), (.string, 19), (.quotedString, 20),
    (.longString, 21), (.functionExpr, 19), (.primary, 155), (.var, 5), (.bracketIndex, 2),
    (.dotIndex, 2), (.call, 5), (.methodIndex, 157), (.parenthesized, 5), (.table, 19),
    (.binary, 19), (.unary, 19)]⟩,
  ⟨some .general, [(23, 55)], [(.comma, 77), (.less, 78), (.greater, 78), (.orWord, 79),
    (.andWord, 80), (.lessEqual, 78), (.equal, 78), (.notEqual, 78), (.greaterEqual, 78),
    (.pipe, 81), (.tilde, 82), (.ampersand, 83), (.shiftLeft, 84), (.shiftRight, 84), (.plus, 85),
    (.minus, 85), (.star, 86), (.slash, 86), (.doubleSlash, 86), (.percent, 86), (.concat, 87),
    (.caret, 88)], [], [(.moreExpressions, 161)]⟩,
  ⟨some .general, [(24, 112)], [(.less, 78), (.greater, 78), (.orWord, 79), (.andWord, 80),
    (.lessEqual, 78), (.equal, 78), (.notEqual, 78), (.greaterEqual, 78), (.pipe, 81),
    (.tilde, 82), (.ampersand, 83), (.shiftLeft, 84), (.shiftRight, 84), (.plus, 85), (.minus, 85),
    (.star, 86), (.slash, 86), (.doubleSlash, 86), (.percent, 86), (.concat, 87), (.caret, 88)],
    [], []⟩,
  ⟨some .opening, [(25, 6), (3, 75)], [], [], []⟩,
  ⟨some .general, [(26, 52)], [(.comma, 239), (.less, 240)], [], [(.attribute, 110),
    (.moreLocalNames, 111)]⟩,
  ⟨some .general, [(27, 94)], [(.less, 78), (.greater, 78), (.orWord, 79), (.andWord, 80),
    (.lessEqual, 78), (.equal, 78), (.notEqual, 78), (.greaterEqual, 78), (.pipe, 81),
    (.tilde, 82), (.ampersand, 83), (.shiftLeft, 84), (.shiftRight, 84), (.plus, 85), (.minus, 85),
    (.star, 86), (.slash, 86), (.doubleSlash, 86), (.percent, 86), (.concat, 87), (.caret, 88)],
    [], []⟩,
  ⟨some .general, [], [(.comma, 77), (.less, 78), (.greater, 78), (.closeParen, 10),
    (.orWord, 79), (.andWord, 80), (.lessEqual, 78), (.equal, 78), (.notEqual, 78),
    (.greaterEqual, 78), (.pipe, 81), (.tilde, 82), (.ampersand, 83), (.shiftLeft, 84),
    (.shiftRight, 84), (.plus, 85), (.minus, 85), (.star, 86), (.slash, 86), (.doubleSlash, 86),
    (.percent, 86), (.concat, 87), (.caret, 88)], [], [(.moreExpressions, 207)]⟩,
  ⟨some .general, [(27, 93)], [(.less, 78), (.greater, 78), (.orWord, 79), (.andWord, 80),
    (.lessEqual, 78), (.equal, 78), (.notEqual, 78), (.greaterEqual, 78), (.pipe, 81),
    (.tilde, 82), (.ampersand, 83), (.shiftLeft, 84), (.shiftRight, 84), (.plus, 85), (.minus, 85),
    (.star, 86), (.slash, 86), (.doubleSlash, 86), (.percent, 86), (.concat, 87), (.caret, 88)],
    [], []⟩,
  ⟨some .general, [(27, 92)], [(.less, 78), (.greater, 78), (.orWord, 79), (.andWord, 80),
    (.lessEqual, 78), (.equal, 78), (.notEqual, 78), (.greaterEqual, 78), (.pipe, 81),
    (.tilde, 82), (.ampersand, 83), (.shiftLeft, 84), (.shiftRight, 84), (.plus, 85), (.minus, 85),
    (.star, 86), (.slash, 86), (.doubleSlash, 86), (.percent, 86), (.concat, 87), (.caret, 88)],
    [], []⟩,
  ⟨some .general, [(28, 111)], [(.less, 240)], [], [(.attribute, 120)]⟩,
  ⟨some .general, [(29, 38)], [(.comma, 96), (.less, 78), (.greater, 78), (.orWord, 79),
    (.andWord, 80), (.lessEqual, 78), (.equal, 78), (.notEqual, 78), (.greaterEqual, 78),
    (.pipe, 81), (.tilde, 82), (.ampersand, 83), (.shiftLeft, 84), (.shiftRight, 84), (.plus, 85),
    (.minus, 85), (.star, 86), (.slash, 86), (.doubleSlash, 86), (.percent, 86), (.concat, 87),
    (.caret, 88)], [], []⟩,
  ⟨some .general, [], [(.doWord, 51), (.less, 78), (.greater, 78), (.orWord, 79), (.andWord, 80),
    (.lessEqual, 78), (.equal, 78), (.notEqual, 78), (.greaterEqual, 78), (.pipe, 81),
    (.tilde, 82), (.ampersand, 83), (.shiftLeft, 84), (.shiftRight, 84), (.plus, 85), (.minus, 85),
    (.star, 86), (.slash, 86), (.doubleSlash, 86), (.percent, 86), (.concat, 87), (.caret, 88)],
    [], []⟩,
  ⟨some .general, [], [(.thenWord, 26), (.less, 78), (.greater, 78), (.orWord, 79),
    (.andWord, 80), (.lessEqual, 78), (.equal, 78), (.notEqual, 78), (.greaterEqual, 78),
    (.pipe, 81), (.tilde, 82), (.ampersand, 83), (.shiftLeft, 84), (.shiftRight, 84), (.plus, 85),
    (.minus, 85), (.star, 86), (.slash, 86), (.doubleSlash, 86), (.percent, 86), (.concat, 87),
    (.caret, 88)], [], []⟩,
  ⟨some .general, [], [(.less, 78), (.greater, 78), (.closeParen, 8), (.orWord, 79),
    (.andWord, 80), (.lessEqual, 78), (.equal, 78), (.notEqual, 78), (.greaterEqual, 78),
    (.pipe, 81), (.tilde, 82), (.ampersand, 83), (.shiftLeft, 84), (.shiftRight, 84), (.plus, 85),
    (.minus, 85), (.star, 86), (.slash, 86), (.doubleSlash, 86), (.percent, 86), (.concat, 87),
    (.caret, 88)], [], []⟩,
  ⟨some .general, [(26, 51)], [(.comma, 239)], [], [(.moreLocalNames, 115)]⟩,
  ⟨some .general, [(26, 51)], [(.comma, 239)], [], [(.moreLocalNames, 116)]⟩,
  ⟨some .general, [], [(.less, 78), (.greater, 78), (.closeBracket, 4), (.orWord, 79),
    (.andWord, 80), (.lessEqual, 78), (.equal, 78), (.notEqual, 78), (.greaterEqual, 78),
    (.pipe, 81), (.tilde, 82), (.ampersand, 83), (.shiftLeft, 84), (.shiftRight, 84), (.plus, 85),
    (.minus, 85), (.star, 86), (.slash, 86), (.doubleSlash, 86), (.percent, 86), (.concat, 87),
    (.caret, 88)], [], []⟩,
  ⟨some .general, [], [(.less, 78), (.greater, 78), (.closeBracket, 250), (.orWord, 79),
    (.andWord, 80), (.lessEqual, 78), (.equal, 78), (.notEqual, 78), (.greaterEqual, 78),
    (.pipe, 81), (.tilde, 82), (.ampersand, 83), (.shiftLeft, 84), (.shiftRight, 84), (.plus, 85),
    (.minus, 85), (.star, 86), (.slash, 86), (.doubleSlash, 86), (.percent, 86), (.concat, 87),
    (.caret, 88)], [], []⟩]

/-- The states from 114 to 151. -/
def rows4 : List Row := [
  ⟨some .general, [], [(.comma, 94), (.less, 78), (.greater, 78), (.orWord, 79), (.andWord, 80),
    (.lessEqual, 78), (.equal, 78), (.notEqual, 78), (.greaterEqual, 78), (.pipe, 81),
    (.tilde, 82), (.ampersand, 83), (.shiftLeft, 84), (.shiftRight, 84), (.plus, 85), (.minus, 85),
    (.star, 86), (.slash, 86), (.doubleSlash, 86), (.percent, 86), (.concat, 87), (.caret, 88)],
    [], []⟩,
  ⟨some .general, [(26, 50)], [(.comma, 239)], [], [(.moreLocalNames, 116)]⟩,
  ⟨some .general, [(28, 109)], [], [(.comma, 239)], [(.moreLocalNames, 116)]⟩,
  ⟨some .general, [], [(.thenWord, 46), (.less, 78), (.greater, 78), (.orWord, 79),
    (.andWord, 80), (.lessEqual, 78), (.equal, 78), (.notEqual, 78), (.greaterEqual, 78),
    (.pipe, 81), (.tilde, 82), (.ampersand, 83), (.shiftLeft, 84), (.shiftRight, 84), (.plus, 85),
    (.minus, 85), (.star, 86), (.slash, 86), (.doubleSlash, 86), (.percent, 86), (.concat, 87),
    (.caret, 88)], [], []⟩,
  ⟨some .general, [(29, 37)], [(.less, 78), (.greater, 78), (.orWord, 79), (.andWord, 80),
    (.lessEqual, 78), (.equal, 78), (.notEqual, 78), (.greaterEqual, 78), (.pipe, 81),
    (.tilde, 82), (.ampersand, 83), (.shiftLeft, 84), (.shiftRight, 84), (.plus, 85), (.minus, 85),
    (.star, 86), (.slash, 86), (.doubleSlash, 86), (.percent, 86), (.concat, 87), (.caret, 88)],
    [], []⟩,
  ⟨some .general, [(16, 14)], [(.comma, 93)], [], [(.moreValues, 122)]⟩,
  ⟨some .general, [(28, 110)], [], [], []⟩,
  ⟨some .general, [(28, 53)], [], [], []⟩,
  ⟨some .general, [(18, 103)], [], [(.comma, 93)], [(.moreValues, 122)]⟩,
  ⟨some .general, [(16, 46)], [(.assign, 69)], [], []⟩,
  ⟨some .general, [(16, 10)], [], [], []⟩,
  ⟨some .general, [(16, 6)], [], [], []⟩,
  ⟨some .general, [(16, 100)], [], [], []⟩,
  ⟨some .general, [(16, 6)], [], [], []⟩,
  ⟨some .general, [(16, 39)], [], [], []⟩,
  ⟨some .general, [(16, 39)], [], [], []⟩,
  ⟨some .general, [(16, 39)], [], [], []⟩,
  ⟨some .general, [(16, 17)], [], [], []⟩,
  ⟨some .general, [(16, 19)], [], [], []⟩,
  ⟨some .general, [(16, 46)], [], [], []⟩,
  ⟨some .general, [(16, 16)], [], [], []⟩,
  ⟨some .general, [(16, 18)], [], [], []⟩,
  ⟨some .general, [(16, 40)], [], [], []⟩,
  ⟨some .general, [(16, 11)], [], [], []⟩,
  ⟨some .general, [(16, 21)], [], [], []⟩,
  ⟨some .general, [(16, 29)], [], [], []⟩,
  ⟨some .general, [(16, 35)], [], [], []⟩,
  ⟨some .general, [(16, 41)], [], [], []⟩,
  ⟨some .general, [(16, 47)], [], [], []⟩,
  ⟨some .general, [(16, 20)], [], [], []⟩,
  ⟨some .general, [(16, 26)], [], [], []⟩,
  ⟨some .general, [(16, 28)], [], [], []⟩,
  ⟨some .general, [(16, 28)], [], [], []⟩,
  ⟨some .general, [(16, 34)], [], [], []⟩,
  ⟨some .general, [(16, 25)], [], [], []⟩,
  ⟨some .general, [(16, 25)], [], [], []⟩,
  ⟨some .general, [(16, 27)], [], [], []⟩,
  ⟨some .general, [(16, 24)], [], [], []⟩]

/-- The states from 152 to 189. -/
def rows5 : List Row := [
  ⟨some .operand, [(30, 91)], [], [], []⟩,
  ⟨some .general, [(31, 69)], [], [], []⟩,
  ⟨some .general, [(31, 68)], [], [], []⟩,
  ⟨some .opening, [], [(.dot, 231), (.colon, 232), (.doubleQuote, 188), (.singleQuote, 189),
    (.openParen, 66), (.openBracket, 75), (.openBrace, 61), (.longOpen, 259)], [], [(.string, 7),
    (.quotedString, 12), (.longString, 13), (.arguments, 6), (.table, 7)]⟩,
  ⟨some .opening, [(32, 13), (3, 75)], [(.comma, 160)], [], [(.moreTargets, 197)]⟩,
  ⟨some .general, [], [(.doubleQuote, 188), (.singleQuote, 189), (.openParen, 66),
    (.openBrace, 61), (.longOpen, 259)], [], [(.string, 7), (.quotedString, 12), (.longString, 13),
    (.arguments, 6), (.table, 7)]⟩,
  ⟨some .opening, [(33, 102), (3, 75)], [], [], []⟩,
  ⟨some .general, [(24, 112)], [], [(.comma, 77)], [(.moreExpressions, 159)]⟩,
  ⟨some .general, [], [(.name, 2), (.openParen, 72)], [], [(.primary, 155), (.var, 158),
    (.bracketIndex, 2), (.dotIndex, 2), (.call, 162), (.methodIndex, 157), (.parenthesized, 162)]⟩,
  ⟨some .general, [(23, 54)], [(.comma, 77)], [], [(.moreExpressions, 159)]⟩,
  ⟨some .opening, [(3, 75)], [], [], []⟩,
  ⟨some .general, [(20, 8)], [(.semicolon, 170)], [], []⟩,
  ⟨some .general, [], [(.endWord, 144), (.elseifWord, 92), (.elseWord, 55)], [],
    [(.elseifClause, 204), (.elseClause, 252), (.elseifClauses, 166)]⟩,
  ⟨some .general, [], [(.endWord, 145), (.elseifWord, 92), (.elseWord, 55)], [],
    [(.elseifClause, 204), (.elseClause, 253), (.elseifClauses, 174)]⟩,
  ⟨some .general, [], [(.endWord, 148), (.elseifWord, 92), (.elseWord, 55)], [],
    [(.elseifClause, 204), (.elseClause, 255), (.elseifClauses, 174)]⟩,
  ⟨some .general, [], [(.name, 193)], [], [(.functionName, 194), (.functionPath, 195),
    (.functionField, 196), (.functionMethod, 228)]⟩,
  ⟨some .general, [(20, 8)], [], [], []⟩,
  ⟨some .general, [(21, 90)], [(.semicolon, 152), (.comma, 152)], [], [(.separator, 62),
    (.moreEntries, 172)]⟩,
  ⟨some .general, [(20, 7)], [], [], []⟩,
  ⟨some .general, [(34, 80)], [], [], []⟩,
  ⟨some .general, [(21, 89)], [(.semicolon, 152), (.comma, 152)], [], [(.separator, 63),
    (.moreEntries, 173)]⟩,
  ⟨some .general, [(27, 113)], [], [(.semicolon, 152), (.comma, 152)], [(.separator, 65),
    (.moreEntries, 173)]⟩,
  ⟨some .general, [(17, 105)], [], [(.elseifWord, 92)], [(.elseifClause, 204),
    (.elseifClauses, 174)]⟩,
  ⟨some .general, [], [(.name, 180)], [], [(.genericClause, 226), (.numericClause, 226),
    (.names, 227)]⟩,
  ⟨some .general, [], [(.name, 100), (.functionWord, 229)], [], [(.localAssignment, 133),
    (.localNames, 123)]⟩,
  ⟨some .doubleQuoted, [], [(.doubleQuote, 23), (.doubleText, 198), (.escape, 198)], [],
    [(.doubleContent, 182)]⟩,
  ⟨some .singleQuoted, [], [(.singleQuote, 23), (.singleText, 199), (.escape, 199)], [],
    [(.singleContent, 183)]⟩,
  ⟨some .general, [(15, 5)], [], [], []⟩,
  ⟨some .general, [(35, 49)], [(.assign, 90), (.comma, 236)], [], [(.moreNames, 200)]⟩,
  ⟨some .operand, [], [(.name, 203), (.ellipsis, 241), (.closeParen, 153)], [],
    [(.parameterList, 242)]⟩,
  ⟨some .doubleQuoted, [], [(.doubleQuote, 28), (.doubleText, 198), (.escape, 198)], [],
    [(.doubleContent, 185)]⟩,
  ⟨some .singleQuoted, [], [(.singleQuote, 28), (.singleText, 199), (.escape, 199)], [],
    [(.singleContent, 186)]⟩,
  ⟨some .general, [(15, 4)], [], [], []⟩,
  ⟨some .doubleQuoted, [(36, 60)], [], [(.doubleText, 198), (.escape, 198)],
    [(.doubleContent, 185)]⟩,
  ⟨some .singleQuoted, [(37, 62)], [], [(.singleText, 199), (.escape, 199)],
    [(.singleContent, 186)]⟩,
  ⟨some .general, [(38, 107)], [], [(.comma, 236)], [(.moreNames, 187)]⟩,
  ⟨some .doubleQuoted, [], [(.doubleQuote, 14), (.doubleText, 198), (.escape, 198)], [],
    [(.doubleContent, 190)]⟩,
  ⟨some .singleQuoted, [], [(.singleQuote, 14), (.singleText, 199), (.escape, 199)], [],
    [(.singleContent, 191)]⟩]

/-- The states from 190 to 227. -/
def rows6 : List Row := [
  ⟨some .doubleQuoted, [], [(.doubleQuote, 16), (.doubleText, 198), (.escape, 198)], [],
    [(.doubleContent, 185)]⟩,
  ⟨some .singleQuoted, [], [(.singleQuote, 16), (.singleText, 199), (.escape, 199)], [],
    [(.singleContent, 186)]⟩,
  ⟨some .general, [], [(.openParen, 181)], [], [(.functionBody, 22), (.parameters, 50)]⟩,
  ⟨some .opening, [(39, 43)], [], [], []⟩,
  ⟨some .general, [], [(.openParen, 181)], [], [(.functionBody, 136), (.parameters, 50)]⟩,
  ⟨some .opening, [(40, 42)], [(.dot, 237), (.colon, 238)], [], []⟩,
  ⟨some .opening, [(39, 43)], [], [], []⟩,
  ⟨some .general, [(32, 12)], [(.comma, 160)], [], [(.moreTargets, 202)]⟩,
  ⟨some .doubleQuoted, [(36, 61)], [], [], []⟩,
  ⟨some .singleQuoted, [(37, 63)], [], [], []⟩,
  ⟨some .general, [(35, 48)], [(.comma, 236)], [], [(.moreNames, 187)]⟩,
  ⟨some .general, [], [(.openParen, 181)], [], [(.functionBody, 141), (.parameters, 50)]⟩,
  ⟨some .general, [(33, 101)], [], [(.comma, 160)], [(.moreTargets, 202)]⟩,
  ⟨some .general, [(41, 73)], [(.comma, 211)], [], [(.moreNames, 208)]⟩,
  ⟨some .general, [(17, 106)], [], [], []⟩,
  ⟨some .general, [(38, 108)], [], [], []⟩,
  ⟨some .opening, [(39, 44)], [], [], []⟩,
  ⟨some .general, [], [(.comma, 77), (.closeParen, 11)], [], [(.moreExpressions, 159)]⟩,
  ⟨some .general, [(41, 71)], [(.comma, 212)], [], [(.moreNames, 187)]⟩,
  ⟨some .general, [(27, 113)], [], [], []⟩,
  ⟨some .general, [(17, 30)], [], [], []⟩,
  ⟨some .operand, [], [(.name, 205), (.ellipsis, 254)], [], []⟩,
  ⟨some .operand, [], [(.name, 205), (.ellipsis, 256)], [], []⟩,
  ⟨some .remark, [], [(.remark, 260)], [], []⟩,
  ⟨some .general, [], [(.remarkBody, 220)], [], []⟩,
  ⟨some .general, [], [(.name, 223)], [], []⟩,
  ⟨some .general, [], [(.name, 131)], [], []⟩,
  ⟨some .general, [], [], [], []⟩,
  ⟨some .general, [(0, 2)], [], [], []⟩,
  ⟨some .general, [], [(.assign, 67)], [], []⟩,
  ⟨some .general, [], [(.remarkClose, 261)], [], []⟩,
  ⟨some .general, [(0, 1)], [], [], []⟩,
  ⟨some .general, [], [(.longBody, 235)], [], []⟩,
  ⟨some .general, [], [(.doubleColon, 134)], [], []⟩,
  ⟨some .general, [], [(.endWord, 135)], [], []⟩,
  ⟨some .general, [], [(.untilWord, 89)], [], []⟩,
  ⟨some .general, [], [(.doWord, 53)], [], []⟩,
  ⟨some .general, [], [(.inWord, 68)], [], []⟩]

/-- The states from 228 to 261. -/
def rows7 : List Row := [
  ⟨some .general, [(40, 42)], [], [], []⟩,
  ⟨some .general, [], [(.name, 201)], [], []⟩,
  ⟨some .general, [(0, 1)], [], [], []⟩,
  ⟨some .general, [], [(.name, 3)], [], []⟩,
  ⟨some .general, [], [(.name, 171)], [], []⟩,
  ⟨some .general, [(0, 0)], [], [], []⟩,
  ⟨some .general, [], [(.closeBrace, 29)], [], []⟩,
  ⟨some .general, [], [(.longClose, 30)], [], []⟩,
  ⟨some .general, [], [(.name, 205)], [], []⟩,
  ⟨some .general, [], [(.name, 206)], [], []⟩,
  ⟨some .general, [], [(.name, 248)], [], []⟩,
  ⟨some .general, [], [(.name, 105)], [], []⟩,
  ⟨some .general, [], [(.name, 249)], [], []⟩,
  ⟨some .general, [(41, 74)], [], [], []⟩,
  ⟨some .general, [], [(.closeParen, 154)], [], []⟩,
  ⟨some .general, [], [(.endWord, 42)], [], []⟩,
  ⟨some .general, [], [(.endWord, 143)], [], []⟩,
  ⟨some .general, [], [(.endWord, 146)], [], []⟩,
  ⟨some .general, [], [(.endWord, 147)], [], []⟩,
  ⟨some .general, [(29, 36)], [], [], []⟩,
  ⟨some .general, [(40, 45)], [], [], []⟩,
  ⟨some .operand, [], [(.greater, 121)], [], []⟩,
  ⟨some .general, [], [(.assign, 95)], [], []⟩,
  ⟨some .general, [(19, 32)], [], [], []⟩,
  ⟨some .general, [], [(.endWord, 149)], [], []⟩,
  ⟨some .general, [], [(.endWord, 150)], [], []⟩,
  ⟨some .general, [(41, 72)], [], [], []⟩,
  ⟨some .general, [], [(.endWord, 151)], [], []⟩,
  ⟨some .general, [(41, 70)], [], [], []⟩,
  ⟨some .general, [], [(.closeBrace, 17)], [], []⟩,
  ⟨some .general, [], [(.longClose, 18)], [], []⟩,
  ⟨some .general, [], [(.longBody, 258)], [], []⟩,
  ⟨none, [(42, 97)], [], [], []⟩,
  ⟨none, [(42, 98)], [], [], []⟩]

/-- The states. -/
def rows : Array Row :=
  (rows1 ++ rows2 ++ rows3 ++ rows4 ++ rows5 ++ rows6 ++ rows7).toArray

end LuaAtlas.Syntax.Automaton
