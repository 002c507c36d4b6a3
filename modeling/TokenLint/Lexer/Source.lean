import TokenLint.Lexer.Lex
import TokenLint.Token.Tokenize

/-!
# Token streams of sources

The lexer knows only the line feed as the end of a line, so a source reaches it with every lone carriage
return read as one. The text has the same length and its lines are those of the source, which is why the
coordinates of the lexemes are good for the source itself.

## Main definitions

* `TokenStream.lexedBy`: The token stream of a source by a lexer.
* `TokenStream.ofSource`: The token stream of a source.
-/

namespace TokenLint

/-- The token stream of a source by a lexer. -/
def TokenStream.lexedBy (lexer : List Char → Lexing) (path : Path) (source : List Char) :
    Except TokenizeFault TokenStream :=
  tokenize path source (lexer (Text.unifyReturns source))

/-- The token stream of a source. -/
def TokenStream.ofSource (path : Path) (source : List Char) : Except TokenizeFault TokenStream :=
  lexedBy lex path source

end TokenLint
