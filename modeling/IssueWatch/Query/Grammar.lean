import IssueWatch.Query.Expr
import IssueWatch.Query.Token

/-!
# The language of queries

The texts that are queries, the expressions that they denote, and what is wrong with all other texts. Nothing
here depends on how a text is read.
-/
namespace IssueWatch

/-!
## Lexemes of queries

Which spellings a token has and what may stand behind it, and what goes wrong at a place where no
lexeme stands. A text of a query is a row of lexemes with any blanks around them. The relations are
stated on their own, without regard to how a text is cut into tokens.
-/

/-- A text ends or goes on with a blank or a closing parenthesis. -/
def Text.EndsWord : List Char → Prop
  | [] => True
  | c :: _ => isBlank c = true ∨ c = ')'

/-- A text ends or goes on with a blank or a parenthesis. -/
def Text.EndsKeyword : List Char → Prop
  | [] => True
  | c :: _ => isBlank c = true ∨ c = '(' ∨ c = ')'

/-- A word is a keyword in any letter case. -/
def Keyword.Spelled (keyword : Keyword) (word : List Char) : Prop :=
  word.map Char.toUpper = keyword.text.toList

/-- A word is a key in any letter case. -/
def Qualifier.Key.Spelled (key : Qualifier.Key) (word : List Char) : Prop :=
  word.map Char.toLower = key.text.toList

/-- A value is that of a qualifier: a name is taken letter by letter, the word for a kind or a state in
any letter case. -/
def Qualifier.Written (test : Qualifier) (value : List Char) : Prop :=
  (if test.isNamed then value else value.map Char.toLower) = test.value.toList

/-- The bodies of quoted values and the values that they stand for. A backslash in front of a quote or
backslash stands for that character; any other backslash stands for itself. -/
inductive Text.QuotedBody : List Char → List Char → Prop where
  | nothing : QuotedBody [] []
  | hidden {c : Char} {body value : List Char} (special : c = '"' ∨ c = '\\')
      (more : QuotedBody body value) : QuotedBody ('\\' :: c :: body) (c :: value)
  | shown {c : Char} {body value : List Char} (ordinary : c ≠ '"' ∧ c ≠ '\\')
      (more : QuotedBody body value) : QuotedBody (c :: body) (c :: value)
  | backslash {c : Char} {body value : List Char} (ordinary : c ≠ '"' ∧ c ≠ '\\')
      (more : QuotedBody (c :: body) value) : QuotedBody ('\\' :: c :: body) ('\\' :: value)

/-- The values of a qualifier with the text that they take and the text behind them. -/
inductive Text.Value : List Char → List Char → List Char → Prop where
  | bare {word rest : List Char} (present : word ≠ []) (unquoted : word.head? ≠ some '"')
      (whole : ∀ c ∈ word, Token.isWordChar c = true) (ends : EndsWord rest) :
      Value word word rest
  | quoted {body value rest : List Char} (present : value ≠ []) (reads : QuotedBody body value) :
      Value ('"' :: body ++ ['"']) value rest

namespace Token

/-- The lexemes, each with its token and the text behind it. -/
inductive Lexeme : List Char → Token → List Char → Prop where
  | openParen (rest : List Char) : Lexeme ['('] .openParen rest
  | closeParen (rest : List Char) : Lexeme [')'] .closeParen rest
  | keyword {word rest : List Char} {found : Keyword} (spelled : found.Spelled word)
      (ends : Text.EndsKeyword rest) : Lexeme word (.keyword found) rest
  | qualifier {name written value rest : List Char} {test : Qualifier}
      (spelled : test.key.Spelled name) (reads : Text.Value written value rest)
      (fits : test.Written value) : Lexeme (name ++ ':' :: written) (.qualifier test) rest

/-- A token as it occurs in a text: its offset and the characters that spell it. -/
structure Occurrence extends Located where
  word : List Char
  deriving DecidableEq, Repr

/-- A text from an offset on is cut into lexemes, with blanks around them, up to a rest. -/
inductive Row : Nat → List Char → List Occurrence → List Char → Prop where
  | stop (position : Nat) (rest : List Char) : Row position rest [] rest
  | blank {position : Nat} {c : Char} {text rest : List Char} {row : List Occurrence}
      (separates : Text.isBlank c = true) (more : Row (position + 1) text row rest) :
      Row position (c :: text) row rest
  | lexeme {position : Nat} {word text rest : List Char} {token : Token} {row : List Occurrence}
      (spelled : Lexeme word token text) (more : Row (position + word.length) text row rest) :
      Row position (word ++ text) (⟨⟨token, position⟩, word⟩ :: row) rest

/-- A text starts with a word that goes on as far as it can, and neither this word nor its part in front
of an opening parenthesis is a keyword. -/
structure StartsWith (word text : List Char) : Prop where
  present : word ≠ []
  apart : word.head? ≠ some '('
  whole : ∀ c ∈ word, isWordChar c = true
  ends : ∃ rest, text = word ++ rest ∧ Text.EndsWord rest
  noKeyword : ∀ (head tail : List Char) (keyword : Keyword), word = head ++ tail →
    tail = [] ∨ tail.head? = some '(' → ¬ keyword.Spelled head

/-- What is wrong at the start of a text, and how many characters behind the start. -/
inductive Misfit (text : List Char) : SyntaxFault → Nat → Prop where
  | noColon {word : List Char} (starts : StartsWith word text) (unjoined : ':' ∉ word) :
      Misfit text (.unexpectedTerm (String.ofList word)) 0
  | startsQuoted {word : List Char} (starts : StartsWith word text) (quote : word.head? = some '"') :
      Misfit text (.unexpectedTerm (String.ofList word)) 0
  | unknownKey {name rest word : List Char} (starts : StartsWith word text)
      (unquoted : word.head? ≠ some '"') (joined : word = name ++ ':' :: rest) (first : ':' ∉ name)
      (unknown : ∀ key : Qualifier.Key, ¬ key.Spelled name) :
      Misfit text (.unknownPredicate (String.ofList name)) 0
  | noValue {name rest : List Char} {key : Qualifier.Key} (spelled : key.Spelled name)
      (joined : text = name ++ ':' :: rest) (ends : Text.EndsWord rest) :
      Misfit text .missingValue (name.length + 1)
  | emptyValue {name rest : List Char} {key : Qualifier.Key} (spelled : key.Spelled name)
      (joined : text = name ++ ':' :: '"' :: '"' :: rest) :
      Misfit text .emptyQuotedValue (name.length + 1)
  | openValue {name rest : List Char} {key : Qualifier.Key} (spelled : key.Spelled name)
      (joined : text = name ++ ':' :: '"' :: rest)
      (unclosed : ∀ body value behind, rest = body ++ '"' :: behind → ¬ Text.QuotedBody body value) :
      Misfit text .unterminatedQuotedValue (name.length + 1)
  | unknownValue {name written value rest : List Char} (spelled : Qualifier.Key.is.Spelled name)
      (joined : text = name ++ ':' :: written ++ rest) (reads : Text.Value written value rest)
      (unknown : ∀ test : Qualifier, test.key = .is → ¬ test.Written value) :
      Misfit text (.unknownQualifier (String.ofList value)) 0

end Token

/-!
## The grammar of queries

Which tokens form a query and which expression they denote. A disjunction is a run of conjunctions with
the keyword `OR` between each two, a conjunction is a run of negations with or without the keyword `AND`
between each two, and a run of one member is that member itself. The grammar is stated on its own,
without regard to how queries are read.
-/

/-- What tokens can be read as: a part of a query at one level of binding, or a run of such parts. -/
inductive Phrase where
  | disjunction (expression : Expr)
  | alternatives (members : List Expr)
  | conjunction (expression : Expr)
  | operands (members : List Expr)
  | negation (expression : Expr)
  | atom (expression : Expr)

/-- The phrases that tokens form. -/
inductive Phrase.Derives : List Token → Phrase → Prop where
  | onlyAlternative {tokens : List Token} {member : Expr}
      (run : Derives tokens (.alternatives [member])) : Derives tokens (.disjunction member)
  | severalAlternatives {tokens : List Token} {members : List Expr}
      (run : Derives tokens (.alternatives members)) (several : 2 ≤ members.length) :
      Derives tokens (.disjunction (.or members))
  | lastAlternative {tokens : List Token} {member : Expr}
      (part : Derives tokens (.conjunction member)) : Derives tokens (.alternatives [member])
  | nextAlternative {tokens more : List Token} {member : Expr} {members : List Expr}
      (part : Derives tokens (.conjunction member)) (run : Derives more (.alternatives members)) :
      Derives (tokens ++ .keyword .or :: more) (.alternatives (member :: members))
  | onlyOperand {tokens : List Token} {member : Expr}
      (run : Derives tokens (.operands [member])) : Derives tokens (.conjunction member)
  | severalOperands {tokens : List Token} {members : List Expr}
      (run : Derives tokens (.operands members)) (several : 2 ≤ members.length) :
      Derives tokens (.conjunction (.and members))
  | lastOperand {tokens : List Token} {member : Expr}
      (part : Derives tokens (.negation member)) : Derives tokens (.operands [member])
  | joinedOperand {tokens more : List Token} {member : Expr} {members : List Expr}
      (part : Derives tokens (.negation member)) (run : Derives more (.operands members)) :
      Derives (tokens ++ .keyword .and :: more) (.operands (member :: members))
  | adjacentOperand {tokens more : List Token} {member : Expr} {members : List Expr}
      (part : Derives tokens (.negation member)) (run : Derives more (.operands members)) :
      Derives (tokens ++ more) (.operands (member :: members))
  | negated {tokens : List Token} {inner : Expr} (part : Derives tokens (.negation inner)) :
      Derives (.keyword .not :: tokens) (.negation (.not inner))
  | plain {tokens : List Token} {inner : Expr} (part : Derives tokens (.atom inner)) :
      Derives tokens (.negation inner)
  | qualifier (test : Qualifier) : Derives [.qualifier test] (.atom (.leaf test))
  | group {tokens : List Token} {inner : Expr} (part : Derives tokens (.disjunction inner)) :
      Derives (.openParen :: tokens ++ [.closeParen]) (.atom inner)

/-- The tokens of an expression: those that form a query which denotes it. -/
def Expr.Denoted (expression : Expr) (tokens : List Token) : Prop :=
  Phrase.Derives tokens (.disjunction expression)

/-- Tokens that further tokens can complete to a query. -/
def Token.Completable (tokens : List Token) : Prop :=
  ∃ (more : List Token) (expression : Expr), expression.Denoted (tokens ++ more)

namespace Phrase.Derives

theorem operands_ne_nil {tokens : List Token} {members : List Expr}
    (run : Derives tokens (.operands members)) : members ≠ [] := by
  cases run <;> simp

theorem alternatives_ne_nil {tokens : List Token} {members : List Expr}
    (run : Derives tokens (.alternatives members)) : members ≠ [] := by
  cases run <;> simp

end Phrase.Derives

/-!
## Rejected queries

Which error a text has that is no query.  A place where no lexeme stands comes before everything else.
Otherwise the error is at the first token behind which no query can follow any more, or, if all tokens
together are the start of a query, at what this start lacks.
-/

namespace Token

/-- Every parenthesis among some tokens has its partner among them. -/
inductive Balanced : List Token → Prop where
  | nil : Balanced []
  | plain {token : Token} {tokens : List Token} (noOpen : token ≠ .openParen)
      (noClose : token ≠ .closeParen) (more : Balanced tokens) : Balanced (token :: tokens)
  | group {inner tokens : List Token} (closed : Balanced inner) (more : Balanced tokens) :
      Balanced (.openParen :: inner ++ .closeParen :: tokens)

/-- There are no tokens, or the last of them is a keyword or an opening parenthesis. -/
def AwaitsOperand (tokens : List Token) : Prop :=
  ∀ last ∈ tokens.getLast?, last = .openParen ∨ ∃ word, last = .keyword word

end Token

open Token (Row Misfit Completable Balanced AwaitsOperand Located)

/-- The error of a text that is no query. -/
inductive Expr.Rejects (text : List Char) : SyntaxError → Prop where
  /-- The text is a row of lexemes up to a place where something else stands. -/
  | misfit {front rest : List Char} {row : List Token.Occurrence} {fault : SyntaxFault} {offset : Nat}
      (textEq : text = front ++ rest) (cut : Row 0 text row rest) (wrong : Misfit rest fault offset) :
      Rejects text ⟨fault, front.length + offset⟩
  /-- The tokens in front of the first one that cannot stand there are a query. -/
  | strayClose {row : List Token.Occurrence} {before after : List Located} {stray : Located}
      {expression : Expr} (cut : Row 0 text row [])
      (split : row.map Token.Occurrence.toLocated = before ++ stray :: after)
      (complete : expression.Denoted (before.map Located.token))
      (stuck : ¬ Completable ((before ++ [stray]).map Located.token)) :
      Rejects text ⟨.unmatchedClose, stray.position⟩
  /-- The tokens in front of the first one that cannot stand there are the start of a query only. -/
  | misplaced {row : List Token.Occurrence} {before after : List Located} {stray : Located}
      (cut : Row 0 text row [])
      (split : row.map Token.Occurrence.toLocated = before ++ stray :: after)
      (viable : Completable (before.map Located.token))
      (incomplete : ∀ expression : Expr, ¬ expression.Denoted (before.map Located.token))
      (stuck : ¬ Completable ((before ++ [stray]).map Located.token)) :
      Rejects text ⟨.operandExpected, stray.position⟩
  /-- All tokens are the start of a query that an operand has to follow. -/
  | unfinished {row : List Token.Occurrence} {tokens : List Located} (cut : Row 0 text row [])
      (tokensEq : row.map Token.Occurrence.toLocated = tokens)
      (viable : Completable (tokens.map Located.token))
      (incomplete : ∀ expression : Expr, ¬ expression.Denoted (tokens.map Located.token))
      (awaits : AwaitsOperand (tokens.map Located.token)) :
      Rejects text ⟨.operandExpected, text.length⟩
  /-- All tokens are the start of a query that lacks closing parentheses only; the last parenthesis that
  is not closed has none behind it without a partner. -/
  | unclosed {row : List Token.Occurrence} {before after : List Located} {position : Nat}
      (cut : Row 0 text row [])
      (split : row.map Token.Occurrence.toLocated = before ++ ⟨.openParen, position⟩ :: after)
      (viable : Completable ((before ++ ⟨.openParen, position⟩ :: after).map Located.token))
      (incomplete : ∀ expression : Expr,
        ¬ expression.Denoted ((before ++ ⟨.openParen, position⟩ :: after).map Located.token))
      (settled : ¬ AwaitsOperand ((before ++ ⟨.openParen, position⟩ :: after).map Located.token))
      (closed : Balanced (after.map Located.token)) :
      Rejects text ⟨.unmatchedOpen, position⟩

end IssueWatch
