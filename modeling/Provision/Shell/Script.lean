import Provision.Shell.Source

namespace Provision.Shell

/-!
# Reading scripts

A script is read line by line: what a line says about aliases holds for the lines after it.  Words
may hold scripts and scripts are made of words, so both are read together.
-/

/-- What is looked for when a token is read. -/
structure Expectation where
  keyword : Bool := false
  takesAlias : Bool := false
  skipsLines : Bool := false
  isMark : Bool := false

/-- The expectation at a place where a command may start. -/
def Expectation.command : Expectation where
  keyword := true
  takesAlias := true
  skipsLines := true

/-- Whether a character ends a word. -/
def endsWord (c : Char) : Bool :=
  c ∈ [' ', '\t', '\n', ';', '&', '|', '<', '>', '(', ')']

/-- Whether a character alone names a parameter. -/
def isSpecialParameter (c : Char) : Bool :=
  c ∈ ['@', '*', '#', '?', '-', '$', '!'] || c.isDigit

/-- Whether a backslash between double quotes takes the meaning of a character away. -/
def isProtected (c : Char) : Bool :=
  c ∈ ['$', '\x60', '"', '\\']

/-- Whether a character tells what is done with the value of a parameter that may be missing. -/
def choosesWord (c : Char) : Bool :=
  c ∈ ['-', '+', '?', '=']

namespace Reading

/-- The fault of a quote that is not closed. -/
def openQuote : String := "Unterminated quoted string"

/-- The text up to a single quote. -/
def takeSingleQuoted : Reading ByteText := do
  let source ← get
  let text := source.text.takeWhile (· ≠ '\'')
  let line := source.line + text.count '\n'
  match source.text.drop text.length with
  | [] => do
      set { source with text := [], line }
      fail openQuote
  | _ :: rest => do
      set { source with text := rest, line }
      return text

/-- Skip the rest of a line. -/
def skipComment : Reading Unit :=
  modify fun source => { source with text := source.text.dropWhile (· ≠ '\n') }

/-- Put a character back. -/
def putBack (c : Char) : Reading Unit :=
  modify fun source => { source with text := c :: source.text }

/-- The text up to a backquote; the first argument bounds the steps. -/
def takeBackquoted (isQuoted : Bool) : Nat → Reading ByteText
  | 0 => fail "EOF in backquote substitution"
  | steps + 1 => do
      match ← take with
      | none => fail "EOF in backquote substitution"
      | some '\x60' => return []
      | some '\\' => do
          let c := (← takePlain).getD '\\'
          let isRemoved := c ∈ ['\\', '\x60', '$'] || (isQuoted && c = '"')
          let others ← takeBackquoted isQuoted steps
          return if isRemoved then c :: others else '\\' :: c :: others
      | some c => return c :: (← takeBackquoted isQuoted steps)

/-- What a backslash and the character after it stand for between double quotes. -/
def afterBackslash (isProtected : Char → Bool) : Reading Word := do
  match ← takePlain with
  | none => return [.quoted ['\\']]
  | some c => return [.quoted (if isProtected c then [c] else ['\\', c])]

/-- Whether a document ends here, in which case its last line is skipped. -/
def endsDocument (announced : Announcement) : Reading Bool := do
  let source ← get
  let text := if announced.dropsTabs then source.text.dropWhile (· = '\t') else source.text
  match Text.after? announced.ending text with
  | some [] => do
      set { source with text := [] }
      return true
  | some ('\n' :: rest) => do
      set { source with text := rest, line := source.line + 1 }
      return true
  | _ => do
      set { source with text }
      return text.isEmpty

/-- The text of a document in which nothing is put in; the first argument bounds the steps. -/
def takeLiteralDocument (announced : Announcement) : Nat → Reading ByteText
  | 0 => return []
  | steps + 1 => do
      if ← endsDocument announced then
        return []
      else
        let source ← get
        let line := source.text.takeWhile (· ≠ '\n')
        match source.text.drop line.length with
        | [] => do
            set { source with text := [] }
            return line
        | _ :: rest => do
            set { source with text := rest, line := source.line + 1 }
            return line ++ '\n' :: (← takeLiteralDocument announced steps)

/-- Keep the text of a document. -/
def keepDocument (announced : Announcement) (word : Word) : Reading Unit :=
  modify fun source => { source with documents := (announced.number, word) :: source.documents }

/-- Announce a document; the answer is its number. -/
def announce (ending : Word) (dropsTabs : Bool) : Reading Nat := do
  let source ← get
  let number := source.nextDocument
  let announced : Announcement := ⟨number, ending.literalText, ending.isQuoted, dropsTabs⟩
  set { source with nextDocument := number + 1, announced := source.announced ++ [announced] }
  return number

/-- A redirection token after its first character. -/
def readRedirection (opening : Char) (descriptor? : Option Nat) : Reading Token := do
  let descriptor := descriptor?.getD (if opening = '<' then 0 else 1)
  let kind ←
    if opening = '<' then do
      if ← skipIf '<' then pure (.document (← skipIf '-'))
      else if ← skipIf '&' then pure (.target .copy)
      else if ← skipIf '>' then pure (.target .readWrite)
      else pure (.target .read)
    else
      if ← skipIf '>' then pure (.target .append)
      else if ← skipIf '|' then pure (.target .overwrite)
      else if ← skipIf '&' then pure (.target .copy)
      else pure (.target .write)
  return .redirection descriptor kind

/-- The operator that starts with a character, of which the second one may be the same. -/
def readOperator (opening : Char) (mayRepeat : Bool) : Reading Token := do
  let isRepeated ← if mayRepeat then skipIf opening else pure false
  return .operator (String.ofList (if isRepeated then [opening, opening] else [opening]))

/-- Skip blanks and comments; the first argument bounds the steps. -/
def skipGap : Nat → Reading Unit
  | 0 => return ()
  | steps + 1 => do
      match ← peek with
      | some ' ' | some '\t' => do
          skip
          skipGap steps
      | some '#' => do
          skipComment
          skipGap steps
      | _ => return ()

/-- The descriptor that a digit before a redirection names. -/
def descriptor? : Reading (Option Nat) := do
  match ← peek with
  | some c =>
      if c.isDigit then
        skip
        match ← peek with
        | some '<' | some '>' => return some (c.toNat - '0'.toNat)
        | _ => do
            putBack c
            return none
      else
        return none
  | none => return none

mutual

-- Words

/-- A word; in the last line of a document nothing is put in. -/
def readWord : Nat → Bool → Reading Word
  | 0, _ => return []
  | steps + 1, isMark => do
      match ← peek with
      | none => return []
      | some c =>
          if endsWord c then
            return []
          else
            skip
            let pieces ← readPieces steps isMark c
            return Word.after pieces (← readWord steps isMark)

/-- The pieces that a character outside of quotes starts. -/
def readPieces : Nat → Bool → Char → Reading Word
  | 0, _, _ => fail openQuote
  | steps + 1, isMark, c => do
      if c = '\\' then
        return [.quoted [(← takePlain).getD '\\']]
      else if c = '\'' then
        return [.quoted (← takeSingleQuoted)]
      else if c = '"' then
        let pieces ← readDoubleQuoted steps
        match pieces with
        | [.parameter ['@'] .value _] => return pieces
        | pieces => return Word.consQuoted [] pieces
      else if c = '$' && !isMark then
        readDollar steps false false
      else if c = '\x60' && !isMark then
        readBackquote steps false
      else
        return [.plain [c]]

/-- The pieces up to a double quote. -/
def readDoubleQuoted : Nat → Reading Word
  | 0 => fail openQuote
  | steps + 1 => do
      match ← take with
      | none => fail openQuote
      | some '"' => return []
      | some c => do
          let pieces ← readQuotedPieces steps false isProtected c
          return Word.after pieces (← readDoubleQuoted steps)

/-- The pieces that a character between double quotes or in a document starts. -/
def readQuotedPieces : Nat → Bool → (Char → Bool) → Char → Reading Word
  | 0, _, _, _ => fail openQuote
  | steps + 1, inDocument, isProtected, c => do
      if c = '\\' then afterBackslash isProtected
      else if c = '$' then readDollar steps true inDocument
      else if c = '\x60' then readBackquote steps true
      else return [.quoted [c]]

/--
The word of a parameter up to the brace that closes.  In a quoted one a double quote has no meaning
but that a brace up to the next one stands for itself.
-/
def readBraced : Nat → Bool → Bool → Bool → Reading Word
  | 0, _, _, _ => fail "Missing '\x7d'"
  | steps + 1, isQuoted, inDocument, isInner => do
      match ← take with
      | none => fail (if isQuoted && !inDocument then openQuote else "Missing '\x7d'")
      | some c =>
          if c = '\x7d' && !isInner then
            return []
          else if !isQuoted then
            let pieces ← readPieces steps false c
            return Word.after pieces (← readBraced steps isQuoted inDocument isInner)
          else if c = '"' then
            return Word.consQuoted [] (← readBraced steps isQuoted inDocument (!isInner))
          else
            let pieces ← readQuotedPieces steps inDocument
              (fun c => isProtected c || c = '\x7d') c
            return Word.after pieces (← readBraced steps isQuoted inDocument isInner)

/-- The piece after a dollar sign. -/
def readDollar : Nat → Bool → Bool → Reading Word
  | 0, _, _ => fail openQuote
  | steps + 1, isQuoted, inDocument => do
      match ← peek with
      | some '(' => do
          skip
          if ← skipIf '(' then
            return [.arithmetic (← readArithmetic steps 0) isQuoted]
          else
            return [.output (← readSubstitution steps) isQuoted]
      | some '\x7b' => do
          skip
          readParameter steps isQuoted inDocument
      | some c =>
          if ByteText.opensName c then
            return [.parameter (← takeWhile ByteText.isNameChar (← bound)) .value isQuoted]
          else if isSpecialParameter c then
            skip
            return [.parameter [c] .value isQuoted]
          else
            return [if isQuoted then .quoted ['$'] else .plain ['$']]
      | none => return [if isQuoted then .quoted ['$'] else .plain ['$']]

/-- The piece after a dollar sign and an opening brace. -/
def readParameter : Nat → Bool → Bool → Reading Word
  | 0, _, _ => fail "Missing '\x7d'"
  | steps + 1, isQuoted, inDocument => do
      match ← peek with
      | none => readNoParameter steps isQuoted inDocument []
      | some c =>
          if ByteText.opensName c then
            readUse steps isQuoted inDocument (← takeWhile ByteText.isNameChar (← bound))
          else if c.isDigit then
            readUse steps isQuoted inDocument (← takeWhile Char.isDigit (← bound))
          else if c = '\x7d' then
            readNoParameter steps isQuoted inDocument []
          else
            skip
            if c = '#' then
              readLength steps isQuoted inDocument
            else if isSpecialParameter c then
              readUse steps isQuoted inDocument [c]
            else
              readNoParameter steps isQuoted inDocument []

/-- The piece after a dollar sign, an opening brace and a number sign. -/
def readLength : Nat → Bool → Bool → Reading Word
  | 0, _, _ => fail "Missing '\x7d'"
  | steps + 1, isQuoted, inDocument => do
      match ← peek with
      | none => readUse steps isQuoted inDocument ['#']
      | some c =>
          if ByteText.isNameChar c then
            let isPart := if c.isDigit then Char.isDigit else ByteText.isNameChar
            let name ← takeWhile isPart (← bound)
            if ← skipIf '\x7d' then return [.parameter name .length isQuoted]
            else readNoParameter steps isQuoted inDocument name
          else
            skip
            if c = '\x7d' || (← peek) ≠ some '\x7d' then
              putBack c
              readUse steps isQuoted inDocument ['#']
            else if isSpecialParameter c then
              skip
              return [.parameter [c] .length isQuoted]
            else
              readNoParameter steps isQuoted inDocument []

/-- What is done with the value of a parameter, up to the brace that closes. -/
def readUse : Nat → Bool → Bool → ByteText → Reading Word
  | 0, _, _, _ => fail "Missing '\x7d'"
  | steps + 1, isQuoted, inDocument, name => do
      match ← take with
      | some '\x7d' => return [.parameter name .value isQuoted]
      | some ':' => do
          match ← take with
          | some c =>
              if choosesWord c then
                let word ← readBraced steps isQuoted inDocument false
                return [.parameter name (.orWord c true word) isQuoted]
              else
                putBack c
                readNoParameter steps isQuoted inDocument name
          | none => readNoParameter steps isQuoted inDocument name
      | some c =>
          if choosesWord c then
            let word ← readBraced steps isQuoted inDocument false
            return [.parameter name (.orWord c false word) isQuoted]
          else if c = '#' || c = '%' then
            let isLongest ← skipIf c
            let pattern ← readBraced steps false inDocument false
            return [.parameter name (.without (c = '#') isLongest pattern) isQuoted]
          else
            readNoParameter steps isQuoted inDocument name
      | none => readNoParameter steps isQuoted inDocument name

/-- Something between braces that tells nothing to do. -/
def readNoParameter : Nat → Bool → Bool → ByteText → Reading Word
  | 0, _, _, _ => fail "Missing '\x7d'"
  | steps + 1, isQuoted, inDocument, name => do
      let _ ← readBraced steps isQuoted inDocument false
      return [.parameter name .none isQuoted]

/-- An expression up to the two brackets that close, in some depth of brackets. -/
def readArithmetic : Nat → Nat → Reading Word
  | 0, _ => fail "Missing '))'"
  | steps + 1, depth => do
      match ← take with
      | none => fail "Missing '))'"
      | some '(' => return Word.consQuoted ['('] (← readArithmetic steps (depth + 1))
      | some ')' => do
          if ← (if depth = 0 then skipIf ')' else pure false) then return []
          else return Word.consQuoted [')'] (← readArithmetic steps (depth - 1))
      | some c => do
          let pieces ← readQuotedPieces steps false isProtected c
          return Word.after pieces (← readArithmetic steps depth)

/-- A script up to the bracket that closes. -/
def readSubstitution : Nat → Reading Statement
  | 0 => fail openQuote
  | steps + 1 => do
      let announced := (← get).announced
      modify fun source => { source with announced := [] }
      let body ← readList steps true
      let token ← readToken steps {}
      if !token.isText ")" then
        unexpected token (some "\")\"")
      for document in (← get).announced do
        keepDocument document []
      modify fun source => { source with announced }
      return .sequence body

/-- A script up to a backquote. -/
def readBackquote : Nat → Bool → Reading Word
  | 0, _ => fail openQuote
  | steps + 1, isQuoted => do
      let text ← takeBackquoted isQuoted (← bound)
      let outside ← get
      set { outside with text, line := 1, held := none, openAliases := [], announced := [] }
      let body ← readList steps true
      for document in (← get).announced do
        keepDocument document []
      let inside ← get
      set { outside with documents := inside.documents, nextDocument := inside.nextDocument }
      return [.output (.sequence body) isQuoted]

-- Documents

/-- The pieces of a document, at the start of a line or in it. -/
def readDocument : Nat → Bool → Announcement → Reading Word
  | 0, _, _ => return []
  | steps + 1, isStart, announced => do
      if ← (if isStart then endsDocument announced else pure false) then
        return []
      else
        match ← take with
        | none => return []
        | some c => do
            let pieces ← readQuotedPieces steps true (fun c => c ∈ ['\\', '$', '\x60']) c
            return Word.after pieces (← readDocument steps (c = '\n') announced)

/-- Read the documents that have been announced. -/
def readDocuments : Nat → Reading Unit
  | 0 => return ()
  | steps + 1 => do
      match (← get).announced with
      | [] => return ()
      | announced :: others => do
          modify fun source => { source with announced := others }
          let word ←
            if announced.isLiteral then do
              pure [.quoted (← takeLiteralDocument announced (← bound))]
            else
              readDocument steps true announced
          keepDocument announced word
          readDocuments steps

-- Tokens

/-- The next token as it is written; the answer tells whether it may be an alias in any place. -/
def readRawToken : Nat → Bool → Reading (Token × Bool)
  | 0, _ => return (.textEnd, false)
  | steps + 1, isMark => do
      let source ← get
      match source.held with
      | some token => do
          set { source with held := none }
          return (token, false)
      | none => do
          skipGap (← bound)
          let mayBeAlias ← closeAliases
          let descriptor ← descriptor?
          let token ← match ← peek with
            | none => pure .textEnd
            | some c =>
                if c = '\n' then do
                  skip
                  pure .lineEnd
                else if c = '<' || c = '>' then do
                  skip
                  readRedirection c descriptor
                else if endsWord c then do
                  skip
                  readOperator c (c ∈ [';', '&', '|'])
                else
                  (readWord steps isMark).map .word
          return (token, mayBeAlias)

/-- The next token. -/
def readToken : Nat → Expectation → Reading Token
  | 0, _ => return .textEnd
  | steps + 1, expectation => do
      let (token, mayBeAlias) ← readRawToken steps expectation.isMark
      match token with
      | .lineEnd =>
          if expectation.skipsLines then
            readDocuments steps
            readToken steps expectation
          else
            return .lineEnd
      | .word word =>
          match word.plainText? with
          | none => return token
          | some text =>
              match if expectation.keyword then Token.keyword? text else none with
              | some keyword => return .keyword keyword
              | none =>
                  if expectation.takesAlias || mayBeAlias then
                    match ← aliasFor? text with
                    | some value => do
                        if !value.isEmpty then
                          openAlias text value
                        readToken steps { expectation with takesAlias := true }
                    | none => return token
                  else
                    return token
      | token => return token

/-- The next token, which has to be a given word or operator. -/
def expect : Nat → String → Reading Unit
  | 0, _ => fail "end of file unexpected"
  | steps + 1, text => do
      let token ← readToken steps {}
      if !token.isText text then
        unexpected token (some ("\"" ++ text ++ "\""))

-- Lists of commands

/-- Commands up to the end of a list, of which there has to be one unless the list may be empty. -/
def readList : Nat → Bool → Reading (List Statement)
  | 0, _ => return []
  | steps + 1, mayBeEmpty => do
      let token ← readToken steps .command
      holdBack token
      match token with
      | .textEnd => return []
      | token =>
          if mayBeEmpty && token.endsList then
            return []
          else
            let first ← readChain steps
            let token ← readToken steps {}
            let first := if token.isText "&" then .background first else first
            if token.isText "&" || token.isText ";" then
              return first :: (← readList steps true)
            else
              holdBack token
              match token with
              | .lineEnd => return first :: (← readList steps true)
              | _ => return [first]

/-- Pipelines that depend on each other. -/
def readChain : Nat → Reading Statement
  | 0 => fail "end of file unexpected"
  | steps + 1 => do
      readLinks steps (← readPipeline steps)

/-- What follows a pipeline that others depend on. -/
def readLinks : Nat → Statement → Reading Statement
  | 0, first => return first
  | steps + 1, first => do
      let token ← readToken steps {}
      if token.isText "&&" then
        readLinks steps (.both first (← readPipeline steps))
      else if token.isText "||" then
        readLinks steps (.either first (← readPipeline steps))
      else
        holdBack token
        return first

/-- Commands of which each reads what the one before it writes. -/
def readPipeline : Nat → Reading Statement
  | 0 => fail "end of file unexpected"
  | steps + 1 => do
      let token ← readToken steps .command
      let isNegated := token.isText "!"
      if !isNegated then
        holdBack token
      let first ← readCommand steps { keyword := true, takesAlias := true }
      let parts ← readPipes steps
      let body := if parts.isEmpty then first else .pipeline (first :: parts)
      return if isNegated then .negated body else body

/-- The parts of a pipeline after the first one. -/
def readPipes : Nat → Reading (List Statement)
  | 0 => return []
  | steps + 1 => do
      let token ← readToken steps {}
      if token.isText "|" then
        let next ← readCommand steps .command
        return next :: (← readPipes steps)
      else
        holdBack token
        return []

-- Commands

/-- One command with its redirections. -/
def readCommand : Nat → Expectation → Reading Statement
  | 0, _ => fail "end of file unexpected"
  | steps + 1, expectation => do
      let line := (← get).line
      let token ← readToken steps expectation
      match token with
      | .word _ | .redirection _ _ => do
          holdBack token
          readSimple steps (← get).line [] [] []
      | token => do
          let body ← readCompound steps line token
          let redirections ← readRedirections steps
          return if redirections.isEmpty then body else .redirected line body redirections

/-- A command that is put together from others, after its first token. -/
def readCompound : Nat → Nat → Token → Reading Statement
  | 0, _, _ => fail "end of file unexpected"
  | steps + 1, line, token => do
      match token with
      | .keyword "if" => readBranch steps
      | .keyword "while" => readLoop steps false
      | .keyword "until" => readLoop steps true
      | .keyword "for" => readEach steps line
      | .keyword "case" => readChoice steps line
      | .operator "(" => do
          let body ← readList steps false
          expect steps ")"
          return .subshell (.sequence body)
      | .keyword "\x7b" => do
          let body ← readList steps false
          expect steps "\x7d"
          return .sequence body
      | token => unexpected token

/-- The redirections after a command. -/
def readRedirections : Nat → Reading (List Redirection)
  | 0 => return []
  | steps + 1 => do
      let token ← readToken steps { keyword := true, takesAlias := true }
      match token with
      | .redirection descriptor kind => do
          let redirection ← readTarget steps descriptor kind
          return redirection :: (← readRedirections steps)
      | token => do
          holdBack token
          return []

/-- What a descriptor is redirected to. -/
def readTarget : Nat → Nat → RedirectionKind → Reading Redirection
  | 0, _, _ => fail "end of file unexpected"
  | steps + 1, descriptor, kind => do
      match kind with
      | .target direction => do
          match ← readToken steps {} with
          | .word word => return .toTarget descriptor direction word
          | token => unexpected token
      | .document dropsTabs => do
          match ← readToken steps { isMark := true } with
          | .word word => return .toDocument descriptor (← announce word dropsTabs)
          | token => unexpected token

/-- A simple command, of which some parts have been read; the last ones come first. -/
def readSimple :
    Nat → Nat → List (ByteText × Word) → List Word → List Redirection → Reading Statement
  | 0, _, _, _, _ => fail "end of file unexpected"
  | steps + 1, line, assignments, words, redirections => do
      let token ← readToken steps { takesAlias := words.isEmpty }
      match token with
      | .word word =>
          match words, word.assignment? with
          | [], some assignment =>
              readSimple steps line (assignment :: assignments) words redirections
          | words, _ => readSimple steps line assignments (word :: words) redirections
      | .redirection descriptor kind => do
          let redirection ← readTarget steps descriptor kind
          readSimple steps line assignments words (redirection :: redirections)
      | token =>
          let isAlone := assignments.isEmpty && redirections.isEmpty
          match token.isText "(" && isAlone, words with
          | true, [name] => do
              expect steps ")"
              readFunction steps (name.plainText?.getD [])
          | _, _ => do
              holdBack token
              return .simple line assignments.reverse words.reverse redirections.reverse

/-- A function after its name. -/
def readFunction : Nat → ByteText → Reading Statement
  | 0, _ => fail "end of file unexpected"
  | steps + 1, name => do
      if !ByteText.isName name || specialCommands.any (·.toList = name) then
        fail "Bad function name"
      return .function name (← readCommand steps .command)

/-- A branch after its first word. -/
def readBranch : Nat → Reading Statement
  | 0 => fail "end of file unexpected"
  | steps + 1 => do
      let condition ← readList steps false
      expect steps "then"
      let body ← readList steps false
      let token ← readToken steps {}
      if token.isText "elif" then
        return .branch (.sequence condition) (.sequence body) (← readBranch steps)
      else
        let otherwise ←
          if token.isText "else" then
            readList steps false
          else do
            holdBack token
            pure []
        expect steps "fi"
        return .branch (.sequence condition) (.sequence body) (.sequence otherwise)

/-- A loop after its first word. -/
def readLoop : Nat → Bool → Reading Statement
  | 0, _ => fail "end of file unexpected"
  | steps + 1, isUntil => do
      let condition ← readList steps false
      return .loop isUntil (.sequence condition) (← readBody steps {})

/-- The body of a loop. -/
def readBody : Nat → Expectation → Reading Statement
  | 0, _ => fail "end of file unexpected"
  | steps + 1, expectation => do
      let token ← readToken steps expectation
      if !token.isText "do" then
        unexpected token (some "\"do\"")
      let body ← readList steps false
      expect steps "done"
      return .sequence body

/-- A loop over words after its first word. -/
def readEach : Nat → Nat → Reading Statement
  | 0, _ => fail "end of file unexpected"
  | steps + 1, line => do
      match ← readToken steps {} with
      | .word word => do
          let name := word.plainText?.getD []
          if !ByteText.isName name then
            fail "Bad for loop variable"
          let token ← readToken steps .command
          if token.isText "in" then
            let (words, token) ← readEachWords steps
            match token with
            | .lineEnd => do
                holdBack token
                return .each line name (some words) (← readBody steps .command)
            | token => do
                if !token.isText ";" then
                  unexpected token
                return .each line name (some words) (← readBody steps .command)
          else
            if !token.isText ";" then
              holdBack token
            return .each line name none (← readBody steps .command)
      | _ => fail "Bad for loop variable"

/-- The words of a loop, and the token after them. -/
def readEachWords : Nat → Reading (List Word × Token)
  | 0 => return ([], .textEnd)
  | steps + 1 => do
      match ← readToken steps {} with
      | .word word => do
          let (words, token) ← readEachWords steps
          return (word :: words, token)
      | token => return ([], token)

/-- A choice between clauses, after its first word. -/
def readChoice : Nat → Nat → Reading Statement
  | 0, _ => fail "end of file unexpected"
  | steps + 1, line => do
      match ← readToken steps {} with
      | .word word => do
          let token ← readToken steps .command
          if !token.isText "in" then
            unexpected token (some "\"in\"")
          return .choice line word (← readClauses steps)
      | token => unexpected token (some "word")

/-- The clauses of a choice up to its end. -/
def readClauses : Nat → Reading (List (List Word × Statement))
  | 0 => return []
  | steps + 1 => do
      let token ← readToken steps { keyword := true, skipsLines := true }
      if token.isText "esac" then
        return []
      else
        let token ← if token.isText "(" then readToken steps {} else pure token
        let words ← readClauseWords steps token
        let body ← readList steps true
        let token ← readToken steps { keyword := true, skipsLines := true }
        if token.isText "esac" then
          return [(words, .sequence body)]
        else if token.isText ";;" then
          return (words, .sequence body) :: (← readClauses steps)
        else
          unexpected token (some "\";;\"")

/-- The patterns of a clause up to its bracket; the first token has been read. -/
def readClauseWords : Nat → Token → Reading (List Word)
  | 0, _ => fail "end of file unexpected"
  | steps + 1, token => do
      let word : Word :=
        match token with
        | .word word => word
        | .keyword text => [.plain text.toList]
        | _ => []
      let next ← readToken steps {}
      if next.isText "|" then
        return word :: (← readClauseWords steps (← readToken steps {}))
      else if next.isText ")" then
        return [word]
      else
        unexpected next (some "\")\"")

end

/-- The commands up to the end of a line; the answer is none at the end of the text. -/
def readLine : Nat → Bool → Reading (Option (List Statement))
  | 0, _ => return none
  | steps + 1, isFirst => do
      let token ← readToken steps { keyword := true, takesAlias := true }
      match token with
      | .lineEnd => do
          readDocuments steps
          return some []
      | .textEnd => do
          holdBack token
          return if isFirst then none else some []
      | token => do
          holdBack token
          let first ← readChain steps
          let token ← readToken steps {}
          match token with
          | .lineEnd | .textEnd => holdBack token
          | token =>
              if !(token.isText "&" || token.isText ";") then
                unexpected token
          let first := if token.isText "&" then .background first else first
          let others ← readLine steps false
          return some (first :: others.getD [])

/-- A text in which everything is quoted but what is put in; the first argument bounds the steps. -/
def readQuotedText : Nat → Reading Word
  | 0 => return []
  | steps + 1 => do
      match ← take with
      | none => return []
      | some c => do
          let pieces ← readQuotedPieces steps false isProtected c
          return Word.after pieces (← readQuotedText steps)

end Reading

/-- The word that a text is in which everything is quoted but what is put in. -/
def Word.ofQuotedText? (text : ByteText) : Option Word :=
  ((Reading.readQuotedText (16 * text.length + 256)).run.run { text }).1.toOption

/-- Read the commands up to the end of a line. -/
def Source.readLine (source : Source) : Except SyntaxFault (Option (List Statement)) × Source :=
  (Reading.readLine (16 * source.text.length + 256) true).run.run source

end Provision.Shell
