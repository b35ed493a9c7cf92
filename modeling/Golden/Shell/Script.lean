/-
This file reads scripts. A script is read one complete command at a time, because what
a command does may come before a fault in the next one. Words, and the commands whose
output stands in words, are read by functions that call one another; the fuel that
they share bounds how often they do, and a script never needs more than a multiple of
its length.
-/

import Golden.Shell.Token

namespace Golden.Shell

open Golden Golden.Shell.Reading

/-! ### Where words are read -/

/-- What the pieces of a word stand in. -/
inductive Frame
  | bare
  /-- The word that ends a document, in which nothing is looked up. -/
  | ending
  /-- Braces that do not stand within double quotes. -/
  | braces
  | doubleQuotes
  /-- Braces within double quotes, and whether double quotes are open within them. -/
  | quotedBraces (isOpen : Bool)
  | document
  /-- Arithmetic, with the number of parentheses that are open in it. -/
  | expression (depth : Nat)
deriving DecidableEq, Repr

namespace Frame

/-- Whether what stands in a frame is quoted. -/
def isQuoted : Frame → Bool
  | .bare | .ending | .braces => false
  | _ => true

/-- A piece for an octet that stands for itself. -/
def literal (frame : Frame) (octet : Char) : Piece :=
  if frame.isQuoted then .quoted octet else .plain octet

/-- The frame of the word in the braces of a parameter that stands in a frame. -/
def inner (frame : Frame) : Frame :=
  if frame.isQuoted then .quotedBraces false else .braces

/-- Whether a backslash in a quoted frame takes the meaning from an octet. -/
def escapes (frame : Frame) (octet : Char) : Bool :=
  "\\`$".toList.contains octet || (octet = '"' && frame ≠ .document) ||
    (octet = '\x7d' && match frame with
      | .quotedBraces _ => true
      | _ => false)

/-- What is wrong when a script ends within a frame, if anything is. -/
def endFault? : Frame → Option String
  | .bare | .ending | .document => none
  | .braces => some "Missing '\x7d'"
  | .doubleQuotes | .quotedBraces _ => some "Unterminated quoted string"
  | .expression _ => some "Missing '))'"

end Frame

/-- What a reader heeds when it reads a word. -/
inductive Attention
  /-- All words are alike. -/
  | toWords
  | toKeywords
  /-- Keywords, and names that texts stand in the places of. -/
  | toCommands
deriving DecidableEq, Repr

/-- Whether an octet ends a word outside quotes. -/
def endsWord (octet : Char) : Bool :=
  " \t\n;&|<>()".toList.contains octet

/-- Whether octets name a command that only the shell itself can carry out, and that no function can
take the place of. -/
def isSpecialName (name : Octets) : Bool :=
  [".", ":", "break", "continue", "eval", "exec", "exit", "export", "local", "readonly", "return",
    "set", "shift", "times", "trap", "unset"].contains (String.ofList name)

/-- The text between backquotes, without the backslashes that only keep the backquotes apart. -/
def takeBackquoted (inQuotes : Bool) : Nat → Reading Octets
  | 0 => Reading.fail "EOF in backquote substitution"
  | fuel + 1 => do
    match ← take with
    | none => Reading.fail "EOF in backquote substitution"
    | some '\x60' => return []
    | some '\\' =>
      match ← takeRaw with
      | none => Reading.fail "EOF in backquote substitution"
      | some octet =>
        let rest ← takeBackquoted inQuotes fuel
        if "\\`$".toList.contains octet || (inQuotes && octet = '"') then return octet :: rest
        else return '\\' :: octet :: rest
    | some octet => return octet :: (← takeBackquoted inQuotes fuel)

/-- The name of a parameter in braces, and whether its length is asked for; nothing if there is no
such parameter. -/
def takeName : Reading (Option (Octets × Bool)) := do
  match ← peek with
  | none | some '\x7d' => return none
  | some first =>
    if startsName first then return some (← Reading.takeWhile continuesName, false)
    else if first.isDigit then return some (← Reading.takeWhile Char.isDigit, false)
    else
      let _ ← take
      if first ≠ '#' then return if isSpecial first then some ([first], false) else none
      else
        match ← peek with
        | none => return some (['#'], false)
        | some second =>
          if startsName second then return some (← Reading.takeWhile continuesName, true)
          else if second.isDigit then return some (← Reading.takeWhile Char.isDigit, true)
          else
            let before ← get
            let _ ← take
            if second ≠ '\x7d' && (← peek) = some '\x7d' then
              return if isSpecial second then some ([second], true) else none
            else
              set before
              return some (['#'], false)

/-- The operator of a redirection. -/
def takeRedirect (descriptor? : Option Nat) : Reading Token := do
  match ← take with
  | some '>' =>
    if ← takeIf '>' then return .redirect descriptor? ">>"
    else if ← takeIf '|' then return .redirect descriptor? ">|"
    else if ← takeIf '&' then return .redirect descriptor? ">&"
    else return .redirect descriptor? ">"
  | _ =>
    if ← takeIf '<' then
      return .redirect descriptor? (if ← takeIf '-' then "<<-" else "<<")
    else if ← takeIf '&' then return .redirect descriptor? "<&"
    else if ← takeIf '>' then return .redirect descriptor? "<>"
    else return .redirect descriptor? "<"

/-! ### Words and commands -/

mutual

/-- The pieces up to the end of a frame, which is taken unless it is the end of a bare word. -/
def readPieces : Nat → Frame → Reading Word
  | 0, _ => Reading.fail "out of space"
  | fuel + 1, frame => do
    let goOn (pieces : Word) (frame : Frame) : Reading Word := do
      return pieces ++ (← readPieces fuel frame)
    let leave : Reading Word := do
      let _ ← take
      return []
    match ← peek with
    | none =>
      match frame.endFault? with
      | some words => Reading.fail words
      | none => return []
    | some '\\' =>
      let _ ← take
      match ← takeRaw with
      | none => return [.quoted '\\']
      | some octet =>
        if frame.isQuoted && !frame.escapes octet then
          goOn [.quoted '\\', .quoted octet] frame
        else goOn [.quoted octet] frame
    | some '$' =>
      let _ ← take
      goOn (← readDollar fuel frame) frame
    | some '\x60' =>
      let _ ← take
      let text ← takeBackquoted frame.isQuoted (fuel + 1)
      let command ← within text 1 (readList fuel false true none)
      goOn [.output command frame.isQuoted] frame
    | some octet =>
      match frame, octet with
      | .doubleQuotes, '"' | .braces, '\x7d' | .quotedBraces false, '\x7d' => leave
      | .quotedBraces isOpen, '"' =>
        let _ ← take
        goOn [.mark] (.quotedBraces !isOpen)
      | .expression depth, '(' =>
        let _ ← take
        goOn [.quoted '('] (.expression (depth + 1))
      | .expression depth, ')' =>
        let _ ← take
        if depth > 0 then goOn [.quoted ')'] (.expression (depth - 1))
        else if ← takeIf ')' then return []
        else goOn [.quoted ')'] frame
      | _, _ =>
        if (frame = .bare || frame = .ending) && endsWord octet then return []
        else
          let _ ← take
          if frame.isQuoted then goOn [.quoted octet] frame
          else if octet = '\'' then
            let inside ← takeQuotation
            goOn (.mark :: inside.map Piece.quoted ++ [.mark]) frame
          else if octet = '"' then
            let inside ← readPieces fuel .doubleQuotes
            goOn (.mark :: inside ++ [.mark]) frame
          else goOn [.plain octet] frame

/-- The piece after a dollar sign. -/
def readDollar : Nat → Frame → Reading Word
  | 0, _ => Reading.fail "out of space"
  | fuel + 1, frame => do
    if frame = .ending then return [.plain '$']
    else
      match ← peek with
      | none => return [frame.literal '$']
      | some '(' =>
        let _ ← take
        if ← takeIf '(' then
          return [.arithmetic (← readPieces fuel (.expression 0)) frame.isQuoted]
        else
          let command ← behindOpening 1 (readList fuel false true none)
          let token ← readToken fuel false .toWords
          if !token.isOperator ")" then unexpected token (some (.operator ")"))
          return [.output command frame.isQuoted]
      | some '\x7b' =>
        let _ ← take
        return [.parameter (← readUse fuel frame) frame.isQuoted]
      | some octet =>
        if startsName octet then
          return [.parameter (.value (← Reading.takeWhile continuesName)) frame.isQuoted]
        else if isSpecial octet then
          let _ ← take
          return [.parameter (.value [octet]) frame.isQuoted]
        else return [frame.literal '$']

/-- The use of a parameter in braces. -/
def readUse : Nat → Frame → Reading Use
  | 0, _ => Reading.fail "out of space"
  | fuel + 1, frame => do
    let unknown : Reading Use := do
      let _ ← readPieces fuel frame.inner
      return .unknown
    match ← takeName with
    | none => unknown
    | some (name, true) => if ← takeIf '\x7d' then return .length name else unknown
    | some (name, false) =>
      match ← peek with
      | some '\x7d' =>
        let _ ← take
        return .value name
      | some '%' =>
        let _ ← take
        let isLongest ← takeIf '%'
        return .trimmed name true isLongest (← readPieces fuel .braces)
      | some '#' =>
        let _ ← take
        let isLongest ← takeIf '#'
        return .trimmed name false isLongest (← readPieces fuel .braces)
      | _ =>
        let orEmpty ← takeIf ':'
        match ← peek with
        | some operator =>
          if "-=?+".toList.contains operator then
            let _ ← take
            return .instead name operator orEmpty (← readPieces fuel frame.inner)
          else if operator = '\x7d' then
            let _ ← take
            let _ ← readPieces fuel frame.inner
            return .value name
          else
            let _ ← take
            unknown
        | none => unknown

/-- The next token that is not held. -/
def readFresh : Nat → Reading Token
  | 0 => Reading.fail "out of space"
  | fuel + 1 => do
    match ← peek with
    | none => return .finish
    | some octet =>
      let operator (symbol : String) (doubled? : Option String) : Reading Token := do
        let _ ← take
        match doubled? with
        | some doubled => return .operator (if ← takeIf octet then doubled else symbol)
        | none => return .operator symbol
      match octet with
      | ' ' | '\t' =>
        let _ ← take
        readFresh fuel
      | '#' =>
        skipComment
        readFresh fuel
      | '\n' =>
        let _ ← take
        return .newline
      | '&' => operator "&" (some "&&")
      | '|' => operator "|" (some "||")
      | ';' => operator ";" (some ";;")
      | '(' => operator "(" none
      | ')' => operator ")" none
      | '<' | '>' => takeRedirect none
      | _ =>
        let word ← readPieces fuel .bare
        match word, ← peek with
        | [.plain digit], some next =>
          if digit.isDigit && (next = '<' || next = '>') then
            takeRedirect (some (digit.toNat - 48))
          else return .word word
        | _, _ => return .word word

/-- The next token. Ends of lines are skipped where that is asked for; so are keywords told from
words, and other names replaced by the texts that they stand for. -/
def readToken : Nat → Bool → Attention → Reading Token
  | 0, _, _ => Reading.fail "out of space"
  | fuel + 1, skipsNewlines, attention => do
    let classify (token : Token) : Token :=
      if attention = .toWords then token else token.classified
    match (← get).held? with
    | some token =>
      modify fun reader => { reader with held? := none }
      match token with
      | .newline => if skipsNewlines then readToken fuel true attention else return token
      | _ => return classify token
    | none =>
      let isInvited ← leaveAliases
      let before ← get
      let token ← readFresh fuel
      match token with
      | .newline =>
        if skipsNewlines then
          readToken fuel true (if isInvited then .toCommands else attention)
        else return token
      | _ =>
        let token := classify token
        if attention = .toCommands || isInvited then
          if ← enterAlias before.uses token then readToken fuel skipsNewlines attention
          else return token
        else return token

/-- Commands one after another. At the top of a script the list ends with its line. -/
def readList : Nat → Bool → Bool → Option Command → Reading (Option Command)
  | 0, _, _, _ => Reading.fail "out of space"
  | fuel + 1, isTop, mayEnd, before => do
    let token ← readToken fuel (!isTop) .toCommands
    match token with
    | .newline => return before
    | .finish =>
      hold token
      return before
    | _ =>
      hold token
      if !isTop && mayEnd && token.endsList then return before
      else
        let line := (← get).line
        let command ← readChain fuel
        let token ← readToken fuel false .toWords
        let command := if token.isOperator "&" then .background line command else command
        let joined :=
          match before with
          | some first => Command.joined .sequence first command
          | none => command
        match token with
        | .operator "&" | .operator ";" => readList fuel isTop true (some joined)
        | .newline | .finish =>
          hold token
          readList fuel isTop true (some joined)
        | _ =>
          if isTop then unexpected token none
          hold token
          return some joined

/-- Pipelines that are joined by conditions. -/
def readChain : Nat → Reading Command
  | 0 => Reading.fail "out of space"
  | fuel + 1 => do readConditions fuel (← readPipeline fuel false)

/-- The conditions behind a command. -/
def readConditions : Nat → Command → Reading Command
  | 0, _ => Reading.fail "out of space"
  | fuel + 1, left => do
    let token ← readToken fuel false .toWords
    match token with
    | .operator "&&" => readConditions fuel (.joined .both left (← readPipeline fuel true))
    | .operator "||" => readConditions fuel (.joined .either left (← readPipeline fuel true))
    | _ =>
      hold token
      return left

/-- Commands of which each prints to the next. -/
def readPipeline : Nat → Bool → Reading Command
  | 0, _ => Reading.fail "out of space"
  | fuel + 1, skipsNewlines => do
    let token ← readToken fuel skipsNewlines .toCommands
    let isNegated := token.isKeyword "!"
    if !isNegated then hold token
    let first ← readCommand fuel false
    let others ← readPipes fuel
    let pipeline := if others.isEmpty then first else .pipeline (first :: others)
    return if isNegated then .negated pipeline else pipeline

/-- The commands that a command prints to. -/
def readPipes : Nat → Reading (List Command)
  | 0 => Reading.fail "out of space"
  | fuel + 1 => do
    let token ← readToken fuel false .toWords
    if token.isOperator "|" then
      let next ← readCommand fuel true
      return next :: (← readPipes fuel)
    else
      hold token
      return []

/-- A list within a command. Where the script ends instead, what has to follow will be missed. -/
def readBody : Nat → Reading Command
  | 0 => Reading.fail "out of space"
  | fuel + 1 => return (← readList fuel false false none).getD (.call 0 [] [] [])

/-- One command with the redirections behind it. -/
def readCommand : Nat → Bool → Reading Command
  | 0, _ => Reading.fail "out of space"
  | fuel + 1, skipsNewlines => do
    let expect (wanted : Token) (holds : Token → Bool) : Reading Unit := do
      let token ← readToken fuel true .toCommands
      if !holds token then unexpected token (some wanted)
    let keyword (word : String) : Reading Unit :=
      expect (.keyword word) fun token => token.isKeyword word
    let token ← readToken fuel skipsNewlines .toCommands
    let line := (← get).line
    match token with
    | .keyword "if" =>
      let command ← readBranches fuel
      keyword "fi"
      readRedirected fuel line command
    | .keyword "while" | .keyword "until" =>
      let test ← readBody fuel
      keyword "do"
      let body ← readBody fuel
      keyword "done"
      readRedirected fuel line (.loop (token.isKeyword "until") test body)
    | .keyword "for" =>
      let command ← readIteration fuel line
      readRedirected fuel line command
    | .keyword "case" =>
      let token ← readToken fuel false .toWords
      match token with
      | .word subject =>
        keyword "in"
        let arms ← readArms fuel
        readRedirected fuel line (.choice line subject arms)
      | _ => unexpected token (some (.word []))
    | .operator "(" =>
      let openings := (← get).openings
      let inside := if openings = 0 then 0 else openings + 1
      let body ← behindOpening inside (readBody fuel)
      expect (.operator ")") fun token => token.isOperator ")"
      return .subshell line body (← readRedirects fuel)
    | .keyword "\x7b" =>
      let body ← readBody fuel
      keyword "\x7d"
      readRedirected fuel line body
    | .word _ | .redirect .. =>
      hold token
      readCall fuel line [] [] []
    | _ => unexpected token none

/-- The tests and bodies of a conditional. -/
def readBranches : Nat → Reading Command
  | 0 => Reading.fail "out of space"
  | fuel + 1 => do
    let test ← readBody fuel
    let token ← readToken fuel true .toCommands
    if !token.isKeyword "then" then unexpected token (some (.keyword "then"))
    let yes ← readBody fuel
    let token ← readToken fuel true .toCommands
    match token with
    | .keyword "elif" => return .conditional test yes (some (← readBranches fuel))
    | .keyword "else" => return .conditional test yes (some (← readBody fuel))
    | _ =>
      hold token
      return .conditional test yes none

/-- A loop over words, from the name of its variable on. -/
def readIteration : Nat → Nat → Reading Command
  | 0, _ => Reading.fail "out of space"
  | fuel + 1, line => do
    let token ← readToken fuel false .toWords
    let name? := token.word?.bind Word.bare?
    match name?.filter isName with
    | none => Reading.fail "Bad for loop variable"
    | some name =>
      let token ← readToken fuel true .toCommands
      let words ←
        if token.isKeyword "in" then do
          let (words, last) ← readWords fuel
          match last with
          | .newline | .operator ";" => pure words
          | _ => unexpected last none
        else do
          if !token.isOperator ";" then hold token
          pure [[.mark, .parameter (.value ['@']) true, .mark]]
      let token ← readToken fuel true .toCommands
      if !token.isKeyword "do" then unexpected token (some (.keyword "do"))
      let body ← readBody fuel
      let token ← readToken fuel true .toCommands
      if !token.isKeyword "done" then unexpected token (some (.keyword "done"))
      return .iteration line name words body

/-- Words up to the first token that is none, and that token. -/
def readWords : Nat → Reading (List Word × Token)
  | 0 => Reading.fail "out of space"
  | fuel + 1 => do
    let token ← readToken fuel false .toWords
    match token with
    | .word word =>
      let (words, last) ← readWords fuel
      return (word :: words, last)
    | _ => return ([], token)

/-- The arms of a choice up to its end. -/
def readArms : Nat → Reading (List (List Word × Option Command))
  | 0 => Reading.fail "out of space"
  | fuel + 1 => do
    let token ← readToken fuel true .toKeywords
    if token.isKeyword "esac" then return []
    else
      let token ← if token.isOperator "(" then readToken fuel false .toWords else pure token
      let patterns ← readPatterns fuel token
      let body ← readList fuel false true none
      let token ← readToken fuel true .toCommands
      if token.isKeyword "esac" then return [(patterns, body)]
      else if token.isOperator ";;" then return (patterns, body) :: (← readArms fuel)
      else unexpected token (some (.operator ";;"))

/-- The patterns of an arm, of which the first token is given. A token that is no word is only
missed where the patterns end. -/
def readPatterns : Nat → Token → Reading (List Word)
  | 0, _ => Reading.fail "out of space"
  | fuel + 1, token => do
    let pattern := token.word?.getD []
    let token ← readToken fuel false .toWords
    if token.isOperator "|" then
      return pattern :: (← readPatterns fuel (← readToken fuel false .toWords))
    else if token.isOperator ")" then return [pattern]
    else unexpected token (some (.operator ")"))

/-- The redirections behind a command. -/
def readRedirects : Nat → Reading (List Redirect)
  | 0 => Reading.fail "out of space"
  | fuel + 1 => do
    let token ← readToken fuel false .toCommands
    match token with
    | .redirect descriptor? symbol =>
      let redirect ← readTarget fuel descriptor? symbol
      return redirect :: (← readRedirects fuel)
    | _ =>
      hold token
      return []

/-- A command with the redirections behind it. -/
def readRedirected : Nat → Nat → Command → Reading Command
  | 0, _, _ => Reading.fail "out of space"
  | fuel + 1, line, command => do
    match ← readRedirects fuel with
    | [] => return command
    | redirects => return .redirected line command redirects

/-- What the operator of a redirection is followed by. -/
def readTarget : Nat → Option Nat → String → Reading Redirect
  | 0, _, _ => Reading.fail "out of space"
  | fuel + 1, descriptor?, symbol => do
    let isDocument := symbol = "<<" || symbol = "<<-"
    let token ←
      if isDocument then do
        let _ ← Reading.takeWhile fun octet => octet = ' ' || octet = '\t'
        match ← peek with
        | some octet =>
          if endsWord octet || octet = '#' then readToken fuel false .toWords
          else pure (.word (← readPieces fuel .ending))
        | none => pure .finish
      else readToken fuel false .toWords
    match token with
    | .word word =>
      let side := if symbol.toList.head? = some '<' then 0 else 1
      let descriptor := descriptor?.getD side
      let file (opening : Opening) : Reading Redirect := return .file descriptor opening word
      match symbol with
      | "<" => file .read
      | ">" => file .write
      | ">|" => file .overwrite
      | ">>" => file .append
      | "<>" => file .both
      | "<&" | ">&" => return .duplicate descriptor word
      | _ =>
        let isLiteral := word.any Piece.isQuotation
        let (text, line) ← takeDocument (Word.octets word) (symbol = "<<-") isLiteral
        if isLiteral then return .document descriptor (text.map Piece.quoted)
        else return .document descriptor (← within text line (readPieces fuel .document))
    | _ => unexpected token none

/-- A call with its assignments and redirections, or the definition of a function. -/
def readCall : Nat → Nat → List (Octets × Word) → List Word → List Redirect → Reading Command
  | 0, _, _, _, _ => Reading.fail "out of space"
  | fuel + 1, line, assignments, words, redirects => do
    let attention := if words.isEmpty then Attention.toCommands else .toWords
    let token ← readToken fuel false attention
    match (token.word?.map Token.word).getD token with
    | .word word =>
      match if words.isEmpty then assignment? word else none with
      | some assigned =>
        readCall fuel line (assignments ++ [assigned]) words redirects
      | none => readCall fuel line assignments (words ++ [word]) redirects
    | .redirect descriptor? symbol =>
      let redirect ← readTarget fuel descriptor? symbol
      readCall fuel line assignments words (redirects ++ [redirect])
    | _ =>
      match token.isOperator "(", words, assignments, redirects with
      | true, [name], [], [] =>
        let token ← readToken fuel false .toWords
        if !token.isOperator ")" then unexpected token (some (.operator ")"))
        match (Word.bare? name).filter fun name => isName name && !isSpecialName name with
        | none => Reading.fail "Bad function name"
        | some name =>
          let line := (← get).line
          return .definition line name (← readCommand fuel true)
      | _, _, _, _ =>
        hold token
        return .call line assignments words redirects

end

/-! ### Scripts -/

/-- What is read from a script at a time. -/
inductive Portion
  /-- There is nothing more. -/
  | finish
  /-- A line without a command. -/
  | blank
  | command (command : Command)

/-- The next complete command of a script, and the reader behind it. -/
def readPortion (reader : Reader) : Except Fault (Portion × Reader) := do
  let replacing := (reader.aliases.flatMap Prod.snd).length
  let fuel := 8 * (reader.input.length + 1) * (replacing + 1) + 64
  let (command?, after) ← (readList fuel true false none).run { reader with held? := none }
  let isOver :=
    match after.held? with
    | some .finish => true
    | _ => false
  match command? with
  | some command => return (.command command, after)
  | none => return (if isOver then .finish else .blank, after)

end Golden.Shell
