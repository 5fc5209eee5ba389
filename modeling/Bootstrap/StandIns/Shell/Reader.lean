import Bootstrap.StandIns.Shell.WordReader

/-!
Reading commands, one line of a script at a time.
-/

namespace Bootstrap

namespace Shell

def specialNames : List String :=
  [".", ":", "break", "continue", "eval", "exec", "exit", "export", "local", "readonly", "return",
    "set", "shift", "times", "trap", "unset"]

def isSpecial (word : Octets) : Bool :=
  specialNames.any fun name => name.toList = word

/-- How far a list of commands goes: to the end of a line, to what closes it, or to a closer that
may come at once. -/
inductive Reach where
  | line
  | block
  | enclosed
  deriving DecidableEq, Repr

def assignment? (word : Word) : Option (Octets × List Piece) :=
  match word.pieces with
  | .text value false :: rest =>
      let name := value.takeWhile (· ≠ '=')
      if isName name ∧ name.length < value.length then
        let start := value.drop (name.length + 1)
        some (name, if start.isEmpty then rest else .text start false :: rest)
      else none
  | _ => none

def wordText : List Piece → Octets
  | [] => []
  | .text value _ :: rest => value ++ wordText rest
  | _ :: rest => wordText rest

namespace Reader

def purpose (sign : Char) : Reader Purpose := do
  if sign = '>' then
    if ← takes '>' then return .file .append
    else if ← takes '|' then return .file .overwrite
    else if ← takes '&' then return .duplicate
    else return .file .output
  else if ← takes '<' then return .document (← takes '-')
  else if ← takes '&' then return .duplicate
  else if ← takes '>' then return .file .both
  else return .file .input

section Reading

variable (script : (closed : Bool) → Reader Command)

def wordToken (place : Place) : Reader Token := do
  let found ← WordReader.word script place
  let asWord : Reader Token := do
    modify fun source => { source with lastWord := found.pieces }
    return .word found
  let redirect := fun (sign : Char) (descriptor? : Option Nat) => do
    let _ ← takeRaw
    return Token.redirection (descriptor?.getD (if sign = '>' then 1 else 0)) (← purpose sign)
  match ← peek with
  | some sign =>
      if (sign = '<' ∨ sign = '>') ∧ !found.quoted then
        match found.pieces with
        | [] => redirect sign none
        | [.text [digit] false] =>
            if digit.isDigit then redirect sign (some (digit.toNat - '0'.toNat)) else asWord
        | _ => asWord
      else asWord
  | none => asWord

def freshToken (place : Place) : (fuel : Nat) → Reader Token
  | 0 => tooDeep
  | fuel + 1 => do
      let single := fun (text : String) => do
        let _ ← takeRaw
        return Token.sign text
      let double := fun (character : Char) => do
        let _ ← takeRaw
        let one := String.ofList [character]
        return Token.sign (if ← takes character then one ++ one else one)
      match ← peek with
      | none => return .endOfFile
      | some ' ' =>
          let _ ← takeRaw
          freshToken place fuel
      | some '\t' =>
          let _ ← takeRaw
          freshToken place fuel
      | some '#' =>
          skipComment
          freshToken place fuel
      | some '\n' =>
          let _ ← takeRaw
          return .newline
      | some '(' => single "("
      | some ')' => single ")"
      | some '&' => double '&'
      | some '|' => double '|'
      | some ';' => double ';'
      | some _ => wordToken script place

def anyToken (place : Place) : Reader Token := do
  let source ← get
  match source.pushed with
  | some token =>
      set { source with pushed := none }
      return token
  | none => freshToken script place (source.rest.length + 1)

def waitingDocuments : Reader Unit := do
  let source ← get
  set { source with waiting := [] }
  WordReader.documents script source.waiting

def tokenAfterLines : (fuel : Nat) → Reader Token
  | 0 => tooDeep
  | fuel + 1 => do
      match ← anyToken script .word with
      | .newline =>
          waitingDocuments script
          tokenAfterLines fuel
      | token => return token

/-- The next token; line ends may be skipped, and the words that shape commands told apart. An alias
gives way to the text that it stands for. -/
def tokenWith (skipsLines keywords aliases : Bool) : (fuel : Nat) → Reader Token
  | 0 => tooDeep
  | fuel + 1 => do
      let isNew := (← get).pushed.isNone
      let goesOn ← if isNew then leaveSubstitutes else pure false
      let taken ← if skipsLines then do tokenAfterLines script ((← get).rest.length + 2)
        else anyToken script .word
      let found := if keywords then taken.recognised else taken
      match found with
      | .word name =>
          let source ← get
          match name.plain?.bind fun text => (substitute? source text).map fun value => (text, value) with
          | some (text, value) =>
              if isNew && (aliases || goesOn) then
                enterSubstitute text value
                tokenWith skipsLines keywords (aliases || goesOn) fuel
              else return found
          | none => return found
      | _ => return found

def someToken (skipsLines keywords aliases : Bool) : Reader Token := do
  let source ← get
  tokenWith script skipsLines keywords aliases (source.rest.length + source.aliases.length + 2)

def token (skipsLines keywords : Bool) : Reader Token :=
  someToken script skipsLines keywords keywords

def plainToken : Reader Token :=
  token script false false

def aliasedToken : Reader Token :=
  someToken script false false true

def branchToken : Reader Token :=
  someToken script true true false

def openToken : Reader Token :=
  token script true true

def redirect (descriptor : Nat) (purpose : Purpose) : Reader Redirect := do
  let isDocument := match purpose with
    | .document _ => true
    | _ => false
  match ← anyToken script (if isDocument then .delimiter else .word) with
  | .word found =>
      match purpose with
      | .file opening => return .file descriptor opening found.pieces
      | .duplicate => return .duplicate descriptor found.pieces
      | .document stripsTabs =>
          let source ← get
          let waiting := Waiting.mk source.next (wordText found.pieces) found.quoted stripsTabs
          set { source with next := source.next + 1, waiting := source.waiting ++ [waiting] }
          return .document descriptor source.next
  | token => unexpected token

def redirects : (fuel : Nat) → (keywords : Bool) → Reader (List Redirect)
  | 0, _ => tooDeep
  | fuel + 1, keywords => do
      match ← token script false keywords with
      | .redirection descriptor purpose =>
          let first ← redirect script descriptor purpose
          return first :: (← redirects fuel false)
      | other =>
          pushBack other
          return []

def values : (fuel : Nat) → Reader (List (List Piece) × Token)
  | 0 => tooDeep
  | fuel + 1 => do
      match ← plainToken script with
      | .word found =>
          let (rest, last) ← values fuel
          return (found.pieces :: rest, last)
      | token => return ([], token)

end Reading

structure Simple where
  assignments : List (Octets × List Piece)
  words : List Word
  redirects : List Redirect

def functionName (found : Simple) : Option Word :=
  match found.assignments, found.words, found.redirects with
  | [], [name], [] => some name
  | _, _, _ => none

def joined (commands : List Command) : Command :=
  match commands with
  | [single] => single
  | several => .sequence several

def withRedirects (line : Nat) (command : Command) (redirects : List Redirect) : Command :=
  if redirects.isEmpty then command
  else
    match command with
    | .subshell start body _ => .subshell start body redirects
    | other => .redirected line other redirects

mutual

def substitution : (fuel : Nat) → (closed : Bool) → Reader Command
  | 0, _ => tooDeep
  | fuel + 1, closed => do
      let commands ← list fuel .enclosed true
      if closed then
        match ← plainToken (substitution fuel) with
        | .sign ")" => return joined commands
        | other => expecting other "\")\""
      else return joined commands

def list : (fuel : Nat) → Reach → (isFirst : Bool) → Reader (List Command)
  | 0, _, _ => tooDeep
  | fuel + 1, reach, isFirst => do
      let script := substitution fuel
      let found ← token script (reach ≠ .line) true
      let closes := found.closesList && match reach with
        | .line => false
        | .block => !isFirst
        | .enclosed => true
      let finish : Reader (List Command) := do
        pushBack found
        return []
      match found with
      | .newline =>
          waitingDocuments script
          return []
      | .endOfFile =>
          waitingDocuments script
          finish
      | _ =>
          if closes then finish
          else
            pushBack found
            let line := (← get).line
            let command ← andOr fuel
            let following ← plainToken script
            match following with
            | .sign "&" => return .background line command :: (← list fuel reach false)
            | .sign ";" => return command :: (← list fuel reach false)
            | .newline =>
                pushBack following
                return command :: (← list fuel reach false)
            | .endOfFile =>
                waitingDocuments script
                pushBack following
                return [command]
            | _ =>
                if reach = .line then unexpected following
                else
                  pushBack following
                  return [command]

def andOr : (fuel : Nat) → Reader Command
  | 0 => tooDeep
  | fuel + 1 => do
      let first ← pipeline fuel false
      andOrRest fuel first

def andOrRest : (fuel : Nat) → Command → Reader Command
  | 0, _ => tooDeep
  | fuel + 1, first => do
      match ← plainToken (substitution fuel) with
      | .sign "&&" => do
          let second ← pipeline fuel true
          andOrRest fuel (.both first second)
      | .sign "||" => do
          let second ← pipeline fuel true
          andOrRest fuel (.either first second)
      | other =>
          pushBack other
          return first

/-- A pipeline; behind a sign that joins commands it may begin on a later line. -/
def pipeline : (fuel : Nat) → (joins : Bool) → Reader Command
  | 0, _ => tooDeep
  | fuel + 1, joins => do
      let script := substitution fuel
      let first ← token script joins joins
      let negated := first.isKeywordNamed "!"
      let start ← if negated then token script false true else pure first
      let line := (← get).line
      let command ← command fuel start line
      let others ← stages fuel
      let whole := if others.isEmpty then command else .pipeline (command :: others)
      return if negated then .negate whole else whole

def stages : (fuel : Nat) → Reader (List Command)
  | 0 => tooDeep
  | fuel + 1 => do
      let script := substitution fuel
      match ← plainToken script with
      | .sign "|" =>
          let line := (← get).line
          let first ← command fuel (← openToken script) line
          return first :: (← stages fuel)
      | other =>
          pushBack other
          return []

def command : (fuel : Nat) → Token → (line : Nat) → Reader Command
  | 0, _, _ => tooDeep
  | fuel + 1, start, line => do
      let script := substitution fuel
      let close := fun (wanted : String) (body : Command) => do
        let found ← plainToken script
        if found.isKeywordNamed wanted then
          return withRedirects line body (← redirects script ((← get).rest.length + 2) true)
        else expecting found (Token.quotedName wanted)
      match start with
      | .keyword "if" => close "fi" (← choice fuel)
      | .keyword "while" => close "done" (← loop fuel true)
      | .keyword "until" => close "done" (← loop fuel false)
      | .keyword "for" => close "done" (← each fuel line)
      | .keyword "case" =>
          let body ← select fuel line
          return withRedirects line body (← redirects script ((← get).rest.length + 2) true)
      | .keyword "\x7b" => close "\x7d" (joined (← list fuel .block true))
      | .sign "(" =>
          let body := Command.subshell line (joined (← list fuel .block true)) []
          let found ← plainToken script
          if found.isSign ")" then
            return withRedirects line body (← redirects script ((← get).rest.length + 2) true)
          else expecting found (Token.quotedName ")")
      | .word _ => simple fuel start
      | .redirection _ _ => simple fuel start
      | other => unexpected other

def simple : (fuel : Nat) → Token → Reader Command
  | 0, _ => tooDeep
  | fuel + 1, start => do
      let script := substitution fuel
      let line := (← get).line
      pushBack start
      let found ← simpleParts fuel ⟨[], [], []⟩
      let ending ← plainToken script
      match functionName found with
      | some name =>
          if ending.isSign "(" then
            let closing ← plainToken script
            if closing.isSign ")" then
              match name.plain? with
              | some text =>
                  if isName text ∧ !isSpecial text then
                    let here := (← get).line
                    return .define here text (← command fuel (← openToken script) here)
                  else fail "Bad function name"
              | none => fail "Bad function name"
            else expecting closing (Token.quotedName ")")
          else
            pushBack ending
            return .simple line [] [name.pieces] []
      | none =>
          pushBack ending
          return .simple line found.assignments (found.words.map Word.pieces) found.redirects

def simpleParts : (fuel : Nat) → Simple → Reader Simple
  | 0, _ => tooDeep
  | fuel + 1, found => do
      let script := substitution fuel
      match ← if found.words.isEmpty then aliasedToken script else plainToken script with
      | .word next =>
          match if found.words.isEmpty then assignment? next else none with
          | some assignment =>
              simpleParts fuel { found with assignments := found.assignments ++ [assignment] }
          | none => simpleParts fuel { found with words := found.words ++ [next] }
      | .redirection descriptor purpose =>
          let next ← redirect script descriptor purpose
          simpleParts fuel { found with redirects := found.redirects ++ [next] }
      | other =>
          pushBack other
          return found

def choice : (fuel : Nat) → Reader Command
  | 0 => tooDeep
  | fuel + 1 => do
      let script := substitution fuel
      let condition ← list fuel .block true
      let opened ← plainToken script
      if opened.isKeywordNamed "then" then
        let body ← list fuel .block true
        let following ← plainToken script
        if following.isKeywordNamed "elif" then
          return .choose (joined condition) (joined body) (some (← choice fuel))
        else if following.isKeywordNamed "else" then
          return .choose (joined condition) (joined body) (some (joined (← list fuel .block true)))
        else
          pushBack following
          return .choose (joined condition) (joined body) none
      else expecting opened (Token.quotedName "then")

def loop : (fuel : Nat) → (expected : Bool) → Reader Command
  | 0, _ => tooDeep
  | fuel + 1, expected => do
      let condition ← list fuel .block true
      let opened ← plainToken (substitution fuel)
      if opened.isKeywordNamed "do" then
        return .loop expected (joined condition) (joined (← list fuel .block true))
      else expecting opened (Token.quotedName "do")

def each : (fuel : Nat) → (line : Nat) → Reader Command
  | 0, _ => tooDeep
  | fuel + 1, line => do
      let script := substitution fuel
      let name ← match ← plainToken script with
        | .word found =>
            match found.plain? with
            | some text => if isName text then pure text else fail "Bad for loop variable"
            | none => fail "Bad for loop variable"
        | _ => fail "Bad for loop variable"
      let following ← openToken script
      let given ← if following.isKeywordNamed "in" then do
          let (words, last) ← values script ((← get).rest.length + 2)
          match last with
          | .newline => pure (some words)
          | .sign ";" => pure (some words)
          | other => unexpected other
        else do
          if !following.isSign ";" then pushBack following
          pure none
      let opened ← openToken script
      if opened.isKeywordNamed "do" then
        return .each line name given (joined (← list fuel .block true))
      else expecting opened (Token.quotedName "do")

def select : (fuel : Nat) → (line : Nat) → Reader Command
  | 0, _ => tooDeep
  | fuel + 1, line => do
      let script := substitution fuel
      match ← plainToken script with
      | .word subject =>
          let opened ← openToken script
          if opened.isKeywordNamed "in" then
            return .select line subject.pieces (← branches fuel)
          else expecting opened (Token.quotedName "in")
      | other => expecting other "word"

def branches : (fuel : Nat) → Reader (List (List (List Piece) × Command))
  | 0 => tooDeep
  | fuel + 1 => do
      let script := substitution fuel
      let found ← branchToken script
      if found.isKeywordNamed "esac" then return []
      else
        if found.isSign "(" then
          let _ ← plainToken script
        let choices ← patterns fuel
        let body ← list fuel .enclosed true
        let following ← openToken script
        let branch := (choices, joined body)
        if following.isKeywordNamed "esac" then return [branch]
        else if following.isSign ";;" then return branch :: (← branches fuel)
        else expecting following (Token.quotedName ";;")

/-- The patterns of a branch, whose first token has been taken, and the parenthesis behind them. A
token that is no word stands for the word before it. -/
def patterns : (fuel : Nat) → Reader (List (List Piece))
  | 0 => tooDeep
  | fuel + 1 => do
      let script := substitution fuel
      let pieces := (← get).lastWord
      match ← plainToken script with
      | .sign "|" =>
          let _ ← plainToken script
          return pieces :: (← patterns fuel)
      | .sign ")" => return [pieces]
      | other => expecting other (Token.quotedName ")")

end

def enoughFuel (text : List Char) : Nat :=
  16 * text.length + 64

def line : Reader (Option (List Command)) := do
  let source ← get
  set { source with pushed := none, waiting := [] }
  let commands ← list (enoughFuel source.rest) .line true
  if commands.isEmpty ∧ (← get).pushed.isSome then return none else return some commands

end Reader

end Shell

end Bootstrap
