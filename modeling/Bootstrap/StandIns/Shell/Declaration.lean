import Bootstrap.StandIns.Shell.ShortOption

/-!
Variables, arguments and options: the commands that declare, list and change them.
-/

namespace Bootstrap

namespace Shell

def singleQuoted : (open' : Bool) → Octets → Octets
  | true, [] => ['\x27']
  | false, [] => ['"']
  | true, '\x27' :: rest => ['\x27', '"', '\x27'] ++ singleQuoted false rest
  | true, character :: rest => character :: singleQuoted true rest
  | false, '\x27' :: rest => '\x27' :: singleQuoted false rest
  | false, character :: rest => ['"', '\x27', character] ++ singleQuoted true rest

namespace Declaration

def quoted (value : Octets) : Octets :=
  '\x27' :: singleQuoted true value

def badName (name : Octets) : Exec α :=
  Exec.raise (name ++ ": bad variable name".toList)

def cut (word : Octets) : Octets × Option Octets :=
  match word.dropWhile (· ≠ '=') with
  | [] => (word, none)
  | _ :: value => (word.takeWhile (· ≠ '='), some value)

def give (word value : Octets) : Exec Unit := do
  let name := (cut word).1
  if !isName name then badName name
  Exec.assign name value

def listing (head : Octets) (shown : Binding → Bool) (bindings : Table Octets Binding) :
    List Octets :=
  let chosen := bindings.filter fun entry => shown entry.2
  (chosen.mergeSort fun first second => first.1.isAtMost second.1).map fun (name, binding) =>
    head ++ name ++
      match binding.value with
      | some value => '=' :: quoted value
      | none => []

def markAll (mark : Binding → Binding) : List Octets → Exec Unit
  | [] => return ()
  | word :: rest => do
      let (name, value?) := cut word
      if !isName name then badName name
      match value? with
      | some value => Exec.assign name value
      | none => pure ()
      Exec.declare name mark
      markAll mark rest

def mark (command : String) (has : Binding → Bool) (change : Binding → Binding)
    (words : List Octets) : Exec Nat := do
  let lists := match words with
    | ('-' :: 'p' :: _) :: _ => true
    | _ => false
  let names ← if lists then pure [] else ShortOption.none' words
  if names.isEmpty then Exec.showLines (listing (command ++ " ").toList has (← get).bindings)
  else markAll change names
  return 0

def exportNames : List Octets → Exec Nat :=
  mark "export" Binding.exported fun binding => { binding with exported := true }

def protectNames : List Octets → Exec Nat :=
  mark "readonly" Binding.readOnly fun binding => { binding with readOnly := true }

/-- Keeps what a name stands for outside the function, and gives it a value where there is one. A name
that no variable can have is found out when the function ends. -/
def makeLocal (word : Octets) : Exec Unit := do
  if word = ['-'] then
    modify fun state =>
      { state with
        scope := state.scope.map fun scope =>
          { scope with options := scope.options <|> some state.options } }
  else
    let (name, value?) := cut word
    match value? with
    | some value =>
        Exec.keepOuter name
        if isName name then Exec.assign name value
    | none =>
        if !isName name then badName name
        Exec.keepOuter name

def makeAllLocal : List Octets → Exec Unit
  | [] => return ()
  | word :: rest => do
      makeLocal word
      makeAllLocal rest

def localNames (words : List Octets) : Exec Nat := do
  if (← get).scope.isNone then Exec.raiseText "not in a function"
  else
    makeAllLocal words
    return 0

def forget (word : Octets) : Exec Unit := do
  let name := (cut word).1
  if !isName name then badName name
  let before := (← get).binding? name
  if before.any Binding.readOnly then Exec.raise (name ++ ": is read only".toList)
  else if name = "OPTIND".toList then Exec.raiseText "Illegal number: "
  else Exec.rebind fun bindings => bindings.erase name

def forgetAll (step : Octets → Exec Unit) : List Octets → Exec Unit
  | [] => return ()
  | name :: rest => do
      step name
      forgetAll step rest

def forgetFunction (name : Octets) : Exec Unit :=
  modify fun state => { state with functions := state.functions.erase name }

def forgetNames (words : List Octets) : Exec Nat := do
  let (letters, names) ← ShortOption.ofWords ['v', 'f'] [] words
  let isFunction := letters.getLast?.any fun last => last.letter = 'f'
  forgetAll (if isFunction then forgetFunction else forget) names
  return 0

def optionNames : List (String × Char) :=
  [("errexit", 'e'), ("noglob", 'f'), ("ignoreeof", 'I'), ("interactive", 'i'), ("monitor", 'm'),
    ("noexec", 'n'), ("stdin", 's'), ("xtrace", 'x'), ("verbose", 'v'), ("vi", 'V'), ("emacs", 'E'),
    ("noclobber", 'C'), ("allexport", 'a'), ("notify", 'b'), ("nounset", 'u'), ("privileged", 'p'),
    ("nolog", 'L'), ("debug", 'D')]

def optionSign (on : Bool) : Char :=
  if on then '-' else '+'

/-- Lists the options; a shell that starts does not know yet which are off. -/
def showOptions (starting on : Bool) : Exec Unit := do
  let state ← get
  if on then Exec.showLine "Current option settings".toList
  Exec.showLines (optionNames.map fun (name, letter) =>
    let isOn := starting || state.has letter
    if on then
      (name ++ String.ofList (List.replicate (16 - name.length) ' ')).toList ++
        (if isOn then "on" else "off").toList
    else "set ".toList ++ [optionSign isOn, 'o', ' '] ++ name.toList)

def setNamedOption (on : Bool) (name : Octets) : Exec Unit :=
  match optionNames.find? fun entry => entry.1.toList = name with
  | some (_, letter) => Exec.setOption letter on
  | none => Exec.raise ("Illegal option -o ".toList ++ name)

/-- A shell edits its lines in one of two ways at most. -/
def setLetter (on : Bool) (letter : Char) : Exec Unit := do
  if State.optionLetters.contains letter then
    Exec.setOption letter on
    if on ∧ letter = 'V' then Exec.setOption 'E' false
    if on ∧ letter = 'E' then Exec.setOption 'V' false
  else Exec.raise ("Illegal option -".toList ++ [letter])

structure Opened where
  words : List Octets
  resets : Bool
  givesScript : Bool

def setLetters (starting on : Bool) : List Char → List Octets → Exec (Bool × List Octets)
  | [], words => return (false, words)
  | letter :: rest, words => do
      if starting ∧ letter = 'c' then
        return (true, (← setLetters starting on rest words).2)
      else if starting ∧ letter = 'l' then setLetters starting on rest words
      else if letter = 'o' then
        match words with
        | [] => showOptions starting on
        | name :: _ => setNamedOption on name
        setLetters starting on rest (words.drop 1)
      else
        setLetter on letter
        setLetters starting on rest words

def setOptions (starting : Bool) : (fuel : Nat) → List Octets → Exec Opened
  | 0, words => return ⟨words, false, false⟩
  | _ + 1, [] => return ⟨[], false, false⟩
  | fuel + 1, word :: words => do
      let go := fun (on : Bool) (letters : List Char) => do
        let (givesScript, behind) ← setLetters starting on letters words
        let opened ← setOptions starting fuel behind
        return { opened with givesScript := opened.givesScript || givesScript }
      match word with
      | ['-'] =>
          if !starting then
            Exec.setOption 'x' false
            Exec.setOption 'v' false
          return ⟨words, false, false⟩
      | ['-', '-'] => return ⟨words, words.isEmpty, false⟩
      | '-' :: letters => go true letters
      | '+' :: letters => go false letters
      | _ => return ⟨word :: words, false, false⟩

def setArguments (words : List Octets) : Exec Unit :=
  modify fun state => { state with arguments := words, optionPlace := ⟨1, none⟩ }

/-- Jobs are not controlled without a terminal; a shell inside another one does not look for it. -/
def settleMonitor (wasMonitored : Bool) : Exec Unit := do
  let state ← get
  if state.has 'm' ∧ !wasMonitored ∧ !state.isSubshell then
    Exec.setOption 'm' false
    Exec.warn "can't access tty; job control turned off".toList

def set' (words : List Octets) : Exec Nat := do
  if words.isEmpty then
    Exec.showLines (listing [] (fun binding => binding.value.isSome) (← get).bindings)
  else
    let wasMonitored := (← get).has 'm'
    let opened ← setOptions false (words.length + 1) words
    if opened.resets ∨ !opened.words.isEmpty then setArguments opened.words
    settleMonitor wasMonitored
  return 0

def shift (words : List Octets) : Exec Nat := do
  let count ← match words with
    | [] => pure 1
    | word :: _ => Exec.number word
  let arguments := (← get).arguments
  if arguments.length < count then Exec.raiseText "can't shift that many"
  else
    setArguments (arguments.drop count)
    return 0

def resumed (place : OptionPlace) (words : List Octets) : Option Octets :=
  match place.offset with
  | some offset =>
      if place.next ≤ 1 then none
      else ((words[place.next - 2]?).map fun word => word.drop offset).filter fun rest => !rest.isEmpty
  | none => none

def conclude (holder : Octets) (place : OptionPlace) (letter : Char) (status : Nat) :
    Exec Nat := do
  Exec.assign "OPTIND".toList (State.decimal place.next)
  modify fun state => { state with optionPlace := place }
  give holder [letter]
  return status

def takeLetter (known : Octets) (holder : Octets) (words : List Octets) (next : Nat)
    (letter : Char) (rest : Octets) : Exec Nat := do
  let silent := known.head? = some ':'
  let argument := "OPTARG".toList
  let place := fun (left : Octets) =>
    match words[next - 2]? with
    | some word => OptionPlace.mk next (some (word.length - left.length))
    | none => ⟨next, none⟩
  let tell := fun (text : String) => Exec.tool (Tool.writeText 2 text)
  match (if letter = ':' then [] else known.dropWhile (· ≠ letter)) with
  | [] =>
      if silent then Exec.assign argument [letter]
      else
        tell ("Illegal option -" ++ Octets.toText [letter] ++ "\n")
        Exec.rebind fun bindings => bindings.erase argument
      conclude holder (place rest) '?' 0
  | _ :: ':' :: _ =>
      if !rest.isEmpty then
        Exec.assign argument rest
        conclude holder ⟨next, none⟩ letter 0
      else
        match words[next - 1]? with
        | some value =>
            Exec.assign argument value
            conclude holder ⟨next + 1, none⟩ letter 0
        | none =>
            if silent then
              Exec.assign argument [letter]
              conclude holder ⟨next, none⟩ ':' 0
            else
              tell ("No arg for -" ++ Octets.toText [letter] ++ " option\n")
              Exec.rebind fun bindings => bindings.erase argument
              conclude holder ⟨next, none⟩ '?' 0
  | _ =>
      Exec.assign argument []
      conclude holder (place rest) letter 0

def nextOption (known : Octets) (holder : Octets) (words : List Octets) : Exec Nat := do
  let kept := (← get).optionPlace
  let place := if words.length + 1 < kept.next then OptionPlace.mk 1 none else kept
  match resumed place words with
  | some (letter :: rest) => takeLetter known holder words place.next letter rest
  | _ =>
      match words[place.next - 1]? with
      | some ['-', '-'] => conclude holder ⟨place.next + 1, none⟩ '?' 1
      | some ('-' :: letter :: rest) =>
          takeLetter known holder words (place.next + 1) letter rest
      | _ => conclude holder ⟨place.next, none⟩ '?' 1

def readOption (words : List Octets) : Exec Nat := do
  match ← ShortOption.none' words with
  | [known, holder] => nextOption known holder (← get).arguments
  | known :: holder :: given => nextOption known holder given
  | _ => Exec.raiseText "Usage: getopts optstring var [arg...]"

def aliasLine (name value : Octets) : Octets :=
  name ++ '=' :: quoted value

def setAliases : List Octets → Exec Nat
  | [] => return 0
  | word :: rest => do
      let name := word.take 1 ++ (word.drop 1).takeWhile (· ≠ '=')
      let status ← match (word.drop 1).dropWhile (· ≠ '=') with
        | _ :: value =>
            modify fun state => { state with aliases := state.aliases.insert name value }
            pure 0
        | [] =>
            match (← get).aliases.get? word with
            | some value =>
                Exec.showLine (aliasLine word value)
                pure 0
            | none =>
                Exec.tool (Tool.writeText 2 ("alias: " ++ Octets.toText word ++ " not found\n"))
                pure 1
      return max status (← setAliases rest)

def aliases (words : List Octets) : Exec Nat := do
  if words.isEmpty then
    Exec.showLines ((← get).aliases.map fun (name, value) => aliasLine name value)
  setAliases words

def dropAliases : List Octets → Exec Nat
  | [] => return 0
  | word :: rest => do
      let status ← if ((← get).aliases.get? word).isSome then do
          modify fun state => { state with aliases := state.aliases.erase word }
          pure 0
        else do
          Exec.tool (Tool.writeText 2 ("unalias: " ++ Octets.toText word ++ " not found\n"))
          pure 1
      return max status (← dropAliases rest)

def unalias (words : List Octets) : Exec Nat := do
  let (letters, names) ← ShortOption.ofWords ['a'] [] words
  if letters.isEmpty then dropAliases names
  else
    modify fun state => { state with aliases := [] }
    return 0

end Declaration

end Shell

end Bootstrap
