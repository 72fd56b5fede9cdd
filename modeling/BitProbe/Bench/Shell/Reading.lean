import BitProbe.Bench.Shell.Source

/-!
Reading the commands of a script.

A script is read and run line after line, so what is wrong with a line does
not keep the lines before it from running. Words hold commands and commands
hold words, so all of them are read by functions that call one another; each
of them spends fuel, which the length of the script bounds.

* `Reading.word`, `Reading.inQuotes`, `Reading.inBraces`, `Reading.inSum`,
  `Reading.inText`: the pieces of a word, by where they stand;
* `Reading.token`: the next token;
* `Reading.list`, `Reading.andOr`, `Reading.pipeline`, `Reading.command`:
  commands;
* `topLine`, `readLine`: the commands up to the end of a line.
-/

namespace BitProbe.Bench.Shell

open Reader

/-- How a token is read where it stands. -/
structure Expectation where
  /-- The ends of lines do not count. -/
  newlines : Bool := false
  reserved : Bool := false
  aliases : Bool := false

/-- Where a command may start. -/
def Expectation.start : Expectation := ⟨false, true, true⟩

/-- Where a command may start, on this line or a later one. -/
def Expectation.later : Expectation := ⟨true, true, true⟩

/-- Octets that end a word. -/
def endsWord (c : Char) : Bool :=
  c ∈ [' ', '\t', '\n', ';', '&', '|', '(', ')', '<', '>']

/-- Names of what a shell holds that are one octet. -/
def isSpecialName (c : Char) : Bool :=
  c.isDigit || c ∈ ['@', '*', '#', '?', '$', '!', '-']

/-- The text up to a single quote. -/
def untilQuote : Nat → Reader Octets
  | 0 => fail "Unterminated quoted string"
  | fuel + 1 => do
    match ← nextRaw with
    | none => fail "Unterminated quoted string"
    | some '\x27' => return []
    | some c => return c :: (← untilQuote fuel)

/-- The text up to a backquote. A backslash hides a backquote, a backslash
and a dollar sign, and between double quotes also one of those. -/
def untilBackquote (quoted : Bool) : Nat → Reader Octets
  | 0 => fail "EOF in backquote substitution"
  | fuel + 1 => do
    match ← next with
    | none => fail "EOF in backquote substitution"
    | some '\x60' => return []
    | some '\\' =>
      match ← nextRaw with
      | none => fail "EOF in backquote substitution"
      | some d =>
        let rest ← untilBackquote quoted fuel
        if d ∈ ['\\', '\x60', '$'] || quoted && d = '\x22' then
          return d :: rest
        else return '\\' :: d :: rest
    | some c => return c :: (← untilBackquote quoted fuel)

/-- What a backslash between double quotes makes of the octet after it. -/
def hidden (more : List Char) : Reader Phrase := do
  match ← nextRaw with
  | none => return [.octet '\\' true]
  | some d =>
    if d ∈ ['\\', '\x60', '$'] || d ∈ more then return [.octet d true]
    else return [.octet '\\' true, .octet d true]

/-- How the name between braces goes on. -/
inductive Opening where
  | closed
  | size
  | fallback (emptyToo : Bool)
  | setting (emptyToo : Bool)
  | alternative (emptyToo : Bool)
  | demand (emptyToo : Bool)
  | cut (atEnd longest : Bool)
  | wrong

/-- The operator after the name between braces. -/
def opening : Reader Opening := do
  let colon ← accept ':'
  match ← look with
  | some '\n' =>
    modify fun s => { s with rest := s.rest.drop 1 }
    return .wrong
  | _ => afterColon colon
where
  /-- The operator after the colon, which there may be. -/
  afterColon (colon : Bool) : Reader Opening := do
    match ← next with
    | some '\x7d' => return if colon then .wrong else .closed
    | some '-' => return .fallback colon
    | some '=' => return .setting colon
    | some '+' => return .alternative colon
    | some '?' => return .demand colon
    | some '%' =>
      if colon then return .wrong else return .cut true (← accept '%')
    | some '#' =>
      if colon then return .wrong else return .cut false (← accept '#')
    | _ => return .wrong

/-- The name between braces and how it goes on. -/
def bracedName : Reader (Octets × Opening) := do
  let fuel ← remaining
  match ← look with
  | some c =>
    if startsName c then
      let n ← takeWhile continuesName fuel
      return (n, ← opening)
    else if c.isDigit then
      let n ← takeWhile Char.isDigit fuel
      return (n, ← opening)
    else if c = '\x7d' then return ([], .wrong)
    else
      let _ ← nextRaw
      if c = '#' then afterHash fuel
      else if isSpecialName c then return ([c], ← opening)
      else return ([], .wrong)
  | none => return ([], .wrong)
where
  /-- What follows a hash sign: the name whose size is asked for, or the end
  of the hash sign as a name. -/
  afterHash (fuel : Nat) : Reader (Octets × Opening) := do
    match ← look with
    | some d =>
      if startsName d || d.isDigit then
        let n ← takeWhile (if d.isDigit then Char.isDigit else continuesName)
          fuel
        return (n, if (← look) = some '\x7d' then .size else .wrong)
      else
        let s ← get
        if d ≠ '\x7d' && (Reader.joined (s.rest.drop 1)).1.head? = some '\x7d'
        then
          let _ ← nextRaw
          return ([d], if isSpecialName d then .size else .wrong)
        else return (['#'], ← opening)
    | none => return ([], .wrong)

/-- An edit with its operand. -/
def Opening.edit : Opening → Phrase → Edit
  | closed, _ => .whole
  | size, _ => .size
  | fallback e, w => .fallback e w
  | setting e, w => .setting e w
  | alternative e, w => .alternative e w
  | demand e, w => .demand e w
  | cut atEnd longest, w => .cut atEnd longest w
  | wrong, _ => .wrong

/-- The sign of a redirection, whose first octet comes next. -/
def sign : Reader (Nat × Sign) := do
  if ← accept '>' then
    if ← accept '>' then return (1, .plain .append)
    else if ← accept '|' then return (1, .plain .overwrite)
    else if ← accept '&' then return (1, .plain .copyOut)
    else return (1, .plain .write)
  else
    let _ ← accept '<'
    if ← accept '<' then return (0, .here (← accept '-'))
    else if ← accept '&' then return (0, .plain .copyIn)
    else if ← accept '>' then return (0, .plain .both)
    else return (0, .plain .read)

/-- The operator that starts with an octet. -/
def operatorFrom (c : Char) : Reader Token := do
  if c = '&' then
    return .operator (if ← accept '&' then "&&" else "&")
  else if c = '|' then
    return .operator (if ← accept '|' then "||" else "|")
  else if c = ';' then
    return .operator (if ← accept ';' then ";;" else ";")
  else return .operator (String.singleton c)

/-- Goes past blanks and a comment. -/
def skipBlanks : Reader Unit := do
  let fuel ← remaining
  let _ ← takeWhile (fun c => c = ' ' || c = '\t') fuel
  if (← look) = some '#' then
    modify fun s => { s with rest := s.rest.dropWhile (· ≠ '\n') }

/-- A word as a reserved word, if it is one. -/
def reserved? (p : Phrase) : Option String :=
  if p.isQuoted then none
  else p.literal?.bind fun o => reservedWords.find? (·.toList = o)

/-- The assignment that a word is, if it is one. -/
def assignment? (p : Phrase) : Option (Octets × Phrase) :=
  let bare : Phrase := p.takeWhile fun
    | .octet _ quoted => !quoted
    | _ => false
  let lead := Phrase.octets bare
  let n := nameAt lead
  if !n.isEmpty && (lead.drop n.length).head? = some '=' then
    some (n, p.drop (n.length + 1))
  else none

/-- The commands of a shell that no function may be named like. -/
def specialNames : List Octets :=
  [".", ":", "break", "continue", "eval", "exec", "exit", "export",
   "readonly", "return", "set", "shift", "times", "trap", "unset"].map
    String.toList

/-- The pieces up to a double quote in which only backslashes mean
something. -/
def stopInQuotes : Nat → Reader Phrase
  | 0 => fail "Word too long"
  | fuel + 1 => do
    match ← next with
    | none => unclosed
    | some '\x22' => return []
    | some '\\' =>
      let p ← hidden ['\x22']
      return p ++ (← stopInQuotes fuel)
    | some c => return .octet c true :: (← stopInQuotes fuel)

/-- The pieces of a word in which dollar signs and backquotes stand for
themselves. -/
def stopPieces : Nat → Reader Phrase
  | 0 => fail "Word too long"
  | fuel + 1 => do
    match ← look with
    | none => return []
    | some c =>
      if endsWord c then return []
      else
        let _ ← nextRaw
        let p ←
          if c = '\\' then
            pure [.octet ((← nextRaw).getD '\\') true]
          else if c = '\x27' then
            pure (Phrase.ofQuoted (← untilQuote ((← remaining) + 1)))
          else if c = '\x22' then pure (.quotes :: (← stopInQuotes fuel))
          else pure [.octet c false]
        return p ++ (← stopPieces fuel)

/-- The word that is the last line of a text, if a word comes next. -/
def stopWord : Reader (Option Phrase) := do
  if (← get).pushed.isSome then return none
  skipBlanks
  match ← look with
  | none => return none
  | some c =>
    if endsWord c then return none
    else return some (← stopPieces ((← remaining) + 1))

/-- The text that a quoted line ends. -/
def takeLines : Nat → Reader Octets
  | 0 => return []
  | fuel + 1 => do
    match ← nextRaw with
    | some c => return c :: (← takeLines fuel)
    | none => return []

mutual

/-- The pieces of a word. -/
def word : Nat → Reader Phrase
  | 0 => fail "Word too long"
  | fuel + 1 => do
    match ← look with
    | none => return []
    | some c =>
      if endsWord c then return []
      else
        let p ← bare fuel c
        return p ++ (← word fuel)
termination_by structural fuel => fuel

/-- The pieces that an octet outside of quotes starts. -/
def bare : Nat → Char → Reader Phrase
  | 0, _ => fail "Word too long"
  | fuel + 1, c => do
    let _ ← nextRaw
    if c = '\\' then
      match ← nextRaw with
      | none => return [.octet '\\' true]
      | some d => return [.octet d true]
    else if c = '\x27' then
      return Phrase.ofQuoted (← untilQuote ((← remaining) + 1))
    else if c = '\x22' then return .quotes :: (← inQuotes fuel [])
    else if c = '$' then dollar fuel false
    else if c = '\x60' then backquoted fuel false
    else return [.octet c false]
termination_by structural fuel => fuel

/-- The pieces up to a double quote. -/
def inQuotes : Nat → List Char → Reader Phrase
  | 0, _ => fail "Word too long"
  | fuel + 1, more => do
    match ← next with
    | none => unclosed
    | some '\x22' => return []
    | some c =>
      let p ← quotedFrom fuel ('\x22' :: more) c
      return p ++ (← inQuotes fuel more)
termination_by structural fuel => fuel

/-- The pieces that an octet between double quotes starts. -/
def quotedFrom : Nat → List Char → Char → Reader Phrase
  | 0, _, _ => fail "Word too long"
  | fuel + 1, more, c => do
    if c = '\\' then hidden more
    else if c = '$' then dollar fuel true
    else if c = '\x60' then backquoted fuel true
    else return [.octet c true]
termination_by structural fuel => fuel

/-- The pieces up to the brace that closes, outside of quotes. -/
def inBraces : Nat → Reader Phrase
  | 0 => fail "Word too long"
  | fuel + 1 => do
    match ← look with
    | none => fail "Missing \x27\x7d\x27"
    | some '\x7d' =>
      let _ ← nextRaw
      return []
    | some '\x22' =>
      let _ ← nextRaw
      let p ← inQuotes fuel ['\x7d']
      return .quotes :: p ++ (← inBraces fuel)
    | some c =>
      let p ← bare fuel c
      return p ++ (← inBraces fuel)
termination_by structural fuel => fuel

/-- The pieces up to the brace that closes, between double quotes. More
double quotes hide a brace. -/
def inQuotedBraces : Nat → Bool → Reader Phrase
  | 0, _ => fail "Word too long"
  | fuel + 1, inner => do
    match ← next with
    | none => unclosed
    | some '\x22' => return .quotes :: (← inQuotedBraces fuel (!inner))
    | some c =>
      if c = '\x7d' && !inner then return []
      else
        let p ← quotedFrom fuel ['\x22', '\x7d'] c
        return p ++ (← inQuotedBraces fuel inner)
termination_by structural fuel => fuel

/-- The pieces of an expression up to two closing parentheses, so many more
being open. -/
def inSum : Nat → Nat → Reader Phrase
  | 0, _ => fail "Word too long"
  | fuel + 1, depth => do
    match ← next with
    | none => fail "Missing \x27))\x27"
    | some '(' => return .octet '(' true :: (← inSum fuel (depth + 1))
    | some ')' =>
      match depth with
      | depth + 1 => return .octet ')' true :: (← inSum fuel depth)
      | 0 =>
        if ← accept ')' then return []
        else return .octet ')' true :: (← inSum fuel 0)
    | some c =>
      let p ← quotedFrom fuel ['\x22'] c
      return p ++ (← inSum fuel depth)
termination_by structural fuel => fuel

/-- The pieces of a text in which quotes stand for themselves. -/
def inText : Nat → Reader Phrase
  | 0 => fail "Word too long"
  | fuel + 1 => do
    match ← next with
    | none => return []
    | some c =>
      let p ← quotedFrom fuel [] c
      return p ++ (← inText fuel)
termination_by structural fuel => fuel

/-- The piece after a dollar sign. -/
def dollar : Nat → Bool → Reader Phrase
  | 0, _ => fail "Word too long"
  | fuel + 1, quoted => do
    match ← look with
    | some '(' =>
      let _ ← nextRaw
      if ← accept '(' then return [.number quoted (← inSum fuel 0)]
      else return [.output quoted (← without (commands fuel))]
    | some '\x7b' =>
      let _ ← nextRaw
      let (n, o) ← bracedName
      match o with
      | .closed => return [.value quoted n .whole]
      | .cut _ _ => return [.value quoted n (o.edit (← inBraces fuel))]
      | _ =>
        let w ← if quoted then inQuotedBraces fuel false else inBraces fuel
        return [.value quoted n (o.edit w)]
    | some c =>
      if startsName c then
        return [.value quoted (← takeWhile continuesName (← remaining))
          .whole]
      else if isSpecialName c then
        let _ ← nextRaw
        return [.value quoted [c] .whole]
      else return [.octet '$' quoted]
    | none => return [.octet '$' quoted]
termination_by structural fuel => fuel

/-- The commands up to a closing parenthesis. -/
def commands : Nat → Reader Command
  | 0 => fail "Word too long"
  | fuel + 1 => do
    let before ← get
    set { before with pushed := none, awaited := [] }
    let c ← list fuel false true
    match ← token fuel {} with
    | .operator ")" =>
      modify fun s => { s with
        pushed := before.pushed
        awaited := before.awaited }
      return c
    | t => unexpected t (some (.operator ")"))
termination_by structural fuel => fuel

/-- The commands up to a backquote. -/
def backquoted : Nat → Bool → Reader Phrase
  | 0, _ => fail "Word too long"
  | fuel + 1, quoted => do
    let text ← without (untilBackquote quoted ((← remaining) + 1))
    let after ← get
    set { after with
      rest := text
      line := 1
      pushed := none
      awaited := []
      text := none }
    let c ← list fuel false true
    modify fun s => { after with texts := s.texts, nextText := s.nextText }
    return [.output quoted c]
termination_by structural fuel => fuel

/-- The next token, as it stands or as one that has been put back. -/
def rawToken : Nat → Reader Token
  | 0 => fail "Word too long"
  | fuel + 1 => do
    let s ← get
    match s.pushed with
    | some t =>
      set { s with pushed := none }
      return t
    | none =>
      skipBlanks
      match ← look with
      | none => return .ending
      | some c =>
        if c = '<' || c = '>' then
          let (way, sign) ← sign
          return .redirection way sign
        else if endsWord c then
          let _ ← nextRaw
          if c = '\n' then return .newline else operatorFrom c
        else
          match c.isDigit, (joined ((← get).rest.drop 1)).1.head? with
          | true, some d =>
            if d = '<' || d = '>' then
              let _ ← nextRaw
              let (_, sign) ← sign
              return .redirection (c.toNat - '0'.toNat) sign
            else wordToken fuel
          | _, _ => wordToken fuel
termination_by structural fuel => fuel

/-- The next token, which is a word. -/
def wordToken : Nat → Reader Token
  | 0 => fail "Word too long"
  | fuel + 1 => do
    let p ← word fuel
    modify fun s => { s with lastWord := p }
    return .word p
termination_by structural fuel => fuel

/-- The next token where something is expected. -/
def token : Nat → Expectation → Reader Token
  | 0, _ => fail "Word too long"
  | fuel + 1, e => do
    match ← rawToken fuel with
    | .newline =>
      if e.newlines then
        hereTexts fuel
        token fuel e
      else return .newline
    | .word p =>
      match e.reserved, reserved? p with
      | true, some w => return .reserved w
      | _, _ =>
        let again ← settle
        if (e.aliases || again) && !p.isQuoted then
          let name := p.literal?.getD []
          match ← alias? name with
          | some value =>
            place name value
            token fuel e
          | none => return .word p
        else return .word p
    | t => return t
termination_by structural fuel => fuel

/-- Reads the texts that are awaited. -/
def hereTexts : Nat → Reader Unit
  | 0 => fail "Word too long"
  | fuel + 1 => do
    let s ← get
    match s.awaited with
    | [] => return ()
    | a :: later =>
      set { s with awaited := [], pushed := none }
      let p ← within a <|
        if a.quoted then return Phrase.ofQuoted (← takeLines s.rest.length)
        else return .quotes :: (← inText fuel)
      modify fun t => { t with
        awaited := later
        pushed := s.pushed
        texts := (a.number, p) :: t.texts }
      hereTexts fuel
termination_by structural fuel => fuel

/-- Commands up to what ends a list of them: at the top of a script the end
of a line. What ends a list may come at once, or after a command only. -/
def list : Nat → Bool → Bool → Reader Command
  | 0, _, _ => fail "Word too long"
  | fuel + 1, top, mayEnd => do
    match ← token fuel ⟨!top, true, true⟩ with
    | .newline =>
      hereTexts fuel
      return .nothing
    | .ending =>
      hereTexts fuel
      push .ending
      return .nothing
    | t =>
      push t
      if mayEnd && t.endsList then return .nothing
      let a ← andOr fuel
      let t ← token fuel {}
      let a := match t with
        | .operator "&" => Command.detached a
        | _ => a
      match t with
      | .newline =>
        push t
        return .sequence a (← list fuel top (!top))
      | .ending =>
        push t
        return .sequence a (← list fuel top (!top))
      | .operator "&" => return .sequence a (← list fuel top (!top))
      | .operator ";" => return .sequence a (← list fuel top (!top))
      | t =>
        if top then unexpected t none
        push t
        return a
termination_by structural fuel => fuel

/-- Pipelines that depend on the ends of those before them. -/
def andOr : Nat → Reader Command
  | 0 => fail "Word too long"
  | fuel + 1 => do andOrAfter fuel (← pipeline fuel {})
termination_by structural fuel => fuel

/-- What depends on the end of a command. -/
def andOrAfter : Nat → Command → Reader Command
  | 0, _ => fail "Word too long"
  | fuel + 1, a => do
    match ← token fuel {} with
    | .operator "&&" =>
      andOrAfter fuel (.both a (← pipeline fuel .later))
    | .operator "||" =>
      andOrAfter fuel (.either a (← pipeline fuel .later))
    | t =>
      push t
      return a
termination_by structural fuel => fuel

/-- Commands that read what those before them write. -/
def pipeline : Nat → Expectation → Reader Command
  | 0, _ => fail "Word too long"
  | fuel + 1, e => do
    match ← token fuel e with
    | .reserved "!" => return .negated (← stages fuel .start)
    | t =>
      push t
      stages fuel {}

@[inherit_doc pipeline]
def stages : Nat → Expectation → Reader Command
  | 0, _ => fail "Word too long"
  | fuel + 1, e => do
    let a ← command fuel e
    match ← token fuel {} with
    | .operator "|" => return .pipe (a :: (← laterStages fuel))
    | t =>
      push t
      return a
termination_by structural fuel => fuel

/-- The commands after the first one of a pipeline. -/
def laterStages : Nat → Reader (List Command)
  | 0 => fail "Word too long"
  | fuel + 1 => do
    let a ← command fuel .later
    match ← token fuel {} with
    | .operator "|" => return a :: (← laterStages fuel)
    | t =>
      push t
      return [a]
termination_by structural fuel => fuel

/-- Goes past a reserved word that must come next. -/
def demanded : Nat → String → Reader Unit
  | 0, _ => fail "Word too long"
  | fuel + 1, w => do
    match ← token fuel {} with
    | .reserved v =>
      if v = w then return ()
      else unexpected (.reserved v) (some (.reserved w))
    | t => unexpected t (some (.reserved w))
termination_by structural fuel => fuel

/-- One command. -/
def command : Nat → Expectation → Reader Command
  | 0, _ => fail "Word too long"
  | fuel + 1, e => do
    let line := (← get).line
    match ← token fuel e with
    | .reserved "if" =>
      let c ← branch fuel
      trailing fuel line c
    | .reserved "while" =>
      let c ← loop fuel true
      trailing fuel line c
    | .reserved "until" =>
      let c ← loop fuel false
      trailing fuel line c
    | .reserved "for" =>
      let c ← each fuel line
      trailing fuel line c
    | .reserved "case" =>
      let c ← choice fuel line
      trailing fuel line c
    | .reserved "\x7b" =>
      let c ← list fuel false false
      demanded fuel "\x7d"
      trailing fuel line c
    | .operator "(" =>
      let c ← list fuel false false
      match ← token fuel {} with
      | .operator ")" =>
        return .separate line c (← redirects fuel)
      | t => unexpected t (some (.operator ")"))
    | .word p =>
      push (.word p)
      simple fuel (← get).line [] [] []
    | .redirection way s =>
      push (.redirection way s)
      simple fuel (← get).line [] [] []
    | t => unexpected t none
termination_by structural fuel => fuel

/-- The redirections after a command that has commands in it. -/
def trailing : Nat → Nat → Command → Reader Command
  | 0, _, _ => fail "Word too long"
  | fuel + 1, line, c => do
    let rs ← redirects fuel
    return if rs.isEmpty then c else .redirected line c rs
termination_by structural fuel => fuel

/-- As many redirections as come next. -/
def redirects : Nat → Reader (List Redirect)
  | 0 => fail "Word too long"
  | fuel + 1 => do
    match ← token fuel .start with
    | .redirection way s =>
      let r ← target fuel way s
      return r :: (← redirects fuel)
    | t =>
      push t
      return []
termination_by structural fuel => fuel

/-- The target of a redirection. -/
def target : Nat → Nat → Sign → Reader Redirect
  | 0, _, _ => fail "Word too long"
  | fuel + 1, way, s => do
    match ← (match s with
      | .plain _ => token fuel {}
      | .here _ => do
        match ← stopWord with
        | some p => return .word p
        | none => token fuel {}) with
    | .word p =>
      match s with
      | .plain kind => return (way, kind, p)
      | .here tabs =>
        let n := (← get).nextText
        modify fun s => { s with
          nextText := n + 1
          awaited := s.awaited ++ [⟨n, p.octets, tabs, p.isQuoted⟩] }
        return (way, .text n, [])
    | t => unexpected t none
termination_by structural fuel => fuel

/-- The assignments, words and redirections of a simple command, or the
definition of a function. -/
def simple : Nat → Nat → List (Octets × Phrase) → List Phrase →
    List Redirect → Reader Command
  | 0, _, _, _, _ => fail "Word too long"
  | fuel + 1, line, as, ws, rs => do
    match ← token fuel { aliases := ws.isEmpty } with
    | .word p =>
      match ws.isEmpty, assignment? p with
      | true, some a => simple fuel line (as ++ [a]) ws rs
      | _, _ => simple fuel line as (ws ++ [p]) rs
    | .redirection way s =>
      let r ← target fuel way s
      simple fuel line as ws (rs ++ [r])
    | .operator "(" =>
      match as, ws, rs with
      | [], [p], [] => function fuel p
      | _, _, _ =>
        push (.operator "(")
        return .simple line as ws rs
    | t =>
      push t
      return .simple line as ws rs
termination_by structural fuel => fuel

/-- The definition of a function after its name and an opening
parenthesis. -/
def function : Nat → Phrase → Reader Command
  | 0, _ => fail "Word too long"
  | fuel + 1, p => do
    match ← token fuel {} with
    | .operator ")" =>
      let name := p.literal?.getD []
      if p.isQuoted || !isName name || specialNames.contains name then
        fail "Bad function name"
      let line := (← get).line
      return .define line name (← command fuel .later)
    | t => unexpected t (some (.operator ")"))
termination_by structural fuel => fuel

/-- A choice after its first word. -/
def branch : Nat → Reader Command
  | 0 => fail "Word too long"
  | fuel + 1 => do
    let test ← list fuel false false
    demanded fuel "then"
    let yes ← list fuel false false
    match ← token fuel {} with
    | .reserved "elif" => return .branch test yes (← branch fuel)
    | .reserved "else" =>
      let no ← list fuel false false
      demanded fuel "fi"
      return .branch test yes no
    | .reserved "fi" => return .branch test yes .nothing
    | t => unexpected t (some (.reserved "fi"))
termination_by structural fuel => fuel

/-- A loop with a test after its first word. -/
def loop : Nat → Bool → Reader Command
  | 0, _ => fail "Word too long"
  | fuel + 1, positive => do
    let test ← list fuel false false
    demanded fuel "do"
    let body ← list fuel false false
    demanded fuel "done"
    return .loop positive test body
termination_by structural fuel => fuel

/-- A loop over values after its first word. -/
def each : Nat → Nat → Reader Command
  | 0, _ => fail "Word too long"
  | fuel + 1, line => do
    let name ← match ← token fuel {} with
      | .word p =>
        let name := p.literal?.getD []
        if p.isQuoted || !isName name then fail "Bad for loop variable"
        else pure name
      | _ => fail "Bad for loop variable"
    let items ← match ← token fuel .later with
      | .reserved "in" => pure (some (← values fuel))
      | .operator ";" => pure none
      | t => do
        push t
        pure none
    match ← token fuel .later with
    | .reserved "do" =>
      let body ← list fuel false false
      demanded fuel "done"
      return .each line name items body
    | t => unexpected t (some (.reserved "do"))
termination_by structural fuel => fuel

/-- The words up to the end of a line or a semicolon. -/
def values : Nat → Reader (List Phrase)
  | 0 => fail "Word too long"
  | fuel + 1 => do
    match ← token fuel {} with
    | .word p => return p :: (← values fuel)
    | .newline => do
      push .newline
      return []
    | .operator ";" => return []
    | t => unexpected t none
termination_by structural fuel => fuel

/-- A choice by patterns after its first word. -/
def choice : Nat → Nat → Reader Command
  | 0, _ => fail "Word too long"
  | fuel + 1, line => do
    match ← token fuel {} with
    | .word subject =>
      match ← token fuel .later with
      | .reserved "in" => return .choose line subject (← arms fuel)
      | t => unexpected t (some (.reserved "in"))
    | t => unexpected t (some (.word []))
termination_by structural fuel => fuel

/-- The cases of a choice by patterns. -/
def arms : Nat → Reader (List (List Phrase × Command))
  | 0 => fail "Word too long"
  | fuel + 1 => do
    match ← token fuel ⟨true, true, false⟩ with
    | .reserved "esac" => return []
    | t =>
      let t ← match t with
        | .operator "(" => token fuel {}
        | t => pure t
      let ps ← patterns fuel t
      let c ← list fuel false true
      match ← token fuel ⟨true, true, false⟩ with
      | .reserved "esac" => return [(ps, c)]
      | .operator ";;" => return (ps, c) :: (← arms fuel)
      | t => unexpected t (some (.operator ";;"))
termination_by structural fuel => fuel

/-- Patterns with bars between them, the first of which starts with a token,
and the parenthesis after them. In place of a word another token may stand,
which counts as the last word that was read. -/
def patterns : Nat → Token → Reader (List Phrase)
  | 0, _ => fail "Word too long"
  | fuel + 1, t => do
    let p ← match t with
      | .word p => pure p
      | .reserved w => pure (w.toList.map fun c => Piece.octet c false)
      | _ => pure (← get).lastWord
    match ← token fuel {} with
    | .operator "|" => return p :: (← patterns fuel (← token fuel {}))
    | .operator ")" => return [p]
    | t => unexpected t (some (.operator ")"))
termination_by structural fuel => fuel

end

/-- The commands up to the end of a line, and whether the script ends with
them. -/
def topLine : Reader (Command × Bool) := do
  let s ← get
  let c ← list (40 * (s.rest.length + 2 * s.aliases.length + 10)) true false
  match (← get).pushed with
  | some .ending =>
    modify fun s => { s with pushed := none }
    return (c, true)
  | _ => return (c, false)

/-- The commands up to the end of a line of a script, whether the script ends
with them, and what is left of it. -/
def readLine (s : Source) : Except Trouble ((Command × Bool) × Source) :=
  topLine.run s

end BitProbe.Bench.Shell
