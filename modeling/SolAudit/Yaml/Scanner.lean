import SolAudit.Yaml.Scalar

/-!
# Scanning YAML

Splits a text into tokens. A key without a mark of its own is recognised by the colon behind it: the place where it
started is remembered, and the token for the key is put there when the colon comes. Such a key stands on one line and
is no longer than 1024 characters.
-/

namespace SolAudit.Yaml

/-- How far behind its start the colon of an implicit key may stand. -/
def keyLength : Nat := 1024

namespace Scan

/-- Forgets the starts of keys that are too far back. One that had to be a key is an error. -/
def dropStaleKeys : Scan Unit := do
  let s ← get
  let keys ← s.keys.mapM fun
    | some (start : KeyStart) =>
      if start.line < s.line || start.index + keyLength < s.index then
        if start.required then none else some none
      else some (some start)
    | none => some none
  set { s with keys }

/-- Forgets the start of a key on the current level. -/
def dropKey : Scan Unit := do
  let s ← get
  match s.keys with
  | some start :: outer =>
    if start.required then failure
    set { s with keys := none :: outer }
  | _ => pure ()

/-- Remembers that a key may start here. On the left margin of a block record it has to. -/
def saveKey : Scan Unit := do
  if (← get).keyAllowed then
    dropKey
    let s ← get
    let start : KeyStart := {
      required := s.keys.length == 1 && s.indent == (s.column : Int)
      token := s.tokens.size
      index := s.index
      line := s.line
      column := s.column }
    set { s with keys := some start :: s.keys.drop 1 }

def insertToken (position : Nat) (token : Token) : Scan Unit :=
  modify fun s ↦
    let before := s.tokens.extract 0 position
    let after := s.tokens.extract position s.tokens.size
    { s with tokens := before.push token ++ after }

/-- Opens a block collection if the column is further in than the current one. -/
def openBlock (column position : Nat) (token : Token) : Scan Unit := do
  let s ← get
  if s.keys.length == 1 && s.indent < (column : Int) then
    set { s with indent := (column : Int), indents := s.indent :: s.indents }
    insertToken position token

/-- Closes the block collections that are further in than a column. -/
def closeBlocks (column : Int) : List Int → Scan Unit
  | [] => pure ()
  | outer :: rest => do
    let s ← get
    if s.keys.length == 1 && s.indent > column then
      set { s with indent := outer, indents := rest, tokens := s.tokens.push .blockEnd }
      closeBlocks column rest

def closeTo (column : Int) : Scan Unit := do closeBlocks column (← get).indents

/-- Moves on to the next token. Tabs are blanks only where no key can start. -/
def toNextToken : Nat → Scan Unit
  | 0 => pure ()
  | fuel + 1 => do
    let s ← get
    if s.column == 0 && s.rest.head? == some '\ufeff' then skip 1
    let tabs := s.keys.length > 1 || !s.keyAllowed
    skipWhile fun c ↦ c == ' ' || (tabs && c == '\t')
    if (← peek?) == some '#' then skipWhile fun c ↦ !isBreak c
    if (← peek?).any isBreak then
      let _ ← readBreak
      if !(← inFlow) then allowKey true
      toNextToken fuel

def anchorName : Scan String := do
  skip 1
  let name ← takeWhile isNameChar
  let next ← peek?
  if name.isEmpty then failure
  if !(endsWord next || next.any ['?', ':', ',', ']', '}', '%', '@', '`'].contains) then failure
  return String.ofList name

/-- An octet after a percent sign. -/
def octet? : List Char → Option (UInt8 × List Char)
  | '%' :: a :: b :: rest => do return ((← charOfOctet a b).toUInt8, rest)
  | _ => none
where
  charOfOctet (a b : Char) : Option Nat := do return (← Json.hexDigit? a) * 16 + (← Json.hexDigit? b)

/-- The octets of one character. -/
def octets? : Nat → List Char → Option (List UInt8 × List Char)
  | 0, rest => some ([], rest)
  | n + 1, rest => do
    let (o, rest) ← octet? rest
    let (more, rest) ← octets? n rest
    return (o :: more, rest)

def escapedChar? (cs : List Char) : Option (List Char × List Char) := do
  let (first, _) ← octet? cs
  let width ← if first < 0x80 then some 1
    else if 0xC0 ≤ first && first < 0xE0 then some 2
    else if 0xE0 ≤ first && first < 0xF0 then some 3
    else if 0xF0 ≤ first && first < 0xF8 then some 4
    else none
  let (bytes, rest) ← octets? width cs
  let text ← String.fromUTF8? ⟨bytes.toArray⟩
  return (text.toList, rest)

def isUriChar (verbatim : Bool) (c : Char) : Bool :=
  isNameChar c || [';', '/', '?', ':', '@', '&', '=', '+', '$', '.', '%', '!', '~', '*', '\'', '(', ')'].contains c ||
    (verbatim && [',', '[', ']'].contains c)

def uriRun (verbatim : Bool) : Nat → List Char → Option (List Char × List Char)
  | 0, rest => some ([], rest)
  | _ + 1, [] => some ([], [])
  | fuel + 1, c :: rest =>
    if !isUriChar verbatim c then some ([], c :: rest)
    else if c == '%' then do
      let (chars, after) ← escapedChar? (c :: rest)
      let (more, after) ← uriRun verbatim fuel after
      return (chars ++ more, after)
    else (uriRun verbatim fuel rest).map fun (more, after) ↦ (c :: more, after)

def uri (verbatim : Bool) : Scan (List Char) := do
  let rest := (← get).rest
  let (text, after) ← uriRun verbatim (rest.length + 1) rest
  moveTo after
  return text

/-- An exclamation mark, a name and a second exclamation mark if there is one. -/
def handle : Scan (List Char) := do
  if (← peek?) != some '!' then failure
  skip 1
  let name ← takeWhile isNameChar
  if (← peek?) == some '!' then
    skip 1
    return '!' :: name ++ ['!']
  return '!' :: name

def tagParts : Scan (String × String) := do
  match (← get).rest with
  | '!' :: '<' :: _ =>
    skip 2
    let text ← uri true
    if text.isEmpty || (← peek?) != some '>' then failure
    skip 1
    return ("", String.ofList text)
  | _ =>
    let head ← handle
    if head.length > 1 && head.getLast? == some '!' then
      let suffix ← uri false
      if suffix.isEmpty then failure
      return (String.ofList head, String.ofList suffix)
    let suffix := head.drop 1 ++ (← uri false)
    if suffix.isEmpty then return ("", "!")
    return ("!", String.ofList suffix)

def tagToken : Scan Unit := do
  let (handle, suffix) ← tagParts
  let next ← peek?
  if !(endsWord next || ((← inFlow) && next == some ',')) then failure
  emit (.tag handle suffix)

/-- A number of at most nine digits. -/
def versionNumber : Scan Nat := do
  let digits ← takeWhile Char.isDigit
  if digits.length > 9 then failure
  Text.natValue? digits

def directive : Scan Unit := do
  skip 1
  let name ← takeWhile isNameChar
  if !endsWord (← peek?) then failure
  skipWhile isBlank
  match String.ofList name with
  | "YAML" =>
    let major ← versionNumber
    if (← peek?) != some '.' then failure
    skip 1
    emit (.version major (← versionNumber))
  | "TAG" =>
    let name ← handle
    if name.length > 1 && name.getLast? != some '!' then failure
    if !(← peek?).any isBlank then failure
    skipWhile isBlank
    let expansion ← uri true
    if expansion.isEmpty || !endsWord (← peek?) then failure
    emit (.tagHandle (String.ofList name) (String.ofList expansion))
  | _ => failure
  skipWhile isBlank
  if (← peek?) == some '#' then skipWhile fun c ↦ !isBreak c
  if !endsLine (← peek?) then failure
  let _ ← readBreak

/-! ## Tokens -/

def mark (token : Token) (length : Nat) (thenKey : Bool) : Scan Unit := do
  allowKey thenKey
  skip length
  emit token

def openFlow (token : Token) : Scan Unit := do
  saveKey
  modify fun s ↦ { s with keys := none :: s.keys }
  mark token 1 true

def closeFlow (token : Token) : Scan Unit := do
  dropKey
  modify fun s ↦ { s with keys := if s.keys.length > 1 then s.keys.drop 1 else s.keys }
  mark token 1 false

/-- A mark at which a block collection may start, and which needs a place where a key could stand. -/
def blockMark (token opening : Token) (thenKey : Bool) : Scan Unit := do
  let s ← get
  if s.keys.length == 1 then
    if !s.keyAllowed then failure
    openBlock s.column s.tokens.size opening
  dropKey
  mark token 1 thenKey

/-- The colon after a key. If a key could have started before it, that place becomes one. -/
def valueMark : Scan Unit := do
  let s ← get
  match s.keys with
  | some start :: outer =>
    insertToken start.token .key
    openBlock start.column start.token .blockRecordStart
    modify fun s ↦ { s with keys := none :: outer }
    mark .value 1 false
  | _ =>
    if s.keys.length == 1 then
      if !s.keyAllowed then failure
      openBlock s.column s.tokens.size .blockRecordStart
    mark .value 1 (s.keys.length == 1)

/-- Characters that cannot start a plain scalar. -/
def isIndicator (c : Char) : Bool :=
  ['-', '?', ':', ',', '[', ']', '{', '}', '#', '&', '*', '!', '|', '>', '\'', '"', '%', '@', '`'].contains c

/-- Reads the token that starts with a character. -/
def token (c : Char) : Scan Unit := do
  let s ← get
  let inFlow := s.keys.length > 1
  let second := (s.rest.drop 1).head?
  if s.column == 0 && c == '%' then
    closeTo (-1)
    dropKey
    allowKey false
    directive
  else if ← atDocumentMark then
    closeTo (-1)
    dropKey
    mark (if c == '-' then .documentStart else .documentEnd) 3 false
  else match c with
    | '[' => openFlow .flowListStart
    | '{' => openFlow .flowRecordStart
    | ']' => closeFlow .flowListEnd
    | '}' => closeFlow .flowRecordEnd
    | ',' =>
      dropKey
      mark .flowEntry 1 true
    | '*' =>
      saveKey
      allowKey false
      emit (.alias (← anchorName))
    | '&' =>
      saveKey
      allowKey false
      emit (.anchor (← anchorName))
    | '!' =>
      saveKey
      allowKey false
      tagToken
    | '\'' =>
      saveKey
      allowKey false
      quotedScalar true
    | '"' =>
      saveKey
      allowKey false
      quotedScalar false
    | _ =>
      if c == '-' && endsWord second then blockMark .blockEntry .blockListStart true
      else if c == '?' && (inFlow || endsWord second) then blockMark .key .blockRecordStart (!inFlow)
      else if c == ':' && (inFlow || endsWord second) then valueMark
      else if (c == '|' || c == '>') && !inFlow then
        dropKey
        allowKey true
        blockScalar (c == '|')
      else if !isIndicator c || (c == '-' && !second.any isBlank) ||
          (!inFlow && (c == '?' || c == ':') && !endsWord second) then
        saveKey
        allowKey false
        plainScalar
      else failure

def tokens : Nat → Scan Unit
  | 0 => failure
  | fuel + 1 => do
    toNextToken ((← get).rest.length + 1)
    dropStaleKeys
    closeTo ((← get).column : Int)
    match ← peek? with
    | none =>
      closeTo (-1)
      dropKey
    | some c =>
      if isBlank c then failure
      token c
      tokens fuel

end Scan

/-- The tokens of a text. A byte order mark at its start is left out. -/
def scan? (text : String) : Option (List Token) :=
  let chars := match text.toList with
    | '\ufeff' :: rest => rest
    | chars => chars
  if chars.all isAllowed then
    ((Scan.tokens (chars.length + 2)).run { rest := chars }).map fun (_, s) ↦ s.tokens.toList
  else none

end SolAudit.Yaml
