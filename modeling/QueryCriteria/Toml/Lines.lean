import QueryCriteria.Text.Quoted

/-! Blanks, comments and line ends in TOML, and texts that run over several lines. -/
namespace QueryCriteria.Toml

def isBlank (c : Char) : Bool :=
  c == ' ' || c == '\t'

mutual

/-- What stands behind blanks, line ends and comments. -/
def skipGap : List Char → Option (List Char)
  | [] => some []
  | '#' :: rest => skipComment rest
  | '\r' :: '\n' :: rest => skipGap rest
  | c :: rest => if isBlank c || c == '\n' then skipGap rest else some (c :: rest)

/-- What stands behind the rest of a comment, and behind the gap that follows. -/
def skipComment : List Char → Option (List Char)
  | [] => some []
  | '\r' :: '\n' :: rest => skipGap rest
  | '\n' :: rest => skipGap rest
  | c :: rest => if Quoted.isPlain c then skipComment rest else none

end

/-- Takes blanks, line ends and comments. -/
def gap : Scanner Unit := fun cs =>
  (skipGap cs).map ((), ·)

def blanks : Scanner Unit :=
  Scanner.skipWhile isBlank

/-- Takes the end of a line, and perhaps a comment in front of it; the end of the text is one too. -/
def lineEnd : Scanner Unit := do
  blanks
  if (← Scanner.skipIf '#') then
    let comment ← Scanner.takeWhile fun c => c != '\n' && c != '\r'
    unless comment.all Quoted.isPlain do Scanner.refuse
  match ← Scanner.rest with
  | [] => return
  | '\n' :: rest => set rest
  | '\r' :: '\n' :: rest => set rest
  | _ => Scanner.refuse

/-- Line ends of one character. -/
def unifyLines : List Char → List Char
  | [] => []
  | '\r' :: '\n' :: rest => '\n' :: unifyLines rest
  | c :: rest => c :: unifyLines rest

/-- Whether nothing but blanks stands in front of the next line end. -/
def endsLine (cs : List Char) : Bool :=
  (cs.dropWhile isBlank).head? == some '\n'

/-- The lines with a backslash at their ends joined to the text that follows. -/
def joinLines (skipping : Bool) : List Char → List Char
  | [] => []
  | c :: rest =>
    if skipping && (isBlank c || c == '\n') then joinLines true rest
    else if c == '\\' then
      if endsLine rest then joinLines true rest
      else
        match rest with
        | [] => [c]
        | d :: tail => c :: d :: joinLines false tail
    else c :: joinLines false rest

/--
The part in front of three quotes, and what stands behind them. Of more quotes up to two belong to
the text.
-/
def upToQuotes (quote : Char) (escapes : Bool) : List Char → Option (List Char × List Char)
  | [] => none
  | c :: rest =>
    if escapes && c == '\\' then
      match rest with
      | [] => none
      | d :: tail => do
        let (body, behind) ← upToQuotes quote escapes tail
        return (c :: d :: body, behind)
    else if c == quote && rest.take 2 == [quote, quote] then
      let more := ((rest.drop 2).takeWhile (· == quote)).take 2
      some (more, rest.drop (2 + more.length))
    else do
      let (body, behind) ← upToQuotes quote escapes rest
      return (c :: body, behind)

/-- Characters of a text over several lines. -/
def isPlainLine (c : Char) : Bool :=
  Quoted.isPlain c || c == '\n'

/-- A text between threefold quotes, which are already taken. A line end right behind them is dropped. -/
def longText (quote : Char) : Scanner String := fun cs => do
  let escapes := quote == '"'
  let (body, behind) ← upToQuotes quote escapes cs
  let lines := unifyLines body
  let lines := if lines.head? == some '\n' then lines.drop 1 else lines
  if escapes then
    return (String.ofList (← Quoted.unescape isPlainLine (joinLines false lines)), behind)
  else if lines.all isPlainLine then return (String.ofList lines, behind)
  else none

/-- A text between single quotes, in which every character stands for itself. -/
def literalText : Scanner String := do
  Scanner.expect '\''
  let body ← Scanner.takeWhile (· != '\'')
  Scanner.expect '\''
  if body.all Quoted.isPlain then return String.ofList body else Scanner.refuse

end QueryCriteria.Toml
