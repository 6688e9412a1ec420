import AttestationSdk.ReleaseAuthority

/-! `generate-dependencies.py`: the declarations of third-party code that a CMake text holds. -/
namespace AttestationSdk.Dependencies
open ReleaseSet (isSpace)

/-- What `declaration_records` and `shlex.split` raise. -/
inductive ScanError
  | unbalanced
  | empty
  | noClosingQuotation
  | noEscapedCharacter
  deriving Repr, DecidableEq

section Shlex

/-- The states of `shlex.read_token`; behind an escape, the quotation mark it stands in. -/
inductive LexState
  | space
  | word
  | quote (mark : Char)
  | escape (mark : Option Char)

def whitespace : List Char := [' ', '\t', '\r', '\n']

def quotes : List Char := ['\'', '"']

/-- The tokens from a state on, with the token so far. -/
def lex : LexState → List Char → List Char → Except ScanError (List String)
  | .space, _, [] => .ok []
  | .word, token, [] => .ok [String.ofList token]
  | .quote _, _, [] => .error .noClosingQuotation
  | .escape _, _, [] => .error .noEscapedCharacter
  | .space, _, c :: rest =>
    if c ∈ whitespace then lex .space [] rest
    else if c = '\\' then lex (.escape none) [] rest
    else if c ∈ quotes then lex (.quote c) [] rest
    else lex .word [c] rest
  | .word, token, c :: rest =>
    if c ∈ whitespace then (lex .space [] rest).map (String.ofList token :: ·)
    else if c ∈ quotes then lex (.quote c) token rest
    else if c = '\\' then lex (.escape none) token rest
    else lex .word (token ++ [c]) rest
  | .quote mark, token, c :: rest =>
    if c = mark then lex .word token rest
    else if c = '\\' ∧ mark = '"' then lex (.escape (some mark)) token rest
    else lex (.quote mark) (token ++ [c]) rest
  | .escape none, token, c :: rest => lex .word (token ++ [c]) rest
  | .escape (some mark), token, c :: rest =>
    -- within quotes only the mark and the escape character are escaped
    lex (.quote mark) (if c = '\\' ∨ c = mark then token ++ [c] else token ++ ['\\', c]) rest

/-- `shlex.split(body, posix=True)`. -/
def shlexSplit (body : List Char) : Except ScanError (List String) := lex .space [] body

end Shlex

/-- The state of the loop that looks for the closing parenthesis. -/
structure LoopState where
  depth : Nat := 1
  quoted : Bool := false
  escaped : Bool := false
  deriving Repr, DecidableEq

/-- One turn of the loop. -/
def LoopState.read (s : LoopState) (c : Char) : LoopState :=
  if s.escaped then { s with escaped := false }
  else if c = '\\' ∧ s.quoted then { s with escaped := true }
  else if c = '"' then { s with quoted := !s.quoted }
  else if ¬ s.quoted ∧ c = '(' then { s with depth := s.depth + 1 }
  else if ¬ s.quoted ∧ c = ')' then { s with depth := s.depth - 1 }
  else s

/-- The loop, from a state on: the text before the closing parenthesis, where there is one. -/
def bodyFrom : LoopState → List Char → Option (List Char)
  | _, [] => none
  | s, c :: rest =>
    if (s.read c).depth = 0 then some [] else (bodyFrom (s.read c) rest).map (c :: ·)

/-- `re.sub(r"#[^\n]*", "", body)`, inside a match or outside. -/
def subComments : Bool → List Char → List Char
  | _, [] => []
  | false, c :: rest => if c = '#' then subComments true rest else c :: subComments false rest
  | true, c :: rest => if c = '\n' then c :: subComments false rest else subComments true rest

def kinds : List String := ["ExternalProject_Add", "FetchContent_Declare"]

/-- A name, `\s*` and a parenthesis at the start of a text, with the text behind them. -/
def matchKind (text : List Char) (kind : String) : Option (String × List Char) :=
  if kind.toList.isPrefixOf text then
    match (text.drop kind.toList.length).dropWhile isSpace with
    | '(' :: after => some (kind, after)
    | _ => none
  else none

/-- `(ExternalProject_Add|FetchContent_Declare)\s*\(` at the start of a text. -/
def matchStart (text : List Char) : Option (String × List Char) := kinds.findSome? (matchKind text)

/-- `finditer`, with the characters that a match still covers. -/
def starts : Nat → List Char → List (String × List Char)
  | _, [] => []
  | skip + 1, _ :: rest => starts skip rest
  | 0, c :: rest => match matchStart (c :: rest) with
    | some (kind, after) => (kind, after) :: starts (rest.length - after.length) rest
    | none => starts 0 rest

/-- A declaration, which has a name. -/
structure Declaration where
  kind : String
  tokens : List String
  nonempty : tokens ≠ []
  deriving Repr, DecidableEq

def Declaration.name (declaration : Declaration) : String :=
  declaration.tokens.head declaration.nonempty

/-- What is made of a match. -/
def readRecord (start : String × List Char) : Except ScanError Declaration :=
  match bodyFrom {} start.2 with
  | none => .error .unbalanced
  | some body => do
    let tokens ← shlexSplit (subComments false body)
    if h : tokens = [] then .error .empty else .ok ⟨start.1, tokens, h⟩

/-- What a generator yields, and what it raises in the end. -/
structure Generated (ε α : Type) where
  yields : List α
  raised : Option ε
  deriving DecidableEq

def generate {ε α β : Type} (f : β → Except ε α) : List β → Generated ε α
  | [] => ⟨[], none⟩
  | b :: rest => match f b with
    | .ok a => { generate f rest with yields := a :: (generate f rest).yields }
    | .error e => ⟨[], some e⟩

/-- `declaration_records`. -/
def declarationRecords (text : List Char) : Generated ScanError Declaration :=
  generate readRecord (starts 0 text)

example : (declarationRecords "FetchContent_Declare (fmt # pinned\n URL \"a b\")".toList).yields.map
    Declaration.tokens = [["fmt", "URL", "a b"]] := by
  decide +kernel

/-- `value_after`. -/
def valueAfter : List String → String → Option String
  | [], _ => none
  | token :: rest, key => if token = key then rest.head? else valueAfter rest key

end AttestationSdk.Dependencies
