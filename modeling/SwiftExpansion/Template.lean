import SwiftExpansion.Template.Path
import SwiftExpansion.Template.Presentation

/-!
# Message templates

A template holds placeholders in braces: empty ones take the arguments in turn, numbered ones take
an argument by its number, and the two styles do not mix. A doubled brace stands for itself. A
placeholder may lead into its argument, ask for the quoted form by a conversion, and lay the result
out by a specification after a colon, which may hold placeholders of its own. Templates are filled
in from left to right, and the first fault ends the filling.
-/
namespace SwiftExpansion.Template

inductive Piece
  | char (c : Char)
  | placeholder (name : List Char) (conversion : Option Char) (specification : List Char)
  | defect (d : TemplateDefect)
  deriving Repr, DecidableEq

/-- Where the cut of a template stands: in text, after an opening or a closing brace, in the name
of a placeholder or in brackets there, after the mark of a conversion, after the conversion, or in a
specification with so many braces still open. What is being read is kept last character first. -/
inductive State
  | text
  | opening
  | closing
  | naming (reversed : List Char)
  | bracketed (reversed : List Char)
  | mark (name : List Char)
  | converted (name : List Char) (conversion : Char)
  | specification (name : List Char) (conversion : Option Char) (depth : Nat)
      (reversed : List Char)

def State.defect? : State → Option TemplateDefect
  | .text => none
  | .opening => some .loneOpening
  | .closing => some .loneClosing
  | .naming _ | .bracketed _ => some .unfinished
  | .mark _ => some .conversionMissing
  | .converted _ _ | .specification _ _ _ _ => some .unmatchedSpecification

/-- The state after a character, and the piece that is finished by it. A defect ends the cut. -/
def State.step (c : Char) : State → Except TemplateDefect (State × Option Piece)
  | .text =>
    if c == '\x7b' then .ok (.opening, none)
    else if c == '\x7d' then .ok (.closing, none)
    else .ok (.text, some (.char c))
  | .opening => if c == '\x7b' then .ok (.text, some (.char c)) else inName [] c
  | .closing => if c == '\x7d' then .ok (.text, some (.char c)) else .error .loneClosing
  | .naming reversed => inName reversed c
  | .bracketed reversed =>
    .ok (if c == ']' then .naming (c :: reversed) else .bracketed (c :: reversed), none)
  | .mark name => .ok (.converted name c, none)
  | .converted name conversion =>
    if c == '\x7d' then .ok (.text, some (.placeholder name (some conversion) []))
    else if c == ':' then .ok (.specification name (some conversion) 1 [], none)
    else .error .conversionTail
  | .specification name conversion depth reversed =>
    if c == '\x7b' then .ok (.specification name conversion (depth + 1) (c :: reversed), none)
    else if c == '\x7d' then
      if depth ≤ 1 then .ok (.text, some (.placeholder name conversion reversed.reverse))
      else .ok (.specification name conversion (depth - 1) (c :: reversed), none)
    else .ok (.specification name conversion depth (c :: reversed), none)
where
  inName (reversed : List Char) (c : Char) : Except TemplateDefect (State × Option Piece) :=
    if c == '\x7d' then .ok (.text, some (.placeholder reversed.reverse none []))
    else if c == '!' then .ok (.mark reversed.reverse, none)
    else if c == ':' then .ok (.specification reversed.reverse none 1 [], none)
    else if c == '[' then .ok (.bracketed (c :: reversed), none)
    else if c == '\x7b' then .error .nestedOpening
    else .ok (.naming (c :: reversed), none)

/-- Cuts a template into pieces; a defect is the last one. -/
def cut : State → List Char → List Piece
  | state, [] => (state.defect?.map Piece.defect).toList
  | state, c :: cs =>
    match state.step c with
    | .error d => [.defect d]
    | .ok (next, piece) => piece.toList ++ cut next cs

inductive Numbering
  | undecided
  | automatic (next : Nat)
  | manual
  deriving Repr, DecidableEq

def choose (numbering : Numbering) : Selector → Except Fault (Nat × Numbering)
  | .next =>
    match numbering with
    | .undecided => .ok (0, .automatic 1)
    | .automatic n => .ok (n, .automatic (n + 1))
    | .manual => .error (.template .automaticAfterManual)
  | .index n =>
    match numbering with
    | .automatic _ => .error (.template .manualAfterAutomatic)
    | _ => .ok (n, .manual)
  | .key name => .error (.absentKey name)

def argument (args : Array Json) (n : Nat) : Except Fault Value :=
  args[n]?.elim (.error (.absentIndex n)) (.ok ∘ .data)

def asciiQuoted (v : Value) : String :=
  String.ofList (v.quoted.toList.flatMap fun c =>
    if c.toNat < 128 then [c] else Text.numericEscape c)

/-- The argument as its placeholder asks for it; the null character asks for nothing. -/
def convert (conversion : Option Char) (v : Value) : Except Fault Value :=
  match conversion with
  | none | some '\x00' => .ok v
  | some 's' => (v.shown Value.display).map .ofText
  | some 'r' => (v.shown Value.quoted).map .ofText
  | some 'a' => (v.shown asciiQuoted).map .ofText
  | some c => .error (.template (.unknownConversion c))

variable [Memory]

/-- Fills in the pieces in turn; `nested` expands the specifications that hold placeholders. -/
def fill (args : Array Json)
    (nested : Numbering → List Char → Except Fault (List Char × Numbering)) :
    Numbering → List Piece → Except Fault (List Char × Numbering)
  | numbering, [] => .ok ([], numbering)
  | _, .defect d :: _ => .error (.template d)
  | numbering, .char c :: pieces => do
    let (text, numbering) ← fill args nested numbering pieces
    return (c :: text, numbering)
  | numbering, .placeholder name conversion specification :: pieces => do
    let (first, path) := splitName name
    let (n, numbering) ← choose numbering (← Selector.read first)
    let value ← convert conversion (← follow (← argument args n) path)
    let (specification, numbering) ←
      if specification.contains '\x7b' then nested numbering specification
      else .ok (specification, numbering)
    let shown ← present specification value
    let (text, numbering) ← fill args nested numbering pieces
    return (shown ++ text, numbering)

def expand (args : Array Json) : Nat → Numbering → List Char → Except Fault (List Char × Numbering)
  | 0, _, _ => .error (.template .tooDeep)
  | depth + 1, numbering, template => fill args (expand args depth) numbering (cut .text template)

def format (template : String) (args : List Json) : Except Fault String := do
  return String.ofList (← expand args.toArray 2 .undecided template.toList).1

end SwiftExpansion.Template
