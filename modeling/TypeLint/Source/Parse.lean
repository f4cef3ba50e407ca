import TypeLint.Source.Layout
import TypeLint.Source.Step
import TypeLint.Text.Quoted

/-!
# Reading a source

`parse` reads a source lexeme by lexeme.  Which terminals are looked for in the text depends on the place
that the tokens before it have led to; gaps are skipped, line ends and semicolons become terminators as the
layout says, and each token is a step of the state.  A source that is no program is refused at the first
token that cannot stand at its place, or at the first text that holds no token at all.
-/

namespace TypeLint.Source

/-- Why a source is no program. -/
inductive SyntaxError where
  /-- a token that cannot stand at its place; the empty text is the end of the source -/
  | token (text : Text) (pos : Pos)
  /-- a statement that cannot end at its place -/
  | statementEnd (pos : Pos)
  /-- a code point with which no token starts -/
  | character (c : CodePoint) (pos : Pos)
deriving DecidableEq

namespace SyntaxError

/-- Where the source is refused. -/
def pos : SyntaxError → Pos
  | .token _ p | .statementEnd p | .character _ p => p

/-- What is wrong there. -/
def message : SyntaxError → Text
  | .token t _ => text "unexpected token " ++ t.quoted
  | .statementEnd _ => text "unexpected end of statement"
  | .character c _ => text "unexpected character " ++ Text.quoted [c]

end SyntaxError

/-- A token that cannot stand at its place. -/
def Token.unexpected (t : Token) : SyntaxError :=
  match t.kind with
  | .terminator => .statementEnd t.pos
  | _ => .token t.text t.pos

/-- What has been read of a source. -/
structure Reader where
  state : State
  layout : Layout
  /-- the position of what is left -/
  pos : Pos
  /-- the last token of the text -/
  last : Option Token
  /-- the last token that the state has read, terminators included -/
  given : Option Token

namespace Reader

/-- The start of a source. -/
def start : Reader := ⟨.statement .opened (.program []), .start, .start, none, none⟩

/-- The state reads one more token. -/
def give (r : Reader) (t : Token) : Except SyntaxError Reader :=
  match r.state.step t with
  | some s => .ok { r with state := s, given := some t }
  | none => .error t.unexpected

/-- One more lexeme of that role, which is `t` if it is a token. -/
def layOut (r : Reader) (role : Role) (t : Token) : Except SyntaxError Reader :=
  let (verdict, layout) := r.layout.step role
  let r := { r with layout := layout }
  match verdict with
  | .pass => { r with last := some t }.give t
  | .drop => .ok r
  | .terminate => r.give { t with kind := .terminator }

/-- One more lexeme. -/
def read (r : Reader) (kind : LexemeKind) (lexeme : Text) : Except SyntaxError Reader :=
  let behind := { r with pos := r.pos.after lexeme }
  match kind with
  | .gap => .ok behind
  | .lineEnd => behind.layOut .lineEnd ⟨.terminator, lexeme, r.pos⟩
  | .semicolon => behind.layOut .semicolon ⟨.terminator, lexeme, r.pos⟩
  | .token k => behind.layOut k.role ⟨k, lexeme, r.pos⟩

/-- A text that holds no lexeme that is looked for.  If it holds any other token, that one is unexpected. -/
def stuck (r : Reader) (c : CodePoint) (cs : Text) : SyntaxError :=
  match scan (fun _ => true) (c :: cs) with
  | some (.token _, lexeme, _) => .token lexeme r.pos
  | _ => .character c r.pos

/-- The position that an unexpected end of the source is given: that of the last token read, if this token
has a text. -/
def endPos (r : Reader) : Pos :=
  match r.given with
  | some t => if t.text = [] then .start else t.pos
  | none => .start

/-- The terminator at the end of the source, if a statement can end there. -/
def terminate (r : Reader) : Except SyntaxError Reader :=
  match r.layout.canEnd, r.last with
  | true, some t => r.give ⟨.terminator, [], t.pos⟩
  | _, _ => .ok r

/-- The end of the source. -/
def finish (r : Reader) : Except SyntaxError Program :=
  match r.terminate with
  | .error e => .error e
  | .ok r =>
    match r.state.step ⟨.finish, [], r.endPos⟩ with
    | some (.complete p) => .ok p
    | _ => .error (.token [] r.endPos)

/-- What is left of a source. -/
def run (r : Reader) (t : Text) : Except SyntaxError Program :=
  match t with
  | [] => r.finish
  | c :: cs =>
    match _h : scan r.state.admits (c :: cs) with
    | none => .error (r.stuck c cs)
    | some (kind, lexeme, rest) =>
      match r.read kind lexeme with
      | .error e => .error e
      | .ok r => run r rest
termination_by t.length
decreasing_by exact length_lt_of_scan _h

end Reader

/-- The program that a source spells. -/
def parse (source : Text) : Except SyntaxError Program := Reader.start.run source

end TypeLint.Source
