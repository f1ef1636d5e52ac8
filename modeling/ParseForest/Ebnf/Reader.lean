import ParseForest.Ebnf.Production

namespace ParseForest
namespace Ebnf

/-!
# Reading productions

Productions are read by descent with one token of lookahead.  A token that does
not fit is complained about and passed over, so reading always reaches the end
of the file.

    production  = name "=" [ expression ] "." .
    expression  = alternative { "|" alternative } .
    alternative = term { term } .
    term        = name | token [ "…" token ] | "(" expression ")"
                | "[" expression "]" | "{" expression "}" .
-/

/-- The tokens still to be read, and the complaints so far, the latest first.
The last token is the end of the file and is never passed over. -/
structure Reader where
  current : Token
  rest : List Token
  complaints : List Complaint

namespace Reader

def advance (r : Reader) : Reader :=
  match r.rest with
  | [] => r
  | t :: ts => { r with current := t, rest := ts }

def complain (r : Reader) (c : Complaint) : Reader :=
  { r with complaints := c :: r.complaints }

/-- Pass over the current token, with a complaint unless it is of the given
kind. -/
def expect (r : Reader) (kind : TokenKind) : Reader :=
  if r.current.kind = kind then r.advance
  else (r.complain (.expected (.kind kind) r.current)).advance

def readLiteral (r : Reader) : Text × Reader :=
  match r.current.kind with
  | .string => (r.current.value, r.advance)
  | .rawString => (r.current.value, r.advance)
  | _ => ([], r.expect .string)

/-- The bracket that a character opens, and the character that closes it. -/
def bracketOf (c : Char) : Option (Bracket × Char) :=
  match c with
  | '(' => some (.group, ')')
  | '[' => some (.option, ']')
  | '\x7b' => some (.repetition, '\x7d')
  | _ => none

/-- Read a literal, and the range it begins if an ellipsis follows. -/
def readTokenOrRange (r : Reader) : Expression × Reader :=
  let pos := r.current.pos
  let (first, r) := r.readLiteral
  if r.current.kind = .sign '…' then
    let r := r.advance
    let lastPos := r.current.pos
    let (last, r) := r.readLiteral
    (.range pos first lastPos last, r)
  else (.token pos first, r)

mutual

/-- Read a term, if the current token begins one. -/
def readTerm : (fuel : Nat) → Reader → Option Expression × Reader
  | 0, r => (none, r)
  | fuel + 1, r =>
    match r.current.kind with
    | .ident => (some (.name r.current.pos r.current.text), r.advance)
    | .string =>
      let (term, r) := r.readTokenOrRange
      (some term, r)
    | .rawString =>
      let (term, r) := r.readTokenOrRange
      (some term, r)
    | .sign c =>
      match bracketOf c with
      | none => (none, r)
      | some (bracket, closing) =>
        let pos := r.current.pos
        let (body, r) := readAlternatives fuel r.advance
        (some (.bracketed pos bracket (.ofAlternatives body)), r.expect (.sign closing))
    | _ => (none, r)

def readTerms : (fuel : Nat) → Reader → List Expression × Reader
  | 0, r => ([], r)
  | fuel + 1, r =>
    match readTerm fuel r with
    | (none, r) => ([], r)
    | (some term, r) =>
      let (terms, r) := readTerms fuel r
      (term :: terms, r)

/-- Read alternatives, with a complaint about each that has no term. -/
def readAlternatives : (fuel : Nat) → Reader → List Expression × Reader
  | 0, r => ([], r)
  | fuel + 1, r =>
    let (terms, r) := readTerms fuel r
    let first := Expression.ofTerms r.current.pos terms
    let r := if terms.isEmpty then r.complain (.expected .term r.current) else r
    if r.current.kind = .sign '|' then
      let (others, r) := readAlternatives fuel r.advance
      (first :: others, r)
    else ([first], r)

end

/-- Read a production.  Its name is the current token, whatever that is. -/
def readProduction (r : Reader) : Production × Reader :=
  let pos := r.current.pos
  let name := r.current.text
  let r := (r.expect .ident).expect (.sign '=')
  if r.current.kind = .sign '.' then (⟨pos, name, none⟩, r.expect (.sign '.'))
  else
    -- Every call consumes a token or returns, and three calls lie between two brackets.
    let (body, r) := readAlternatives (4 * r.rest.length + 4) r
    (⟨pos, name, some (.ofAlternatives body)⟩, r.expect (.sign '.'))

/-- Read productions up to the end of the file.  A name that is declared again
is complained about, and the first declaration stands. -/
def readAll : (fuel : Nat) → List Production → Reader → List Production × Reader
  | 0, found, r => (found, r)
  | fuel + 1, found, r =>
    if r.current.kind = .eof then (found, r)
    else
      let (p, r) := r.readProduction
      if found.any (·.name = p.name) then
        readAll fuel found (r.complain (.declaredAlready p.pos p.name))
      else readAll fuel (found ++ [p]) r

end Reader

/-- The productions of a file in order, or everything that is wrong with it. -/
def read (file source : Text) : Except (List Complaint) (List Production) :=
  match Token.scan file source with
  | [] => .ok []
  | current :: rest =>
    let (found, r) := Reader.readAll (rest.length + 1) [] ⟨current, rest, []⟩
    if r.complaints.isEmpty then .ok found else .error r.complaints.reverse

end Ebnf
end ParseForest
