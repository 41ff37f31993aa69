import ApiScaffold.Toml.Table
/-!
# Reading TOML

Texts, lists, tables in braces, dotted keys and headers. Numbers, dates and truth values are
refused, and so are lists of tables: no setting has such a value.
-/
namespace ApiScaffold.Toml

/-- Texts and words parted by dots. -/
def key? : List Token → Option (List String × List Token)
  | .bare word :: .dot :: rest => (key? rest).map fun (path, rest) => (word :: path, rest)
  | .text false word :: .dot :: rest => (key? rest).map fun (path, rest) => (word :: path, rest)
  | .bare word :: rest => some ([word], rest)
  | .text false word :: rest => some ([word], rest)
  | _ => none

def skipNewlines (tokens : List Token) : List Token := tokens.dropWhile (· = .newline)

mutual

/-- Reads a value; `n` bounds the number of tokens. -/
def value? : Nat → List Token → Option (Toml × List Token)
  | 0, _ => none
  | n + 1, tokens =>
    match tokens with
    | .text _ s :: rest => some (.text s, rest)
    | .openList :: rest => items? n [] (skipNewlines rest)
    | .openTable :: .closeTable :: rest => some (.table .braces [], rest)
    | .openTable :: rest => members? n [] rest
    | _ => none

/-- Reads the rest of a list; a comma may stand behind its last item. -/
def items? : Nat → List Toml → List Token → Option (Toml × List Token)
  | 0, _, _ => none
  | n + 1, done, tokens =>
    match tokens with
    | .closeList :: rest => some (.list done.reverse, rest)
    | tokens => do
      let (item, rest) ← value? n tokens
      match skipNewlines rest with
      | .comma :: rest => items? n (item :: done) (skipNewlines rest)
      | .closeList :: rest => some (.list (item :: done).reverse, rest)
      | _ => none

/-- Reads the rest of a table in braces, on one line. -/
def members? : Nat → Members → List Token → Option (Toml × List Token)
  | 0, _, _ => none
  | n + 1, done, tokens => do
    let (path, rest) ← key? tokens
    match rest with
    | .equals :: rest =>
      let (value, rest) ← value? n rest
      let done ← set? value path done
      match rest with
      | .comma :: rest => members? n done rest
      | .closeTable :: rest => some (.table .braces done, rest)
      | _ => none
    | _ => none

end

/-- Nothing but a line break may follow on a line. -/
def endOfLine? : List Token → Option (List Token)
  | .newline :: rest => some rest
  | [] => some []
  | _ => none

/-- Reads the lines of a configuration; the settings belong to the table of the last header. -/
def lines? : Nat → List String → Members → List Token → Option Members
  | 0, _, _, _ => none
  | _ + 1, _, done, [] => some done
  | n + 1, header, done, .newline :: rest => lines? n header done rest
  | n + 1, _, done, .openList :: rest => do
    let (path, rest) ← key? rest
    match rest with
    | .closeList :: rest =>
      let done ← openTable? path done
      lines? n path done (← endOfLine? rest)
    | _ => none
  | n + 1, header, done, tokens => do
    let (path, rest) ← key? tokens
    match rest with
    | .equals :: rest =>
      let (value, rest) ← value? n rest
      let done ← within? (set? value path) header done
      lines? n header done (← endOfLine? rest)
    | _ => none

def read? (text : String) : Option Members := do
  let tokens ← tokens? text
  lines? (tokens.length + 1) [] [] tokens

end ApiScaffold.Toml
