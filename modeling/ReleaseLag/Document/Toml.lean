import ReleaseLag.Document.Mismatch
import ReleaseLag.Double
import ReleaseLag.Hexadecimal

/-!
# `ReleaseLag.Document.Toml`: settings documents

The reader of TOML documents gives the entries of the root table in the order
they were first written, or nothing if the text is no document. The rules on
who may add to a table hang on how it came about: a header defines a table
once, a dotted key adds only to tables that dotted keys made, and a table
between braces is closed.
-/

set_option autoImplicit false

namespace ReleaseLag.Document.Toml

/-- How a table came about. -/
inductive Origin
  /-- Written between braces. -/
  | braces
  /-- Named by a header, or the root. -/
  | header
  /-- Passed through by a longer header. -/
  | path
  /-- Passed through by a dotted key. -/
  | dotted
  deriving DecidableEq, Repr

/-- A value. Floating point numbers and dates are only told apart from the
rest. -/
inductive Value
  | string (s : Text)
  | integer (n : Int)
  | floating
  | boolean (b : Bool)
  | moment
  | array (items : List Value)
  | table (origin : Origin) (entries : List (Text × Value))
  | tables (items : List (List (Text × Value)))
  deriving Repr

/-- The entries of a table in the order they were written. -/
abbrev Entries := List (Text × Value)

/-! ### Adding to tables -/

/-- The entries with another value under a key they have. -/
def replace (key : Text) (value : Value) (entries : Entries) : Entries :=
  entries.map fun (k, v) => if k = key then (k, value) else (k, v)

/-- Goes down a path of keys, making the tables that are missing, and changes
the entries of the last one. An array of tables stands for its last table. -/
def update (origin : Origin) (change : Origin → Entries → Option Entries) :
    List Text → Origin → Entries → Option Entries
  | [], here, entries => change here entries
  | key :: path, _, entries =>
    match entries.lookup key with
    | none => do
      return entries ++ [(key, .table origin (← update origin change path origin []))]
    | some (.table .braces _) => none
    | some (.table there inner) =>
      if origin = .dotted ∧ there = .header then none
      else do
        return replace key (.table there (← update origin change path there inner)) entries
    | some (.tables items) =>
      match items.getLast? with
      | none => none
      | some last => do
        let last ← update origin change path .header last
        return replace key (.tables (items.dropLast ++ [last])) entries
    | some _ => none

/-- Adds an entry under a dotted key. A key with a path adds only to a table
that dotted keys made, and one without to any other. -/
def define (path : List Text) (key : Text) (value : Value) (here : Origin) (entries : Entries) :
    Option Entries :=
  update .dotted
    (fun origin entries =>
      if decide (origin = .dotted) = path.isEmpty ∨ (entries.lookup key).isSome then none
      else some (entries ++ [(key, value)]))
    path here entries

/-- The table a header names, new or so far only passed through. -/
def openTable (key : Text) (entries : Entries) : Option Entries :=
  match entries.lookup key with
  | none => some (entries ++ [(key, .table .header [])])
  | some (.table .path inner) =>
    some (entries.filter (·.1 ≠ key) ++ [(key, .table .header inner)])
  | some _ => none

/-- A further table of the array that a doubled header names. -/
def openItem (key : Text) (entries : Entries) : Option Entries :=
  match entries.lookup key with
  | none => some (entries ++ [(key, .tables [[]])])
  | some (.tables items) => some (replace key (.tables (items ++ [[]])) entries)
  | some _ => none

/-! ### Blanks and comments -/

def isSpace (c : Char) : Bool :=
  c = ' ' || c = '\t'

def skipSpace (s : Text) : Text :=
  s.dropWhile isSpace

/-- Characters of comments and of strings on one line: no controls but the
tab. -/
def isLineChar (c : Char) : Bool :=
  c = '\t' || (0x20 ≤ c.toNat && c.toNat ≠ 0x7F)

/-- What follows a line break. -/
def newline? : Text → Option Text
  | '\n' :: rest => some rest
  | '\r' :: '\n' :: rest => some rest
  | _ => none

/-- The text without a comment it begins with. -/
def skipComment : Text → Text
  | '#' :: rest => rest.dropWhile isLineChar
  | s => s

/-- What follows the end of a line: blanks, perhaps a comment, and a line
break or the end of the text. -/
def endLine? (s : Text) : Option Text :=
  match skipComment (skipSpace s) with
  | [] => some []
  | s => newline? s

/-- What follows blanks, line breaks and comments inside an array. The
argument says whether a comment has begun. -/
def skipLines? : Bool → Text → Option Text
  | _, [] => some []
  | _, '\n' :: rest => skipLines? false rest
  | _, '\r' :: '\n' :: rest => skipLines? false rest
  | true, c :: rest => if isLineChar c then skipLines? true rest else none
  | false, c :: rest =>
    if isSpace c then skipLines? false rest
    else if c = '#' then skipLines? true rest
    else some (c :: rest)

/-! ### Strings -/

/-- The character with a code point of so many hexadecimal digits. -/
def codePoint? (width : Nat) (s : Text) : Option (Char × Text) := do
  if (s.take width).length ≠ width then none
  let n ← Hexadecimal.number? (s.take width)
  if n.isValidChar then some (Char.ofNat n, s.drop width) else none

/-- The character of an escape whose backslash has been read. -/
def escape? : Text → Option (Char × Text)
  | 'b' :: rest => some ('\x08', rest)
  | 't' :: rest => some ('\t', rest)
  | 'n' :: rest => some ('\n', rest)
  | 'f' :: rest => some ('\x0c', rest)
  | 'r' :: rest => some ('\r', rest)
  | '"' :: rest => some ('"', rest)
  | '\\' :: rest => some ('\\', rest)
  | 'u' :: rest => codePoint? 4 rest
  | 'U' :: rest => codePoint? 8 rest
  | _ => none

/-- What follows a backslash at the end of a line: the line break and all
blanks and line breaks after it. -/
def skipFold? (s : Text) : Option Text := do
  let rest ← newline? (skipSpace s)
  return go rest
where
  go : Text → Text
    | '\r' :: '\n' :: rest => go rest
    | c :: rest => if isSpace c || c = '\n' then go rest else c :: rest
    | [] => []

/-- A string on one line after its opening quote. Each step reads a character
at least, so the fuel, the length of the text, never runs out. -/
def basic? (s : Text) : Option (Text × Text) :=
  go s.length s
where
  go : Nat → Text → Option (Text × Text)
    | fuel + 1, c :: rest =>
      if c = '"' then some ([], rest)
      else if c = '\\' then do
        let (c, rest) ← escape? rest
        let (s, rest) ← go fuel rest
        return (c :: s, rest)
      else if isLineChar c then (go fuel rest).map fun (s, rest) => (c :: s, rest)
      else none
    | _, _ => none

/-- A string without escapes on one line after its opening quote. -/
def literal? : Text → Option (Text × Text)
  | [] => none
  | c :: rest =>
    if c = '\'' then some ([], rest)
    else if isLineChar c then (literal? rest).map fun (s, rest) => (c :: s, rest)
    else none

/-- The quotes at the front of a text over several lines: fewer than three
belong to it, three to five close it, and those before the last three belong
to it. -/
def closing? (quote : Char) (s : Text) : Option (Text × Text) :=
  let run := s.takeWhile (· == quote)
  if 3 ≤ run.length ∧ run.length ≤ 5 then some (run.drop 3, s.drop run.length) else none

/-- A string over several lines after its opening quotes. The fuel, the
length of the text, never runs out. -/
def block? (quote : Char) (s : Text) : Option (Text × Text) :=
  go s.length s
where
  go : Nat → Text → Option (Text × Text)
    | fuel + 1, c :: rest =>
      if c = quote ∧ (rest.take 2).length = 2 ∧ (rest.take 2).all (· == quote) then
        closing? quote (c :: rest)
      else if c = '\\' ∧ quote = '"' then
        match skipFold? rest with
        | some rest => go fuel rest
        | none => do
          let (c, rest) ← escape? rest
          let (s, rest) ← go fuel rest
          return (c :: s, rest)
      else
        match newline? (c :: rest) with
        | some rest => (go fuel rest).map fun (s, rest) => ('\n' :: s, rest)
        | none =>
          if isLineChar c then (go fuel rest).map fun (s, rest) => (c :: s, rest) else none
    | _, _ => none

/-- A text without the line break it begins with. -/
def skipFirstNewline (s : Text) : Text :=
  (newline? s).getD s

/-- A string of any of the four forms. -/
def string? : Text → Option (Text × Text)
  | '"' :: '"' :: '"' :: rest => block? '"' (skipFirstNewline rest)
  | '"' :: rest => basic? rest
  | '\'' :: '\'' :: '\'' :: rest => block? '\'' (skipFirstNewline rest)
  | '\'' :: rest => literal? rest
  | _ => none

/-! ### Numbers and dates -/

/-- Digits of a class with single underscores between them, without the
underscores. -/
def digits? (isDigit : Char → Bool) : Text → Option (Text × Text)
  | [] => none
  | c :: rest => if isDigit c then some (go c rest) else none
where
  go (first : Char) : Text → Text × Text
    | '_' :: c :: rest =>
      if isDigit c then
        let (run, rest) := go c rest
        (first :: run, rest)
      else ([first], '_' :: c :: rest)
    | c :: rest =>
      if isDigit c then
        let (run, rest) := go c rest
        (first :: run, rest)
      else ([first], c :: rest)
    | [] => ([first], [])

/-- The sign at the front of a text; true below zero. -/
def sign : Text → Bool × Text
  | '+' :: rest => (false, rest)
  | '-' :: rest => (true, rest)
  | s => (false, s)

/-- A decimal number: a zero alone, or digits that begin with another. -/
def whole? : Text → Option (Text × Text)
  | '0' :: rest => some (['0'], rest)
  | s => digits? Char.isDigit s

/-- Digits after a point. -/
def fraction? : Text → Option (Text × Text)
  | '.' :: rest => digits? Char.isDigit rest
  | _ => none

/-- An exponent. -/
def exponent? : Text → Option (Int × Text)
  | c :: rest =>
    if c = 'e' ∨ c = 'E' then do
      let (negative, rest) := sign rest
      let (run, rest) ← digits? Char.isDigit rest
      let n : Int := Decimal.value run
      return (if negative then -n else n, rest)
    else none
  | [] => none

/-- A word at the front of a text. -/
def word? (w : Text) (s : Text) : Option Text :=
  if w.isPrefixOf s then some (s.drop w.length) else none

/-- A floating point number. One too large for a double is refused above zero
and taken below it. -/
def floating? (s : Text) : Option (Value × Text) := do
  let (negative, s) := sign s
  match word? "inf".toList s <|> word? "nan".toList s with
  | some rest => return (.floating, rest)
  | none =>
    let (whole, s) ← whole? s
    let (fraction, exponent, s) ←
      match fraction? s with
      | some (run, rest) =>
        match exponent? rest with
        | some (n, rest) => some (run, n, rest)
        | none => some (run, 0, rest)
      | none => (exponent? s).map fun (n, rest) => ([], n, rest)
    let mantissa := Decimal.value (whole ++ fraction)
    if !negative ∧ Double.exceeds (Decimal.ofNat mantissa).length mantissa
        (exponent - fraction.length) then none
    else return (.floating, s)

/-- A number in another base, after its mark. -/
def based? (base : Nat) (isDigit : Char → Bool) (s : Text) : Option (Value × Text) := do
  let (run, rest) ← digits? isDigit s
  let n ← run.foldlM (fun n c => do return n * base + (← Hexadecimal.value? c)) 0
  if n ≤ 9223372036854775807 then some (.integer n, rest) else none

/-- A whole number of 64 bits. -/
def integer? : Text → Option (Value × Text)
  | '0' :: 'x' :: rest => based? 16 Hexadecimal.isDigit rest
  | '0' :: 'o' :: rest => based? 8 (fun c => '0' ≤ c && c ≤ '7') rest
  | '0' :: 'b' :: rest => based? 2 (fun c => c = '0' || c = '1') rest
  | s => do
    let (negative, s) := sign s
    let (run, rest) ← whole? s
    let n : Int := if negative then -(Decimal.value run : Int) else Decimal.value run
    if Range.i64.holds n then some (.integer n, rest) else none

/-- A fixed number of digits whose value lies between two bounds. -/
def fixed? (width low high : Nat) (s : Text) : Option (Nat × Text) :=
  let run := s.take width
  if run.length = width ∧ run.all Char.isDigit ∧ low ≤ Decimal.value run
      ∧ Decimal.value run ≤ high then
    some (Decimal.value run, s.drop width)
  else none

/-- The number of days of a month in a year. -/
def monthLength (year month : Nat) : Nat :=
  if month = 2 then
    if year % 4 = 0 ∧ (year % 100 ≠ 0 ∨ year % 400 = 0) then 29 else 28
  else if month = 4 ∨ month = 6 ∨ month = 9 ∨ month = 11 then 30
  else 31

/-- What follows a date. -/
def date? (s : Text) : Option Text := do
  let (year, s) ← fixed? 4 0 9999 s
  let s ← word? ['-'] s
  let (month, s) ← fixed? 2 1 12 s
  let s ← word? ['-'] s
  let (_, s) ← fixed? 2 1 (monthLength year month) s
  return s

/-- What follows a time of day. -/
def time? (s : Text) : Option Text := do
  let (_, s) ← fixed? 2 0 23 s
  let s ← word? [':'] s
  let (_, s) ← fixed? 2 0 59 s
  let s ← word? [':'] s
  let (_, s) ← fixed? 2 0 60 s
  match s with
  | '.' :: c :: rest =>
    return if c.isDigit then rest.dropWhile Char.isDigit else s
  | s => return s

/-- What follows the offset of a time. -/
def offset? : Text → Option Text
  | c :: rest =>
    if c = 'Z' ∨ c = 'z' then some rest
    else if c = '+' ∨ c = '-' then do
      let (_, s) ← fixed? 2 0 23 rest
      let s ← word? [':'] s
      let (_, s) ← fixed? 2 0 59 s
      return s
    else none
  | [] => none

/-- What follows the time of day of a date, with its offset if it has one. -/
def timeOfDate? : Text → Option Text
  | c :: rest =>
    if c = 'T' ∨ c = 't' ∨ c = ' ' then
      (time? rest).map fun s => (offset? s).getD s
    else none
  | [] => none

/-- A date, a time of day, or both, with an offset if there is one. -/
def moment? (s : Text) : Option (Value × Text) :=
  match date? s with
  | some s => some (.moment, (timeOfDate? s).getD s)
  | none => (time? s).map fun s => (.moment, s)

/-! ### Keys and values -/

/-- Characters of keys without quotes. -/
def isBareChar (c : Char) : Bool :=
  c.isAlphanum || c = '-' || c = '_'

/-- One key of a dotted key. -/
def simpleKey? : Text → Option (Text × Text)
  | '"' :: rest => basic? rest
  | '\'' :: rest => literal? rest
  | s =>
    match s.takeWhile isBareChar with
    | [] => none
    | key => some (key, s.dropWhile isBareChar)

/-- How deep arrays and tables between braces may stand in one another, and
how many keys a dotted key may have. -/
def depthLimit : Nat := 79

/-- The keys of a dotted key, with blanks around each. -/
def keys? : Nat → Text → Option (List Text × Text)
  | 0, _ => none
  | budget + 1, s => do
    let (key, s) ← simpleKey? (skipSpace s)
    match skipSpace s with
    | '.' :: rest =>
      let (keys, rest) ← keys? budget rest
      return (key :: keys, rest)
    | s => return ([key], s)

/-- A dotted key as the path before its last key, and that key. -/
def dottedKey? (s : Text) : Option (List Text × Text × Text) := do
  let (keys, s) ← keys? depthLimit s
  return (keys.dropLast, ← keys.getLast?, s)

/-- A value that holds no others. -/
def scalar? (s : Text) : Option (Value × Text) :=
  match s with
  | [] => none
  | c :: _ =>
    if c = '"' ∨ c = '\'' then (string? s).map fun (t, rest) => (.string t, rest)
    else if c = 't' then (word? "true".toList s).map fun rest => (.boolean true, rest)
    else if c = 'f' then (word? "false".toList s).map fun rest => (.boolean false, rest)
    else if c.isDigit ∨ c = '+' ∨ c = '-' ∨ c = 'i' ∨ c = 'n' then
      moment? s <|> floating? s <|> integer? s
    else none

/-- The items of an array after its bracket. The fuel, one more than the
length of the text, never runs out. -/
def items? (item? : Text → Option (Value × Text)) : Nat → Text → Option (List Value × Text)
  | 0, _ => none
  | fuel + 1, s => do
    match ← skipLines? false s with
    | ']' :: rest => return ([], rest)
    | s =>
      let (value, s) ← item? s
      match ← skipLines? false s with
      | ',' :: rest =>
        let (values, rest) ← items? item? fuel rest
        return (value :: values, rest)
      | ']' :: rest => return ([value], rest)
      | _ => none

/-- The entries of a table between braces, after the brace or a comma, added
to those before. The fuel, one more than the length of the text, never runs
out. -/
def fields? (item? : Text → Option (Value × Text)) (entries : Entries) :
    Nat → Text → Option (Entries × Text)
  | 0, _ => none
  | fuel + 1, s => do
    let (path, key, s) ← dottedKey? s
    let s ← word? ['='] s
    let (value, s) ← item? (skipSpace s)
    let entries ← define path key value .braces entries
    match skipSpace s with
    | ',' :: rest => fields? item? entries fuel rest
    | '}' :: rest => return (entries, rest)
    | _ => none

/-- A value, with so many levels left for what it holds. -/
def value? : Nat → Text → Option (Value × Text)
  | 0, s => scalar? s
  | budget + 1, s =>
    match s with
    | '[' :: rest => do
      let (values, rest) ← items? (value? budget) (rest.length + 1) rest
      return (.array values, rest)
    | '{' :: rest =>
      match skipSpace rest with
      | '}' :: rest => some (.table .braces [], rest)
      | rest => do
        let (entries, rest) ← fields? (value? budget) [] (rest.length + 1) rest
        return (.table .braces entries, rest)
    | s => scalar? s

/-! ### Documents -/

/-- A header after its first bracket: whether it is doubled, the path and key
it names, and what follows its line. -/
def header? (s : Text) : Option (Bool × List Text × Text × Text) := do
  let (doubled, s) :=
    match s with
    | '[' :: rest => (true, rest)
    | s => (false, s)
  let (path, key, s) ← dottedKey? s
  let s ← word? (if doubled then [']', ']'] else [']']) s
  return (doubled, path, key, ← endLine? s)

/-- The entries of the root after the lines of a text. `here` is the path of
the table that the last header named. The fuel, one more than the length of
the text, never runs out. -/
def lines? : Nat → List Text → Entries → Text → Option Entries
  | 0, _, _, _ => none
  | fuel + 1, here, root, s =>
    match skipSpace s with
    | [] => some root
    | '[' :: rest => do
      let (doubled, path, key, rest) ← header? rest
      let change := if doubled then openItem key else openTable key
      let root ← update .path (fun _ => change) path .header root
      lines? fuel (path ++ [key]) root rest
    | c :: rest =>
      if c = '#' ∨ c = '\n' ∨ c = '\r' then do
        lines? fuel here root (← endLine? (c :: rest))
      else do
        let (path, key, s) ← dottedKey? (c :: rest)
        let s ← word? ['='] s
        let (value, s) ← value? depthLimit (skipSpace s)
        let s ← endLine? s
        let root ← update .path (define path key value) here .header root
        lines? fuel here root s

/-- A text without the byte order mark it may begin with. -/
def skipMark : Text → Text
  | '\uFEFF' :: rest => rest
  | s => s

/-- The entries of the root table of a document. -/
def read? (document : Text) : Option Entries :=
  let s := skipMark document
  lines? (s.length + 1) [] [] s

/-- What a value is called where another kind was asked for. -/
def Value.found : Value → Found
  | string s => .string s
  | integer n => .integer n
  | floating => .floating
  | boolean b => .boolean b
  | moment => .map
  | array _ => .sequence
  | table _ _ => .map
  | tables _ => .sequence

/-- A whole number for a field. -/
def Value.toInteger (range : Range) : Value → Except Mismatch Nat
  | integer n =>
    if range.holds n then .ok n.toNat else .error (.invalidValue (.integer n) range.word)
  | value => .error (.invalidType value.found range.word)

/-- A text for a field. -/
def Value.toText : Value → Except Mismatch Text
  | string s => .ok s
  | value => .error (.invalidType value.found "a string")

end ReleaseLag.Document.Toml
