import FluentSql.Decimal.Numeral
import FluentSql.Text.Ascii
/-!
Reading TOML documents, version 1.1.

A document is a list of lines: a key with its value, a table header, or nothing. Reading keeps, besides the
values, how each table came about (`Origin`), because that decides who may still add to it: a header may name
a table once, a dotted key may extend what dotted keys made, and nobody may extend an inline table. Numbers
with a point and moments in time are checked but not kept, since no setting has such a value. A number that is
too large for its kind is refused, and a text that breaks the grammar gives no document at all.
-/

namespace FluentSql.Toml

/-- how a table came about -/
inductive Origin where
  /-- it has a header of its own -/
  | header
  /-- only a header below it was seen -/
  | implied
  /-- a dotted key made it -/
  | dotted
  /-- it is written in braces -/
  | inline
deriving DecidableEq, Repr

/-- a value of a document -/
inductive Item where
  | text (s : String)
  | integer (i : Int)
  | float
  | boolean (b : Bool)
  | moment
  | array (items : List Item)
  /-- tables under one header in double brackets -/
  | tables (list : List (List (String × Item)))
  | table (origin : Origin) (entries : List (String × Item))
deriving Inhabited

/-- keys with their values -/
abbrev Entries := List (String × Item)

/-- reads a part of the text: the value and the rest -/
abbrev Reader (α : Type) := List Char → Option (α × List Char)

/-! ## Blanks, comments, line ends -/

def isGap (c : Char) : Bool := c == ' ' || c == '\t'

def skipGap (s : List Char) : List Char := s.dropWhile isGap

/-- control characters, except the tab, stand nowhere in a document -/
def isControl (c : Char) : Bool := (c.toNat < 0x20 && c != '\t') || c.toNat == 0x7F

def isLineEnd (c : Char) : Bool := c == '\n' || c == '\r'

/-- an optional comment up to the end of the line -/
def skipComment : List Char → Option (List Char)
  | '#' :: r =>
    if (r.takeWhile fun c => !isLineEnd c).any isControl then none
    else some (r.dropWhile fun c => !isLineEnd c)
  | s => some s

/-- one line end -/
def skipLineEnd : List Char → Option (List Char)
  | '\n' :: r => some r
  | '\r' :: '\n' :: r => some r
  | _ => none

/-- blanks, comments and line ends, as many as there are; `fuel` bounds the lines -/
def skipTrivia : Nat → List Char → Option (List Char)
  | 0, s => some s
  | fuel + 1, s =>
    match skipComment (skipGap s) with
    | none => none
    | some r =>
      match r with
      | [] => some []
      | c :: _ => if isLineEnd c then (skipLineEnd r).bind (skipTrivia fuel) else some r

/-- what may follow a value on its line -/
def skipRestOfLine (s : List Char) : Option (List Char) :=
  match skipComment (skipGap s) with
  | none => none
  | some [] => some []
  | some r => skipLineEnd r

/-! ## Strings -/

def hexNumber (ds : List Char) : Option Nat :=
  ds.foldl (fun acc c => acc.bind fun v => (Text.hexValue c).map fun d => 16 * v + d) (some 0)

/-- a character by its number, from a fixed count of hexadecimal digits -/
def charByNumber (count : Nat) (s : List Char) : Option (Char × List Char) :=
  if s.length < count then none
  else (hexNumber (s.take count)).bind fun n =>
    if n < 0xD800 ∨ (0xDFFF < n ∧ n < 0x110000) then some (Char.ofNat n, s.drop count) else none

/-- the character a backslash and what follows it stand for -/
def escapeSequence : Reader Char
  | 'b' :: r => some ('\x08', r)
  | 't' :: r => some ('\t', r)
  | 'n' :: r => some ('\n', r)
  | 'f' :: r => some ('\x0c', r)
  | 'r' :: r => some ('\r', r)
  | 'e' :: r => some ('\x1b', r)
  | '"' :: r => some ('"', r)
  | '\\' :: r => some ('\\', r)
  | 'x' :: r => charByNumber 2 r
  | 'u' :: r => charByNumber 4 r
  | 'U' :: r => charByNumber 8 r
  | _ => none

/-- the inside of a string in double quotes -/
def basicBody : Nat → List Char → Reader (List Char)
  | 0, _, _ => none
  | _ + 1, _, [] => none
  | fuel + 1, acc, c :: r =>
    if c = '"' then some (acc.reverse, r)
    else if c = '\\' then (escapeSequence r).bind fun (d, r') => basicBody fuel (d :: acc) r'
    else if isControl c then none
    else basicBody fuel (c :: acc) r

/-- the inside of a string in single quotes -/
def literalBody (s : List Char) : Option (List Char × List Char) :=
  let body := s.takeWhile fun c => c != '\'' && !isControl c
  match s.dropWhile fun c => c != '\'' && !isControl c with
  | '\'' :: r => some (body, r)
  | _ => none

/-- the quotes at the start of a text, at most five: three close a string and the others belong to it -/
def closingQuotes (quote : Char) (s : List Char) : Nat := (s.takeWhile (· == quote)).length.min 5

/-- blanks and line ends, a carriage return counting only in front of a line feed -/
def skipBlankLines : List Char → List Char
  | '\r' :: '\n' :: r => skipBlankLines r
  | c :: r => if isGap c || c == '\n' then skipBlankLines r else c :: r
  | [] => []

/-- after a backslash at the end of a line, everything up to the next character that is not blank -/
def skipFolded (s : List Char) : Option (List Char) := (skipLineEnd (skipGap s)).map skipBlankLines

/-- the inside of a string in three quotes; escapes only count in the double-quoted form -/
def multilineBody (quote : Char) : Nat → List Char → Reader (List Char)
  | 0, _, _ => none
  | _ + 1, _, [] => none
  | fuel + 1, acc, c :: r =>
    let closing := closingQuotes quote (c :: r)
    if 3 ≤ closing then
      some (acc.reverse ++ List.replicate (closing - 3) quote, (c :: r).drop closing)
    else if c = '\\' ∧ quote = '"' then
      match skipFolded r with
      | some r' => multilineBody quote fuel acc r'
      | none => (escapeSequence r).bind fun (d, r') => multilineBody quote fuel (d :: acc) r'
    else if c = '\n' then multilineBody quote fuel (c :: acc) r
    else if c = '\r' then
      match r with
      | '\n' :: r' => multilineBody quote fuel ('\n' :: '\r' :: acc) r'
      | _ => none
    else if isControl c then none
    else multilineBody quote fuel (c :: acc) r

/-- a line end right after the opening quotes is not part of the string -/
def dropFirstLineEnd (s : List Char) : List Char := (skipLineEnd s).getD s

/-- a string of any of the four forms -/
def string : Reader String
  | '"' :: '"' :: '"' :: r =>
    (multilineBody '"' (r.length + 1) [] (dropFirstLineEnd r)).map fun (b, r') => (String.ofList b, r')
  | '\'' :: '\'' :: '\'' :: r =>
    (multilineBody '\'' (r.length + 1) [] (dropFirstLineEnd r)).map fun (b, r') => (String.ofList b, r')
  | '"' :: r => (basicBody (r.length + 1) [] r).map fun (b, r') => (String.ofList b, r')
  | '\'' :: r => (literalBody r).map fun (b, r') => (String.ofList b, r')
  | _ => none

/-! ## Numbers and moments -/

/-- digits of a kind with single underscores between them, without the underscores -/
def underscored (p : Char → Bool) : Bool → List Char → Option (List Char)
  | afterDigit, [] => if afterDigit then some [] else none
  | afterDigit, c :: r =>
    if c = '_' then if afterDigit then underscored p false r else none
    else if p c then (underscored p true r).map (c :: ·)
    else none

def digits (p : Char → Bool) (s : List Char) : Option (List Char) := underscored p false s

def valueOf (base : Nat) (ds : List Char) : Int :=
  ds.foldl (fun v c => base * v + ((Text.hexValue c).getD 0 : Nat)) 0

/-- decimal digits without a needless zero in front -/
def decimal (s : List Char) : Option (List Char) :=
  match s with
  | '0' :: _ :: _ => none
  | _ => digits Char.isDigit s

/-- a whole number: decimal with an optional sign, or by another base -/
def integer (s : List Char) : Option Int :=
  match s with
  | '0' :: 'x' :: r => (digits (fun c => (Text.hexValue c).isSome) r).map (valueOf 16)
  | '0' :: 'o' :: r => (digits (fun c => '0' ≤ c && c ≤ '7') r).map (valueOf 8)
  | '0' :: 'b' :: r => (digits (fun c => c == '0' || c == '1') r).map (valueOf 2)
  | s =>
    let (negative, r) := Decimal.splitSign s
    (decimal r).map fun ds => if negative then -valueOf 10 ds else valueOf 10 ds

/-- whether a text is the part of a real number behind its whole part -/
def isFraction (s : List Char) : Bool :=
  let isExponent (r : List Char) : Bool :=
    match r with
    | [] => true
    | c :: r => (c == 'e' || c == 'E') && (digits Char.isDigit (Decimal.splitSign r).2).isSome
  let stop (c : Char) : Bool := c == 'e' || c == 'E'
  match s with
  | '.' :: r => (digits Char.isDigit (r.takeWhile fun c => !stop c)).isSome
      && isExponent (r.dropWhile fun c => !stop c)
  | [] => false
  | r => isExponent r

/-- whether a text is a real number -/
def isFloat (s : List Char) : Bool :=
  let r := (Decimal.splitSign s).2
  let inWhole (c : Char) : Bool := c.isDigit || c == '_'
  r == "inf".toList || r == "nan".toList
    || ((decimal (r.takeWhile inWhole)).isSome && isFraction (r.dropWhile inWhole))

/-- whether a real number in digits is too large for double precision -/
def overflows (s : List Char) : Bool :=
  let r := (Decimal.splitSign s).2
  r.any Char.isDigit && Decimal.readMagnitude (r.filter (· != '_')) == some Decimal.double.infinity

/-- whether a whole number has at most 128 bits -/
def isBounded (i : Int) : Bool := -(2 ^ 127 : Nat) ≤ i && i < (2 ^ 128 : Nat)

def twoDigits : Reader Nat
  | a :: b :: r => if a.isDigit && b.isDigit then some (Decimal.digitsValue [a, b], r) else none
  | _ => none

/-- the days of a month -/
def monthLength (year month : Nat) : Nat :=
  if month = 2 then
    if year % 4 = 0 ∧ (year % 100 ≠ 0 ∨ year % 400 = 0) then 29 else 28
  else if month = 4 ∨ month = 6 ∨ month = 9 ∨ month = 11 then 30
  else 31

/-- a date, and what follows it -/
def date (s : List Char) : Option (List Char) :=
  if !(s.take 4).all Char.isDigit || s.length < 4 then none
  else
    let year := Decimal.digitsValue (s.take 4)
    match s.drop 4 with
    | '-' :: r => (twoDigits r).bind fun (month, r) =>
      match r with
      | '-' :: r => (twoDigits r).bind fun (day, r) =>
        if 1 ≤ month ∧ month ≤ 12 ∧ 1 ≤ day ∧ day ≤ monthLength year month then some r else none
      | _ => none
    | _ => none

/-- an optional fraction of a second -/
def secondFraction : List Char → Option (List Char)
  | '.' :: r => if (r.takeWhile Char.isDigit).isEmpty then none else some (r.dropWhile Char.isDigit)
  | r => some r

/-- a time of day, seconds being optional, and what follows it -/
def time (s : List Char) : Option (List Char) :=
  (twoDigits s).bind fun (hour, r) =>
    match r with
    | ':' :: r => (twoDigits r).bind fun (minute, r) =>
      if 23 < hour ∨ 59 < minute then none
      else match r with
        | ':' :: r => (twoDigits r).bind fun (second, r) =>
          if 60 < second then none else secondFraction r
        | r => some r
    | _ => none

/-- whether a text is an offset from universal time -/
def isOffset : List Char → Bool
  | [c] => c == 'Z' || c == 'z'
  | c :: r =>
    (c == '+' || c == '-') &&
      match twoDigits r with
      | some (hour, ':' :: r) =>
        match twoDigits r with
        | some (minute, []) => hour ≤ 23 && minute ≤ 59
        | _ => false
      | _ => false
  | [] => false

/-- whether a text is a date, a time, or both with an optional offset -/
def isMoment (s : List Char) : Bool :=
  match date s with
  | some [] => true
  | some (c :: r) =>
    (c == 'T' || c == 't' || c == ' ') &&
      match time r with
      | some rest => rest.isEmpty || isOffset rest
      | none => false
  | none => time s == some []

def isWordChar (c : Char) : Bool :=
  c.isAlphanum || c == '+' || c == '-' || c == '_' || c == '.' || c == ':'

/-- the characters of a number, a moment or a word; a date may go on after one space -/
def takeWord (s : List Char) : List Char × List Char :=
  let w := s.takeWhile isWordChar
  match date w, s.dropWhile isWordChar with
  | some [], ' ' :: r =>
    if (twoDigits r).isSome then (w ++ ' ' :: r.takeWhile isWordChar, r.dropWhile isWordChar)
    else (w, ' ' :: r)
  | _, r => (w, r)

/-- a truth value, a number or a moment -/
def word (s : List Char) : Option (Item × List Char) :=
  let (w, r) := takeWord s
  if w = "true".toList then some (.boolean true, r)
  else if w = "false".toList then some (.boolean false, r)
  else match integer w with
    | some i => if isBounded i then some (.integer i, r) else none
    | none =>
      if isFloat w then if overflows w then none else some (.float, r)
      else if isMoment w then some (.moment, r)
      else none

/-! ## Keys -/

def isBareChar (c : Char) : Bool := c.isAlphanum || c == '-' || c == '_'

/-- one part of a key -/
def keyPart (s : List Char) : Option (String × List Char) :=
  match s with
  | '"' :: r => (basicBody (r.length + 1) [] r).map fun (b, r') => (String.ofList b, r')
  | '\'' :: r => (literalBody r).map fun (b, r') => (String.ofList b, r')
  | s =>
    let w := s.takeWhile isBareChar
    if w.isEmpty then none else some (String.ofList w, s.dropWhile isBareChar)

/-- parts of a key with points between them, blanks around the points being allowed -/
def keyPath : Nat → Reader (List String)
  | 0, _ => none
  | fuel + 1, s =>
    (keyPart (skipGap s)).bind fun (k, r) =>
      match skipGap r with
      | '.' :: r' => (keyPath fuel r').map fun (ks, r'') => (k :: ks, r'')
      | r' => some ([k], r')

/-! ## Tables -/

/-- the value under a key -/
def lookup (k : String) : Entries → Option Item
  | [] => none
  | e :: rest => if e.1 = k then some e.2 else lookup k rest

/-- replaces the value under a key, or adds it -/
def store (k : String) (v : Item) : Entries → Entries
  | [] => [(k, v)]
  | e :: rest => if e.1 = k then (k, v) :: rest else e :: store k v rest

/-- changes the table at a path, making the tables on the way; `dotted` tells a dotted key from a header -/
def atPath (dotted : Bool) (change : Entries → Option Entries) : List String → Entries → Option Entries
  | [], es => change es
  | k :: ks, es =>
    match lookup k es with
    | none =>
      (atPath dotted change ks []).map fun inner =>
        store k (.table (if dotted then .dotted else .implied) inner) es
    | some (.table origin inner) =>
      let refused := origin = .inline ∨ (dotted = true ∧ origin = .header)
      if refused then none
      else (atPath dotted change ks inner).map fun inner' => store k (.table origin inner') es
    | some (.tables list) =>
      match list.reverse with
      | [] => none
      | last :: earlier =>
        (atPath dotted change ks last).map fun last' => store k (.tables (earlier.reverse ++ [last'])) es
    | some _ => none

/-- adds a value under a key that has none yet -/
def addNew (k : String) (v : Item) (es : Entries) : Option Entries :=
  match lookup k es with
  | none => some (store k v es)
  | some _ => none

/-- adds the value of a key with points -/
def addAtKey (key : List String) (v : Item) (es : Entries) : Option Entries :=
  match key.reverse with
  | [] => none
  | k :: path => atPath true (addNew k v) path.reverse es

/-- opens the table of a header -/
def openTable (key : List String) (es : Entries) : Option Entries :=
  match key.reverse with
  | [] => none
  | k :: path =>
    let enter (inner : Entries) : Option Entries :=
      match lookup k inner with
      | none => some (store k (.table .header []) inner)
      | some (.table .implied below) => some (store k (.table .header below) inner)
      | some _ => none
    atPath false enter path.reverse es

/-- opens the next table of a header in double brackets -/
def openNextTable (key : List String) (es : Entries) : Option Entries :=
  match key.reverse with
  | [] => none
  | k :: path =>
    let enter (inner : Entries) : Option Entries :=
      match lookup k inner with
      | none => some (store k (.tables [[]]) inner)
      | some (.tables list) => some (store k (.tables (list ++ [[]])) inner)
      | some _ => none
    atPath false enter path.reverse es

/-! ## Values -/

/-- how deep arrays and inline tables may be nested -/
def nesting : Nat := 80

/-- the items of an array up to its closing bracket, `fuel` bounding their number -/
def arrayItems (value : Reader Item) : Nat → List Item → Reader (List Item)
  | 0, _, _ => none
  | fuel + 1, acc, s =>
    (skipTrivia s.length s).bind fun s =>
      match s with
      | ']' :: r => some (acc.reverse, r)
      | s => (value s).bind fun (v, r) =>
        (skipTrivia r.length r).bind fun r =>
          match r with
          | ',' :: r' => arrayItems value fuel (v :: acc) r'
          | ']' :: r' => some ((v :: acc).reverse, r')
          | _ => none

/-- the entries of an inline table up to its closing brace; line ends may stand around every sign -/
def inlineEntries (value : Reader Item) : Nat → Entries → Reader Entries
  | 0, _, _ => none
  | fuel + 1, acc, s =>
    (skipTrivia s.length s).bind fun s =>
      match s with
      | '}' :: r => some (acc, r)
      | s => (keyPath (s.length + 1) s).bind fun (key, r) =>
        (skipTrivia r.length r).bind fun r =>
          match r with
          | '=' :: r => ((skipTrivia r.length r).bind value).bind fun (v, r) =>
            (addAtKey key v acc).bind fun acc =>
              (skipTrivia r.length r).bind fun r =>
                match r with
                | ',' :: r' => inlineEntries value fuel acc r'
                | '}' :: r' => some (acc, r')
                | _ => none
          | _ => none

/-- a value without values inside -/
def plainValue : Reader Item
  | '[' :: _ => none
  | '{' :: _ => none
  | '"' :: r => (string ('"' :: r)).map fun (t, r) => (.text t, r)
  | '\'' :: r => (string ('\'' :: r)).map fun (t, r) => (.text t, r)
  | s => word s

/-- a value in which arrays and inline tables are nested at most so deep -/
def value : Nat → Reader Item
  | 0, s => plainValue s
  | depth + 1, s =>
    match s with
    | '[' :: r => (arrayItems (value depth) (r.length + 1) [] r).map fun (vs, r') => (.array vs, r')
    | '{' :: r =>
      (inlineEntries (value depth) (r.length + 1) [] r).map fun (es, r') => (.table .inline es, r')
    | s => plainValue s

/-! ## Documents -/

/-- one line: the document so far and the header that is open, before and after -/
def line (doc : Entries × List String) (s : List Char) : Option ((Entries × List String) × List Char) :=
  let (es, opened) := doc
  match skipGap s with
  | [] => some (doc, [])
  | '#' :: r => (skipRestOfLine ('#' :: r)).map fun r' => (doc, r')
  | '\n' :: r => some (doc, r)
  | '\r' :: r => (skipLineEnd ('\r' :: r)).map fun r' => (doc, r')
  | '[' :: '[' :: r =>
    (keyPath (r.length + 1) r).bind fun (key, r) =>
      match r with
      | ']' :: ']' :: r => (openNextTable key es).bind fun es' =>
        (skipRestOfLine r).map fun r' => ((es', key), r')
      | _ => none
  | '[' :: r =>
    (keyPath (r.length + 1) r).bind fun (key, r) =>
      match r with
      | ']' :: r => (openTable key es).bind fun es' =>
        (skipRestOfLine r).map fun r' => ((es', key), r')
      | _ => none
  | s =>
    (keyPath (s.length + 1) s).bind fun (key, r) =>
      match r with
      | '=' :: r => (value nesting (skipGap r)).bind fun (v, r) =>
        (atPath false (addAtKey key v) opened es).bind fun es' =>
          (skipRestOfLine r).map fun r' => ((es', opened), r')
      | _ => none

/-- all lines, `fuel` bounding their number -/
def lines : Nat → Entries × List String → List Char → Option Entries
  | _, (es, _), [] => some es
  | 0, _, _ :: _ => none
  | fuel + 1, doc, s => (line doc s).bind fun (doc', r) => lines fuel doc' r

/-- a byte order mark in front is not part of the document -/
def dropMark : List Char → List Char
  | '\uFEFF' :: r => r
  | s => s

/-- the entries of a document -/
def read (text : String) : Option Entries :=
  let s := dropMark text.toList
  lines (s.length + 1) ([], []) s

end FluentSql.Toml
