import FluentSql.Engine.Command
import FluentSql.Error
/-!
Reading commands from tokens.

A reader takes what it needs from the front of the tokens and answers nothing if they do not fit. Operators
bind by their strength (`expr`), and every recursion has its fuel: no command is longer than its tokens.
-/

namespace FluentSql.Engine.Grammar

/-- a reader of tokens -/
abbrev Read (α : Type) := StateT (List Placed) Option α

/-! ## Tokens -/

/-- words that are never names -/
def reserved : List String :=
  ["ADD", "ALL", "ALTER", "AND", "AS", "AUTOINCREMENT", "BETWEEN", "CASE", "CHECK", "COLLATE", "COMMIT",
    "CONSTRAINT", "CREATE", "DEFAULT", "DEFERRABLE", "DELETE", "DISTINCT", "DROP", "ELSE", "ESCAPE", "EXCEPT",
    "EXISTS", "FOREIGN", "FROM", "GROUP", "HAVING", "IN", "INDEX", "INSERT", "INTERSECT", "INTO", "IS",
    "ISNULL", "JOIN", "LIMIT", "NOT", "NOTHING", "NOTNULL", "NULL", "ON", "OR", "ORDER", "PRIMARY",
    "REFERENCES", "RETURNING", "SELECT", "SET", "TABLE", "THEN", "TO", "TRANSACTION", "UNION", "UNIQUE",
    "UPDATE", "USING", "VALUES", "WHEN", "WHERE"]

def isReserved (w : String) : Bool := reserved.contains (Text.upperAscii w)

def peek : Read (Option Token) := do
  return (← get).head?.map Placed.token

def take : Read Token := do
  match ← get with
  | t :: rest =>
    set rest
    return t.token
  | [] => failure

/-- whether the next token is a word, in any case of letters -/
def isNextWord (w : String) : Read Bool := do
  match ← peek with
  | some (.word t) => return Text.upperAscii t == w
  | _ => return false

def isNextSign (s : String) : Read Bool := do
  match ← peek with
  | some (.sign t) => return t == s
  | _ => return false

/-- takes a word if it is next -/
def word? (w : String) : Read Bool := do
  if ← isNextWord w then
    let _ ← take
    return true
  else return false

def sign? (s : String) : Read Bool := do
  if ← isNextSign s then
    let _ ← take
    return true
  else return false

def expect (ok : Read Bool) : Read Unit := do
  if ← ok then return () else failure

def word (w : String) : Read Unit := expect (word? w)

def sign (s : String) : Read Unit := expect (sign? s)

/-- a name: a word that is not reserved, a quoted name, or a string -/
def name : Read String := do
  match ← take with
  | .word w => if isReserved w then failure else return w
  | .name w _ => return w
  | .string w => return w
  | _ => failure

/-- takes a name if one is next; a reserved word or a string is none -/
def name? : Read (Option String) := do
  match ← peek with
  | some (.word w) =>
    if isReserved w then return none
    else
      let _ ← take
      return some w
  | some (.name w _) =>
    let _ ← take
    return some w
  | _ => return none

/-- one or more items with commas between them -/
def commaList {α : Type} (item : Read α) : Nat → Read (List α)
  | 0 => failure
  | fuel + 1 => do
    let a ← item
    if ← sign? "," then
      let rest ← commaList item fuel
      return a :: rest
    else return [a]

/-! ## Expressions -/

/-- an integer literal that does not fit is a real number -/
def integerValue (n : Int) : Value := (Value.fitInt64 n).elim (.real (Numeral.ofLarge n)) .integer

/-- a minus sign in front of a number belongs to it -/
def negated : Expr → Expr
  | .literal (.integer i) => .literal (integerValue (-i.toInt))
  | .literal (.real x) =>
    if x == 9223372036854775808.0 then .literal (.integer Int64.minValue) else .literal (.real (-x))
  | e => .negate e

/-- how strongly the signs of comparisons bind, and what they relate -/
def comparison (s : String) : Option (Nat × Relation) :=
  match s with
  | "=" => some (4, .equal)
  | "==" => some (4, .equal)
  | "<>" => some (4, .unequal)
  | "!=" => some (4, .unequal)
  | "<" => some (5, .less)
  | "<=" => some (5, .lessEqual)
  | ">" => some (5, .greater)
  | ">=" => some (5, .greaterEqual)
  | _ => none

/-- how strongly the signs of operations bind, and what they make of their sides -/
def operation (s : String) : Option (Nat × (Expr → Expr → Expr)) :=
  match s with
  | "+" => some (7, .compute .add)
  | "-" => some (7, .compute .subtract)
  | "*" => some (8, .compute .multiply)
  | "/" => some (8, .compute .divide)
  | "%" => some (8, .compute .remainder)
  | "||" => some (9, .append)
  | _ => (comparison s).map fun c => (c.1, .relate c.2)

/-- the functions of a group, by name -/
def aggregateNamed (w : String) : Option Aggregate :=
  let n := Text.upperAscii w
  if n = "COUNT" then some .count
  else if n = "MIN" then some .least
  else if n = "MAX" then some .greatest
  else if n = "SUM" then some .sum
  else none

/-- turns a condition around if asked to -/
def turned (around : Bool) (e : Expr) : Expr := if around then .not e else e

/-- membership in a list of choices; a list of one constant is an equality -/
def memberOf (a : Expr) : List Expr → Expr
  | [] => .literal (.integer 0)
  | [e] => if e.isConstant then .relate .equal a (.plus e) else .oneOf a [e]
  | es => .oneOf a es

/-- equality that counts null as a value, turned around or not; with null itself it is a test of its own -/
def sameAs (around : Bool) (a : Expr) : Expr → Expr
  | .literal .null => if around then .notNull a else .isNull a
  | b => turned around (.same a b)

/-- a column, perhaps behind the name of its table -/
def column (first : String) (quoted : Bool) : Read Expr := do
  if ← sign? "." then
    let second ← name
    return .name (some first) second false
  else return .name none first quoted

mutual

/-- an expression whose operators bind at least as strongly as asked: 1 for OR, 2 for AND, 3 for NOT, 4 for
equality, 5 for order, 7 for sums, 8 for products, 9 for appending, 10 for none -/
def expr : Nat → Nat → Read Expr
  | 0, _ => failure
  | fuel + 1, least => do
    let a ← operand fuel least
    operators fuel least a

/-- what stands at the start of an expression -/
def operand : Nat → Nat → Read Expr
  | 0, _ => failure
  | fuel + 1, least => do
    match ← take with
    | .integer n => return .literal (integerValue n)
    | .real x => return .literal (.real x)
    | .string s => return .literal (.text s)
    | .blob b => return .literal (.blob b)
    | .param (some k) => return .param k
    | .name w quoted => column w quoted
    | .sign "(" =>
      let e ← expr fuel 0
      sign ")"
      return e
    | .sign "-" => return negated (← operand fuel 10)
    | .sign "+" => return .plus (← operand fuel 10)
    | .word w =>
      let upper := Text.upperAscii w
      if upper = "NOT" then
        if least ≤ 3 then return .not (← expr fuel 3) else failure
      else if upper = "NULL" then return .literal .null
      else if isReserved w then failure
      else if ← isNextSign "(" then call fuel w
      else column w false
    | _ => failure

/-- the rest of an expression after its first operand -/
def operators : Nat → Nat → Expr → Read Expr
  | 0, _, _ => failure
  | fuel + 1, least, a => do
    match ← peek with
    | some (.sign s) =>
      match operation s with
      | some (strength, make) =>
        if least ≤ strength then
          let _ ← take
          let b ← expr fuel (strength + 1)
          operators fuel least (make a b)
        else return a
      | none => return a
    | some (.word w) =>
      let upper := Text.upperAscii w
      if upper = "OR" ∧ least ≤ 1 then
        let _ ← take
        let b ← expr fuel 2
        operators fuel least (.or a b)
      else if upper = "AND" ∧ least ≤ 2 then
        let _ ← take
        let b ← expr fuel 3
        operators fuel least (.and a b)
      else if 4 < least then return a
      else if upper = "ISNULL" then
        let _ ← take
        operators fuel least (.isNull a)
      else if upper = "NOTNULL" then
        let _ ← take
        operators fuel least (.notNull a)
      else if upper = "IS" then
        let _ ← take
        let around ← word? "NOT"
        if ← word? "DISTINCT" then
          word "FROM"
          let b ← expr fuel 5
          operators fuel least (sameAs (!around) a b)
        else
          let b ← expr fuel 5
          operators fuel least (sameAs around a b)
      else if upper = "NOT" then
        let _ ← take
        let e ← test fuel a true
        operators fuel least e
      else if upper = "LIKE" ∨ upper = "BETWEEN" ∨ upper = "IN" then
        let e ← test fuel a false
        operators fuel least e
      else return a
    | _ => return a

/-- the tests that NOT may stand in front of -/
def test : Nat → Expr → Bool → Read Expr
  | 0, _, _ => failure
  | fuel + 1, a, around => do
    if ← word? "LIKE" then
      let b ← expr fuel 5
      return turned around (.like a b)
    else if ← word? "BETWEEN" then
      let low ← expr fuel 5
      word "AND"
      let high ← expr fuel 5
      return turned around (.between a low high)
    else if ← word? "IN" then
      sign "("
      if ← sign? ")" then return turned around (memberOf a [])
      else
        let es ← choices fuel
        sign ")"
        return turned around (memberOf a es)
    else if around then
      word "NULL"
      return .notNull a
    else failure

/-- the items of a list of choices -/
def choices : Nat → Read (List Expr)
  | 0 => failure
  | fuel + 1 => do
    let e ← expr fuel 0
    if ← sign? "," then
      let rest ← choices fuel
      return e :: rest
    else return [e]

/-- the arguments of a function of a group -/
def call : Nat → String → Read Expr
  | 0, _ => failure
  | fuel + 1, w => do
    sign "("
    match aggregateNamed w with
    | none => failure
    | some f =>
      if f = .count ∧ (← sign? "*") then
        sign ")"
        return .countAll
      else if f = .count ∧ (← sign? ")") then return .countAll
      else
        let e ← expr fuel 0
        sign ")"
        return .aggregate f e

end

/-- an expression in a command of `size` tokens; too deep a one is refused -/
def whole (size : Nat) : Read Expr := do
  let e ← expr (2 * size + 2) 0
  if Expr.mostDepth < e.depth then failure else return e

/-- an expression behind a keyword, if the keyword is there -/
def clause (size : Nat) (keyword : String) : Read (Option Expr) := do
  if ← word? keyword then
    let e ← whole size
    return some e
  else return none

/-! ## Texts -/

/-- the text between the first and the last token that a reader took -/
def withText {α : Type} (source : List Char) (r : Read α) : Read (α × String) := do
  let before ← get
  let a ← r
  let after ← get
  let used := before.take (before.length - after.length)
  match used.head?, used.getLast? with
  | some first, some last =>
    return (a, String.ofList ((source.drop first.start).take (last.stop - first.start)))
  | _, _ => return (a, "")

/-! ## Reads -/

def alias? : Read (Option String) := do
  if ← word? "AS" then
    let n ← name
    return some n
  else
    match ← peek with
    | some (.string s) =>
      let _ ← take
      return some s
    | _ => name?

/-- a star behind the name of a table -/
def tableStar : Read (Option String) := fun ts =>
  match ts with
  | ⟨.word w, _, _⟩ :: ⟨.sign ".", _, _⟩ :: ⟨.sign "*", _, _⟩ :: rest => some (some w, rest)
  | ⟨.name w _, _, _⟩ :: ⟨.sign ".", _, _⟩ :: ⟨.sign "*", _, _⟩ :: rest => some (some w, rest)
  | _ => some (none, ts)

def output (source : List Char) (size : Nat) : Read Output := do
  if ← sign? "*" then return .all none
  else
    match ← tableStar with
    | some t => return .all (some t)
    | none =>
      let (e, text) ← withText source (whole size)
      let a ← alias?
      return .expr e a text

def fromTable : Read (String × String) := do
  let t ← name
  let a ← alias?
  return (t, a.getD t)

def sortKey (size : Nat) : Read SortKey := do
  let e ← whole size
  let _ ← word? "ASC"
  let descending ← word? "DESC"
  if ← word? "NULLS" then
    if ← word? "FIRST" then return ⟨e, descending, some true⟩
    else
      word "LAST"
      return ⟨e, descending, some false⟩
  else return ⟨e, descending, none⟩

def reading (source : List Char) (size : Nat) : Read Reading := do
  let distinct ← word? "DISTINCT"
  if !distinct then
    let _ ← word? "ALL"
  let outputs ← commaList (output source size) size
  let tables ← if ← word? "FROM" then commaList fromTable size else pure []
  let condition ← clause size "WHERE"
  let grouped ← word? "GROUP"
  let groupBy ← if grouped then
      word "BY"
      commaList (whole size) size
    else pure []
  let having ← clause size "HAVING"
  let ordered ← word? "ORDER"
  let orderBy ← if ordered then
      word "BY"
      commaList (sortKey size) size
    else pure []
  let limit ← clause size "LIMIT"
  let offset ← if limit.isSome then clause size "OFFSET" else pure none
  if limit.isSome ∧ offset.isNone ∧ (← sign? ",") then
    let second ← whole size
    return ⟨distinct, outputs, tables, condition, groupBy, having, orderBy, some second, limit⟩
  else return ⟨distinct, outputs, tables, condition, groupBy, having, orderBy, limit, offset⟩

/-! ## Definitions -/

/-- words of a type, and sizes in parentheses -/
def typeWords : Nat → Read (List String)
  | 0 => failure
  | fuel + 1 => do
    match ← peek with
    | some (.word w) =>
      if isReserved w then return []
      else
        let _ ← take
        let rest ← typeWords fuel
        return w :: rest
    | some (.name w _) =>
      let _ ← take
      let rest ← typeWords fuel
      return w :: rest
    | some (.string w) =>
      let _ ← take
      let rest ← typeWords fuel
      return w :: rest
    | _ => return []

def signedNumber : Read Value := do
  let minus ← sign? "-"
  if !minus then
    let _ ← sign? "+"
  match ← take with
  | .integer n => return integerValue (if minus then -n else n)
  | .real x => return .real (if minus then -x else x)
  | _ => failure

def typeName (size : Nat) : Read String := do
  let words ← typeWords (size + 1)
  let name := " ".intercalate words
  if !words.isEmpty ∧ (← sign? "(") then
    let first ← signedNumber
    let numbers ← if ← sign? "," then
        let second ← signedNumber
        pure [first, second]
      else pure [first]
    sign ")"
    let texts := numbers.map fun v => v.asText.getD ""
    return name ++ "(" ++ ",".intercalate texts ++ ")"
  else return name

def parenthesised (size : Nat) : Read Expr := do
  sign "("
  let e ← whole size
  sign ")"
  return e

/-- the value behind DEFAULT -/
def defaultValue (size : Nat) : Read Expr := do
  match ← peek with
  | some (.sign "(") => parenthesised size
  | some (.string s) =>
    let _ ← take
    return .literal (.text s)
  | some (.blob b) =>
    let _ ← take
    return .literal (.blob b)
  | some (.word w) =>
    let _ ← take
    let upper := Text.upperAscii w
    if upper = "NULL" then return .literal .null
    else if upper = "TRUE" then return .literal (.integer 1)
    else if upper = "FALSE" then return .literal (.integer 0)
    else if isReserved w then failure
    else return .literal (.text w)
  | some (.name w _) =>
    let _ ← take
    return .literal (.text w)
  | _ => return .literal (← signedNumber)

def nameList (size : Nat) : Read (List String) := do
  sign "("
  let names ← commaList name size
  sign ")"
  return names

/-- a column of a key, perhaps with its direction -/
def keyColumn : Read (String × Bool) := do
  let n ← name
  let _ ← word? "ASC"
  let descending ← word? "DESC"
  return (n, descending)

/-- the columns of a key in parentheses -/
def keyColumns (size : Nat) : Read (List (String × Bool)) := do
  sign "("
  let columns ← commaList keyColumn size
  sign ")"
  return columns

/-- the columns of a primary key in parentheses, and whether it counts on -/
def primaryColumns (size : Nat) : Read (List (String × Bool) × Bool) := do
  sign "("
  let columns ← commaList keyColumn size
  let auto ← word? "AUTOINCREMENT"
  sign ")"
  return (columns, auto)

/-- what a reference does when its row changes -/
def reaction : Read Reaction := do
  if ← word? "SET" then
    if ← word? "NULL" then return .setNull
    else
      word "DEFAULT"
      return .setDefault
  else if ← word? "CASCADE" then return .cascade
  else if ← word? "RESTRICT" then return .restrict
  else
    word "NO"
    word "ACTION"
    return .wait

/-- the reactions behind a reference, the last one of each kind counting -/
def reactions : Nat → ReferenceSource → Read ReferenceSource
  | 0, r => return r
  | fuel + 1, r => do
    if ← word? "ON" then
      if ← word? "DELETE" then
        let how ← reaction
        reactions fuel { r with onDelete := how }
      else if ← word? "UPDATE" then
        let how ← reaction
        reactions fuel { r with onUpdate := how }
      else
        word "INSERT"
        let _ ← reaction
        reactions fuel r
    else if ← word? "MATCH" then
      let _ ← name
      reactions fuel r
    else return r

def reference (size : Nat) : Read ReferenceSource := do
  let parent ← name
  let columns ← if ← isNextSign "(" then
      let names ← nameList size
      pure (some names)
    else pure none
  reactions size ⟨parent, columns, .wait, .wait, false⟩

/-- what stands behind DEFERRABLE: whether references wait for the end of the transaction -/
def deferral : Read Bool := do
  if ← word? "INITIALLY" then
    if ← word? "DEFERRED" then return true
    else
      word "IMMEDIATE"
      return false
  else return false

/-- whether a reference of a table is deferred -/
def tableDeferral : Read Bool := do
  if ← word? "NOT" then
    word "DEFERRABLE"
    let _ ← deferral
    return false
  else if ← word? "DEFERRABLE" then deferral
  else return false

/-- the constraints of a column, in the order they are given -/
def columnRules (size : Nat) : Nat → Read (List ColumnRule)
  | 0 => failure
  | fuel + 1 => do
    if ← word? "CONSTRAINT" then
      let _ ← name
    let rule ← columnRule
    match rule with
    | some r =>
      let rest ← columnRules size fuel
      return r :: rest
    | none => return []
where
  /-- one constraint, if one is next -/
  columnRule : Read (Option ColumnRule) := do
    if ← word? "PRIMARY" then
      word "KEY"
      let _ ← word? "ASC"
      let descending ← word? "DESC"
      let auto ← word? "AUTOINCREMENT"
      return some (.primaryKey descending auto)
    else if ← word? "UNIQUE" then return some .unique
    else if ← word? "NOT" then
      if ← word? "DEFERRABLE" then
        let _ ← deferral
        return some (.defer false)
      else
        word "NULL"
        return some .notNull
    else if ← word? "DEFERRABLE" then
      let deferred ← deferral
      return some (.defer deferred)
    else if ← word? "NULL" then return some .free
    else if ← word? "DEFAULT" then
      let e ← defaultValue size
      return some (.default e)
    else if ← word? "CHECK" then
      let e ← parenthesised size
      return some (.check e)
    else if ← word? "REFERENCES" then
      let r ← reference size
      return some (.references r)
    else if ← word? "COLLATE" then
      word "BINARY"
      return some .free
    else return none

def columnSource (size : Nat) : Read ColumnSource := do
  let n ← name
  let t ← typeName size
  let rules ← columnRules size (size + 1)
  return ⟨n, t, rules⟩

/-- a constraint of a table -/
def tableRule (size : Nat) : Read TableRule := do
  if ← word? "CONSTRAINT" then
    let _ ← name
  if ← word? "PRIMARY" then
    word "KEY"
    let (columns, auto) ← primaryColumns size
    return .primaryKey columns auto
  else if ← word? "UNIQUE" then
    let columns ← keyColumns size
    return .unique columns
  else if ← word? "CHECK" then
    let e ← parenthesised size
    return .check e
  else
    word "FOREIGN"
    word "KEY"
    let columns ← nameList size
    word "REFERENCES"
    let r ← reference size
    let deferred ← tableDeferral
    return .references columns { r with deferred := deferred }

/-- constraints up to a closing parenthesis; there may be commas between them -/
def tableRules (size : Nat) : Nat → Read (List TableRule)
  | 0 => failure
  | fuel + 1 => do
    let r ← tableRule size
    if ← sign? "," then
      let rest ← tableRules size fuel
      return r :: rest
    else if ← isNextSign ")" then return [r]
    else
      let rest ← tableRules size fuel
      return r :: rest

/-- the words that a constraint of a table starts with -/
def ruleWords : List String := ["CONSTRAINT", "PRIMARY", "UNIQUE", "CHECK", "FOREIGN"]

/-- whether a comma is next and behind it a constraint of a table -/
def isNextRule : Read Bool := do
  match ← get with
  | ⟨.sign ",", _, _⟩ :: ⟨.word w, _, _⟩ :: _ => return ruleWords.contains (Text.upperAscii w)
  | _ => return false

/-- columns with commas between them, up to the end or the first constraint -/
def columnSources (size : Nat) : Nat → Read (List ColumnSource)
  | 0 => failure
  | fuel + 1 => do
    let c ← columnSource size
    if ← isNextRule then return [c]
    else if ← sign? "," then
      let rest ← columnSources size fuel
      return c :: rest
    else return [c]

/-- where the next token starts -/
def position : Read Nat := do
  return ((← get).head?.map Placed.start).getD 0

/-- the name and the definitions in parentheses, and how far behind the start the last column ends -/
def tableBody (size : Nat) : Read (String × List ColumnSource × List TableRule × Nat) := do
  let start ← position
  let n ← name
  sign "("
  let columns ← columnSources size (size + 1)
  let stop ← position
  let rules ← if ← sign? "," then tableRules size (size + 1) else pure []
  sign ")"
  return (n, columns, rules, stop - start)

/-! ## Commands -/

/-- IF and what goes with it -/
def ifWords (negative : Bool) : Read Bool := do
  if ← word? "IF" then
    if negative then word "NOT"
    word "EXISTS"
    return true
  else return false

def createTable (source : List Char) (size : Nat) : Read DataCommand := do
  word "TABLE"
  let ifMissing ← ifWords true
  let ((n, columns, rules, columnsEnd), text) ← withText source (tableBody size)
  return .createTable ifMissing ⟨n, columns, rules, text, columnsEnd⟩

def valueRow (size : Nat) : Read (List Expr) := do
  sign "("
  let es ← commaList (whole size) size
  sign ")"
  return es

def insertInto (size : Nat) : Read DataCommand := do
  word "INTO"
  let t ← name
  let columns ← if ← isNextSign "(" then
      let names ← nameList size
      pure (some names)
    else pure none
  if ← word? "DEFAULT" then
    word "VALUES"
    if columns.isSome then failure
    return .insert t none .defaults
  else
    word "VALUES"
    let rows ← commaList (valueRow size) size
    return .insert t columns (.values rows)

def assignment (size : Nat) : Read (String × Expr) := do
  let n ← name
  sign "="
  let e ← whole size
  return (n, e)

def updateTable (size : Nat) : Read DataCommand := do
  let t ← name
  word "SET"
  let assignments ← commaList (assignment size) size
  let condition ← clause size "WHERE"
  return .update t assignments condition

def deleteFrom (size : Nat) : Read DataCommand := do
  word "FROM"
  let t ← name
  let condition ← clause size "WHERE"
  return .delete t condition

/-- the text of the new column goes on to the end of the command, comments included -/
def alterTable (source : List Char) (size : Nat) : Read DataCommand := do
  word "TABLE"
  let t ← name
  word "ADD"
  let _ ← word? "COLUMN"
  let start ← position
  let c ← columnSource size
  return .addColumn t c (String.ofList (untrailing (source.drop start)))
where
  /-- a text without the blanks at its end -/
  untrailing (text : List Char) : List Char := (text.reverse.dropWhile Numeral.isSpace).reverse

def pragma : Read DataCommand := do
  word "USER_VERSION"
  if ← sign? "=" then
    let v ← signedNumber
    return .writeVersion ((v.asInt.getD 0).toInt)
  else if ← sign? "(" then
    let v ← signedNumber
    sign ")"
    return .writeVersion ((v.asInt.getD 0).toInt)
  else return .readVersion

def transactionName : Read Unit := do
  if ← word? "TRANSACTION" then
    let _ ← name?
  return ()

def rollback : Read Control := do
  transactionName
  if ← word? "TO" then
    let _ ← word? "SAVEPOINT"
    let n ← name
    return .rollbackTo n
  else return .rollback

def begin : Read Control := do
  let how ← if ← word? "DEFERRED" then pure Beginning.deferred
    else if ← word? "IMMEDIATE" then pure Beginning.immediate
    else if ← word? "EXCLUSIVE" then pure Beginning.exclusive
    else pure Beginning.deferred
  transactionName
  return .begin how

def control (keyword : String) : Option (Read Control) :=
  match keyword with
  | "BEGIN" => some begin
  | "COMMIT" => some do
    transactionName
    return .commit
  | "END" => some do
    transactionName
    return .commit
  | "ROLLBACK" => some rollback
  | "SAVEPOINT" => some do
    let n ← name
    return .savepoint n
  | "RELEASE" => some do
    let _ ← word? "SAVEPOINT"
    let n ← name
    return .release n
  | _ => none

def data (source : List Char) (size : Nat) (keyword : String) : Option (Read DataCommand) :=
  match keyword with
  | "SELECT" => some do
    let r ← reading source size
    return .read r
  | "INSERT" => some (insertInto size)
  | "UPDATE" => some (updateTable size)
  | "DELETE" => some (deleteFrom size)
  | "CREATE" => some (createTable source size)
  | "DROP" => some do
    word "TABLE"
    let ifThere ← ifWords false
    let t ← name
    return .dropTable ifThere t
  | "ALTER" => some (alterTable source size)
  | "PRAGMA" => some pragma
  | _ => none

/-- one command by its first word -/
def command (source : List Char) (size : Nat) : Read Command := do
  match ← take with
  | .word w =>
    match control (Text.upperAscii w), data source size (Text.upperAscii w) with
    | some r, _ => return .control (← r)
    | none, some r => return .data (← r)
    | none, none => failure
  | _ => failure

/-! ## Texts of commands -/

def isEnd (t : Placed) : Bool :=
  match t.token with
  | .sign ";" => true
  | _ => false

/-- the tokens up to the first semicolon, and those behind it -/
def cut (ts : List Placed) : List Placed × List Placed :=
  (ts.takeWhile (!isEnd ·), (ts.dropWhile (!isEnd ·)).drop 1)

/-- the tokens of each command, and where the semicolon behind them is; `fuel` is the number of all tokens -/
def pieces : Nat → List Placed → List (List Placed × Option Nat)
  | 0, _ => []
  | fuel + 1, ts =>
    match ts with
    | [] => []
    | t :: rest =>
      let (first, more) := cut (t :: rest)
      let stop := ((t :: rest).find? isEnd).map Placed.start
      if first.isEmpty then pieces fuel more else (first, stop) :: pieces fuel more

/-- numbers the placeholders that have no number, each one above the highest so far -/
def number : Nat → List Placed → List Placed
  | _, [] => []
  | highest, t :: rest =>
    match t.token with
    | .param none => { t with token := .param (some (highest + 1)) } :: number (highest + 1) rest
    | .param (some k) => t :: number (max highest k) rest
    | _ => t :: number highest rest

/-- the highest number of a placeholder -/
def paramCount (ts : List Placed) : Nat :=
  ts.foldl (fun n t => match t.token with
    | .param (some k) => max n k
    | _ => n) 0

/-- a command as it was read, with the number of arguments it needs -/
structure Prepared where
  command : Command
  params : Nat
deriving Inhabited

/-- reads a command from the tokens up to a semicolon -/
def prepare (source : List Char) (ts : List Placed) : Except EngineFault Prepared :=
  let numbered := number 0 ts
  match (command source (ts.length + 1)).run numbered with
  | some (c, []) => .ok ⟨c, paramCount numbered⟩
  | some (_, t :: _) => .error (.badSyntax (nearText source t))
  | none => .error (.badSyntax "")
where
  /-- the text of a token -/
  nearText (source : List Char) (t : Placed) : String :=
    Text.quote (String.ofList ((source.drop t.start).take (t.stop - t.start)))

/-- all commands of a text, each of them read by itself; a NUL ends the text -/
def commands (sql : String) : List (Except EngineFault Prepared) :=
  let source := untilNul sql.toList
  let ts := Token.all source
  (pieces ts.length ts).map fun p => prepare ((p.2.map source.take).getD source) p.1

end FluentSql.Engine.Grammar
