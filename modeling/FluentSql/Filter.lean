import FluentSql.Value
/-!
The condition of a statement, put together piece by piece.

A `Filter` holds raw fragments, the connectors between them and the arguments of their placeholders.
Connecting is optional: two fragments pushed one after the other are joined by AND, and a connector that is
left at the end is dropped. `assemble` does the joining: it trims every fragment and then removes trailing
words that would connect or compare with nothing (`stripEnd`), so that nothing but such words is ever lost.
-/

namespace FluentSql

/-! ## Joining fragments -/

/-- what stands between two fragments -/
inductive Connector where
  | and
  | or
deriving DecidableEq, Repr

namespace Connector

def keyword : Connector → String
  | and => "AND"
  | or => "OR"

end Connector

namespace Filter

/-- the words that may not stand at the end of a condition -/
def danglingWords : List String := ["AND", "OR", "LIKE"]

/-- equal up to case; the Kelvin sign is a K of its own code point -/
def foldsTo (letter c : Char) : Bool := c.toUpper == letter || (letter == 'K' && c == '\u212A')

/-- what follows a word, its letters compared without case -/
def afterWord : List Char → List Char → Option (List Char)
  | [], s => some s
  | _ :: _, [] => none
  | w :: ws, c :: s => if foldsTo w c then afterWord ws s else none

theorem length_afterWord {w s r : List Char} (h : afterWord w s = some r) :
    s.length = w.length + r.length := by
  induction w generalizing s with
  | nil => simp [afterWord] at h; simp [h]
  | cons a w ih =>
    cases s with
    | nil => simp [afterWord] at h
    | cons c s =>
      by_cases hc : foldsTo a c = true
      · simp only [afterWord, hc, if_true] at h
        simp [ih h]; omega
      · simp [afterWord, hc] at h

/-- a word is whole when the text starts with it or a blank stands in front; text and word are reversed -/
def dropWord (word s : List Char) : Option (List Char) :=
  match afterWord word s with
  | some [] => some []
  | some (c :: r) => if Text.isBlank c then some (r.dropWhile Text.isBlank) else none
  | none => none

/-- removes one dangling word, and the blanks in front of it, from the end of a reversed text -/
def dropDangling (s : List Char) : Option (List Char) :=
  danglingWords.findSome? fun w => dropWord w.toList.reverse s

theorem length_dropWord {w s r : List Char} (hw : w ≠ []) (h : dropWord w s = some r) :
    r.length < s.length := by
  have hpos : 0 < w.length := List.length_pos_iff.2 hw
  unfold dropWord at h
  split at h
  · rename_i heq
    have := length_afterWord heq
    simp at h; subst h; simp at this ⊢; omega
  · rename_i c r' heq
    have := length_afterWord heq
    split at h
    · simp at h; subst h
      have hle : (r'.dropWhile Text.isBlank).length ≤ r'.length :=
        (List.dropWhile_suffix _).length_le
      simp at this; omega
    · simp at h
  · simp at h

theorem length_dropDangling {s r : List Char} (h : dropDangling s = some r) : r.length < s.length := by
  obtain ⟨w, hw, hr⟩ := List.exists_of_findSome?_eq_some h
  refine length_dropWord ?_ hr
  simp only [danglingWords, List.mem_cons, List.not_mem_nil, or_false] at hw
  rcases hw with rfl | rfl | rfl <;> decide

/-- removes dangling words from the end of a reversed text until none is left -/
def stripReversed (s : List Char) : List Char :=
  match _h : dropDangling s with
  | some r => stripReversed r
  | none => s
termination_by s.length
decreasing_by exact length_dropDangling _h

/-- removes trailing blanks and dangling words -/
def stripEnd (s : List Char) : List Char := (stripReversed (s.reverse.dropWhile Text.isBlank)).reverse

/-- a connector with a space on either side -/
def connectorText (c : Connector) : List Char := ' ' :: c.keyword.toList ++ [' ']

/-- the fragments after the first, each behind its connector; a missing connector is AND -/
def joinRest : List String → List Connector → List Char
  | [], _ => []
  | f :: fs, [] => connectorText .and ++ Text.trimChars f.toList ++ joinRest fs []
  | f :: fs, c :: cs => connectorText c ++ Text.trimChars f.toList ++ joinRest fs cs

/-- all fragments, trimmed and joined -/
def join : List String → List Connector → List Char
  | [], _ => []
  | f :: fs, cs => Text.trimChars f.toList ++ joinRest fs cs

/-- the condition that fragments and connectors make -/
def assemble (fragments : List String) (connectors : List Connector) : String :=
  String.ofList (stripEnd (join fragments connectors))

end Filter

/-! ## Comparisons -/

/-- the ways to compare a field with a value -/
inductive Comparison where
  | equals
  | notEquals
  | lessThan
  | lessThanOrEquals
  | greaterThan
  | greaterThanOrEquals
  | like
deriving DecidableEq, Repr

namespace Comparison

def all : List Comparison :=
  [equals, notEquals, lessThan, lessThanOrEquals, greaterThan, greaterThanOrEquals, like]

def name : Comparison → String
  | equals => "equals"
  | notEquals => "not_equals"
  | lessThan => "less_than"
  | lessThanOrEquals => "less_than_or_equals"
  | greaterThan => "greater_than"
  | greaterThanOrEquals => "greater_than_or_equals"
  | like => "like"

/-- the comparison with a name, letter by letter -/
def ofName? (s : String) : Option Comparison := all.find? fun c => c.name == s

def sign : Comparison → String
  | equals => "="
  | notEquals => "!="
  | lessThan => "<"
  | lessThanOrEquals => "<="
  | greaterThan => ">"
  | greaterThanOrEquals => ">="
  | like => "LIKE"

/-- the fragment for a comparison; equality with null asks whether the field is null -/
def fragment (c : Comparison) (field : String) (v : Value) : String :=
  match c, v with
  | equals, .null => field ++ " IS NULL"
  | notEquals, .null => field ++ " IS NOT NULL"
  | c, v => field ++ " " ++ c.sign ++ " " ++ v.literal

end Comparison

/-! ## Filters -/

/-- fragments, the connectors between them, and the arguments of their placeholders -/
structure Filter where
  fragments : List String
  connectors : List Connector
  args : List String
deriving DecidableEq, Repr, Inhabited

namespace Filter

def empty : Filter := ⟨[], [], []⟩

def isEmpty (f : Filter) : Bool := f.fragments.isEmpty

/-- a connector waits for its right side -/
def isPending (f : Filter) : Bool := !f.fragments.isEmpty && f.connectors.length == f.fragments.length

/-- adds a fragment, behind AND if no connector waits; blank fragments are ignored -/
def push (f : Filter) (fragment : String) : Filter :=
  if Text.blank fragment then f
  else
    { f with
      fragments := f.fragments ++ [fragment]
      connectors := if f.isEmpty || f.isPending then f.connectors else f.connectors ++ [.and] }

/-- sets the connector in front of the next fragment; before the first fragment there is none -/
def connect (f : Filter) (c : Connector) : Filter :=
  if f.isEmpty then f
  else if f.isPending then { f with connectors := f.connectors.dropLast ++ [c] }
  else { f with connectors := f.connectors ++ [c] }

def compare (f : Filter) (c : Comparison) (field : String) (v : Value) : Filter :=
  f.push (c.fragment field v)

def setArgs (f : Filter) (args : List String) : Filter := { f with args := args }

/-- the condition, empty if there is none -/
def clause (f : Filter) : String := assemble f.fragments f.connectors

/-- the condition, if there is one -/
def clause? (f : Filter) : Option String := if f.clause.isEmpty then none else some f.clause

end Filter

end FluentSql
