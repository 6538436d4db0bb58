/-!
White space in the sense of the `White_Space` property, and trimming by it. All trimming of the library
goes through this module: a fragment, a table name or a numeral is blank exactly when every character of
it is in this class.

Small lemmas: trimming at the start leaves no blank in front (`trimStart_head`), and no printed character is blank
(`not_isBlank_of_printed`).
-/

namespace FluentSql.Text

/-- the 25 code points with the property `White_Space`, as closed ranges -/
def blankRanges : List (Nat × Nat) :=
  [(0x09, 0x0D), (0x20, 0x20), (0x85, 0x85), (0xA0, 0xA0), (0x1680, 0x1680), (0x2000, 0x200A),
   (0x2028, 0x2029), (0x202F, 0x202F), (0x205F, 0x205F), (0x3000, 0x3000)]

/-- whether a code point lies in one of the closed ranges of a table -/
def inRanges (table : List (Nat × Nat)) (c : Char) : Bool :=
  table.any fun r => r.1 ≤ c.toNat && c.toNat ≤ r.2

/-- white space -/
def isBlank (c : Char) : Bool := inRanges blankRanges c

/-! ## Trimming character lists -/

def trimStartChars (s : List Char) : List Char := s.dropWhile isBlank

def trimEndChars (s : List Char) : List Char := (s.reverse.dropWhile isBlank).reverse

def trimChars (s : List Char) : List Char := trimEndChars (trimStartChars s)

/-! ## Trimming strings -/

def trimStart (s : String) : String := String.ofList (trimStartChars s.toList)

def trimEnd (s : String) : String := String.ofList (trimEndChars s.toList)

/-- the text without white space at either end -/
def trim (s : String) : String := String.ofList (trimChars s.toList)

/-- nothing but white space -/
def blank (s : String) : Bool := s.toList.all isBlank

/-! ## Lemmas -/

theorem toNat_of_isBlank {c : Char} (h : isBlank c = true) : c.toNat ≤ 32 ∨ 133 ≤ c.toNat := by
  simp only [isBlank, inRanges, blankRanges, List.any_cons, List.any_nil, Bool.or_eq_true, Bool.and_eq_true,
    decide_eq_true_eq, Bool.or_false] at h
  omega

theorem not_isBlank_of_printed {c : Char} (h : 32 < c.toNat) (h' : c.toNat < 133) : isBlank c = false := by
  refine Bool.eq_false_iff.2 fun hblank => ?_
  have hoff := toNat_of_isBlank hblank
  omega

theorem trimStart_head (s : List Char) (c : Char) (h : (trimStartChars s).head? = some c) :
    isBlank c = false := by
  induction s with
  | nil => simp [trimStartChars] at h
  | cons d r ih =>
    by_cases hd : isBlank d = true
    · exact ih (by simpa [trimStartChars, List.dropWhile_cons, hd] using h)
    · simp [trimStartChars, hd] at h
      subst h
      simpa using hd

end FluentSql.Text
