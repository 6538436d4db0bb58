/-!
Text as bytes: the encoding of a text, a lenient reader for arbitrary bytes, and the longest run of whole
characters within a byte budget.

The reader follows the rule of maximal parts: a byte sequence that starts a character but does not finish
it, or a byte that starts none, gives one replacement character, and reading goes on at the byte that did
not fit. Main facts: a cut text is a prefix of the text (`takeBytes_prefix`), stays within its budget
(`byteCount_takeBytes`) and keeps every beginning that does (`prefix_takeBytes_iff`).
-/

namespace FluentSql.Text

/-! ## Writing -/

/-- the bytes of a text -/
def toBytes (s : String) : List UInt8 := s.toList.flatMap String.utf8EncodeChar

/-- how many bytes a list of characters takes -/
def byteCount (s : List Char) : Nat := s.foldr (fun c n => c.utf8Size + n) 0

/-! ## Reading leniently -/

/-- the character that stands for bytes that are no text -/
def replacement : Char := '\uFFFD'

/-- what a lead byte promises: how many bytes follow, the closed range of the first of them, and the bits it
carries itself; nothing for a byte that leads no character of more than one byte -/
def leadByte (b : UInt8) : Option (Nat × Nat × Nat × Nat) :=
  let n := b.toNat
  if 0xC2 ≤ n ∧ n ≤ 0xDF then some (1, 0x80, 0xBF, n - 0xC0)
  else if n = 0xE0 then some (2, 0xA0, 0xBF, 0)
  else if n = 0xED then some (2, 0x80, 0x9F, 0xD)
  else if 0xE1 ≤ n ∧ n ≤ 0xEF then some (2, 0x80, 0xBF, n - 0xE0)
  else if n = 0xF0 then some (3, 0x90, 0xBF, 0)
  else if 0xF1 ≤ n ∧ n ≤ 0xF3 then some (3, 0x80, 0xBF, n - 0xF0)
  else if n = 0xF4 then some (3, 0x80, 0x8F, 4)
  else none

/-- takes the promised bytes as long as they fit: the code point if all did, and the bytes left over -/
def takeTail : Nat → Nat → Nat → Nat → List UInt8 → Option Nat × List UInt8
  | 0, _, _, acc, rest => (some acc, rest)
  | _ + 1, _, _, _, [] => (none, [])
  | k + 1, lo, hi, acc, b :: rest =>
    if lo ≤ b.toNat ∧ b.toNat ≤ hi then takeTail k 0x80 0xBF (acc * 64 + (b.toNat - 0x80)) rest
    else (none, b :: rest)

theorem takeTail_length (k lo hi acc : Nat) (bs : List UInt8) :
    (takeTail k lo hi acc bs).2.length ≤ bs.length := by
  induction bs generalizing k lo hi acc with
  | nil => cases k <;> simp [takeTail]
  | cons b rest ih =>
    cases k with
    | zero => simp [takeTail]
    | succ k =>
      simp only [takeTail]
      split
      · exact Nat.le_succ_of_le (ih ..)
      · simp

/-- the text that a byte sequence holds, with replacement characters where it holds none -/
def fromBytesLenient : List UInt8 → List Char
  | [] => []
  | b :: rest =>
    if b.toNat < 0x80 then Char.ofNat b.toNat :: fromBytesLenient rest
    else
      match leadByte b with
      | none => replacement :: fromBytesLenient rest
      | some (k, lo, hi, acc) =>
        let read := takeTail k lo hi acc rest
        (read.1.elim replacement Char.ofNat) :: fromBytesLenient read.2
termination_by bs => bs.length
decreasing_by
  · simp
  · simp
  · exact Nat.lt_succ_of_le (takeTail_length ..)

/-! ## Cutting -/

/-- the longest prefix of whole characters that fits the budget -/
def takeBytes : Nat → List Char → List Char
  | _, [] => []
  | budget, c :: rest =>
    if c.utf8Size ≤ budget then c :: takeBytes (budget - c.utf8Size) rest else []

theorem takeBytes_prefix (budget : Nat) (s : List Char) : takeBytes budget s <+: s := by
  induction s generalizing budget with
  | nil => simp [takeBytes]
  | cons c r ih =>
    simp only [takeBytes]
    split
    · exact List.cons_prefix_cons.2 ⟨rfl, ih _⟩
    · simp

theorem byteCount_takeBytes (budget : Nat) (s : List Char) : byteCount (takeBytes budget s) ≤ budget := by
  induction s generalizing budget with
  | nil => simp [takeBytes, byteCount]
  | cons c r ih =>
    simp only [takeBytes]
    split
    · have := ih (budget - c.utf8Size)
      simp only [byteCount, List.foldr_cons] at this ⊢
      omega
    · simp [byteCount]

theorem byteCount_append (s t : List Char) : byteCount (s ++ t) = byteCount s + byteCount t := by
  induction s with
  | nil => simp [byteCount]
  | cons c r ih =>
    simp only [byteCount, List.cons_append, List.foldr_cons] at ih ⊢
    omega

theorem utf8ByteSize_ofList (s : List Char) : (String.ofList s).utf8ByteSize = byteCount s := by
  induction s with
  | nil => rfl
  | cons c r ih =>
    rw [String.ofList_cons, String.utf8ByteSize_append, String.utf8ByteSize_singleton, ih]
    rfl

theorem utf8ByteSize_eq (s : String) : s.utf8ByteSize = byteCount s.toList := by
  rw [← utf8ByteSize_ofList, String.ofList_toList]

/-- the beginning of a text survives the cut exactly if it fits the budget -/
theorem prefix_takeBytes_iff {head s : List Char} (budget : Nat) (hhead : head <+: s) :
    head <+: takeBytes budget s ↔ byteCount head ≤ budget := by
  constructor
  · intro ⟨t, ht⟩
    have hbound := byteCount_takeBytes budget s
    rw [← ht, byteCount_append] at hbound
    omega
  · intro hfits
    induction head generalizing budget s with
    | nil => exact List.nil_prefix
    | cons c r ih =>
      obtain ⟨t, rfl⟩ := hhead
      have hc : c.utf8Size + byteCount r ≤ budget := hfits
      rw [List.cons_append, takeBytes, if_pos (by omega), List.cons_prefix_cons]
      exact ⟨rfl, ih _ (List.prefix_append r t) (by omega)⟩

end FluentSql.Text
