/-!
Characters of markup: which ones a text may hold, and which ones make up a name.
-/

namespace MetadataBag.Markup

/-- Whether a text of a document may hold a character: no control characters but tab and line
breaks, and neither of the two non-characters at the end of the basic plane. -/
def isWritable (c : Char) : Bool :=
  if c.toNat < 0x20 then c = '\t' || c = '\n' || c = '\r'
  else c.toNat ≠ 0xfffe && c.toNat ≠ 0xffff

/-- The code point ranges of letters: what a name without a colon may start with. -/
def letters : List (Nat × Nat) :=
  [ (0x41, 0x5a), (0x5f, 0x5f), (0x61, 0x7a), (0xc0, 0xd6), (0xd8, 0xf6), (0xf8, 0x2ff),
    (0x370, 0x37d), (0x37f, 0x1fff), (0x200c, 0x200d), (0x2070, 0x218f), (0x2c00, 0x2fef),
    (0x3001, 0xd7ff), (0xf900, 0xfdcf), (0xfdf0, 0xfffd), (0x10000, 0xeffff) ]

/-- The code point ranges of what else a name may hold. -/
def marks : List (Nat × Nat) :=
  [(0x2d, 0x2e), (0x30, 0x39), (0xb7, 0xb7), (0x300, 0x36f), (0x203f, 0x2040)]

def within (ranges : List (Nat × Nat)) (c : Char) : Bool :=
  ranges.any fun r => decide (r.1 ≤ c.toNat ∧ c.toNat ≤ r.2)

def isLetter (c : Char) : Bool := within letters c

def isNameChar (c : Char) : Bool := isLetter c || within marks c

/-- A name without a colon. -/
def isName : List Char → Bool
  | [] => false
  | c :: rest => isLetter c && rest.all isNameChar

end MetadataBag.Markup
