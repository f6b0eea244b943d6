/-!
Decimal digits of every script. Each script has ten of them in a row, so the table holds
the zeros only.
-/

namespace MetadataBag.Text

/-- The code points of the zeros: general category `Nd`, numeric value 0. -/
def zeros : List Nat :=
  [
    0x30, 0x660, 0x6f0, 0x7c0, 0x966, 0x9e6, 0xa66, 0xae6, 0xb66, 0xbe6, 0xc66, 0xce6, 0xd66,
    0xde6, 0xe50, 0xed0, 0xf20, 0x1040, 0x1090, 0x17e0, 0x1810, 0x1946, 0x19d0, 0x1a80, 0x1a90,
    0x1b50, 0x1bb0, 0x1c40, 0x1c50, 0xa620, 0xa8d0, 0xa900, 0xa9d0, 0xa9f0, 0xaa50, 0xabf0,
    0xff10, 0x104a0, 0x10d30, 0x11066, 0x110f0, 0x11136, 0x111d0, 0x112f0, 0x11450, 0x114d0,
    0x11650, 0x116c0, 0x11730, 0x118e0, 0x11950, 0x11c50, 0x11d50, 0x11da0, 0x16a60, 0x16ac0,
    0x16b50, 0x1d7ce, 0x1d7d8, 0x1d7e2, 0x1d7ec, 0x1d7f6, 0x1e140, 0x1e2f0, 0x1e950, 0x1fbf0
  ]

def digit? (c : Char) : Option Nat :=
  if c.toNat < 0x80 then
    if c.isDigit then some (c.toNat - 0x30) else none
  else
    (zeros.find? fun z => decide (z ≤ c.toNat ∧ c.toNat < z + 10)).map (c.toNat - ·)

def isDigit (c : Char) : Bool := (digit? c).isSome

/-- The number a run of digits denotes; a character that is no digit counts as zero. -/
def number (cs : List Char) : Nat :=
  cs.foldl (fun n c => 10 * n + (digit? c).getD 0) 0

theorem number_concat (cs : List Char) (c : Char) :
    number (cs ++ [c]) = 10 * number cs + (digit? c).getD 0 := by
  simp [number]

theorem digit?_of_ascii {c : Char} (h : c.isDigit) : digit? c = some (c.toNat - 0x30) := by
  have hc : c.toNat < 0x80 := by
    simp only [Char.isDigit, Bool.and_eq_true, decide_eq_true_eq, UInt32.le_iff_toNat_le] at h
    exact Nat.lt_of_le_of_lt h.2 (by decide)
  simp [digit?, hc, h]

theorem isDigit_of_ascii {c : Char} (h : c.isDigit) : isDigit c := by
  rw [isDigit, digit?_of_ascii h, Option.isSome_some]

example : zeros.length = 66 := by decide
example : digit? '\u0664' = some 4 := by decide

end MetadataBag.Text
