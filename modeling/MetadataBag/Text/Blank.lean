/-!
White space as the date formats know it: the blanks and separators of all scripts.
-/

namespace MetadataBag.Text

/-- The code point ranges of white space, the separators of lines and fields included. -/
def blanks : List (Nat × Nat) :=
  [
    (0x9, 0xd), (0x1c, 0x20), (0x85, 0x85), (0xa0, 0xa0), (0x1680, 0x1680), (0x2000, 0x200a),
    (0x2028, 0x2029), (0x202f, 0x202f), (0x205f, 0x205f), (0x3000, 0x3000)
  ]

def isBlank (c : Char) : Bool :=
  blanks.any fun r => decide (r.1 ≤ c.toNat ∧ c.toNat ≤ r.2)

end MetadataBag.Text
