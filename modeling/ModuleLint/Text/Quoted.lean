import ModuleLint.Pattern.CharSet

/-
  Texts between quotes for a reader.

  Characters that cannot be seen, or that would change the look
  of their neighbour, are written by their number.

  Key definitions include:
    * `Text.quoted`
-/

namespace ModuleLint

namespace Text

/- Characters that are part of the character before them. -/
def joining : CharSet :=
  (CharSet.ofCategories ["Mn", "Me"]).union
    (CharSet.ofTable
      [ "9be 9d7 b3e b57 bbe bd7 cc0 cc2 cc7-cc8 cca-ccb",
        "cd5-cd6 d3e d57 dcf ddf 1715 1734 1b35 1b3b 1b3d",
        "1b43-1b44 1baa 1bf2-1bf3 200c 302e-302f a953 a9c0",
        "ff9e-ff9f 111c0 11235 1133e 1134d 11357 113b8 113c2",
        "113c5 113c7-113c9 113cf 114b0 114bd 115af 116b6",
        "11930 1193d 11f41 16ff0-16ff1 1d165-1d166",
        "1d16d-1d172 e0020-e007f" ])

/- Characters that cannot be seen. -/
def unseen : CharSet :=
  (CharSet.assigned.complement.union
      (CharSet.ofCategories
        ["Cc", "Cf", "Cs", "Co", "Zl", "Zp", "Zs"])).diff
    (CharSet.ofTable ["20"])

/- A character inside of quotes. -/
def quotedChar
    (c : Char) : List Char :=
  match c with
  | '\x00' => ['\\', '0']
  | '\t' => ['\\', 't']
  | '\r' => ['\\', 'r']
  | '\n' => ['\\', 'n']
  | '\\' => ['\\', '\\']
  | '"' => ['\\', '"']
  | c =>
      if c.toNat < 0x7f && 0x20 ≤ c.toNat then
        [c]
      else if joining.contains c || unseen.contains c then
        ['\\', 'u', '\x7b'] ++ Nat.toDigits 16 c.toNat ++ ['\x7d']
      else
        [c]

/- A text between quotes. -/
def quoted
    (s : String) : String :=
  String.ofList (['"'] ++ s.toList.flatMap quotedChar ++ ['"'])

end Text

end ModuleLint
