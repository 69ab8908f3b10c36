import ModuleLint.Json.Reader
import ModuleLint.Json.Writer
import ModuleLint.Path.Basic

/-
  Addresses of files.

  In an address, bytes of a path that have a meaning there, or
  that are not plain, are written as a percent sign and two
  digits.

  Key definitions include:
    * `Uri.ofPath?`, `Uri.toPath?`
-/

namespace ModuleLint

namespace Uri

------------------------------------------------------------
-- Writing
------------------------------------------------------------

/- The byte is written by its number. -/
def isEscaped
    (b : UInt8) : Bool :=
  b < 0x20 || 0x7f ≤ b ||
    [ 0x20, 0x22, 0x23, 0x25, 0x2f, 0x3c, 0x3e, 0x3f, 0x5c,
      0x60, 0x7b, 0x7d ].contains b.toNat

/- A byte in an address. -/
def escapeByte
    (b : UInt8) : List Char :=
  if isEscaped b then
    [ '%', (Json.hexDigit (b.toNat / 16)).toUpper,
      (Json.hexDigit (b.toNat % 16)).toUpper ]
  else
    [Char.ofNat b.toNat]

/- A name in an address. -/
def escapeName
    (s : RawText) : String :=
  String.ofList (s.bytes.flatMap escapeByte)

/- The text of a part of a path. -/
def partText : Part → Option String
  | .name s => some (escapeName s)
  | .parent => some ".."
  | .here => some "."
  | .root => none

/- The address of a file, if its path starts at the root. -/
def ofPath?
    (path : RawText) : Option String :=
  if Path.isAbsolute path then
    let names := (Path.partsOf path).filterMap partText
    if names.isEmpty then
      some "file:///"
    else
      some
        ("file://" ++ String.join (names.map (fun n => "/" ++ n)))
  else
    none

------------------------------------------------------------
-- Reading
------------------------------------------------------------

/- The bytes of a name in an address. -/
def unescape : List UInt8 → List UInt8
  | 0x25 :: a :: b :: rest =>
      let digit (n : UInt8) := Json.hexValue? (Char.ofNat n.toNat)
      match digit a, digit b with
      | some x, some y => (x * 16 + y).toUInt8 :: unescape rest
      | _, _ => 0x25 :: unescape (a :: b :: rest)
  | c :: rest => c :: unescape rest
  | [] => []

/- Names without those that stand for no name of their own. -/
def resolved : List String → List String → List String
  | done, [] => done
  | done, [s] =>
      if s == "." then done ++ [""]
      else if s == ".." then done.dropLast ++ [""]
      else done ++ [s]
  | done, s :: rest =>
      if s == "." then resolved done rest
      else if s == ".." then resolved done.dropLast rest
      else resolved (done ++ [s]) rest

/- The path of an address of a file. -/
def toPath?
    (uri : String) : Option RawText :=
  let start := "file://"
  if uri.startsWith start then
    let rest := String.ofList (uri.toList.drop start.length)
    let plain :=
      String.ofList
        (rest.toList.takeWhile (fun c => c != '?' && c != '#'))
    match Text.splitAt '/' plain with
    | host :: names =>
        if (host == "" || host == "localhost") then
          let bytes :=
            (resolved [] names).flatMap
              (fun n => 0x2f :: unescape (RawText.ofText n).bytes)
          if bytes.isEmpty then none else some ⟨bytes⟩
        else
          none
    | [] => none
  else
    none

end Uri

end ModuleLint
