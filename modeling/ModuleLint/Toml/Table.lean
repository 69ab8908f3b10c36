import ModuleLint.Json.Basic

/-
  Tables of a configuration text under construction.

  A table remembers how it came about, because a table may be
  opened by a header only once, and keys with points may only
  extend tables that came about by such keys.

  Key definitions include:
    * `Toml.Origin`, `Toml.Item`
    * `Toml.descend?`
    * `Toml.putValue?`, `Toml.openTable?`, `Toml.pushTable?`
    * `Toml.Item.toJson`
-/

namespace ModuleLint

namespace Toml

------------------------------------------------------------
-- Items
------------------------------------------------------------

/-
  How a table came about: by a header of its own, on the way
  to another header, or by a key with points.
-/
inductive Origin where
  | header
  | passage
  | dotted
deriving DecidableEq, Repr, Inhabited

/- What a key stands for. -/
inductive Item where
  | value (json : Json)
  | table (origin : Origin) (members : List (String × Item))
  | tables (items : List (List (String × Item)))
deriving Repr, Inhabited

/- The members of a table. -/
abbrev Members :=
  List (String × Item)

namespace Members

/- The item under a key. -/
def get?
    (ms : Members)
    (key : String) : Option Item :=
  (ms.find? (fun m => m.1 == key)).map (·.2)

/- The members with an item put under a key. -/
def put
    (ms : Members)
    (key : String)
    (item : Item) : Members :=
  if ms.any (fun m => m.1 == key) then
    ms.map (fun m => if m.1 == key then (key, item) else m)
  else
    ms ++ [(key, item)]

end Members

------------------------------------------------------------
-- Descending
------------------------------------------------------------

/-
  A change of the table that a path of keys leads to.  Tables
  that are missing on the way come about by the passage.  A
  list of tables leads to its last one.  The change learns how
  the table it is applied to came about.
-/
def descend?
    (dotted : Bool)
    (change : Origin → Members → Option Members) :
    List String → Origin → Members → Option Members
  | [], origin, ms => change origin ms
  | key :: path, _, ms =>
      let fresh := if dotted then Origin.dotted else .passage
      match ms.get? key with
      | none => do
          let inner ← descend? dotted change path fresh []
          some (ms.put key (.table fresh inner))
      | some (.value _) => none
      | some (.table origin inner) =>
          if dotted && origin == .header then
            none
          else do
            let inner ← descend? dotted change path origin inner
            some (ms.put key (.table origin inner))
      | some (.tables items) =>
          match items.reverse with
          | [] => none
          | last :: before => do
              let last ← descend? dotted change path .header last
              some
                (ms.put key (.tables (last :: before).reverse))

/- A value under the last of several keys. -/
def putValue?
    (path : List String)
    (key : String)
    (json : Json) : Members → Option Members :=
  descend? true
    (fun origin ms =>
      if (origin == .dotted) == path.isEmpty then none
      else if (ms.get? key).isSome then none
      else some (ms.put key (.value json)))
    path .header

/- A table opened by a header. -/
def openTable?
    (path : List String)
    (key : String) : Members → Option Members :=
  descend? false
    (fun _ ms =>
      match ms.get? key with
      | none => some (ms.put key (.table .header []))
      | some (.table .passage inner) =>
          some (ms.put key (.table .header inner))
      | some _ => none)
    path .header

/- One more table of a list of tables. -/
def pushTable?
    (path : List String)
    (key : String) : Members → Option Members :=
  descend? false
    (fun _ ms =>
      match ms.get? key with
      | none => some (ms.put key (.tables [[]]))
      | some (.tables items) =>
          some (ms.put key (.tables (items ++ [[]])))
      | some _ => none)
    path .header

/-
  A value put into the table that a header opened.  The way to
  it was made by the header, so only the keys behind it count.
-/
def putUnder?
    (header path : List String)
    (key : String)
    (json : Json) : Members → Option Members :=
  descend? false
    (fun _ ms => putValue? path key json ms)
    header .header

------------------------------------------------------------
-- Values
------------------------------------------------------------

mutual

/- An item as a plain value. -/
def Item.toJson : Item → Json
  | .value j => j
  | .table _ ms => .object (membersJson ms)
  | .tables items => .array (tablesJson items)

/- The members of a table as plain values. -/
def membersJson :
    List (String × Item) → List (String × Json)
  | [] => []
  | (k, i) :: ms => (k, i.toJson) :: membersJson ms

/- The tables of a list as plain values. -/
def tablesJson :
    List (List (String × Item)) → List Json
  | [] => []
  | t :: ts => .object (membersJson t) :: tablesJson ts

end

end Toml

end ModuleLint
