import ModuleLint.Script.Semicolon

/-
  A notation for grammars.

  A form says how a stretch of tokens is read and which nodes
  it yields.  Choices are ordered: the first alternative that
  fits is taken.  Nonterminals are drawn from a type `σ`, and
  a grammar assigns a form to each of them.

  Key definitions include:
    * `Mode`, `Test`, `Change`
    * `Form`
    * `Form.grow`, `Form.commaSep`
-/

namespace ModuleLint

namespace Script

------------------------------------------------------------
-- Context
------------------------------------------------------------

/-
  What the reading of a form depends on besides the tokens:
  the dialect, whether a semicolon may be implied, and whether
  an arrow function may declare its result.
-/
structure Mode where
  dialect : Dialect
  ends : Bool
  declares : Bool
deriving DecidableEq, Repr, Inhabited

/- Conditions that read no token. -/
inductive Test where
  /- The dialect writes types. -/
  | types
  /- The dialect writes no types. -/
  | noTypes
  /- The dialect writes markup. -/
  | markup
  /- The dialect has no markup. -/
  | noMarkup
  /- No semicolon is implied behind an expression. -/
  | goesOn
  /- No semicolon is implied behind a name or a type. -/
  | runsOn
  /- The last piece is one of the given kinds. -/
  | last (kinds : List String)
  /- An arrow function may declare its result. -/
  | declares
  /- Nothing was set aside before the next token. -/
  | unbroken
deriving DecidableEq, Repr, Inhabited

/- A change of mode for the length of a form. -/
inductive Change where
  /- Statements may end here. -/
  | opened
  /- Inside brackets nothing ends. -/
  | closed
  /- Arrow functions may declare results. -/
  | declaring
  /- Arrow functions may not declare results. -/
  | undeclaring
deriving DecidableEq, Repr, Inhabited

/- The mode under a change. -/
def Mode.under
    (m : Mode) : Change → Mode
  | .opened => { m with ends := true, declares := true }
  | .closed => { m with ends := false, declares := true }
  | .declaring => { m with declares := true }
  | .undeclaring => { m with declares := false }

/- Readings that only make sense where the grammar asks for them. -/
inductive Reading where
  | pattern
  | templateChars
  | markupText
  | markupName
  | markupString
  | substitution
  | interpreter
deriving DecidableEq, Repr, Inhabited

------------------------------------------------------------
-- Forms
------------------------------------------------------------

/- How a stretch of tokens is read. -/
inductive Form (σ : Type) where
  /- Exactly this word. -/
  | word (text : String)
  /- Exactly this word, as a named leaf. -/
  | keyword (text : String)
  /- Exactly this punctuation token. -/
  | glyph (text : String)
  /- This punctuation, even as the start of a longer token. -/
  | lead (text : String)
  /- Any token of a lexical class. -/
  | leaf (shape : Shape) (kind : String)
  /- Any word but the barred ones. -/
  | name (barred : List String) (kind : String)
  /- Characters under a reading of their own. -/
  | reading (how : Reading) (kind : String)
  /- An implied semicolon. -/
  | implied (setting : Setting)
  /- The end of the text. -/
  | finish
  /- A nonterminal. -/
  | sym (s : σ)
  /- One form after the other. -/
  | seq (items : List (Form σ))
  /- The first form that fits. -/
  | choice (items : List (Form σ))
  /- As many repetitions as fit. -/
  | many (item : Form σ)
  /- The form if it fits. -/
  | maybe (item : Form σ)
  /- What the form yields fills a field. -/
  | field (name : String) (item : Form σ)
  /- What the form yields becomes a node. -/
  | node (kind : String) (item : Form σ)
  /- The same, but a single piece stays alone. -/
  | group (kind : String) (item : Form σ)
  /- The piece before and what the form yields become a node. -/
  | wrap (kind : String) (field : Option String) (item : Form σ)
  /- Operands and operators are grouped by precedence. -/
  | operators (item : Form σ)
  /- The form would fit here. -/
  | ahead (item : Form σ)
  /- The form would not fit here. -/
  | notAhead (item : Form σ)
  /- The condition holds here. -/
  | test (condition : Test)
  /- The form under another mode. -/
  | under (change : Change) (item : Form σ)
deriving Inhabited

namespace Form

variable {σ : Type}

/- A form extended by links as often as they fit. -/
def grow
    (first : Form σ)
    (links : List (Form σ)) : Form σ :=
  seq [first, many (choice links)]

/- A form guarded by a condition. -/
def given
    (condition : Test)
    (item : Form σ) : Form σ :=
  seq [test condition, item]

/- At least one item, with commas in between. -/
def commaSep1
    (item : Form σ) : Form σ :=
  seq [item, many (seq [glyph ",", item])]

/- Items with commas in between. -/
def commaSep
    (item : Form σ) : Form σ :=
  maybe (commaSep1 item)

/- Items with commas in between, some of them left out. -/
def commaHoles
    (item : Form σ) : Form σ :=
  seq [maybe item, many (seq [glyph ",", maybe item])]

/- One of several words. -/
def words
    (texts : List String) : Form σ :=
  choice (texts.map word)

/- One of several punctuation tokens. -/
def marks
    (texts : List String) : Form σ :=
  choice (texts.map glyph)

/- A form between braces. -/
def braced
    (item : Form σ) : Form σ :=
  seq [glyph "\x7b", item, glyph "\x7d"]

/- A form between brackets. -/
def bracketed
    (item : Form σ) : Form σ :=
  seq [glyph "[", item, glyph "]"]

/- A form between parentheses. -/
def parenthesized
    (item : Form σ) : Form σ :=
  seq [glyph "(", item, glyph ")"]

end Form

end Script

end ModuleLint
