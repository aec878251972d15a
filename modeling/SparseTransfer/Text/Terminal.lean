/- Text for a terminal: what an argument holds to steer one is left out when the argument is
shown. -/
namespace SparseTransfer.Text.Terminal

/-- White space of ASCII, which lays text out. -/
def isLayout (c : Char) : Bool :=
  c = ' ' || c = '\t' || c = '\n' || c = '\r' || c = '\x0c'

/-- A control character of ASCII that does not lay text out. -/
def isSteering (c : Char) : Bool := (c.toNat < 0x20 || c.toNat = 0x7F) && !isLayout c

/-- Where a character stands: in the text, or within what an escape character has begun. -/
inductive Place where
  | text
  | escape
  /-- Between an escape character with blanks or marks and its last character. -/
  | designation
  /-- Between `ESC [` and its last character. -/
  | sequence
  /-- In a string that only another escape, a bell or a cancel ends. -/
  | string (bell : Bool)
  deriving Repr, DecidableEq

/-- The place after an escape character and `c`. -/
def afterEscape (c : Char) : Place :=
  if c = '[' then .sequence
  else if c = ']' then .string true
  else if c = 'P' || c = 'X' || c = '^' || c = '_' then .string false
  else if 0x20 ≤ c.toNat && c.toNat ≤ 0x2F then .designation
  else .text

/-- The place after `c`, where `c` itself is not shown; none if it is. -/
def hidden? (place : Place) (c : Char) : Option Place :=
  if c = '\x1b' then some .escape
  else if c = '\x18' || c = '\x1a' then some .text
  else
    match place with
    | .string bell => some (if bell && c = '\x07' then .text else place)
    | .text => if isSteering c then some .text else none
    | .escape =>
      if isSteering c then some place
      else if c.toNat < 0x20 || c.toNat > 0x7F then none else some (afterEscape c)
    | .designation =>
      if isSteering c then some place
      else if c.toNat < 0x20 || c.toNat > 0x7F then none
      else some (if c.toNat < 0x30 then place else .text)
    | .sequence =>
      if isSteering c then some place
      else if c.toNat < 0x20 || c.toNat > 0x7F then none
      else some (if c.toNat < 0x40 then place else .text)

/-- The characters that are shown. A character that no escape covers ends it. -/
def plainFrom : Place → List Char → List Char
  | _, [] => []
  | place, c :: rest =>
    match hidden? place c with
    | some next => plainFrom next rest
    | none => c :: plainFrom .text rest

/-- The text without what steers a terminal. -/
def plain (s : String) : String := String.ofList (plainFrom .text s.toList)

example : plain "a\x1b[31mred\x1b[0m\x01\tb\x7f" = "ared\tb" := by decide +kernel
example : plain "\x1b]0;title\x07x\x1bPq\x1b\\y" = "xy" := by decide +kernel

end SparseTransfer.Text.Terminal
