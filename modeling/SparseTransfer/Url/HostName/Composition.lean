import SparseTransfer.Url.HostName.Mapping
import SparseTransfer.Url.HostName.CompositionTable

/- The composed form of a text: of all equal texts the one with marks in order and every letter
that can be written with its marks as one character written so. -/
namespace SparseTransfer.HostName
open Text

/-- A character that equals a text, and whether the text is composed to the character. -/
structure Equivalent where
  char : Char
  parts : List Char
  composes : Bool

def Equivalent.ofText (text : String) : Equivalent :=
  match text.splitOn "=", text.splitOn "~" with
  | [char, codes], _ => ⟨Char.ofNat (hexValue char.toList), codesText codes, true⟩
  | _, [char, codes] => ⟨Char.ofNat (hexValue char.toList), codesText codes, false⟩
  | _, _ => ⟨'\x00', [], false⟩

def equivalents : Array Equivalent :=
  (words compositionText).toArray.map Equivalent.ofText

/-- Ranges of marks with their class. -/
def markClasses : Array ((Nat × Nat) × Nat) :=
  (words markClassText).toArray.map fun text =>
    match text.splitOn ":" with
    | [range, cls] => (CodeRange.ofText range, hexValue cls.toList)
    | _ => ((0, 0), 0)

def markClass (c : Char) : Nat :=
  if c.toNat < 0x300 then 0
  else match markClasses.find? fun ((first, last), _) => first ≤ c.toNat && c.toNat ≤ last with
    | some (_, cls) => cls
    | none => 0

namespace Hangul

def syllables : Nat := 0xAC00
def leads : Nat := 0x1100
def vowels : Nat := 0x1161
def tails : Nat := 0x11A7
def leadCount : Nat := 19
def vowelCount : Nat := 21
def tailCount : Nat := 28

/-- A syllable is a lead, a vowel and perhaps a tail. -/
def decompose? (c : Char) : Option (List Char) :=
  let i := c.toNat - syllables
  if c.toNat < syllables || i ≥ leadCount * vowelCount * tailCount then none
  else
    let lead := Char.ofNat (leads + i / (vowelCount * tailCount))
    let vowel := Char.ofNat (vowels + i % (vowelCount * tailCount) / tailCount)
    let tail := i % tailCount
    some (if tail = 0 then [lead, vowel] else [lead, vowel, Char.ofNat (tails + tail)])

def compose? (a b : Char) : Option Char :=
  let l := a.toNat - leads
  let v := b.toNat - vowels
  let s := a.toNat - syllables
  let t := b.toNat - tails
  if leads ≤ a.toNat && l < leadCount && vowels ≤ b.toNat && v < vowelCount then
    some (Char.ofNat (syllables + (l * vowelCount + v) * tailCount))
  else if syllables ≤ a.toNat && s < leadCount * vowelCount * tailCount && s % tailCount = 0 &&
      tails < b.toNat && t < tailCount then
    some (Char.ofNat (a.toNat + t))
  else none

end Hangul

/-- The text of a character, taken apart at most `depth` times. -/
def decompose : (depth : Nat) → Char → List Char
  | 0, c => [c]
  | depth + 1, c =>
    if c.toNat < 0xC0 then [c]
    else match Hangul.decompose? c with
      | some parts => parts
      | none =>
        match equivalents.find? (·.char == c) with
        | some e => e.parts.flatMap (decompose depth)
        | none => [c]

/-- Puts a mark behind the marks of lower classes. -/
def placeMark (c : Char) : List Char → List Char
  | [] => [c]
  | d :: rest =>
    if markClass d ≠ 0 && markClass d < markClass c then d :: placeMark c rest else c :: d :: rest

/-- Marks in the order of their classes, those of one class as they stood. -/
def orderMarks : List Char → List Char
  | [] => []
  | c :: rest => if markClass c = 0 then c :: orderMarks rest else placeMark c (orderMarks rest)

def composePair (a b : Char) : Option Char :=
  match Hangul.compose? a b with
  | some c => some c
  | none => (equivalents.find? fun e => e.composes && e.parts == [a, b]).map (·.char)

/-- Composes a letter with the marks after it. `kept` are the marks that stay behind the letter so
far and `last` the class of the last of them; a mark is hidden from the letter by a kept mark of
its class or a higher one. -/
def composeFrom (letter : Char) (kept : List Char) (last : Nat) : List Char → List Char
  | [] => letter :: kept
  | c :: rest =>
    let cls := markClass c
    let composed := if kept.isEmpty || last < cls then composePair letter c else none
    match composed with
    | some d => composeFrom d kept last rest
    | none =>
      if cls = 0 then letter :: kept ++ composeFrom c [] 0 rest
      else composeFrom letter (kept ++ [c]) cls rest

def compose : List Char → List Char
  | [] => []
  | c :: rest => if markClass c = 0 then composeFrom c [] 0 rest else c :: compose rest

/-- The composed form. Below the first mark every text is composed already. -/
def composed (s : List Char) : List Char :=
  if s.all fun c => c.toNat < 0x300 then s
  else compose (orderMarks (s.flatMap (decompose 4)))

end SparseTransfer.HostName
