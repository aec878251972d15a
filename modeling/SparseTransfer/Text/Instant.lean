/- Moments as text: date and time of day, counted without leap seconds from the start of 1970. -/
namespace SparseTransfer.Instant

structure Date where
  year : Nat
  month : Nat
  day : Nat
  deriving Repr, DecidableEq

/-- Days from the first of March of the year 0 to the first of January 1970. -/
def daysBefore1970 : Nat := 719468

/-- The date of a day, counted from the first of January 1970. Years begin in March here, so that a
leap day is the last day of its year; 400 years have 146097 days. -/
def Date.ofDays (days : Nat) : Date :=
  let all := days + daysBefore1970
  let inCycle := all % 146097
  let year := (inCycle - inCycle / 1460 + inCycle / 36524 - inCycle / 146096) / 365
  let inYear := inCycle - (365 * year + year / 4 - year / 100)
  let month := (5 * inYear + 2) / 153
  let calendarMonth := if month < 10 then month + 3 else month - 9
  { year := all / 146097 * 400 + year + if calendarMonth ≤ 2 then 1 else 0
    month := calendarMonth
    day := inYear - (153 * month + 2) / 5 + 1 }

/-- A number with zeros in front of it. -/
def padded (width n : Nat) : String :=
  let digits := Nat.toDigits 10 n
  String.ofList (List.replicate (width - digits.length) '0' ++ digits)

/-- The text of a moment that is given in millionths of a second. -/
def text (micros : Nat) : String :=
  let seconds := micros / 1000000
  let date := Date.ofDays (seconds / 86400)
  String.join [padded 4 date.year, "-", padded 2 date.month, "-", padded 2 date.day, "T",
    padded 2 (seconds / 3600 % 24), ":", padded 2 (seconds / 60 % 60), ":",
    padded 2 (seconds % 60), ".", padded 6 (micros % 1000000), "Z"]

example : Date.ofDays 0 = ⟨1970, 1, 1⟩ := by decide
example : Date.ofDays 19782 = ⟨2024, 2, 29⟩ := by decide
example : Date.ofDays 19783 = ⟨2024, 3, 1⟩ := by decide

end SparseTransfer.Instant
