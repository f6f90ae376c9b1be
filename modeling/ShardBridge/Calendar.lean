/-
  ShardBridge.Calendar

  Instants in milliseconds since the start of 1970, in the Gregorian calendar
  carried on in both directions.
-/
import ShardBridge.Text.Decimal

namespace ShardBridge.Calendar

structure Date where
  year : Int
  month : Nat
  day : Nat
  deriving DecidableEq, Repr

/-- The milliseconds of a day. -/
def dayLength : Int := 86400000

/-- The date of the day with this number, counted from the start of 1970. Years are counted from
    March on, so that the leap day comes last, in cycles of 400 years and 146097 days. -/
def Date.ofDay (n : Int) : Date :=
  let fromMarch := n + 719468
  let cycle := fromMarch / 146097
  let dayOfCycle := fromMarch % 146097
  let yearOfCycle :=
    (dayOfCycle - dayOfCycle / 1460 + dayOfCycle / 36524 - dayOfCycle / 146096) / 365
  let dayOfYear := dayOfCycle - (365 * yearOfCycle + yearOfCycle / 4 - yearOfCycle / 100)
  let monthFromMarch := (5 * dayOfYear + 2) / 153
  let day := dayOfYear - (153 * monthFromMarch + 2) / 5 + 1
  let month := if monthFromMarch < 10 then monthFromMarch + 3 else monthFromMarch - 9
  let year := yearOfCycle + cycle * 400 + (if month ≤ 2 then 1 else 0)
  ⟨year, month.toNat, day.toNat⟩

/-- The first instant that can be represented. -/
def earliest : Int := -8334601228800000

/-- The last instant that can be represented. -/
def latest : Int := 8210266876799999

/-- A year: four digits, and a sign when they do not suffice. -/
def yearText (year : Int) : List Char :=
  if 0 ≤ year && year ≤ 9999 then Text.Decimal.padded 4 year.toNat
  else (if year < 0 then '-' else '+') :: Text.Decimal.padded 4 year.natAbs

/-- An instant as text, to the millisecond and in universal time. -/
def instantText (millis : Int) : Option String :=
  if millis < earliest || latest < millis then none
  else
    let date := Date.ofDay (millis / dayLength)
    let ms := (millis % dayLength).toNat
    let two := Text.Decimal.padded 2
    some (String.ofList
      (yearText date.year ++ '-' :: two date.month ++ '-' :: two date.day ++
        'T' :: two (ms / 3600000) ++ ':' :: two (ms / 60000 % 60) ++
        ':' :: two (ms / 1000 % 60) ++ '.' :: Text.Decimal.padded 3 (ms % 1000) ++ ['Z']))

end ShardBridge.Calendar
