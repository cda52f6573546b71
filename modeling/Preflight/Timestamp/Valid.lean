import Preflight.Document.Shown

/-!
# Valid dates and moments

The ranges of the parts of a date, of a time of day and of an offset.  The first part that is out of
its range is reported.
-/

namespace Preflight

def Date.defect? (d : Date) : Option CalendarDefect :=
  if d.year = 0 || 9999 < d.year then some (.year d.year)
  else if d.month = 0 || 12 < d.month then some .month
  else if d.day = 0 || Date.daysInMonth d.year d.month < d.day then some .day
  else none

/-- Accepts the dates of the calendar. -/
def Date.validate (d : Date) : Except ValueDefect Unit :=
  match d.defect? with
  | some defect => .error (.calendar defect)
  | none => .ok ()

namespace Timestamp

def clockDefect? (t : Timestamp) : Option CalendarDefect :=
  if 23 < t.hour then some .hour
  else if 59 < t.minute then some .minute
  else if 59 < t.second then some .second
  else none

/-- Accepts the moments of a day of the calendar. -/
def validate (t : Timestamp) : Except ValueDefect Unit :=
  match t.date.defect?.or t.clockDefect? with
  | some defect => .error (.calendar defect)
  | none => .ok ()

/-- Accepts the offsets that are shorter than a day. -/
def requireOffset (offset : Int) : Except ValueDefect Int :=
  if offset.natAbs < microsPerDay then .ok offset
  else .error (.calendar (.offset (Document.shownDuration offset)))

end Timestamp

end Preflight
