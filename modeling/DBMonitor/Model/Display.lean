import DBMonitor.Model.Section

namespace DBMonitor

inductive NSColor where
  | whiteColor
  | grayColor
  | redColor
  | blackColor
  deriving DecidableEq, Repr

namespace Document

def textColor (e : DBMLogEntry) : NSColor :=
  if e.dead then .grayColor
  else if e.displayTimeout.isSome then .redColor
  else if e.duration < 0 then .redColor
  else .blackColor

-- A row past the end of the list leaves the cell's colour alone.
def willDisplayCell (d : Document) (row : Int) : Option NSColor :=
  if row = d.selectedRow then some .whiteColor
  else (d.objectAtRow row).map (fun r => textColor (d.entry r))

theorem textColor_gray_iff (e : DBMLogEntry) : textColor e = .grayColor ↔ e.dead = true := by
  unfold textColor
  cases e.dead with
  | true => simp
  | false =>
    simp only [Bool.false_eq_true, if_false, iff_false]
    split
    · simp
    · split <;> simp

theorem textColor_marked {e : DBMLogEntry} (hd : e.dead = false)
    (ht : e.displayTimeout.isSome = true) : textColor e = .redColor := by
  simp [textColor, hd, ht]

theorem willDisplayCell_unselected {d : Document} {row : Int} {r : EntryRef}
    (hrow : row ≠ d.selectedRow) (hr : d.objectAtRow row = some r) :
    d.willDisplayCell row = some (textColor (d.entry r)) := by
  simp [willDisplayCell, hrow, hr]

end Document

end DBMonitor
