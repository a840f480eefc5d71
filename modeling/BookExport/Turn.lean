/-! Turns. Whoever runs beside others goes on while there is something to do, but not for longer than a
turn: then all the others go on first. -/

namespace BookExport.Turn

/-- How much one turn has room for, in messages that are received and timers that are over. -/
def room : Nat := 128

end BookExport.Turn
