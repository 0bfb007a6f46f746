/-!
# Notes of a run

What a run reports beside its result. Functions that compute a value say nothing of the notes; the
notes are lists of their own, in the order in which they are reported.
-/

namespace ApiRoutes

/-- How important a note is. -/
inductive Level where
  | debug
  | info
  | warn
  deriving DecidableEq, Repr

structure Note where
  level : Level
  text : String
  deriving DecidableEq, Repr

/-- A note for whoever looks for the cause of a result. -/
def Note.debug (text : String) : Note := ⟨.debug, text⟩

/-- A summary. -/
def Note.info (text : String) : Note := ⟨.info, text⟩

/-- A note about an input that is not used as it is written. -/
def Note.warn (text : String) : Note := ⟨.warn, text⟩

end ApiRoutes
