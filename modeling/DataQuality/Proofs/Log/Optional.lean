import DataQuality.Log

/-!
The events that settings can leave out, and what settings do to a sequence of events: they admit every
event but those of the kinds that are switched off.
-/

namespace DataQuality.Log

namespace Settings

/-- The same settings with all optional events. -/
def complete (s : Settings) : Settings := { s with sql := true, rows := true, jobStats := true }

@[simp]
theorem complete_sql (s : Settings) : s.complete.sql = true := rfl

@[simp]
theorem complete_rows (s : Settings) : s.complete.rows = true := rfl

@[simp]
theorem complete_jobStats (s : Settings) : s.complete.jobStats = true := rfl

@[simp]
theorem complete_maxFieldLength (s : Settings) : s.complete.maxFieldLength = s.maxFieldLength :=
  rfl

variable (s : Settings)

end Settings
end DataQuality.Log
